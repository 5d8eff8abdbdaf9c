import ParserHost.Proofs.Json.Numbers
import ParserHost.Proofs.Json.Strings

/-!
# Values that text can name

Which values the reader can come to (`Readable`): numbers that it converts, strings whose surrogates
could not be paired, objects that have no key twice, and no more brackets inside each other than it
has room for (`readable_of_read`).
-/

namespace ParserHost.Json

open Literal (natural)

variable {fuel room : Nat} {cs rest : List Char}

def Short (n : Int) : Prop :=
  (Nat.toDigits 10 n.natAbs).length ≤ digitLimit

mutual
/-- A value that some text names with so many brackets inside each other. -/
def Readable : Json → Nat → Prop
  | int n, _ => (Nat.toDigits 10 n.natAbs).length ≤ digitLimit
  | float x, _ => Named x
  | broken codes, _ => Paired codes ∧ codes.any isSurrogate = true
  | arr vs, room => 0 < room ∧ ReadableItems vs (room - 1)
  | obj e, room => 0 < room ∧ (keys e).Nodup ∧ ReadableMembers e (room - 1)
  | _, _ => True

def ReadableItems : List Json → Nat → Prop
  | [], _ => True
  | v :: rest, room => v.Readable room ∧ ReadableItems rest room

def ReadableMembers : Entries → Nat → Prop
  | [], _ => True
  | (_, v) :: rest, room => v.Readable room ∧ ReadableMembers rest room
end

theorem readableItems_iff {vs : List Json} :
    ReadableItems vs room ↔ ∀ v ∈ vs, v.Readable room := by
  induction vs with
  | nil => simp [ReadableItems]
  | cons v vs ih => rw [ReadableItems, ih, List.forall_mem_cons]

theorem readableMembers_iff {e : Entries} :
    ReadableMembers e room ↔ ∀ m ∈ e, m.2.Readable room := by
  induction e with
  | nil => simp [ReadableMembers]
  | cons m e ih =>
    obtain ⟨k, v⟩ := m
    rw [ReadableMembers, ih, List.forall_mem_cons]

theorem readable_of_mem {v : Json} {vs : List Json}
    (readable : (arr vs).Readable (room + 1)) (member : v ∈ vs) : v.Readable room :=
  readableItems_iff.1 readable.2 v member

theorem readable_of_entry {e : Entries} (readable : (obj e).Readable (room + 1)) : ∀ m ∈ e, m.2.Readable room :=
  readableMembers_iff.1 readable.2.2

mutual
theorem Readable.mono {room more : Nat} (le : room ≤ more) :
    {v : Json} → v.Readable room → v.Readable more
  | null, _ | bool _, _ | str _, _ => trivial
  | int _, readable => readable
  | float _, readable => readable
  | broken _, readable => readable
  | arr _, readable =>
    ⟨readable.1.trans_le le, ReadableItems.mono (Nat.sub_le_sub_right le 1) readable.2⟩
  | obj _, readable =>
    ⟨readable.1.trans_le le, readable.2.1, ReadableMembers.mono (Nat.sub_le_sub_right le 1) readable.2.2⟩

theorem ReadableItems.mono {room more : Nat} (le : room ≤ more) :
    {vs : List Json} → ReadableItems vs room → ReadableItems vs more
  | [], _ => trivial
  | _ :: _, readable => ⟨readable.1.mono le, ReadableItems.mono le readable.2⟩

theorem ReadableMembers.mono {room more : Nat} (le : room ≤ more) :
    {e : Entries} → ReadableMembers e room → ReadableMembers e more
  | [], _ => trivial
  | (_, _) :: _, readable => ⟨readable.1.mono le, ReadableMembers.mono le readable.2⟩
end

/-! ## Atoms -/

theorem natural_lt {ds : List Char} (digits : ∀ c ∈ ds, c.isDigit = true) :
    natural ds < 10 ^ ds.length := by
  induction ds with
  | nil => decide
  | cons c ds ih =>
    obtain ⟨first, more⟩ := List.forall_mem_cons.1 digits
    have bounds : 48 ≤ c.toNat ∧ c.toNat ≤ 57 := Char.isDigit_iff_toNat.1 first
    have rest := ih more
    rw [Literal.natural_eq_ofDigitChars] at rest ⊢
    rw [Nat.ofDigitChars_cons, Nat.ofDigitChars_eq_ofDigitChars_zero, List.length_cons, Nat.pow_succ]
    have zero : '0'.toNat = 48 := rfl
    rw [zero, Nat.mul_zero, Nat.zero_add]
    generalize 10 ^ ds.length = scale at rest ⊢
    have most : scale * (c.toNat - 48) ≤ scale * 9 := Nat.mul_le_mul_left _ (by omega)
    omega

theorem digits_wholePart (cs : List Char) : ∀ c ∈ (wholePart cs).1, c.isDigit = true := by
  unfold wholePart
  split
  · intro c member
    rw [List.mem_singleton.1 member]
    rfl
  · intro c member
    rw [Literal.spanDigits, List.span_eq_takeWhile_dropWhile] at member
    exact List.all_eq_true.1 List.all_takeWhile c member

theorem named_decimal (negative : Bool) (whole fraction : List Char) (exponent : Int) :
    Named (Literal.decimal negative whole fraction exponent) := by
  cases number : Literal.decimal negative whole fraction exponent with
  | finite sign units => exact Double.representable_of_ofDecimal number
  | infinite | nan => trivial

theorem readable_number {d : Dialect} {negative : Bool} {start : List Char} {v : Json}
    (read : number d negative start cs = .ok (v, rest)) : v.Readable room := by
  rw [number_eq] at read
  split at read
  · cases read
  · next some =>
    dsimp only at read
    split at read
    · cases read
    · next short =>
      split at read
      · next whole =>
        cases read
        have bound := natural_lt (digits_wholePart cs)
        have few : (wholePart cs).1.length ≤ digitLimit := by
          simpa [whole] using short
        have more : 0 < (wholePart cs).1.length := by
          refine List.length_pos_of_ne_nil fun none => some ?_
          rw [none]
          rfl
        have same : Int.natAbs (if negative = true then -(natural (wholePart cs).1 : Int)
            else natural (wholePart cs).1) = natural (wholePart cs).1 := by
          split <;> simp
        rw [Readable, same]
        exact ((Nat.length_toDigits_le_iff (by decide) more).2 bound).trans few
      · cases read
        rw [Readable]
        exact named_decimal ..

theorem readable_atom {d : Dialect} {v : Json} (read : atom d cs = .ok (v, rest)) :
    v.Readable room := by
  obtain ⟨word, named, -⟩ | ⟨more, -, read⟩ | read := atom_eq_ok read
  · cases named <;> trivial
  · exact readable_number read
  · exact readable_number read

/-! ## Objects -/

theorem mem_put {key : String} {v : Json} {e : Entries} {m : String × Json}
    (member : m ∈ put key v e) : m = (key, v) ∨ m ∈ e := by
  induction e with
  | nil => exact .inl (List.mem_singleton.1 member)
  | cons n e ih =>
    obtain ⟨k, w⟩ := n
    rw [put] at member
    split at member
    · rcases List.mem_cons.1 member with same | later
      · exact .inl same
      · exact .inr (List.mem_cons_of_mem _ later)
    · rcases List.mem_cons.1 member with same | later
      · exact .inr (List.mem_cons.2 (.inl same))
      · exact (ih later).imp_right (List.mem_cons_of_mem _)

/-- Entries that were put one after the other: no key comes twice, and nothing else is there. -/
theorem foldl_put (pairs : Entries) (e : Entries) (once : (keys e).Nodup) :
    (keys (pairs.foldl (fun e (k, v) => put k v e) e)).Nodup ∧
      ∀ m ∈ pairs.foldl (fun e (k, v) => put k v e) e, m ∈ pairs ∨ m ∈ e := by
  induction pairs generalizing e with
  | nil => exact ⟨once, fun m member => .inr member⟩
  | cons n pairs ih =>
    obtain ⟨once', from'⟩ := ih (put n.1 n.2 e) (nodup_keys_put once)
    refine ⟨once', fun m member => ?_⟩
    rcases from' m member with later | put
    · exact .inl (List.mem_cons_of_mem _ later)
    · rcases mem_put put with same | old
      · exact .inl (List.mem_cons.2 (.inl same))
      · exact .inr old

theorem nodup_keys_ofList (pairs : Entries) : (keys (ofList pairs)).Nodup :=
  (foldl_put pairs [] List.nodup_nil).1

theorem mem_of_mem_ofList {pairs : Entries} {m : String × Json} (member : m ∈ ofList pairs) :
    m ∈ pairs := by
  rcases (foldl_put pairs [] List.nodup_nil).2 m member with given | none
  · exact given
  · cases none

/-! ## Values -/

structure ReadableWith (fuel : Nat) : Prop where
  value : ∀ {room cs v rest}, value lenient fuel room cs = .ok (v, rest) → v.Readable room
  items : ∀ {room cs vs rest}, items lenient fuel room cs = .ok (vs, rest) → ReadableItems vs room
  members : ∀ {room cs e rest}, members lenient fuel room cs = .ok (e, rest) → ReadableMembers e room

theorem readable_stringOf {codes : List Nat} (paired : Paired codes) :
    (stringOf codes).Readable room := by
  unfold stringOf
  split
  · next some => exact ⟨paired, some⟩
  · trivial

theorem readable_value_succ (before : ReadableWith fuel) {v : Json}
    (read : value lenient (fuel + 1) room cs = .ok (v, rest)) : v.Readable room := by
  unfold value at read
  split at read
  · split at read
    · next taken =>
      cases read
      exact readable_stringOf (paired_of_string taken)
    · cases read
  · dsimp only at read
    split at read
    · split at read
      · cases read
      · next spare =>
        cases read
        refine ⟨Nat.pos_of_ne_zero fun none => spare ?_, trivial⟩
        rw [none]
        rfl
    · split at read
      · cases read
      · next spare =>
        split at read
        · next taken =>
          cases read
          exact ⟨Nat.pos_of_ne_zero spare, before.items taken⟩
        · cases read
  · dsimp only at read
    split at read
    · split at read
      · cases read
      · next spare =>
        cases read
        refine ⟨Nat.pos_of_ne_zero fun none => spare ?_, List.nodup_nil, trivial⟩
        rw [none]
        rfl
    · split at read
      · cases read
      · next spare =>
        split at read
        · next taken =>
          cases read
          have each := readableMembers_iff.1 (before.members taken)
          exact ⟨Nat.pos_of_ne_zero spare, nodup_keys_ofList _,
            readableMembers_iff.2 fun m member => each m (mem_of_mem_ofList member)⟩
        · cases read
  · exact readable_atom read

theorem readable_items_succ (before : ReadableWith fuel) {vs : List Json}
    (read : items lenient (fuel + 1) room cs = .ok (vs, rest)) : ReadableItems vs room := by
  unfold items at read
  split at read
  · cases read
  · next first =>
    split at read
    · cases read
      exact ⟨before.value first, trivial⟩
    · split at read
      · next taken =>
        cases read
        exact ⟨before.value first, before.items taken⟩
      · cases read
    · cases read

theorem readable_members_succ (before : ReadableWith fuel) {e : Entries}
    (read : members lenient (fuel + 1) room cs = .ok (e, rest)) : ReadableMembers e room := by
  unfold members at read
  split at read
  · split at read
    · cases read
    · split at read
      · split at read
        · cases read
        · next first =>
          split at read
          · cases read
            exact ⟨before.value first, trivial⟩
          · split at read
            · next taken =>
              cases read
              exact ⟨before.value first, before.members taken⟩
            · cases read
          · cases read
      · cases read
  · cases read

theorem readableWith (fuel : Nat) : ReadableWith fuel := by
  induction fuel with
  | zero => exact ⟨nofun, nofun, nofun⟩
  | succ fuel ih =>
    exact ⟨readable_value_succ ih, readable_items_succ ih, readable_members_succ ih⟩

/-- What is read from a text is readable. -/
theorem readable_of_read {s : String} {v : Json} (read : Json.read s = .ok v) :
    v.Readable lenient.depth := by
  unfold Json.read readChars at read
  split at read
  · cases read
  · split at read
    · cases read
    · next taken =>
      split at read
      · cases read
        exact (readableWith _).value taken
      · cases read

end ParserHost.Json
