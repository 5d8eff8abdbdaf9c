import ParserHost.Proofs.Json.Readable
import ParserHost.Proofs.Json.Spelling

/-!
# Reading what was written

What `compact` and `indented` write for a value is a text of it (`spells_compact`, `spells_indented`), so
the value is read back from either, provided that some text of the dialect names it (`Expressible`).
-/

namespace ParserHost.Json

variable {d : Dialect} {room : Nat} {v : Json}

/-! ## Values that text can name -/

mutual
def Expressible (d : Dialect) : Json → Nat → Prop
  | int n, _ => (Nat.toDigits 10 n.natAbs).length ≤ digitLimit
  | float x, _ => Named x ∧ d.longFloats = true
  | broken codes, _ => Paired codes ∧ codes.any isSurrogate = true ∧ d.unpaired = true
  | arr vs, room => 0 < room ∧ ExpressibleItems d vs (room - 1)
  | obj e, room => 0 < room ∧ (keys e).Nodup ∧ ExpressibleMembers d e (room - 1)
  | _, _ => True

def ExpressibleItems (d : Dialect) : List Json → Nat → Prop
  | [], _ => True
  | v :: rest, room => Expressible d v room ∧ ExpressibleItems d rest room

def ExpressibleMembers (d : Dialect) : Entries → Nat → Prop
  | [], _ => True
  | (_, v) :: rest, room => Expressible d v room ∧ ExpressibleMembers d rest room
end

theorem expressibleMembers_iff {e : Entries} :
    ExpressibleMembers d e room ↔ ∀ m ∈ e, Expressible d m.2 room := by
  induction e with
  | nil => simp [ExpressibleMembers]
  | cons m e ih =>
    obtain ⟨k, v⟩ := m
    rw [ExpressibleMembers, ih, List.forall_mem_cons]

/-- A dialect in which everything can be written: surrogates may stay alone, and numbers with a point may
have any number of digits. -/
structure Keeps (d : Dialect) : Prop where
  unpaired : d.unpaired = true
  longFloats : d.longFloats = true

mutual
theorem expressible_of_readable (kept : Keeps d) {room : Nat} :
    {v : Json} → v.Readable room → Expressible d v room
  | null, _ | bool _, _ | str _, _ => trivial
  | int _, readable => readable
  | float _, readable => ⟨readable, kept.longFloats⟩
  | broken _, readable => ⟨readable.1, readable.2, kept.unpaired⟩
  | arr _, readable => ⟨readable.1, expressibleItems_of_readable kept readable.2⟩
  | obj _, readable => ⟨readable.1, readable.2.1, expressibleMembers_of_readable kept readable.2.2⟩

theorem expressibleItems_of_readable (kept : Keeps d) {room : Nat} :
    {vs : List Json} → ReadableItems vs room → ExpressibleItems d vs room
  | [], _ => trivial
  | _ :: _, readable =>
    ⟨expressible_of_readable kept readable.1, expressibleItems_of_readable kept readable.2⟩

theorem expressibleMembers_of_readable (kept : Keeps d) {room : Nat} :
    {e : Entries} → ReadableMembers e room → ExpressibleMembers d e room
  | [], _ => trivial
  | (_, _) :: _, readable =>
    ⟨expressible_of_readable kept readable.1, expressibleMembers_of_readable kept readable.2⟩
end

/-! ## Objects -/

theorem put_of_notMem {key : String} {e : Entries} (new : key ∉ keys e) :
    put key v e = e ++ [(key, v)] := by
  induction e with
  | nil => rfl
  | cons m e ih =>
    obtain ⟨k, w⟩ := m
    rw [keys, List.map_cons, List.mem_cons, not_or] at new
    rw [put, if_neg (Ne.symm new.1), ih new.2, List.cons_append]

theorem foldl_put_eq (pairs : Entries) {e : Entries} (once : (keys (e ++ pairs)).Nodup) :
    pairs.foldl (fun e (k, v) => put k v e) e = e ++ pairs := by
  induction pairs generalizing e with
  | nil => exact (List.append_nil e).symm
  | cons m pairs ih =>
    obtain ⟨k, w⟩ := m
    have new : k ∉ keys e := by
      rw [keys, List.map_append, List.nodup_append] at once
      exact fun old => once.2.2 _ old _ List.mem_cons_self rfl
    have split : e ++ (k, w) :: pairs = e ++ [(k, w)] ++ pairs := by simp
    rw [split] at once ⊢
    rw [List.foldl_cons]
    dsimp only
    rw [put_of_notMem new]
    exact ih once

theorem ofList_eq {e : Entries} (once : (keys e).Nodup) : ofList e = e :=
  foldl_put_eq e once

theorem entries_eq {e : Entries} (once : (keys e).Nodup) : d.entries e = e := by
  unfold Dialect.entries
  split
  · rfl
  · exact ofList_eq once

/-! ## Atoms -/

theorem spells_str (s : String) : Spells d room (str s) (keyText s) := by
  have spelled : Spells d room (stringOf (s.toList.map Char.toNat)) (keyText s) :=
    .string (quoted_keyText s)
  rwa [stringOf_text] at spelled

theorem spells_broken {codes : List Nat} (paired : Paired codes) (lone : codes.any isSurrogate = true)
    (kept : d.unpaired = true) : Spells d room (broken codes) (stringText codes) := by
  have spelled : Spells d room (stringOf codes) (stringText codes) :=
    .string (quoted_stringText paired (.inl kept))
  have same : stringOf codes = broken codes := if_pos lone
  rwa [same] at spelled

theorem spellsMember_key {before text after : List Char} (blank : Layout before) (key : String)
    (spelled : Spells d room v text) (blank' : Layout after) :
    SpellsMember d room (key, v) (before ++ (keyText key ++ ':' :: ' ' :: (text ++ after))) := by
  have member : SpellsMember d room (textOf (key.toList.map Char.toNat), v)
      (before ++ (keyText key ++ ([] ++ ':' :: ([' '] ++ (text ++ after))))) :=
    .intro blank (quoted_keyText key) layout_nil (.intro layout_blank spelled blank')
  rwa [textOf_text] at member

/-! ## One line -/

mutual
theorem spells_compact {room : Nat} :
    {v : Json} → Expressible d v room → Spells d room v (compactChars v)
  | null, _ => .null
  | bool true, _ => .true
  | bool false, _ => .false
  | int _, short => .int short
  | float _, named => .float named.1 named.2
  | str s, _ => spells_str s
  | broken _, given => spells_broken given.1 given.2.1 given.2.2
  | arr [], given => by
    obtain ⟨room, rfl⟩ := Nat.exists_eq_add_one.2 given.1
    exact .noItems layout_nil
  | obj [], given => by
    obtain ⟨room, rfl⟩ := Nat.exists_eq_add_one.2 given.1
    exact .noMembers layout_nil
  | arr (v :: vs), given => by
    obtain ⟨some, first, others⟩ := given
    obtain ⟨room, rfl⟩ := Nat.exists_eq_add_one.2 some
    exact .items (spellsItems_compact others layout_nil (spells_compact first))
  | obj ((k, v) :: e), given => by
    obtain ⟨some, once, first, others⟩ := given
    obtain ⟨room, rfl⟩ := Nat.exists_eq_add_one.2 some
    have spelled := Spells.members (spellsMembers_compact others layout_nil k (spells_compact first))
    rw [entries_eq once] at spelled
    simpa [compactChars] using spelled

theorem spellsItems_compact {room : Nat} {v : Json} {before text : List Char} :
    {vs : List Json} → ExpressibleItems d vs room → Layout before → Spells d room v text →
      SpellsItems d room (v :: vs) (before ++ (text ++ compactItems vs))
  | [], _, blank, spelled => by
    have last := SpellsItems.last (.intro blank spelled layout_nil)
    simpa [compactItems] using last
  | w :: vs, given, blank, spelled => by
    have others := spellsItems_compact given.2 layout_blank (spells_compact given.1)
    have all := SpellsItems.cons (.intro blank spelled layout_nil) others
    simpa [compactItems] using all

theorem spellsMembers_compact {room : Nat} {v : Json} {before text : List Char} :
    {e : Entries} → ExpressibleMembers d e room → Layout before → (k : String) →
      Spells d room v text →
      SpellsMembers d room ((k, v) :: e) (before ++ (keyText k ++ ':' :: ' ' :: (text ++ compactMembers e)))
  | [], _, blank, k, spelled => by
    have last := SpellsMembers.last (spellsMember_key blank k spelled layout_nil)
    simpa [compactMembers] using last
  | (k', w) :: e, given, blank, k, spelled => by
    have others := spellsMembers_compact given.2 layout_blank k' (spells_compact given.1)
    have all := SpellsMembers.cons (spellsMember_key blank k spelled layout_nil) others
    simpa [compactMembers] using all
end

theorem readChars_compact (kept : Keeps d) (readable : v.Readable d.depth) :
    readChars d (compactChars v) = .ok v := by
  have spelled := spells_compact (expressible_of_readable kept readable)
  have taken := readChars_of_spells layout_nil spelled layout_nil
  rwa [List.nil_append, List.append_nil] at taken

theorem read_compact (readable : v.Readable lenient.depth) : read (compact v) = .ok v := by
  rw [read, compact, String.toList_ofList]
  exact readChars_compact ⟨rfl, rfl⟩ readable

/-! ## Lines with a depth -/

theorem layout_newline (depth : Nat) : Layout (newline depth) := by
  intro c member
  rcases List.mem_cons.1 member with rfl | blank
  · rfl
  · rw [List.eq_of_mem_replicate blank]
    rfl

mutual
theorem spells_indented {room : Nat} (depth : Nat) :
    {v : Json} → Expressible d v room → Spells d room v (indentedChars depth v)
  | null, _ => .null
  | bool true, _ => .true
  | bool false, _ => .false
  | int _, short => .int short
  | float _, named => .float named.1 named.2
  | str s, _ => spells_str s
  | broken _, given => spells_broken given.1 given.2.1 given.2.2
  | arr [], given => by
    obtain ⟨room, rfl⟩ := Nat.exists_eq_add_one.2 given.1
    exact .noItems layout_nil
  | obj [], given => by
    obtain ⟨room, rfl⟩ := Nat.exists_eq_add_one.2 given.1
    exact .noMembers layout_nil
  | arr (v :: vs), given => by
    obtain ⟨some, first, others⟩ := given
    obtain ⟨room, rfl⟩ := Nat.exists_eq_add_one.2 some
    have spelled := Spells.items
      (spellsItems_indented depth others (layout_newline (depth + 1)) (spells_indented (depth + 1) first))
    simpa [indentedChars] using spelled
  | obj ((k, v) :: e), given => by
    obtain ⟨some, once, first, others⟩ := given
    obtain ⟨room, rfl⟩ := Nat.exists_eq_add_one.2 some
    have spelled := Spells.members
      (spellsMembers_indented depth others (layout_newline (depth + 1)) k (spells_indented (depth + 1) first))
    rw [entries_eq once] at spelled
    simpa [indentedChars] using spelled

theorem spellsItems_indented {room : Nat} {v : Json} {before text : List Char} (depth : Nat) :
    {vs : List Json} → ExpressibleItems d vs room → Layout before → Spells d room v text →
      SpellsItems d room (v :: vs) (before ++ (text ++ indentedItems depth vs))
  | [], _, blank, spelled => by
    have last := SpellsItems.last (.intro blank spelled (layout_newline depth))
    simpa [indentedItems] using last
  | w :: vs, given, blank, spelled => by
    have others := spellsItems_indented depth given.2 (layout_newline (depth + 1))
      (spells_indented (depth + 1) given.1)
    have all := SpellsItems.cons (.intro blank spelled layout_nil) others
    simpa [indentedItems] using all

theorem spellsMembers_indented {room : Nat} {v : Json} {before text : List Char} (depth : Nat) :
    {e : Entries} → ExpressibleMembers d e room → Layout before → (k : String) →
      Spells d room v text →
      SpellsMembers d room ((k, v) :: e)
        (before ++ (keyText k ++ ':' :: ' ' :: (text ++ indentedMembers depth e)))
  | [], _, blank, k, spelled => by
    have last := SpellsMembers.last (spellsMember_key blank k spelled (layout_newline depth))
    simpa [indentedMembers] using last
  | (k', w) :: e, given, blank, k, spelled => by
    have others := spellsMembers_indented depth given.2 (layout_newline (depth + 1)) k'
      (spells_indented (depth + 1) given.1)
    have all := SpellsMembers.cons (spellsMember_key blank k spelled layout_nil) others
    simpa [indentedMembers] using all
end

/-- What is written in lines, and ended with whatever layout, is read back. -/
theorem read_indented (readable : v.Readable lenient.depth) {after : List Char} (blank : Layout after) :
    read (indented v ++ String.ofList after) = .ok v := by
  have kept : Keeps lenient := ⟨rfl, rfl⟩
  have spelled := spells_indented 0 (expressible_of_readable kept readable)
  have taken := readChars_of_spells layout_nil spelled blank
  rw [read, indented, String.toList_append, String.toList_ofList, String.toList_ofList]
  exact taken

end ParserHost.Json
