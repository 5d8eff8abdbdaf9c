import ParserHost.Proofs.Json.Finite
import ParserHost.Proofs.Json.RoundTrip

/-!
# Portable values

Values that come through their text unharmed where there is room for their brackets
(`readable_of_portable`): all numbers are finite and can be named, every string is a text, and no key comes
twice.
-/

namespace ParserHost.Json

mutual
/-- A value whose parts can all be named by text, without those that no other reader would take. -/
def Portable : Json → Prop
  | int n => (Nat.toDigits 10 n.natAbs).length ≤ digitLimit
  | float x => x.isFinite = true ∧ Named x
  | broken _ => False
  | arr vs => PortableItems vs
  | obj e => (keys e).Nodup ∧ PortableEntries e
  | _ => True

def PortableItems : List Json → Prop
  | [] => True
  | v :: rest => v.Portable ∧ PortableItems rest

def PortableEntries : Entries → Prop
  | [] => True
  | (_, v) :: rest => v.Portable ∧ PortableEntries rest
end

mutual
def nesting : Json → Nat
  | arr vs => nestingItems vs + 1
  | obj e => nestingEntries e + 1
  | _ => 0

def nestingItems : List Json → Nat
  | [] => 0
  | v :: rest => max v.nesting (nestingItems rest)

def nestingEntries : Entries → Nat
  | [] => 0
  | (_, v) :: rest => max v.nesting (nestingEntries rest)
end

theorem portableItems_iff {vs : List Json} : PortableItems vs ↔ ∀ v ∈ vs, v.Portable := by
  induction vs with
  | nil => simp [PortableItems]
  | cons v vs ih => rw [PortableItems, ih, List.forall_mem_cons]

theorem portableEntries_iff {e : Entries} : PortableEntries e ↔ ∀ m ∈ e, m.2.Portable := by
  induction e with
  | nil => simp [PortableEntries]
  | cons m e ih =>
    obtain ⟨k, v⟩ := m
    rw [PortableEntries, ih, List.forall_mem_cons]

theorem nestingItems_le_iff {n : Nat} {vs : List Json} :
    nestingItems vs ≤ n ↔ ∀ v ∈ vs, v.nesting ≤ n := by
  induction vs with
  | nil => simp [nestingItems]
  | cons v vs ih => rw [nestingItems, Nat.max_le, ih, List.forall_mem_cons]

theorem nestingEntries_le_iff {n : Nat} {e : Entries} :
    nestingEntries e ≤ n ↔ ∀ m ∈ e, m.2.nesting ≤ n := by
  induction e with
  | nil => simp [nestingEntries]
  | cons m e ih =>
    obtain ⟨k, v⟩ := m
    rw [nestingEntries, Nat.max_le, ih, List.forall_mem_cons]

@[simp] theorem portable_str (s : String) : (str s).Portable := trivial

@[simp] theorem portable_bool (b : Bool) : (bool b).Portable := trivial

@[simp] theorem nesting_str (s : String) : (str s).nesting = 0 := by simp [nesting]

@[simp] theorem nesting_bool (b : Bool) : (bool b).nesting = 0 := by simp [nesting]

/-! ## Reading back -/

mutual
theorem readable_of_portable {room : Nat} :
    {v : Json} → v.Portable → v.nesting ≤ room → v.Readable room
  | null, _, _ | bool _, _, _ | str _, _, _ => trivial
  | int _, portable, _ => portable
  | float _, portable, _ => portable.2
  | broken _, portable, _ => portable.elim
  | arr vs, portable, fits => by
    rw [nesting] at fits
    exact ⟨by omega, readableItems_of_portable portable (by omega)⟩
  | obj e, portable, fits => by
    rw [nesting] at fits
    exact ⟨by omega, portable.1, readableMembers_of_portable portable.2 (by omega)⟩

theorem readableItems_of_portable {room : Nat} :
    {vs : List Json} → PortableItems vs → nestingItems vs ≤ room → ReadableItems vs room
  | [], _, _ => trivial
  | v :: rest, portable, fits => by
    rw [nestingItems, Nat.max_le] at fits
    exact ⟨readable_of_portable portable.1 fits.1, readableItems_of_portable portable.2 fits.2⟩

theorem readableMembers_of_portable {room : Nat} :
    {e : Entries} → PortableEntries e → nestingEntries e ≤ room → ReadableMembers e room
  | [], _, _ => trivial
  | (k, v) :: rest, portable, fits => by
    rw [nestingEntries, Nat.max_le] at fits
    exact ⟨readable_of_portable portable.1 fits.1, readableMembers_of_portable portable.2 fits.2⟩
end

/-! ## Finite numbers -/

mutual
theorem finite_of_portable : {v : Json} → v.Portable → v.Finite
  | null, _ | bool _, _ | str _, _ | int _, _ => trivial
  | float _, portable => portable.1
  | broken _, portable => portable.elim
  | arr _, portable => finiteItems_of_portable portable
  | obj _, portable => finiteEntries_of_portable portable.2

theorem finiteItems_of_portable : {vs : List Json} → PortableItems vs → FiniteItems vs
  | [], _ => trivial
  | _ :: _, portable => ⟨finite_of_portable portable.1, finiteItems_of_portable portable.2⟩

theorem finiteEntries_of_portable : {e : Entries} → PortableEntries e → FiniteEntries e
  | [], _ => trivial
  | (_, _) :: _, portable => ⟨finite_of_portable portable.1, finiteEntries_of_portable portable.2⟩
end

/-! ## Records -/

theorem keys_record (fields : List (String × Option Json)) :
    (keys (record fields)).Sublist (fields.map Prod.fst) := by
  induction fields with
  | nil => exact .slnil
  | cons f fields ih =>
    obtain ⟨k, _ | v⟩ := f
    · exact ih.cons k
    · exact ih.cons_cons k

theorem mem_record {fields : List (String × Option Json)} {m : String × Json} :
    m ∈ record fields ↔ (m.1, some m.2) ∈ fields := by
  obtain ⟨key, v⟩ := m
  induction fields with
  | nil => simp [record]
  | cons f fields ih =>
    obtain ⟨k, _ | w⟩ := f <;> simp [record, ih]

theorem readableMembers_record {room : Nat} {fields : List (String × Option Json)}
    (each : ∀ f ∈ fields, ∀ v ∈ f.2, v.Readable room) : ReadableMembers (record fields) room :=
  readableMembers_iff.2 fun _ member => each _ (mem_record.1 member) _ rfl

theorem expressibleMembers_record {d : Dialect} {room : Nat} {fields : List (String × Option Json)}
    (each : ∀ f ∈ fields, ∀ v ∈ f.2, Expressible d v room) : ExpressibleMembers d (record fields) room :=
  expressibleMembers_iff.2 fun _ member => each _ (mem_record.1 member) _ rfl

@[simp] theorem portableEntries_record_nil : PortableEntries (record []) := trivial

@[simp] theorem portableEntries_record_cons (key : String) (o : Option Json)
    (rest : List (String × Option Json)) :
    PortableEntries (record ((key, o) :: rest)) ↔
      (∀ v ∈ o, v.Portable) ∧ PortableEntries (record rest) := by
  cases o <;> simp [record, PortableEntries]

@[simp] theorem nestingEntries_record_nil {n : Nat} : nestingEntries (record []) ≤ n := Nat.zero_le n

@[simp] theorem nestingEntries_record_cons {n : Nat} (key : String) (o : Option Json)
    (rest : List (String × Option Json)) :
    nestingEntries (record ((key, o) :: rest)) ≤ n ↔
      (∀ v ∈ o, v.nesting ≤ n) ∧ nestingEntries (record rest) ≤ n := by
  cases o <;> simp [record, nestingEntries]

theorem portable_record {fields : List (String × Option Json)} (once : (fields.map Prod.fst).Nodup)
    (each : PortableEntries (record fields)) : (obj (record fields)).Portable :=
  ⟨once.sublist (keys_record fields), each⟩

end ParserHost.Json
