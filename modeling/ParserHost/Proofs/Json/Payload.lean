import ParserHost.Json.Payload
import ParserHost.Proofs.Json.Portable

/-!
# Levels

A value has a payload if its parts are not too deep (`payload_eq_ok_iff`). Null for numbers that are not
finite makes no part deeper or less deep (`entryLevels_finiteEntries`), and every bracket is a level, so
what is not too deep to be written is not too deep to be read (`nesting_le_levels`).
-/

namespace ParserHost.Json

variable {n : Nat} {e : Entries} {parts : List Entries} {v w : Json} {x : Excess}

theorem entryLevels_le_iff : entryLevels e ≤ n ↔ ∀ m ∈ e, m.2.levels ≤ n := by
  induction e with
  | nil => simp [entryLevels]
  | cons m e ih =>
    obtain ⟨k, v⟩ := m
    rw [entryLevels, Nat.max_le, ih, List.forall_mem_cons]

/-! ## Payloads -/

def Shallow (parts : List Entries) : Prop :=
  ∀ e ∈ parts, entryLevels e ≤ levelLimit

instance (parts : List Entries) : Decidable (Shallow parts) :=
  inferInstanceAs (Decidable (∀ e ∈ parts, entryLevels e ≤ levelLimit))

theorem payload_of_shallow (shallow : Shallow parts) (v : Json) : payload parts v = .ok v :=
  if_pos (by simpa [Shallow] using shallow)

theorem payload_of_deep (deep : ¬ Shallow parts) (v : Json) : payload parts v = .error .levels :=
  if_neg (by simpa [Shallow] using deep)

theorem payload_eq_ok_iff : payload parts v = .ok w ↔ Shallow parts ∧ v = w := by
  by_cases shallow : Shallow parts
  · simp [payload_of_shallow shallow, shallow]
  · simp [payload_of_deep shallow, shallow]

/-! ## Finite numbers -/

mutual
theorem levels_finiteOnly : (v : Json) → (finiteOnly v).levels = v.levels
  | float x => by
    rw [finiteOnly]
    split <;> rfl
  | arr items => by rw [finiteOnly, levels, levels, itemLevels_finiteItems items]
  | obj entries => by rw [finiteOnly, levels, levels, entryLevels_finiteEntries entries]
  | null | bool _ | int _ | str _ | broken _ => rfl

theorem itemLevels_finiteItems : (vs : List Json) → itemLevels (finiteItems vs) = itemLevels vs
  | [] => rfl
  | v :: rest => by
    rw [finiteItems, itemLevels, itemLevels, levels_finiteOnly v, itemLevels_finiteItems rest]

theorem entryLevels_finiteEntries : (e : Entries) → entryLevels (finiteEntries e) = entryLevels e
  | [] => rfl
  | (k, v) :: rest => by
    rw [finiteEntries, entryLevels, entryLevels, levels_finiteOnly v, entryLevels_finiteEntries rest]
end

theorem shallow_map_finiteEntries (parts : List Entries) :
    Shallow (parts.map finiteEntries) ↔ Shallow parts := by
  simp [Shallow, entryLevels_finiteEntries]

/-! ## Brackets -/

mutual
theorem nesting_le_levels : (v : Json) → v.nesting ≤ v.levels
  | arr items => Nat.succ_le_succ (nestingItems_le_levels items)
  | obj entries => Nat.succ_le_succ (nestingEntries_le_levels entries)
  | null | bool _ | int _ | float _ | str _ | broken _ => Nat.zero_le _

theorem nestingItems_le_levels : (vs : List Json) → nestingItems vs ≤ itemLevels vs
  | [] => Nat.le_refl _
  | v :: rest => by
    have first := nesting_le_levels v
    have others := nestingItems_le_levels rest
    rw [nestingItems, itemLevels]
    omega

theorem nestingEntries_le_levels : (e : Entries) → nestingEntries e ≤ entryLevels e
  | [] => Nat.le_refl _
  | (_, v) :: rest => by
    have first := nesting_le_levels v
    have others := nestingEntries_le_levels rest
    rw [nestingEntries, entryLevels]
    omega
end

/-! ## Digits -/

mutual
theorem writable_of_readable {room : Nat} : {v : Json} → v.Readable room → v.writable = true
  | int _, short => decide_eq_true short
  | arr _, readable => writableItems_of_readable readable.2
  | obj _, readable => writableEntries_of_readable readable.2.2
  | broken _, _ | null, _ | bool _, _ | float _, _ | str _, _ => rfl

theorem writableItems_of_readable {room : Nat} :
    {vs : List Json} → ReadableItems vs room → writableItems vs = true
  | [], _ => rfl
  | _ :: _, readable =>
    Bool.and_eq_true_iff.2 ⟨writable_of_readable readable.1, writableItems_of_readable readable.2⟩

theorem writableEntries_of_readable {room : Nat} :
    {e : Entries} → ReadableMembers e room → writableEntries e = true
  | [], _ => rfl
  | (_, _) :: _, readable =>
    Bool.and_eq_true_iff.2 ⟨writable_of_readable readable.1, writableEntries_of_readable readable.2⟩
end

theorem writable_of_portable (portable : v.Portable) : v.writable = true :=
  writable_of_readable (readable_of_portable portable (Nat.le_refl _))

/-! ## Too many levels -/

def brackets : Nat → Json
  | 0 => arr []
  | n + 1 => arr [brackets n]

theorem levels_brackets (n : Nat) : (brackets n).levels = n + 1 := by
  induction n with
  | zero => rfl
  | succ n ih => rw [brackets, levels, itemLevels, itemLevels, ih, Nat.max_zero]

theorem portable_brackets (n : Nat) : (brackets n).Portable := by
  induction n with
  | zero => trivial
  | succ n ih => exact ⟨ih, trivial⟩

def deepPart : Entries :=
  [("rows", brackets levelLimit)]

theorem not_shallow_deepPart (more : List Entries) : ¬ Shallow (deepPart :: more) := by
  intro shallow
  have short := entryLevels_le_iff.1 (shallow deepPart (.head _)) _ (.head _)
  rw [levels_brackets] at short
  exact absurd short (Nat.not_succ_le_self _)

theorem portable_deepPart : (obj deepPart).Portable :=
  ⟨by simp [deepPart, keys], portable_brackets _, trivial⟩

end ParserHost.Json
