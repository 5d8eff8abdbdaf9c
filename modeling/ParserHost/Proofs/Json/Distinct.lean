import ParserHost.Json.Basic

/-!
# Distinct keys

A value whose objects, at any depth, have no key twice (`Json.Distinct`). Look-up then finds every entry
(`get?_of_mem`).
-/

namespace ParserHost.Json

mutual
def Distinct : Json → Prop
  | arr items => DistinctItems items
  | obj entries => (keys entries).Nodup ∧ DistinctEntries entries
  | _ => True

def DistinctItems : List Json → Prop
  | [] => True
  | v :: rest => v.Distinct ∧ DistinctItems rest

def DistinctEntries : Entries → Prop
  | [] => True
  | (_, v) :: rest => v.Distinct ∧ DistinctEntries rest
end

mutual
def decideDistinct : (v : Json) → Decidable v.Distinct
  | arr items => decideDistinctItems items
  | obj entries =>
    have := decideDistinctEntries entries
    inferInstanceAs (Decidable ((keys entries).Nodup ∧ DistinctEntries entries))
  | null | bool _ | int _ | float _ | str _ | broken _ => isTrue trivial

def decideDistinctItems : (vs : List Json) → Decidable (DistinctItems vs)
  | [] => isTrue trivial
  | v :: rest =>
    have := decideDistinct v
    have := decideDistinctItems rest
    inferInstanceAs (Decidable (v.Distinct ∧ DistinctItems rest))

def decideDistinctEntries : (e : Entries) → Decidable (DistinctEntries e)
  | [] => isTrue trivial
  | (_, v) :: rest =>
    have := decideDistinct v
    have := decideDistinctEntries rest
    inferInstanceAs (Decidable (v.Distinct ∧ DistinctEntries rest))
end

instance (v : Json) : Decidable v.Distinct :=
  decideDistinct v

theorem distinctItems_iff {vs : List Json} : DistinctItems vs ↔ ∀ v ∈ vs, v.Distinct := by
  induction vs with
  | nil => simp [DistinctItems]
  | cons v rest ih => rw [DistinctItems, ih, List.forall_mem_cons]

theorem distinctEntries_iff {e : Entries} : DistinctEntries e ↔ ∀ m ∈ e, m.2.Distinct := by
  induction e with
  | nil => simp [DistinctEntries]
  | cons m rest ih =>
    obtain ⟨k, v⟩ := m
    rw [DistinctEntries, ih, List.forall_mem_cons]

@[simp] theorem distinct_arr {vs : List Json} : (arr vs).Distinct ↔ ∀ v ∈ vs, v.Distinct := by
  rw [Distinct, distinctItems_iff]

@[simp] theorem distinct_obj {e : Entries} :
    (obj e).Distinct ↔ (keys e).Nodup ∧ ∀ m ∈ e, m.2.Distinct := by
  rw [Distinct, distinctEntries_iff]

theorem mem_of_get? {key : String} {v : Json} {e : Entries} (found : get? key e = some v) :
    (key, v) ∈ e := by
  induction e with
  | nil => cases found
  | cons m rest ih =>
    obtain ⟨k, w⟩ := m
    by_cases same : k = key
    · rw [get?, if_pos same] at found
      cases found
      rw [same]
      exact List.mem_cons_self
    · rw [get?, if_neg same] at found
      exact List.mem_cons_of_mem _ (ih found)

theorem get?_of_mem {key : String} {v : Json} {e : Entries} (once : (keys e).Nodup)
    (member : (key, v) ∈ e) : get? key e = some v := by
  induction e with
  | nil => cases member
  | cons m rest ih =>
    obtain ⟨k, w⟩ := m
    rw [keys, List.map_cons, List.nodup_cons] at once
    rcases List.mem_cons.1 member with same | later
    · cases same
      rw [get?, if_pos rfl]
    · have other : k ≠ key := by
        rintro rfl
        exact once.1 (List.mem_map.2 ⟨_, later, rfl⟩)
      rw [get?, if_neg other]
      exact ih once.2 later

theorem Distinct.get? {key : String} {v : Json} {e : Entries} (distinct : (obj e).Distinct)
    (found : Json.get? key e = some v) : v.Distinct :=
  (distinct_obj.1 distinct).2 _ (mem_of_get? found)

end ParserHost.Json
