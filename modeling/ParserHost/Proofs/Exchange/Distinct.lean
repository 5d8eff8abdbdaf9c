import Mathlib.Data.List.Forall2
import ParserHost.Exchange.Document

/-!
# Distinct documents

Deduplication keeps the first document of each key, in the order in which the keys come up for the
first time (`forall₂_dedupe`); so the keys of what is kept are distinct (`nodup_keys_dedupe`).
-/

namespace ParserHost.Document

variable {seen before : List (String × String)} {documents : List Document}

theorem dedupeFrom_of_mem {d : Document} (known : d.key ∈ seen) :
    dedupeFrom seen (d :: documents) = dedupeFrom seen documents := by
  simp [dedupeFrom, known]

theorem dedupeFrom_of_not_mem {d : Document} (new : d.key ∉ seen) :
    dedupeFrom seen (d :: documents) = d :: dedupeFrom (d.key :: seen) documents := by
  simp [dedupeFrom, new]

/-- What was seen before may as well be left out beforehand. -/
theorem dedupeFrom_append (seen before : List (String × String)) (documents : List Document) :
    dedupeFrom (seen ++ before) documents =
      dedupeFrom seen (documents.filter fun d => d.key ∉ before) := by
  induction documents generalizing seen with
  | nil => rfl
  | cons d rest ih =>
    by_cases old : d.key ∈ before
    · rw [List.filter_cons_of_neg (by simpa using old),
        dedupeFrom_of_mem (List.mem_append_right _ old), ih]
    · rw [List.filter_cons_of_pos (by simpa using old)]
      by_cases known : d.key ∈ seen
      · rw [dedupeFrom_of_mem (List.mem_append_left _ known), dedupeFrom_of_mem known, ih]
      · have new : d.key ∉ seen ++ before := by simp [known, old]
        rw [dedupeFrom_of_not_mem new, dedupeFrom_of_not_mem known, ← ih, List.cons_append]

theorem dedupe_cons (d : Document) (rest : List Document) :
    dedupe (d :: rest) = d :: dedupe (rest.filter fun x => x.key ≠ d.key) := by
  have apart : dedupeFrom ([] ++ [d.key]) rest = _ := dedupeFrom_append [] [d.key] rest
  rw [dedupe, dedupeFrom_of_not_mem List.not_mem_nil, dedupe]
  simpa using apart

/-- An induction that follows the first documents of the keys. -/
theorem dedupe_induction {P : List Document → Prop} (nil : P [])
    (cons : ∀ d rest, P (rest.filter fun x => x.key ≠ d.key) → P (d :: rest)) :
    ∀ documents, P documents
  | [] => nil
  | d :: rest => cons d rest (dedupe_induction nil cons (rest.filter fun x => x.key ≠ d.key))
termination_by documents => documents.length
decreasing_by exact Nat.lt_succ_of_le (List.length_filter_le _ _)

theorem keys_dedupe (documents : List Document) :
    (dedupe documents).map key = (documents.map key).eraseDups := by
  induction documents using dedupe_induction with
  | nil => rfl
  | cons d rest ih =>
    have other : (fun x : Document => decide (x.key ≠ d.key)) = (!· == d.key) ∘ key := by
      funext x
      simp [Bool.beq_eq_decide_eq]
    rw [dedupe_cons, List.map_cons, List.map_cons, List.eraseDups_cons, ih, List.filter_map, other]

theorem mem_of_mem_dedupe {d : Document} (kept : d ∈ dedupe documents) : d ∈ documents := by
  induction documents using dedupe_induction with
  | nil => exact kept
  | cons first rest ih =>
    rw [dedupe_cons, List.mem_cons] at kept
    rcases kept with rfl | kept
    · exact List.mem_cons_self
    · exact List.mem_cons_of_mem _ (List.mem_filter.1 (ih kept)).1

theorem nodup_keys_dedupe (documents : List Document) : ((dedupe documents).map key).Nodup := by
  induction documents using dedupe_induction with
  | nil => exact List.nodup_nil
  | cons d rest ih =>
    rw [dedupe_cons, List.map_cons, List.nodup_cons]
    refine ⟨fun again => ?_, ih⟩
    obtain ⟨x, kept, same⟩ := List.mem_map.1 again
    have other := (List.mem_filter.1 (mem_of_mem_dedupe kept)).2
    simp [same] at other

/-- Each key, in order of appearance, with the first document that has it. -/
theorem forall₂_dedupe (documents : List Document) :
    List.Forall₂ (fun k d => documents.find? (fun x => x.key = k) = some d)
      (documents.map key).eraseDups (dedupe documents) := by
  induction documents using dedupe_induction with
  | nil => exact .nil
  | cons d rest ih =>
    rw [← keys_dedupe, dedupe_cons, List.map_cons, keys_dedupe]
    refine .cons (List.find?_cons_of_pos (by simp)) (ih.imp fun k first found => ?_)
    have kept := List.mem_filter.1 (List.mem_of_find?_eq_some found)
    have matching : first.key = k := by simpa using List.find?_some found
    have other : k ≠ d.key := by simpa [matching] using kept.2
    rw [List.find?_cons_of_neg (by simpa using other.symm)]
    rw [List.find?_filter] at found
    refine Eq.trans ?_ found
    congr 1
    funext x
    by_cases same : x.key = k
    · simp [same, other]
    · simp [same]

end ParserHost.Document
