import ParserHost.Proofs.Exchange.Distinct
import ParserHost.Proofs.Firsts

/-!
# Deduplication piece by piece

What is kept of a list stands at the positions without a duplicate in front of them, and a list may
be deduplicated piece by piece: `dedupe_exact`.
-/

namespace ParserHost.Document

variable {documents : List Document}

theorem isDuplicate_eq_false {first second : Document} :
    first.isDuplicate second = false ↔ second.key ≠ first.key := by
  rw [isDuplicate, decide_eq_false_iff_not, eq_comm]

/-- A choice among the keys may come before or after deduplication. -/
theorem dedupe_filter (among : String × String → Bool) (documents : List Document) :
    dedupe (documents.filter (among ∘ key)) = (dedupe documents).filter (among ∘ key) := by
  induction documents using dedupe_induction with
  | nil => rfl
  | cons d rest ih =>
    rw [List.filter_comm] at ih
    by_cases chosen : (among ∘ key) d = true
    · rw [List.filter_cons_of_pos chosen, dedupe_cons, dedupe_cons, ih,
        List.filter_cons_of_pos chosen]
    · -- the key of the document is not chosen, so no chosen document is its duplicate
      have others : (rest.filter (among ∘ key)).filter (fun x => x.key ≠ d.key) =
          rest.filter (among ∘ key) := by
        rw [List.filter_eq_self]
        intro x member
        obtain ⟨-, held⟩ := List.mem_filter.1 member
        have different : x.key ≠ d.key := by
          intro same
          exact chosen (by simpa [same] using held)
        simpa using different
      rw [List.filter_cons_of_neg chosen, dedupe_cons, List.filter_cons_of_neg chosen, ← ih,
        others]

theorem dedupe_cons_eq (d : Document) (rest : List Document) :
    dedupe (d :: rest) = d :: (dedupe rest).filter fun x => x.key ≠ d.key := by
  rw [dedupe_cons]
  exact congrArg (d :: ·) (dedupe_filter (fun k => k ≠ d.key) rest)

theorem mem_keys_dedupe {k : String × String} :
    k ∈ (dedupe documents).map key ↔ k ∈ documents.map key := by
  rw [keys_dedupe, List.mem_eraseDups]

theorem dedupe_of_nodup (distinct : (documents.map key).Nodup) : dedupe documents = documents := by
  induction documents with
  | nil => rfl
  | cons d rest ih =>
    obtain ⟨new, others⟩ := List.nodup_cons.1 distinct
    rw [dedupe_cons_eq, ih others, List.filter_eq_self.2]
    intro x member
    have different : x.key ≠ d.key := fun same => new (List.mem_map.2 ⟨x, member, same⟩)
    simpa using different

theorem dedupe_append (first second : List Document) :
    dedupe (first ++ second) =
      dedupe first ++ (dedupe second).filter fun d => d.key ∉ first.map key := by
  induction first with
  | nil => simp [dedupe, dedupeFrom]
  | cons d rest ih =>
    rw [List.cons_append, dedupe_cons_eq, ih, List.filter_append, List.filter_filter,
      dedupe_cons_eq, List.cons_append]
    simp only [List.map_cons, List.mem_cons, not_or, Bool.decide_and, ne_eq]

def isFirst (documents : List Document) (i : Fin documents.length) : Bool :=
  decide (∀ j < i, (documents.get j).isDuplicate (documents.get i) = false)

theorem isFirst_eq (documents : List Document) : isFirst documents = ParserHost.isFirst key documents := by
  funext i
  rw [Bool.eq_iff_iff]
  simp only [isFirst, ParserHost.isFirst, decide_eq_true_eq, isDuplicate_eq_false, ne_comm]

theorem dedupe_eq_firsts (documents : List Document) :
    dedupe documents =
      ((List.finRange documents.length).filter (isFirst documents)).map documents.get := by
  rw [isFirst_eq]
  change _ = firsts key documents
  induction documents with
  | nil => rfl
  | cons d rest ih => rw [dedupe_cons_eq, ih, firsts_cons]

/-- The kept documents are those at the positions without a duplicate in front, so their keys are
distinct and all there are; two lists may be deduplicated each by itself first. -/
theorem dedupe_exact (first second : List Document) :
    dedupe first = ((List.finRange first.length).filter fun i =>
      decide (∀ j < i, (first.get j).isDuplicate (first.get i) = false)).map first.get ∧
    ((dedupe first).map key).Nodup ∧
    (∀ k, k ∈ (dedupe first).map key ↔ k ∈ first.map key) ∧
    dedupe (dedupe first) = dedupe first ∧
    dedupe (first ++ second) = dedupe (dedupe first ++ dedupe second) ∧
    dedupe (first ++ second) =
      dedupe first ++ (dedupe second).filter fun d => d.key ∉ first.map key := by
  have again : ∀ documents, dedupe (dedupe documents) = dedupe documents :=
    fun documents => dedupe_of_nodup (nodup_keys_dedupe documents)
  refine ⟨dedupe_eq_firsts first, nodup_keys_dedupe first, fun k => mem_keys_dedupe, again first,
    ?_, dedupe_append first second⟩
  rw [dedupe_append, dedupe_append (dedupe first), again, again]
  simp only [mem_keys_dedupe]

end ParserHost.Document
