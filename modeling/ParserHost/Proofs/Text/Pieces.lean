import Mathlib.Data.List.Basic
import ParserHost.Text.Search

/-!
# Pieces between separators

Pieces without the separator come back from the text that joins them (`splitAt_intercalate`).
-/

namespace ParserHost.Text

theorem mem_of_mem_splitAt {sep c : Char} {cs piece : List Char} (cut : piece ∈ splitAt sep cs)
    (member : c ∈ piece) : c ∈ cs := by
  induction cs generalizing piece with
  | nil =>
    obtain rfl : piece = [] := by simpa [splitAt] using cut
    exact member
  | cons d cs ih =>
    simp only [splitAt] at cut
    split at cut
    · rcases List.mem_cons.1 cut with rfl | cut
      · cases member
      · exact .tail _ (ih cut member)
    · cases pieces : splitAt sep cs with
      | nil => exact absurd pieces (splitAt_ne_nil sep cs)
      | cons first others =>
        rw [pieces] at cut ih
        rcases List.mem_cons.1 cut with rfl | cut
        · rcases List.mem_cons.1 member with rfl | member
          · exact .head _
          · exact .tail _ (ih (.head _) member)
        · exact .tail _ (ih (.tail _ cut) member)

theorem splitAt_intercalate {sep : Char} {pieces : List (List Char)} (some_pieces : pieces ≠ [])
    (free : ∀ piece ∈ pieces, sep ∉ piece) : splitAt sep ([sep].intercalate pieces) = pieces := by
  induction pieces with
  | nil => exact absurd rfl some_pieces
  | cons first others ih =>
    cases others with
    | nil => rw [List.intercalate_singleton, splitAt_of_not_mem (free first (.head _))]
    | cons next others =>
      have later := ih (List.cons_ne_nil _ _) fun piece member => free piece (.tail _ member)
      rw [List.intercalate_cons_cons, List.append_assoc, List.singleton_append,
        splitAt_append_cons (free first (.head _)), later]

theorem mem_intercalate {sep c : Char} {pieces : List (List Char)}
    (member : c ∈ [sep].intercalate pieces) : c = sep ∨ ∃ piece ∈ pieces, c ∈ piece := by
  induction pieces with
  | nil => simp at member
  | cons first others ih =>
    cases others with
    | nil => exact .inr ⟨first, .head _, by simpa using member⟩
    | cons next others =>
      rw [List.intercalate_cons_cons, List.append_assoc, List.mem_append] at member
      rcases member with member | member
      · exact .inr ⟨first, .head _, member⟩
      · rcases List.mem_cons.1 member with rfl | member
        · exact .inl rfl
        · rcases ih member with same | ⟨piece, among, within⟩
          · exact .inl same
          · exact .inr ⟨piece, .tail _ among, within⟩

end ParserHost.Text
