import Mathlib.Data.List.FinRange

/-!
# First occurrences

The items of a list at the positions where their key comes up for the first time (`firsts`). The first item is
one of them, and takes all later ones with its key away (`firsts_cons`).
-/

namespace ParserHost

variable {α κ : Type} [DecidableEq κ] {key : α → κ}

def isFirst (key : α → κ) (xs : List α) (i : Fin xs.length) : Bool :=
  decide (∀ j < i, key (xs.get j) ≠ key (xs.get i))

def firsts (key : α → κ) (xs : List α) : List α :=
  ((List.finRange xs.length).filter (isFirst key xs)).map xs.get

theorem isFirst_zero (x : α) (rest : List α) :
    isFirst key (x :: rest) (0 : Fin (rest.length + 1)) = true := by
  simp [isFirst]

theorem isFirst_succ (x : α) (rest : List α) (i : Fin rest.length) :
    isFirst key (x :: rest) i.succ = (decide (key (rest.get i) ≠ key x) && isFirst key rest i) := by
  rw [Bool.eq_iff_iff]
  simp only [isFirst, Bool.and_eq_true, decide_eq_true_eq]
  constructor
  · intro first
    exact ⟨(first 0 i.succ_pos).symm, fun j before => first j.succ (Fin.succ_lt_succ_iff.2 before)⟩
  · rintro ⟨other, first⟩ j before
    cases j using Fin.cases with
    | zero => exact other.symm
    | succ j => exact first j (Fin.succ_lt_succ_iff.1 before)

theorem firsts_cons (x : α) (rest : List α) :
    firsts key (x :: rest) = x :: (firsts key rest).filter fun y => key y ≠ key x := by
  have positions : List.finRange (x :: rest).length =
      (0 : Fin (rest.length + 1)) :: (List.finRange rest.length).map Fin.succ :=
    List.finRange_succ
  have later : isFirst key (x :: rest) ∘ Fin.succ =
      fun i => decide (key (rest.get i) ≠ key x) && isFirst key rest i := by
    funext i
    rw [Function.comp_apply, isFirst_succ]
  rw [firsts, positions, List.filter_cons_of_pos (isFirst_zero x rest), List.filter_map, later, List.map_cons,
    List.map_map, firsts, List.filter_map, List.filter_filter]
  rfl

theorem mem_of_mem_firsts {x : α} {xs : List α} (member : x ∈ firsts key xs) : x ∈ xs := by
  obtain ⟨i, -, rfl⟩ := List.mem_map.1 member
  exact List.get_mem xs i

end ParserHost
