import ParserHost.Json.Basic

/-!
# Finite numbers

Values without numbers that are not finite (`Json.Finite`) are those that `finiteOnly` leaves as they
are (`finiteOnly_eq_iff`). Doing it twice is doing it once.
-/

namespace ParserHost.Json

mutual
def Finite : Json → Prop
  | float x => x.isFinite = true
  | arr items => FiniteItems items
  | obj entries => FiniteEntries entries
  | _ => True

def FiniteItems : List Json → Prop
  | [] => True
  | v :: rest => v.Finite ∧ FiniteItems rest

def FiniteEntries : Entries → Prop
  | [] => True
  | (_, v) :: rest => v.Finite ∧ FiniteEntries rest
end

theorem finiteOnly_float_eq_iff (x : Double) : finiteOnly (float x) = float x ↔ x.isFinite = true := by
  cases finite : x.isFinite <;> simp [finiteOnly, finite]

mutual
theorem finiteOnly_eq_iff : (v : Json) → (finiteOnly v = v ↔ v.Finite)
  | float x => finiteOnly_float_eq_iff x
  | arr items => by simp only [finiteOnly, Finite, arr.injEq, finiteItems_eq_iff items]
  | obj entries => by simp only [finiteOnly, Finite, obj.injEq, finiteEntries_eq_iff entries]
  | null | bool _ | int _ | str _ | broken _ => by simp [finiteOnly, Finite]

theorem finiteItems_eq_iff : (vs : List Json) → (finiteItems vs = vs ↔ FiniteItems vs)
  | [] => by simp [finiteItems, FiniteItems]
  | v :: rest => by
    simp only [finiteItems, FiniteItems, List.cons.injEq, finiteOnly_eq_iff v, finiteItems_eq_iff rest]

theorem finiteEntries_eq_iff : (e : Entries) → (finiteEntries e = e ↔ FiniteEntries e)
  | [] => by simp [finiteEntries, FiniteEntries]
  | (k, v) :: rest => by
    simp only [finiteEntries, FiniteEntries, List.cons.injEq, Prod.mk.injEq, true_and,
      finiteOnly_eq_iff v, finiteEntries_eq_iff rest]
end

mutual
theorem finite_finiteOnly : (v : Json) → (finiteOnly v).Finite
  | float x => by
    rw [finiteOnly]
    split
    · next finite => exact finite
    · trivial
  | arr items => finiteItems_finiteItems items
  | obj entries => finiteEntries_finiteEntries entries
  | null | bool _ | int _ | str _ | broken _ => trivial

theorem finiteItems_finiteItems : (vs : List Json) → FiniteItems (finiteItems vs)
  | [] => trivial
  | v :: rest => ⟨finite_finiteOnly v, finiteItems_finiteItems rest⟩

theorem finiteEntries_finiteEntries : (e : Entries) → FiniteEntries (finiteEntries e)
  | [] => trivial
  | (_, v) :: rest => ⟨finite_finiteOnly v, finiteEntries_finiteEntries rest⟩
end

theorem finiteEntries_twice (e : Entries) : finiteEntries (finiteEntries e) = finiteEntries e :=
  (finiteEntries_eq_iff _).2 (finiteEntries_finiteEntries e)

end ParserHost.Json
