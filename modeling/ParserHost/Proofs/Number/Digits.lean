import Mathlib.Data.List.TakeDrop
import ParserHost.Number.Literal
import ParserHost.Proofs.Text.Trimming

/-!
# Digits

The digits of a number read back as the number (`natural_toDigits`), and a run of digits is read to its
end when no digit follows (`spanDigits_append`).
-/

namespace ParserHost.Literal

theorem natural_eq_ofDigitChars (ds : List Char) : natural ds = Nat.ofDigitChars 10 ds 0 := by
  have step : (fun (n : Nat) (c : Char) => n * 10 + (c.toNat - '0'.toNat)) =
      fun n c => 10 * n + (c.toNat - '0'.toNat) := by
    funext n c
    rw [Nat.mul_comm]
  rw [natural, step]
  rfl

theorem natural_toDigits (n : Nat) : natural (Nat.toDigits 10 n) = n := by
  rw [natural_eq_ofDigitChars]
  exact Nat.ofDigitChars_ten_toDigits

theorem isDigit_of_mem_toDigits {n : Nat} {c : Char} (member : c ∈ Nat.toDigits 10 n) :
    c.isDigit = true :=
  Nat.isDigit_of_mem_toDigits (by decide) (by decide) member

/-- A positive number is not written with a zero in front. -/
theorem head_toDigits_ne_zero {n : Nat} {c : Char} {ds : List Char} (positive : 0 < n)
    (written : Nat.toDigits 10 n = c :: ds) : c ≠ '0' := by
  induction n using Nat.strongRecOn generalizing ds with
  | ind n ih =>
    by_cases small : n < 10
    · rw [Nat.toDigits_of_lt_base small] at written
      injection written with head _
      have digits : ∀ k < 10, 0 < k → Nat.digitChar k ≠ '0' := by decide
      rw [← head]
      exact digits n small positive
    · rw [Nat.toDigits_of_base_le (by decide) (by omega)] at written
      obtain ⟨head, more, front⟩ :=
        List.exists_cons_of_ne_nil (Nat.toDigits_ne_nil (n := n / 10) (b := 10))
      rw [front, List.cons_append] at written
      injection written with same _
      rw [same] at front
      exact ih (n / 10) (by omega) (by omega) front

def EndsDigits (rest : List Char) : Prop :=
  ∀ c more, rest = c :: more → c.isDigit = false

theorem spanDigits_append {ds rest : List Char} (digits : ∀ c ∈ ds, c.isDigit = true)
    (ends : EndsDigits rest) : spanDigits (ds ++ rest) = (ds, rest) := by
  have stop : ∀ c ∈ rest.head?, c.isDigit = false := fun c first =>
    have ⟨more, starts⟩ := List.head?_eq_some_iff.1 first
    ends c more starts
  rw [spanDigits, List.span_eq_takeWhile_dropWhile, List.takeWhile_append_of_pos digits,
    List.dropWhile_append_of_pos digits, Text.takeWhile_of_head stop, Text.dropWhile_of_head stop, List.append_nil]

end ParserHost.Literal
