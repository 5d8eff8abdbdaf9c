import Mathlib.Tactic.Ring
import ParserHost.Number.Double

/-!
# Rounding

Rounding depends on the quotient only (`ofUnits_scale`), so a decimal number does not change when
zeros move between its digits and its exponent (`ofDecimal_pow`). A finite number that comes from
rounding is representable (`representable_of_ofDecimal`), and a representable number is rounded to itself
(`ofUnits_of_representable`).
-/

namespace ParserHost.Double

variable {num den units digits : Nat} {negative : Bool} {exponent : Int}

/-! ## Scaling -/

theorem roundDiv_scale {c : Nat} (positive : 0 < c) (num den : Nat) :
    roundDiv (c * num) (c * den) = roundDiv num den := by
  have below (r : Nat) : 2 * (c * r) < c * den ↔ 2 * r < den := by
    rw [Nat.mul_left_comm, Nat.mul_lt_mul_left positive]
  have above (r : Nat) : c * den < 2 * (c * r) ↔ den < 2 * r := by
    rw [Nat.mul_left_comm, Nat.mul_lt_mul_left positive]
  simp only [roundDiv, Nat.mul_div_mul_left _ _ positive, Nat.mul_mod_mul_left, below, above]

theorem roundUnits_scale {c : Nat} (positive : 0 < c) (num den : Nat) :
    roundUnits (c * num) (c * den) = roundUnits num den := by
  simp only [roundUnits, Nat.mul_div_mul_left _ _ positive, Nat.mul_assoc, roundDiv_scale positive]

theorem ofUnits_scale {c : Nat} (positive : 0 < c) (num den : Nat) :
    ofUnits negative (c * num) (c * den) = ofUnits negative num den := by
  rw [ofUnits, ofUnits, roundUnits_scale positive]

/-! ## Decimal numbers -/

theorem length_toDigits_mul_ten (positive : 0 < digits) :
    (Nat.toDigits 10 (digits * 10)).length = (Nat.toDigits 10 digits).length + 1 := by
  rw [Nat.toDigits_of_base_le (by decide) (by omega), Nat.mul_div_cancel _ (by decide),
    List.length_append, List.length_singleton]

def nearest (negative : Bool) (digits : Nat) (exponent : Int) : Double :=
  if 0 ≤ exponent then ofUnits negative (digits * Nat.pow 10 exponent.toNat * one) 1
  else ofUnits negative (digits * one) (Nat.pow 10 (-exponent).toNat)

theorem nearest_mul_ten (negative : Bool) (digits : Nat) (exponent : Int) :
    nearest negative (digits * 10) exponent = nearest negative digits (exponent + 1) := by
  unfold nearest
  generalize one = unit
  by_cases whole : 0 ≤ exponent
  · obtain ⟨n, rfl⟩ := Int.eq_ofNat_of_zero_le whole
    have next : ((n : Int) + 1).toNat = n + 1 := by omega
    have scaled : digits * 10 * Nat.pow 10 n * unit = digits * Nat.pow 10 (n + 1) * unit := by
      change digits * 10 * 10 ^ n * unit = digits * 10 ^ (n + 1) * unit
      ring
    rw [if_pos whole, if_pos (by omega), next, Int.toNat_natCast, scaled]
  · obtain ⟨n, rfl⟩ : ∃ n : Nat, exponent = -(n : Int) - 1 := ⟨(-exponent - 1).toNat, by omega⟩
    have power : (-(-(n : Int) - 1)).toNat = n + 1 := by omega
    have num : digits * 10 * unit = 10 * (digits * unit) := by ring
    have den : Nat.pow 10 (n + 1) = 10 * Nat.pow 10 n := by
      change 10 ^ (n + 1) = 10 * 10 ^ n
      ring
    rw [if_neg whole, power, num, den, ofUnits_scale (by decide)]
    by_cases last : n = 0
    · subst last
      rw [if_pos (by decide)]
      change _ = ofUnits negative (digits * 1 * unit) 1
      rw [Nat.mul_one]
    · have rest : (-(-(n : Int) - 1 + 1)).toNat = n := by omega
      rw [if_neg (by omega), rest]

/-- Numbers far beyond the range are not rounded: they are infinite or zero. -/
theorem ofDecimal_eq (positive : 0 < digits) :
    ofDecimal negative digits exponent =
      if 400 < exponent + (Nat.toDigits 10 digits).length then .infinite negative
      else if exponent + (Nat.toDigits 10 digits).length < -400 then .finite negative 0
      else nearest negative digits exponent := by
  rw [ofDecimal, if_neg (Nat.ne_of_gt positive)]
  rfl

/-- A zero at the end of the digits is one more in the exponent. -/
theorem ofDecimal_mul_ten (positive : 0 < digits) :
    ofDecimal negative (digits * 10) exponent = ofDecimal negative digits (exponent + 1) := by
  have magnitude : exponent + ((Nat.toDigits 10 (digits * 10)).length : Int) =
      exponent + 1 + ((Nat.toDigits 10 digits).length : Int) := by
    rw [length_toDigits_mul_ten positive]
    omega
  have positive' : 0 < digits * 10 := by omega
  rw [ofDecimal_eq positive, ofDecimal_eq positive', magnitude, nearest_mul_ten]

theorem ofDecimal_pow (positive : 0 < digits) (k : Nat) :
    ofDecimal negative (digits * 10 ^ k) exponent = ofDecimal negative digits (exponent + k) := by
  induction k generalizing exponent with
  | zero => simp
  | succ k ih =>
    have more : 0 < digits * 10 ^ k := Nat.mul_pos positive (Nat.pow_pos (by decide))
    have shifted : exponent + 1 + (k : Int) = exponent + ((k + 1 : Nat) : Int) := by omega
    rw [Nat.pow_succ, ← Nat.mul_assoc, ofDecimal_mul_ten more, ih, shifted]

def signed (negative : Bool) : Double → Double
  | finite _ units => finite negative units
  | infinite _ => infinite negative
  | nan => nan

theorem ofUnits_signed (num den : Nat) :
    ofUnits negative num den = (ofUnits false num den).signed negative := by
  unfold ofUnits
  dsimp only
  split <;> rfl

theorem ofDecimal_signed (digits : Nat) (exponent : Int) :
    ofDecimal negative digits exponent = (ofDecimal false digits exponent).signed negative := by
  unfold ofDecimal
  dsimp only
  split
  · rfl
  · split
    · rfl
    · split
      · rfl
      · split
        · exact ofUnits_signed _ _
        · exact ofUnits_signed _ _

/-! ## Representable numbers -/

structure Representable (units : Nat) : Prop where
  small : units < unitLimit
  aligned : 2 ^ excess units ∣ units

theorem roundDiv_le (num den : Nat) : roundDiv num den ≤ num / den + 1 := by
  unfold roundDiv
  dsimp only
  split
  · omega
  · split
    · omega
    · split <;> omega

theorem lt_of_excess (q : Nat) : q < 2 ^ (excess q + 53) := by
  by_cases zero : q = 0
  · rw [zero]
    exact Nat.pow_pos (by decide)
  · refine (Nat.log2_lt zero).1 ?_
    unfold excess
    omega

theorem excess_le {u s : Nat} (small : u < 2 ^ (s + 53)) : excess u ≤ s := by
  by_cases zero : u = 0
  · rw [zero]
    exact Nat.zero_le _
  · have bound := (Nat.log2_lt zero).2 small
    unfold excess
    omega

/-- Rounding comes to a whole number of the steps that fit the result. -/
theorem aligned_roundUnits (num den : Nat) :
    2 ^ excess (roundUnits num den) ∣ roundUnits num den := by
  have digits : roundDiv num (den * 2 ^ excess (num / den)) ≤ 2 ^ 53 := by
    have bound := lt_of_excess (num / den)
    rw [Nat.add_comm, Nat.pow_add, ← Nat.div_lt_iff_lt_mul (Nat.two_pow_pos _), Nat.div_div_eq_div_mul] at bound
    exact (roundDiv_le _ _).trans bound
  change 2 ^ excess (roundDiv num (den * 2 ^ excess (num / den)) * 2 ^ excess (num / den)) ∣
    roundDiv num (den * 2 ^ excess (num / den)) * 2 ^ excess (num / den)
  generalize excess (num / den) = s at digits ⊢
  generalize roundDiv num (den * 2 ^ s) = r at digits ⊢
  rcases digits.lt_or_eq with few | rfl
  · have small : r * 2 ^ s < 2 ^ (s + 53) := by
      rw [Nat.add_comm, Nat.pow_add]
      exact Nat.mul_lt_mul_of_pos_right few (Nat.two_pow_pos s)
    exact Nat.dvd_mul_left_of_dvd (Nat.pow_dvd_pow 2 (excess_le small)) r
  · have excess : excess (2 ^ 53 * 2 ^ s) = s + 1 := by
      rw [← Nat.pow_add, Double.excess, Nat.log2_two_pow]
      omega
    rw [excess, ← Nat.pow_add]
    exact Nat.pow_dvd_pow 2 (by omega)

theorem representable_of_ofUnits {sign : Bool} (finite : ofUnits negative num den = .finite sign units) :
    Representable units := by
  unfold ofUnits at finite
  dsimp only at finite
  split at finite
  · cases finite
  · next small =>
    cases finite
    exact ⟨Nat.lt_of_not_le small, aligned_roundUnits num den⟩

theorem representable_of_ofDecimal {sign : Bool}
    (finite : ofDecimal negative digits exponent = .finite sign units) : Representable units := by
  have none : Representable 0 := ⟨by decide +kernel, Nat.dvd_zero _⟩
  unfold ofDecimal at finite
  dsimp only at finite
  split at finite
  · cases finite
    exact none
  · split at finite
    · cases finite
    · split at finite
      · cases finite
        exact none
      · split at finite
        · exact representable_of_ofUnits finite
        · exact representable_of_ofUnits finite

/-- A representable number of units is kept as it is. -/
theorem ofUnits_of_representable (fits : Representable units) (positive : 0 < den) :
    ofUnits negative (units * den) den = .finite negative units := by
  obtain ⟨steps, whole⟩ := fits.aligned
  have quotient : units * den / den = units := Nat.mul_div_cancel _ positive
  have kept : roundUnits (units * den) den = units := by
    rw [roundUnits, quotient]
    change roundDiv (units * den) (den * 2 ^ excess units) * 2 ^ excess units = units
    have split : units * den = steps * (den * 2 ^ excess units) := by
      conv_lhs => rw [whole]
      ring
    rw [split, roundDiv_mul _ (Nat.mul_pos positive (Nat.two_pow_pos _)), Nat.mul_comm, ← whole]
  rw [ofUnits, kept]
  exact if_neg (Nat.not_le.2 fits.small)

end ParserHost.Double
