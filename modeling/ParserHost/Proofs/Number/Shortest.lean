import ParserHost.Number.Decimal
import ParserHost.Proofs.Number.Rounding

/-!
# Shortest digits

The digits that are written for a number read back as that number (`reads_shortest`): each candidate is
tried before it is taken, the digits of last resort are exact, and zeros at the end make no
difference.
-/

namespace ParserHost.Decimal

open Double (ofDecimal ofUnits Representable)

variable {units : Nat} {s : Scientific}

def Reads (units : Nat) (s : Scientific) : Prop :=
  ofDecimal false s.digits (s.point - digitCount s.digits) = .finite false units

theorem readsBack_iff : readsBack units s = true ↔ Reads units s := by
  rw [readsBack, beq_iff_eq, Reads]

theorem Reads.digits_pos (reads : Reads units s) (positive : 0 < units) : 0 < s.digits := by
  refine Nat.pos_of_ne_zero fun zero => ?_
  rw [Reads, zero, ofDecimal, if_pos rfl] at reads
  injection reads with _ same
  omega

/-! ## Digits of last resort -/

theorem digitCount_le_iff {n k : Nat} (positive : 0 < k) : digitCount n ≤ k ↔ n < 10 ^ k :=
  Nat.length_toDigits_le_iff (by decide) positive

theorem pow_five_bounds :
    10 ^ 673 ≤ Nat.pow 5 1074 ∧ unitLimit * Nat.pow 5 1074 < 10 ^ 1474 := by
  decide +kernel

theorem digitCount_exact (fits : Representable units) (positive : 0 < units) :
    673 < digitCount (units * Nat.pow 5 1074) ∧ digitCount (units * Nat.pow 5 1074) ≤ 1474 := by
  obtain ⟨below, above⟩ := pow_five_bounds
  generalize Nat.pow 5 1074 = five at below above ⊢
  constructor
  · refine Nat.lt_of_not_le fun few => ?_
    rw [digitCount_le_iff (by decide)] at few
    have more : five ≤ units * five := Nat.le_mul_of_pos_left _ positive
    omega
  · rw [digitCount_le_iff (by decide)]
    have less : units * five ≤ unitLimit * five := Nat.mul_le_mul_right _ (Nat.le_of_lt fits.small)
    omega

theorem ten_pow_eq : Nat.pow 5 1074 * Double.one = Nat.pow 10 1074 := by
  decide +kernel

theorem reads_exact (fits : Representable units) (positive : 0 < units) :
    Reads units (exact units) := by
  have bounds := digitCount_exact fits positive
  have some : ¬ units * Nat.pow 5 1074 = 0 := by
    intro none
    rw [none] at bounds
    exact absurd bounds.1 (by decide)
  change ofDecimal false (units * Nat.pow 5 1074)
    ((digitCount (units * Nat.pow 5 1074) : Int) - 1074 - digitCount (units * Nat.pow 5 1074)) = _
  have exponent : (digitCount (units * Nat.pow 5 1074) : Int) - 1074 - digitCount (units * Nat.pow 5 1074) =
      -1074 := by
    omega
  have count : (Nat.toDigits 10 (units * Nat.pow 5 1074)).length = digitCount (units * Nat.pow 5 1074) := rfl
  have small : ¬ 400 < -1074 + (digitCount (units * Nat.pow 5 1074) : Int) := by omega
  have large : ¬ -1074 + (digitCount (units * Nat.pow 5 1074) : Int) < -400 := by omega
  have parts : ¬ (0 : Int) ≤ -1074 := by decide
  have power : (-(-1074 : Int)).toNat = 1074 := rfl
  rw [exponent, ofDecimal, if_neg some]
  dsimp only
  rw [count, if_neg small, if_neg large, if_neg parts, power, Nat.mul_assoc, ten_pow_eq]
  -- Only that the power is positive matters from here on; nothing should compute it again.
  have some10 : 0 < Nat.pow 10 1074 := by decide +kernel
  generalize Nat.pow 10 1074 = ten at some10 ⊢
  exact Double.ofUnits_of_representable fits some10

/-! ## Fewest digits -/

/-- What is found passes, or is the last resort. -/
theorem passes_firstOf {passes : Scientific → Bool} {candidates : Nat → Scientific × Scientific}
    {last : Unit → Scientific} (resort : passes (last ()) = true) (fuel count : Nat) :
    passes (firstOf passes candidates last fuel count) = true := by
  induction fuel generalizing count with
  | zero => exact resort
  | succ fuel ih =>
    rw [firstOf]
    dsimp only
    split
    · next near => exact near
    · split
      · next far => exact far
      · exact ih (count + 1)

theorem reads_dropZeros (fuel : Nat) (reads : Reads units s) :
    Reads units (dropZeros fuel s) := by
  induction fuel generalizing s with
  | zero => exact reads
  | succ fuel ih =>
    rw [dropZeros]
    split
    · next round =>
      refine ih ?_
      obtain ⟨tens, whole⟩ := Nat.dvd_of_mod_eq_zero round.2
      have more : 0 < tens := by omega
      have drop : s.digits / 10 = tens := by omega
      have count : digitCount s.digits = digitCount tens + 1 := by
        rw [whole, Nat.mul_comm]
        exact Double.length_toDigits_mul_ten more
      have exponent : s.point - ((digitCount tens + 1 : Nat) : Int) + 1 =
          s.point - (digitCount tens : Int) := by
        omega
      rw [Reads, count, whole, Nat.mul_comm, Double.ofDecimal_mul_ten more, exponent] at reads
      rw [Reads, drop]
      exact reads
    · exact reads

/-- The digits that are written for a number read back as that number. -/
theorem reads_shortest (fits : Representable units) (positive : 0 < units) :
    Reads units (shortest units) := by
  have exactly := readsBack_iff.2 (reads_exact fits positive)
  have found := @passes_firstOf (readsBack units) (neighbours units) (fun _ => exact units) exactly 17 1
  rw [shortest]
  exact reads_dropZeros _ (readsBack_iff.1 found)

end ParserHost.Decimal
