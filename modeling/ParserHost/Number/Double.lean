/-!
Binary64 numbers with exact arithmetic. A finite number is a sign and a count of units of 2^-1074,
the smallest positive number, so that every comparison and rounding is one of natural numbers.

Main statement: rounding keeps a quotient that is an integer already (`roundDiv_mul`).
-/
namespace ParserHost

/-- Above this count of units there is no finite number. -/
def unitLimit : Nat := Nat.pow 2 2098

inductive Double where
  | finite (negative : Bool) (units : Nat)
  | infinite (negative : Bool)
  | nan
  deriving DecidableEq, Repr, Inhabited

namespace Double

def excess (n : Nat) : Nat :=
  n.log2 - 52

/-- A quotient rounded to the nearest integer, a tie to the even one. -/
def roundDiv (num den : Nat) : Nat :=
  let q := num / den
  let r := num % den
  if 2 * r < den then q
  else if den < 2 * r then q + 1
  else if q % 2 = 0 then q else q + 1

theorem roundDiv_mul (q : Nat) {den : Nat} (h : 0 < den) : roundDiv (q * den) den = q := by
  simp [roundDiv, Nat.mul_div_cancel _ h, h]

/-- The units nearest to a quotient; of two equally near ones, that with the even last bit. -/
def roundUnits (num den : Nat) : Nat :=
  let s := excess (num / den)
  roundDiv num (den * Nat.pow 2 s) * Nat.pow 2 s

/-- The number nearest to `num / den` units. -/
def ofUnits (negative : Bool) (num den : Nat) : Double :=
  let units := roundUnits num den
  if unitLimit ≤ units then .infinite negative else .finite negative units

def one : Nat := Nat.pow 2 1074

/-- The number nearest to `digits · 10^exponent`. An exponent far beyond the range decides at once. -/
def ofDecimal (negative : Bool) (digits : Nat) (exponent : Int) : Double :=
  if digits = 0 then .finite negative 0
  else
    let magnitude := exponent + (Nat.toDigits 10 digits).length
    if 400 < magnitude then .infinite negative
    else if magnitude < -400 then .finite negative 0
    else if 0 ≤ exponent then ofUnits negative (digits * Nat.pow 10 exponent.toNat * one) 1
    else ofUnits negative (digits * one) (Nat.pow 10 (-exponent).toNat)

def ofInt (n : Int) : Double :=
  ofUnits (n < 0) (n.natAbs * one) 1

def isNaN : Double → Bool
  | nan => true
  | _ => false

def isFinite : Double → Bool
  | finite .. => true
  | _ => false

def isZero : Double → Bool
  | finite _ 0 => true
  | _ => false

def toInt? : Double → Option Int
  | finite negative units =>
    if units % one = 0 then
      let n : Int := (units / one : Nat)
      some (if negative then -n else n)
    else none
  | _ => none

/-- At most zero; a number that is none is not. -/
def nonPositive : Double → Bool
  | finite negative units => negative || units = 0
  | infinite negative => negative
  | nan => false

/-- More than zero; a number that is none is not. -/
def positive : Double → Bool
  | finite negative units => !negative && units != 0
  | infinite negative => !negative
  | nan => false

/-- The magnitude as a count of thousandths, rounded down; used to place events in time. -/
def thousandths : Double → Option Nat
  | finite _ units => some (units * 1000 / one)
  | _ => none

end Double

end ParserHost
