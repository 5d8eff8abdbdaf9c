import ParserHost.Number.Double
import ParserHost.Text.Search

/-!
Decimal text of a number. `shortest` finds the fewest digits that read back as the number;
`Format` says how digits and exponent become text. `general` rounds to six digits and `oneDecimal` to
one place.
-/
namespace ParserHost.Decimal

/-- Digits `d` with an exponent: the number 0.d · 10^point. -/
structure Scientific where
  digits : Nat
  point : Int
  deriving DecidableEq, Repr

def digitList (n : Nat) : List Char :=
  Nat.toDigits 10 n

def digitCount (n : Nat) : Nat :=
  (digitList n).length

/-- Ten to an integer power, as a fraction. -/
def pow10 (e : Int) : Nat × Nat :=
  if 0 ≤ e then (Nat.pow 10 e.toNat, 1) else (1, Nat.pow 10 (-e).toNat)

/-- The position of the decimal point: the least `p` with `num / den < 10^p`. -/
def pointOf (num den : Nat) : Int :=
  let p : Int := (digitCount num : Int) - digitCount den
  let (a, b) := pow10 p
  if num * b < a * den then p else p + 1

/-- The quotient as `count` digits, rounded to nearest with ties to even. -/
def roundDigits (num den count : Nat) : Scientific :=
  let p := pointOf num den
  let (a, b) := pow10 ((count : Int) - p)
  let d := Double.roundDiv (num * a) (den * b)
  if digitCount d ≤ count then ⟨d, p⟩ else ⟨d / 10, p + 1⟩

def dropZeros : Nat → Scientific → Scientific
  | 0, s => s
  | fuel + 1, s =>
    if s.digits ≠ 0 ∧ s.digits % 10 = 0 then dropZeros fuel ⟨s.digits / 10, s.point⟩ else s

def readsBack (units : Nat) (s : Scientific) : Bool :=
  Double.ofDecimal false s.digits (s.point - digitCount s.digits) == .finite false units

/-- The two numbers of `count` digits around a positive count of units, the nearer one first. -/
def neighbours (units count : Nat) : Scientific × Scientific :=
  let p := pointOf units Double.one
  let (a, b) := pow10 ((count : Int) - p)
  let num := units * a
  let den := Double.one * b
  let below : Scientific := ⟨num / den, p⟩
  let above : Scientific :=
    if digitCount (num / den + 1) ≤ count then ⟨num / den + 1, p⟩
    else ⟨(num / den + 1) / 10, p + 1⟩
  if Double.roundDiv num den = num / den then (below, above) else (above, below)

/-- Every digit of the units: always more than enough to read back. -/
def exact (units : Nat) : Scientific :=
  let d := units * Nat.pow 5 1074
  ⟨d, (digitCount d : Int) - 1074⟩

/-- The first candidate that passes, of two for each count of digits from `count` on; after `fuel`
counts, the last resort. -/
def firstOf (passes : Scientific → Bool) (candidates : Nat → Scientific × Scientific)
    (last : Unit → Scientific) : Nat → Nat → Scientific
  | 0, _ => last ()
  | fuel + 1, count =>
    let (near, far) := candidates count
    if passes near then near
    else if passes far then far
    else firstOf passes candidates last fuel (count + 1)

/-- The fewest digits that read back as a positive count of units; 17 always suffice. -/
def shortest (units : Nat) : Scientific :=
  let s := firstOf (readsBack units) (neighbours units) (fun _ => exact units) 17 1
  dropZeros (digitCount s.digits) s

structure Format where
  /-- The least position of the point that is written without an exponent. -/
  low : Int
  /-- The greatest such position. -/
  high : Int
  /-- Whether a whole number is followed by a point and a zero. -/
  wholePoint : Bool

/-- Numbers in messages and documents: an exponent below 10^-4 and from 10^16 on. -/
def Format.plain : Format := ⟨-3, 16, true⟩

def zeros (n : Nat) : List Char :=
  List.replicate n '0'

/-- An exponent has a sign and at least two digits. -/
def exponentText (e : Int) : List Char :=
  let ds := digitList e.natAbs
  'e' :: (if e < 0 then '-' else '+') :: (zeros (2 - ds.length) ++ ds)

def Format.write (f : Format) (s : Scientific) : List Char :=
  let ds := digitList s.digits
  let n : Int := ds.length
  if s.point < f.low || f.high < s.point then
    let mantissa := match ds with
      | [] => []
      | [d] => [d]
      | d :: rest => d :: '.' :: rest
    mantissa ++ exponentText (s.point - 1)
  else if s.point ≤ 0 then '0' :: '.' :: zeros (-s.point).toNat ++ ds
  else if n ≤ s.point then
    ds ++ zeros (s.point - n).toNat ++ (if f.wholePoint then ['.', '0'] else [])
  else ds.take s.point.toNat ++ '.' :: ds.drop s.point.toNat

def sign (negative : Bool) (cs : List Char) : String :=
  String.ofList (if negative then '-' :: cs else cs)

/-- The text of a number; the names of infinity and of no number are given. -/
def text (infinity nan : String) : Double → String
  | .finite negative 0 => sign negative ['0', '.', '0']
  | .finite negative units => sign negative (Format.plain.write (shortest units))
  | .infinite negative => sign negative infinity.toList
  | .nan => nan

def shown : Double → String :=
  text "inf" "nan"

/-- At most six significant digits, without zeros at the end. -/
def general : Double → String
  | .finite negative 0 => sign negative ['0']
  | .finite negative units =>
    let s := roundDigits units Double.one 6
    sign negative (Format.write ⟨-3, 6, false⟩ (dropZeros 6 s))
  | .infinite negative => sign negative ['i', 'n', 'f']
  | .nan => "nan"

/-- One place after the point. -/
def oneDecimal : Double → String
  | .finite negative units =>
    let tenths := Double.roundDiv (units * 10) Double.one
    sign negative (digitList (tenths / 10) ++ '.' :: digitList (tenths % 10))
  | .infinite negative => sign negative ['i', 'n', 'f']
  | .nan => "nan"

end ParserHost.Decimal
