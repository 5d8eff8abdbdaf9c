import ParserHost.Number.Double
import ParserHost.Text.Blank
import ParserHost.Text.Digit

/-!
Numbers written as text. `natural` reads digits; `plainFloat?` reads a decimal number with optional
point and exponent, or the name of infinity or of no number; `integer` reads an integer that may have
zeros in front and be followed by a point and zeros.

Underscores may stand between digits in two ways: `Underscores.inside` asks for a digit on both
sides, `Underscores.single` only that none stands at an end or beside another.
-/
namespace ParserHost.Literal

def natural (ds : List Char) : Nat :=
  ds.foldl (fun n c => n * 10 + (c.toNat - '0'.toNat)) 0

/-- A decimal number by its digits before and after the point and its exponent. -/
def decimal (negative : Bool) (whole fraction : List Char) (exponent : Int) : Double :=
  Double.ofDecimal negative (natural (whole ++ fraction)) (exponent - fraction.length)

def spanDigits (cs : List Char) : List Char × List Char :=
  cs.span Char.isDigit

def sign (cs : List Char) : Bool × List Char :=
  match cs with
  | '-' :: rest => (true, rest)
  | '+' :: rest => (false, rest)
  | rest => (false, rest)

def exponent? : List Char → Option Int
  | [] => some 0
  | c :: rest =>
    if c = 'e' || c = 'E' then
      let (negative, digits) := sign rest
      if digits.isEmpty || !digits.all Char.isDigit then none
      else
        let n : Int := natural digits
        some (if negative then -n else n)
    else none

def lower (cs : List Char) : List Char :=
  cs.map Char.toLower

def plainFloat? (cs : List Char) : Option Double :=
  let (negative, body) := sign cs
  if lower body = ['i', 'n', 'f'] || lower body = ['i', 'n', 'f', 'i', 'n', 'i', 't', 'y'] then
    some (.infinite negative)
  else if lower body = ['n', 'a', 'n'] then some .nan
  else
    let (whole, rest) := spanDigits body
    let (fraction, rest) := match rest with
      | '.' :: more => spanDigits more
      | more => ([], more)
    if whole.isEmpty && fraction.isEmpty then none
    else (exponent? rest).map (decimal negative whole fraction)

inductive Underscores where
  | inside
  | single

/-- Drops underscores that have a digit on both sides; `prev` tells of the one before. -/
def dropInside : Bool → List Char → Option (List Char)
  | _, [] => some []
  | prev, '_' :: c :: rest =>
    if prev && c.isDigit then (dropInside true rest).map (c :: ·) else none
  | _, '_' :: [] => none
  | _, c :: rest => (dropInside c.isDigit rest).map (c :: ·)

/-- Drops underscores of which none is first, last or beside another. -/
def dropSingle : Bool → List Char → Option (List Char)
  | _, [] => some []
  | prev, '_' :: c :: rest =>
    if prev && c != '_' then (dropSingle true rest).map (c :: ·) else none
  | _, '_' :: [] => none
  | _, c :: rest => (dropSingle true rest).map (c :: ·)

def Underscores.drop : Underscores → List Char → Option (List Char)
  | .inside => dropInside false
  | .single => dropSingle false

/-- Digits of every script as ASCII digits. -/
def asciiDigits (cs : List Char) : List Char :=
  cs.map fun c => match Text.digitValue? c with
    | some d => Char.ofNat ('0'.toNat + d)
    | none => c

/-- A number in any script, with underscores between digits and white space around it. -/
def anyFloat? (s : String) : Option Double :=
  let cs := asciiDigits (Text.trimBy Text.isWhite s.toList)
  (Underscores.inside.drop cs).bind plainFloat?

/-- A number in ASCII digits, with white space around it or single underscores in it. -/
def asciiFloat? (s : String) : Option Double :=
  match plainFloat? (Text.trimBy Text.isWhite s.toList) with
  | some x => some x
  | none => (Underscores.single.drop s.toList).bind plainFloat?

/-! ## Integers -/

inductive IntegerFault where
  | malformed
  | tooLong
  deriving DecidableEq, Repr, Inhabited

def integerDigits : Nat := 4300

/-- An integer in its shortest form: digits of which the first is no zero, or a single zero, after a
minus sign or none. -/
def shortestInteger (cs : List Char) : Except IntegerFault Int :=
  let (negative, body) := match cs with
    | '-' :: rest => (true, rest)
    | cs => (false, cs)
  match body with
  | '0' :: rest => if rest.isEmpty then .ok 0 else .error .malformed
  | body =>
    let (digits, rest) := spanDigits body
    if integerDigits < digits.length then .error .tooLong
    else if digits.isEmpty || !rest.isEmpty then .error .malformed
    else
      let n : Int := natural digits
      .ok (if negative then -n else n)

def startsInteger (c : Char) : Bool :=
  '1' ≤ c && c ≤ '9'

/-- What follows zeros, and underscores among them: a number or its minus sign as it stands, a point
with the character in front of it, and that character if nothing follows. -/
def afterZeros (last : Char) : List Char → Option (List Char)
  | [] => some [last]
  | c :: rest =>
    if c = '0' || c = '_' then afterZeros c rest
    else if c = '.' then some (last :: c :: rest)
    else if c = '-' || startsInteger c then some (c :: rest)
    else none

def withoutZeros? : List Char → Option (List Char)
  | [] => none
  | c :: rest =>
    if c = '0' then afterZeros c rest else if startsInteger c then some (c :: rest) else none

def withoutFraction (cs : List Char) : List Char :=
  let (whole, tail) := cs.span (· != '.')
  match tail with
  | _ :: zero :: zeros => if (zero :: zeros).all (· == '0') then whole else cs
  | _ => cs

/-- A text without what may be written beside the shortest form of an integer: a plus sign, zeros in
front, a point with zeros, and single underscores. -/
def tidied? (cs : List Char) : Option (List Char) :=
  let body (cs : List Char) : Option (List Char) :=
    (withoutZeros? cs).map fun cs =>
      let cs := withoutFraction cs
      (Underscores.single.drop cs).getD cs
  match cs with
  | '+' :: rest => body rest
  | '-' :: rest => (body rest).map ('-' :: ·)
  | cs => body cs

def integer (s : String) : Except IntegerFault Int :=
  match shortestInteger s.toList with
  | .error .malformed =>
    match tidied? (Text.trimBy Text.isWhite s.toList) with
    | some cs => shortestInteger cs
    | none => .error .malformed
  | answer => answer

example : (integer " +0_0_1_0.00").toOption = some 10 := by decide +kernel
example : (integer "-0__5").toOption = some (-5) := by decide +kernel
example : (integer "1__0").toOption = none := by decide +kernel

end ParserHost.Literal
