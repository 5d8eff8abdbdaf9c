import ParserHost.Json.Writer

/-!
Payloads, values in the form in which others get them. Parts that take any value may hold values inside
each other only up to a limit (`payload`), and an integer with too many digits is not written
(`written`).
-/
namespace ParserHost.Json

/-- A limit that a value goes beyond, so that others do not get it. -/
inductive Excess where
  /-- A value inside too many others. -/
  | levels
  /-- An integer with too many digits. -/
  | digits
  deriving DecidableEq, Repr

def Excess.text : Excess → String
  | levels => "Circular reference detected (depth exceeded)"
  | digits =>
    s!"Exceeds the limit ({digitLimit} digits) for integer string conversion; " ++
      "use sys.set_int_max_str_digits() to increase the limit"

mutual
/-- How many values stand inside each other, the innermost one counted. -/
def levels : Json → Nat
  | arr items => itemLevels items + 1
  | obj entries => entryLevels entries + 1
  | _ => 1

def itemLevels : List Json → Nat
  | [] => 0
  | v :: rest => max (levels v) (itemLevels rest)

def entryLevels : Entries → Nat
  | [] => 0
  | (_, v) :: rest => max (levels v) (entryLevels rest)
end

def levelLimit : Nat := 255

/-- A payload of which some parts take any value. -/
def payload (parts : List Entries) (v : Json) : Except Excess Json :=
  if parts.all fun e => entryLevels e ≤ levelLimit then .ok v else .error .levels

mutual
/-- Whether every integer in the value has few enough digits. -/
def writable : Json → Bool
  | int n => (Nat.toDigits 10 n.natAbs).length ≤ digitLimit
  | arr items => writableItems items
  | obj entries => writableEntries entries
  | _ => true

def writableItems : List Json → Bool
  | [] => true
  | v :: rest => writable v && writableItems rest

def writableEntries : Entries → Bool
  | [] => true
  | (_, v) :: rest => writable v && writableEntries rest
end

/-- The text of a value, in one of the two ways to write it. -/
def written (write : Json → String) (v : Json) : Except Excess String :=
  if v.writable then .ok (write v) else .error .digits

end ParserHost.Json
