import ParserHost.Json.Basic
import ParserHost.Number.Literal

/-!
Reading JSON text. The reader also takes the three names of numbers that are not finite. It is one
function with several dialects: the lenient one keeps unpaired surrogates, the strict one refuses them
and lets fewer brackets stand inside each other, and the verbatim one is strict and leaves members
with one key beside each other.

A key is a text, which holds no unpaired surrogate; `members` reads one in a key as U+FFFD.

A fault carries what was expected and how many characters were left; `Fault.position` turns that
into a line and a column. Every function takes fuel, of which two for each character are enough: one
for a value and one for the list of values or members that it starts.
-/
namespace ParserHost.Json

/-- A limit that a text goes beyond though it may be well formed. -/
inductive Limit where
  /-- An integer with too many digits to convert. -/
  | digits (count : Nat)
  /-- A bracket inside too many others. -/
  | depth
  deriving DecidableEq, Repr

inductive Expected where
  | value
  | propertyName
  | colon
  | comma
  | end'
  | noMark
  | stringEnd
  | noControl
  | escape
  | unicodeEscape
  | pairedSurrogate
  | within (limit : Limit)
  deriving DecidableEq, Repr

structure Fault where
  expected : Expected
  /-- How many characters stand at or after the fault. -/
  left : Nat
  deriving DecidableEq, Repr

structure Dialect where
  /-- Whether a surrogate may stand without its partner. -/
  unpaired : Bool
  /-- Whether a number with a point or an exponent may have any number of digits in front. -/
  longFloats : Bool
  /-- How many brackets may stand inside each other. -/
  depth : Nat
  /-- Whether one more may stand there that holds nothing. -/
  spareEmpty : Bool
  /-- Whether a key may come twice in what is read. -/
  repeats : Bool

def lenient : Dialect := ⟨true, true, 990, false, false⟩

def strict : Dialect := ⟨false, false, 200, true, false⟩

def verbatim : Dialect := { strict with repeats := true }

def Dialect.entries (d : Dialect) (members : Entries) : Entries :=
  if d.repeats then members else ofList members

def digitLimit : Nat := 4300

abbrev Read (α : Type) := Except Fault (α × List Char)

def isSpace (c : Char) : Bool :=
  c = ' ' || c = '\t' || c = '\n' || c = '\r'

def skipSpace (cs : List Char) : List Char :=
  cs.dropWhile isSpace

def hexValue? (c : Char) : Option Nat :=
  let n := c.toNat
  if c.isDigit then some (n - 48)
  else if 97 ≤ n && n ≤ 102 then some (n - 87)
  else if 65 ≤ n && n ≤ 70 then some (n - 55)
  else none

def hex4? (a b c d : Char) : Option Nat :=
  match hexValue? a, hexValue? b, hexValue? c, hexValue? d with
  | some a, some b, some c, some d => some (((a * 16 + b) * 16 + c) * 16 + d)
  | _, _, _, _ => none

def isHigh (n : Nat) : Bool := 0xd800 ≤ n && n < 0xdc00

def isLow (n : Nat) : Bool := 0xdc00 ≤ n && n < 0xe000

def isSurrogate (n : Nat) : Bool := 0xd800 ≤ n && n < 0xe000

def pair (high low : Nat) : Nat :=
  0x10000 + (high - 0xd800) * 1024 + (low - 0xdc00)

def simpleEscape? (c : Char) : Option Char :=
  match c with
  | '"' => some '"'
  | '\\' => some '\\'
  | '/' => some '/'
  | 'b' => some '\x08'
  | 'f' => some '\x0c'
  | 'n' => some '\n'
  | 'r' => some '\r'
  | 't' => some '\t'
  | _ => none

/-- The rest of a string after its opening quote, as characters and as units that escapes name.
`opening` is what follows that quote; the units read so far are in reverse. -/
def units (opening : List Char) : List Char → List Nat → Read (List Nat)
  | [], _ => .error ⟨.stringEnd, opening.length + 1⟩
  | '"' :: rest, acc => .ok (acc.reverse, rest)
  | '\\' :: 'u' :: a :: b :: c :: d :: rest, acc =>
    match hex4? a b c d with
    | none => .error ⟨.unicodeEscape, rest.length + 5⟩
    | some n =>
      if rest.isEmpty then .error ⟨.unicodeEscape, 5⟩ else units opening rest (n :: acc)
  | '\\' :: 'u' :: rest, _ => .error ⟨.unicodeEscape, rest.length + 1⟩
  | '\\' :: c :: rest, acc =>
    match simpleEscape? c with
    | some e => units opening rest (e.toNat :: acc)
    | none => .error ⟨.escape, rest.length + 2⟩
  | '\\' :: [], _ => .error ⟨.stringEnd, opening.length + 1⟩
  | c :: rest, acc =>
    if c.toNat < 0x20 then .error ⟨.noControl, rest.length + 1⟩
    else units opening rest (c.toNat :: acc)

/-- Code points: a high surrogate joins the low one that follows it. -/
def joinPairs : List Nat → List Nat
  | [] => []
  | [n] => [n]
  | n :: m :: rest =>
    if isHigh n && isLow m then pair n m :: joinPairs rest else n :: joinPairs (m :: rest)

/-- Code points as text; U+FFFD stands for an unpaired surrogate. -/
def textOf (cs : List Nat) : String :=
  String.ofList (cs.map fun n => if isSurrogate n then '\ufffd' else Char.ofNat n)

def stringOf (cs : List Nat) : Json :=
  if cs.any isSurrogate then broken cs else str (textOf cs)

def string (d : Dialect) (cs : List Char) : Read (List Nat) :=
  match units cs cs [] with
  | .ok (us, rest) =>
    let codes := joinPairs us
    if !d.unpaired && codes.any isSurrogate then .error ⟨.pairedSurrogate, rest.length⟩
    else .ok (codes, rest)
  | .error f => .error f

def fraction (cs : List Char) : Option (List Char) × List Char :=
  match cs with
  | '.' :: c :: rest =>
    if c.isDigit then
      let (more, rest) := Literal.spanDigits rest
      (some (c :: more), rest)
    else (none, cs)
  | _ => (none, cs)

def exponent (cs : List Char) : Option Int × List Char :=
  match cs with
  | c :: rest =>
    if c = 'e' || c = 'E' then
      let (negative, body) := Literal.sign rest
      let (digits, rest) := Literal.spanDigits body
      if digits.isEmpty then (none, cs)
      else
        let n : Int := Literal.natural digits
        (some (if negative then -n else n), rest)
    else (none, cs)
  | [] => (none, cs)

/-- A number whose sign is already read; `start` is the text from its sign on. -/
def number (d : Dialect) (negative : Bool) (start cs : List Char) : Read Json :=
  let (whole, rest) := match cs with
    | '0' :: rest => (['0'], rest)
    | cs => Literal.spanDigits cs
  if whole.isEmpty then .error ⟨.value, start.length⟩
  else
    let (frac, rest) := fraction rest
    let (exp, rest) := exponent rest
    let isWhole := frac.isNone && exp.isNone
    if digitLimit < whole.length && (isWhole || !d.longFloats) then
      .error ⟨.within (.digits whole.length), start.length⟩
    else if isWhole then
      let n : Int := Literal.natural whole
      .ok (int (if negative then -n else n), rest)
    else .ok (float (Literal.decimal negative whole (frac.getD []) (exp.getD 0)), rest)

def atom (d : Dialect) (cs : List Char) : Read Json :=
  match cs with
  | 'n' :: 'u' :: 'l' :: 'l' :: rest => .ok (null, rest)
  | 't' :: 'r' :: 'u' :: 'e' :: rest => .ok (bool true, rest)
  | 'f' :: 'a' :: 'l' :: 's' :: 'e' :: rest => .ok (bool false, rest)
  | 'N' :: 'a' :: 'N' :: rest => .ok (float .nan, rest)
  | 'I' :: 'n' :: 'f' :: 'i' :: 'n' :: 'i' :: 't' :: 'y' :: rest => .ok (float (.infinite false), rest)
  | '-' :: 'I' :: 'n' :: 'f' :: 'i' :: 'n' :: 'i' :: 't' :: 'y' :: rest =>
    .ok (float (.infinite true), rest)
  | '-' :: rest => number d true cs rest
  | _ => number d false cs cs

mutual
/-- A value at the start of the text, with room for so many brackets inside each other. -/
def value (d : Dialect) : Nat → Nat → List Char → Read Json
  | 0, _, cs => .error ⟨.value, cs.length⟩
  | fuel + 1, room, cs =>
    match cs with
    | '"' :: rest =>
      match string d rest with
      | .ok (codes, rest) => .ok (stringOf codes, rest)
      | .error f => .error f
    | '[' :: rest =>
      let full : Fault := ⟨.within .depth, cs.length⟩
      match skipSpace rest with
      | ']' :: rest => if room = 0 && !d.spareEmpty then .error full else .ok (arr [], rest)
      | rest =>
        if room = 0 then .error full
        else
          match items d fuel (room - 1) rest with
          | .ok (vs, rest) => .ok (arr vs, rest)
          | .error f => .error f
    | '\x7b' :: rest =>
      let full : Fault := ⟨.within .depth, cs.length⟩
      match skipSpace rest with
      | '\x7d' :: rest => if room = 0 && !d.spareEmpty then .error full else .ok (obj [], rest)
      | rest =>
        if room = 0 then .error full
        else
          match members d fuel (room - 1) rest with
          | .ok (pairs, rest) => .ok (obj (d.entries pairs), rest)
          | .error f => .error f
    | cs => atom d cs

/-- The items of an array that is not empty, up to its closing bracket. -/
def items (d : Dialect) : Nat → Nat → List Char → Read (List Json)
  | 0, _, cs => .error ⟨.value, cs.length⟩
  | fuel + 1, room, cs =>
    match value d fuel room cs with
    | .error f => .error f
    | .ok (v, rest) =>
      match skipSpace rest with
      | ']' :: rest => .ok ([v], rest)
      | ',' :: rest =>
        match items d fuel room (skipSpace rest) with
        | .ok (vs, rest) => .ok (v :: vs, rest)
        | .error f => .error f
      | rest => .error ⟨.comma, rest.length⟩

/-- The members of an object that is not empty, up to its closing bracket. -/
def members (d : Dialect) : Nat → Nat → List Char → Read Entries
  | 0, _, cs => .error ⟨.propertyName, cs.length⟩
  | fuel + 1, room, cs =>
    match cs with
    | '"' :: rest =>
      match string d rest with
      | .error f => .error f
      | .ok (codes, rest) =>
        match skipSpace rest with
        | ':' :: rest =>
          match value d fuel room (skipSpace rest) with
          | .error f => .error f
          | .ok (v, rest) =>
            match skipSpace rest with
            | '\x7d' :: rest => .ok ([(textOf codes, v)], rest)
            | ',' :: rest =>
              match members d fuel room (skipSpace rest) with
              | .ok (pairs, rest) => .ok ((textOf codes, v) :: pairs, rest)
              | .error f => .error f
            | rest => .error ⟨.comma, rest.length⟩
        | rest => .error ⟨.colon, rest.length⟩
    | cs => .error ⟨.propertyName, cs.length⟩
end

def readChars (d : Dialect) (cs : List Char) : Except Fault Json :=
  match cs with
  | '\ufeff' :: _ => .error ⟨.noMark, cs.length⟩
  | _ =>
    match value d (2 * cs.length + 2) d.depth (skipSpace cs) with
    | .error f => .error f
    | .ok (v, rest) =>
      match skipSpace rest with
      | [] => .ok v
      | rest => .error ⟨.end', rest.length⟩

def leftAt? (d : Dialect) (cs : List Char) : Option Nat :=
  match readChars d cs with
  | .ok _ => none
  | .error f => some f.left

example : leftAt? lenient "[[[[".toList = some 0 := by decide +kernel
example : leftAt? lenient "[[[[1".toList = some 0 := by decide +kernel
example : leftAt? lenient "[[[x".toList = some 1 := by decide +kernel

def read (s : String) : Except Fault Json :=
  readChars lenient s.toList

def readStrict? (s : String) : Option Json :=
  (readChars strict s.toList).toOption

def Limit.text : Limit → String
  | digits n =>
    s!"Exceeds the limit ({digitLimit} digits) for integer string conversion: value has {n} " ++
      "digits; use sys.set_int_max_str_digits() to increase the limit"
  | depth => ""

def Expected.text : Expected → String
  | value => "Expecting value"
  | propertyName => "Expecting property name enclosed in double quotes"
  | colon => "Expecting ':' delimiter"
  | comma => "Expecting ',' delimiter"
  | end' => "Extra data"
  | noMark => "Unexpected UTF-8 BOM (decode using utf-8-sig)"
  | stringEnd => "Unterminated string starting at"
  | noControl => "Invalid control character at"
  | escape => "Invalid \\escape"
  | unicodeEscape => "Invalid \\uXXXX escape"
  | pairedSurrogate => "Unpaired surrogate"
  | within limit => limit.text

def Fault.position (f : Fault) (text : List Char) : Nat × Nat :=
  let before := text.take (text.length - f.left)
  (before.count '\n' + 1, (before.reverse.takeWhile (· != '\n')).length + 1)

end ParserHost.Json
