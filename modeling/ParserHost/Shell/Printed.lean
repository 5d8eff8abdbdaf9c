import ParserHost.Number.Literal
import ParserHost.Shell.Sum
import ParserHost.Text.Search
import ParserHost.Text.Utf8

/-!
What `echo` and `printf` write: texts with escapes for control characters and for bytes by their
octal number.
-/
namespace ParserHost.Shell

open Text.Utf8 (Bytes)

def isOctal (c : Char) : Bool :=
  '0' ≤ c && c ≤ '7'

def octalByte (digits : List Char) : Bytes :=
  [UInt8.ofNat (digits.foldl (fun n c => n * 8 + (c.toNat - '0'.toNat)) 0)]

def takeOctal : Nat → List Char → List Char × List Char
  | 0, cs => ([], cs)
  | n + 1, c :: rest =>
    if isOctal c then
      let (digits, after) := takeOctal n rest
      (c :: digits, after)
    else ([], c :: rest)
  | _, [] => ([], [])

/-- The control character that a letter after a backslash stands for. -/
def control? : Char → Option Char
  | 'a' => some '\x07'
  | 'b' => some '\x08'
  | 'e' => some '\x1b'
  | 'f' => some '\x0c'
  | 'n' => some '\n'
  | 'r' => some '\r'
  | 't' => some '\t'
  | 'v' => some '\x0b'
  | '\\' => some '\\'
  | _ => none

/-- What an escape stands for, and the text after it; the backslash itself is not given. A letter
without a meaning leaves the backslash. -/
def escape (cs : List Char) : Bytes × List Char :=
  match cs with
  | [] => ([92], [])
  | c :: rest =>
    if isOctal c then
      let (digits, after) := takeOctal 3 (c :: rest)
      (octalByte digits, after)
    else
      match control? c with
      | some d => (Text.Utf8.encodeChar d, rest)
      | none => ([92], c :: rest)

/-- As `escape`, but a zero may stand before the three digits. -/
def longEscape (cs : List Char) : Bytes × List Char :=
  match cs with
  | '0' :: rest =>
    let (digits, after) := takeOctal 3 rest
    (octalByte digits, after)
  | cs => escape cs

def escaped : Nat → List Char → Bytes × Bool
  | 0, _ => ([], false)
  | _, [] => ([], false)
  | _, ['\\'] => ([92], false)
  | fuel + 1, '\\' :: c :: rest =>
    if c = 'c' then ([], true)
    else
      let (bytes, after) := longEscape (c :: rest)
      let (more, ends) := escaped fuel after
      (bytes ++ more, ends)
  | fuel + 1, c :: rest =>
    let (more, ends) := escaped fuel rest
    (Text.Utf8.encodeChar c ++ more, ends)

/-- What `echo` writes. -/
def echoed (arguments : List String) : Bytes :=
  let (endsLine, words) := match arguments with
    | "-n" :: rest => (false, rest)
    | words => (true, words)
  let cs := (Text.join " " words).toList
  let (bytes, stopped) := escaped (cs.length + 1) cs
  if stopped || !endsLine then bytes else bytes ++ [10]

/-! ## Directives -/

structure Layout where
  left : Bool
  zeros : Bool
  /-- What stands in front of a number that is not negative. -/
  sign : String
  /-- Whether the base of a number is shown. -/
  shown : Bool
  width : Nat
  precision : Option Nat
  deriving DecidableEq, Repr, Inhabited

/-- A count in a layout: digits, or a star for the next argument. -/
def layoutCount (cs : List Char) (arguments : List String) : List Char × List Char × List String :=
  match cs with
  | '*' :: rest => ((arguments.headD "").toList, rest, arguments.drop 1)
  | cs =>
    let (digits, rest) := cs.span Char.isDigit
    (digits, rest, arguments)

/-- The layout at the start of a directive, with what is left of the text and of the arguments. -/
def layout (cs : List Char) (arguments : List String) : Layout × List Char × List String :=
  let (flags, rest) := cs.span fun c => ['-', '0', '+', ' ', '#'].contains c
  let (width, rest, arguments) := layoutCount rest arguments
  let (precision, rest, arguments) := match rest with
    | '.' :: more =>
      let (digits, after, arguments) := layoutCount more arguments
      (some (Literal.natural digits), after, arguments)
    | rest => (none, rest, arguments)
  let sign := if flags.contains '+' then "+" else if flags.contains ' ' then " " else ""
  (⟨flags.contains '-', flags.contains '0', sign, flags.contains '#', Literal.natural width,
    precision⟩, rest, arguments)

def spaces (n : Nat) : Bytes :=
  List.replicate n 32

def Layout.pad (l : Layout) (bytes : Bytes) : Bytes :=
  let missing := l.width - bytes.length
  if l.left then bytes ++ spaces missing else spaces missing ++ bytes

def Layout.number (l : Layout) (front digits : String) : Bytes :=
  let digits := Text.Utf8.encode digits
  let digits := List.replicate (l.precision.getD 1 - digits.length) 48 ++ digits
  let front := Text.Utf8.encode front
  if l.zeros && !l.left && l.precision.isNone then
    front ++ List.replicate (l.width - front.length - digits.length) 48 ++ digits
  else l.pad (front ++ digits)

/-- The integer that an argument is, and what is wrong with it. A character after a quote is its
number. -/
def argumentInteger (argument : String) : Int × Option String :=
  match argument.toList with
  | [] => (0, none)
  | '\'' :: c :: _ | '"' :: c :: _ => ((c.toNat : Int), none)
  | cs =>
    let (negative, cs) := match cs with
      | '-' :: rest => (true, rest)
      | '+' :: rest => (false, rest)
      | cs => (false, cs)
    let (n, rest) := Sum.digits cs
    let value := if negative then -n else n
    if rest.length = cs.length then (0, some s!"{argument}: expected numeric value")
    else if rest.isEmpty then (value, none)
    else (value, some s!"{argument}: not completely converted")

def unsigned (n : Int) : Nat :=
  (BitVec.ofInt 64 n).toNat

def octalText (n : Nat) : String :=
  String.ofList (Nat.toDigits 8 n)

/-- What a directive writes, whether it asks to end there, and what is wrong with its argument. -/
structure Written where
  bytes : Bytes
  ends : Bool
  fault : Option String
  deriving DecidableEq, Repr, Inhabited

def directive (l : Layout) (kind : Char) (argument : String) : Written :=
  let bytes := Text.Utf8.encode argument
  let (n, fault) := argumentInteger argument
  let base (mark text : String) : Written :=
    ⟨l.number (if l.shown && n != 0 then mark else "") text, false, fault⟩
  match kind with
  | 's' =>
    ⟨l.pad (match l.precision with
      | some n => bytes.take n
      | none => bytes), false, none⟩
  | 'c' => ⟨l.pad (bytes.take 1), false, none⟩
  | 'b' =>
    let cs := argument.toList
    let (bytes, ends) := escaped (cs.length + 1) cs
    ⟨l.pad bytes, ends, none⟩
  | 'x' => base "0x" (Text.Utf8.hex 1 (unsigned n))
  | 'X' => base "0X" (Text.Utf8.hex 1 (unsigned n)).toUpper
  | 'o' => base "0" (octalText (unsigned n))
  | 'u' => ⟨l.number "" (toString (unsigned n)), false, fault⟩
  | _ => ⟨l.number (if n < 0 then "-" else l.sign) (toString n.natAbs), false, fault⟩

def directives : List Char :=
  ['s', 'c', 'b', 'x', 'X', 'o', 'u', 'd', 'i']

/-- What a pass over a format writes, the arguments left, and what was wrong. -/
structure Pass where
  bytes : Bytes
  left : List String
  ends : Bool
  faults : List String
  deriving DecidableEq, Repr, Inhabited

def Pass.after (p : Pass) (bytes : Bytes) : Pass :=
  { p with bytes := bytes ++ p.bytes }

def formatOnce : Nat → List Char → List String → Pass
  | 0, _, arguments => ⟨[], arguments, false, []⟩
  | _, [], arguments => ⟨[], arguments, false, []⟩
  | fuel + 1, '\\' :: rest, arguments =>
    let (bytes, after) := escape rest
    (formatOnce fuel after arguments).after bytes
  | fuel + 1, '%' :: '%' :: rest, arguments => (formatOnce fuel rest arguments).after [37]
  | fuel + 1, '%' :: rest, arguments =>
    let (l, after, arguments) := layout rest arguments
    match after with
    | kind :: after =>
      if !directives.contains kind then
        ⟨[], [], true, [s!"%{String.ofList (rest.take (rest.length - after.length))}: invalid directive"]⟩
      else
        let w := directive l kind (arguments.headD "")
        if w.ends then ⟨w.bytes, [], true, w.fault.toList⟩
        else
          let p := (formatOnce fuel after (arguments.drop 1)).after w.bytes
          { p with faults := w.fault.toList ++ p.faults }
    | [] => ⟨[], [], true, ["%: invalid directive"]⟩
  | fuel + 1, c :: rest, arguments =>
    (formatOnce fuel rest arguments).after (Text.Utf8.encodeChar c)

/-- The format again and again, as long as it uses up arguments and some are left. -/
def formatAll (format : List Char) : Nat → List String → Bytes × List String
  | 0, _ => ([], [])
  | fuel + 1, arguments =>
    let p := formatOnce (format.length + 1) format arguments
    if p.ends || p.left.isEmpty || p.left.length = arguments.length then (p.bytes, p.faults)
    else
      let (more, faults) := formatAll format fuel p.left
      (p.bytes ++ more, p.faults ++ faults)

/-- What `printf` writes, and what was wrong. -/
def formatted (format : String) (arguments : List String) : Bytes × List String :=
  formatAll format.toList (arguments.length + 1) arguments

example : formatted "a\\0b\\303%s" ["x"] = ([97, 0, 98, 195, 120], []) := by decide +kernel
example : formatted "%s-" ["a", "b"] = ([97, 45, 98, 45], []) := by decide +kernel
example : echoed ["-n", "a\\nb"] = [97, 10, 98] := by decide +kernel

end ParserHost.Shell
