import ParserHost.Schema.Checked
import ParserHost.Number.Literal
import ParserHost.Json.Reader

/-!
Checks of single values, with the conversions that they allow: texts and whole numbers become
integers, zero and one become booleans. A text of a checked value holds no unpaired surrogate: `string`
refuses a string that does.
-/
namespace ParserHost.Schema

def string : Json → Checked String
  | .str s => .ok s
  | .broken _ => .fail .notUnicode
  | _ => .fail .notString

/-- Fractional numbers from this size on do not become integers. -/
def wholeLimit : Nat := Nat.pow 2 63

/-- The integer that a fractional number stands for, if it is small enough. -/
def whole? (x : Double) : Option Int :=
  x.toInt?.filter fun n => n.natAbs < wholeLimit

def integer : Json → Checked Int
  | .int n => .ok n
  | .bool b => .ok (if b then 1 else 0)
  | .float x =>
    if !x.isFinite then .fail .notFinite
    else
      match whole? x with
      | some n => .ok n
      | none => .fail (if x.toInt?.isSome then .tooLarge else .hasFraction)
  | .str s =>
    match Literal.integer s with
    | .ok n => .ok n
    | .error .tooLong => .fail .tooLarge
    | .error .malformed => .fail .notIntegerText
  | .broken _ => .fail .notIntegerText
  | _ => .fail .notInteger

def number : Json → Checked Double
  | .int n => if (Double.ofInt n).isFinite then .ok (.ofInt n) else .fail .notNumber
  | .float x => .ok x
  | .bool b => .ok (.ofInt (if b then 1 else 0))
  | .str s =>
    match Literal.asciiFloat? s with
    | some x => .ok x
    | none => .fail .notNumberText
  | .broken _ => .fail .notNumberText
  | _ => .fail .notNumber

def booleanText? (s : String) : Option Bool :=
  let word := String.ofList (Literal.lower s.toList)
  if ["0", "off", "f", "false", "n", "no"].contains word then some false
  else if ["1", "on", "t", "true", "y", "yes"].contains word then some true
  else none

def booleanNumber? (n : Int) : Option Bool :=
  if n = 0 then some false else if n = 1 then some true else none

def boolean : Json → Checked Bool
  | .bool b => .ok b
  | .int n =>
    match booleanNumber? n with
    | some b => .ok b
    | none => .fail (if n.natAbs < wholeLimit || n = -wholeLimit then .notBooleanText else .notBoolean)
  | .str s =>
    match booleanText? s with
    | some b => .ok b
    | none => .fail .notBooleanText
  | .float x =>
    match whole? x with
    | some n =>
      match booleanNumber? n with
      | some b => .ok b
      | none => .fail .notBooleanText
    | none => .fail .notBoolean
  | _ => .fail .notBoolean

def choice {α : Type} (choices : List (String × α)) : Json → Checked α
  | .str s =>
    match choices.lookup s with
    | some a => .ok a
    | none => .fail (.notOneOf (choices.map Prod.fst))
  | _ => .fail (.notOneOf (choices.map Prod.fst))

def literal (text : String) : Json → Checked Unit
  | .str s => if s = text then .ok () else .fail (.notLiteral [text])
  | _ => .fail (.notLiteral [text])

/-! ## Texts or booleans -/

inductive Setting where
  | text (s : String)
  | flag (b : Bool)
  deriving DecidableEq, Repr, Inhabited

def Setting.toJson : Setting → Json
  | text s => .str s
  | flag b => .bool b

/-- A text stays a text and a boolean a boolean; anything else may convert to a boolean. -/
def textOrFlag (v : Json) : Checked Setting :=
  ((string v).map .text |>.tagged "str").orElse ((boolean v).map .flag |>.tagged "bool")

/-- As `textOrFlag`, with the complaints about a boolean first. -/
def flagOrText (v : Json) : Checked Setting :=
  match v with
  | .str s => .ok (.text s)
  | v => ((boolean v).map .flag |>.tagged "bool").orElse ((string v).map .text |>.tagged "str")

/-! ## Parts -/

def eachFrom {α : Type} (check : Json → Checked α) : Nat → List Json → Checked (List α)
  | _, [] => .ok []
  | n, v :: rest =>
    Checked.both (((check v).below (.index n)).map List.cons) (eachFrom check (n + 1) rest)

def tuple {α : Type} (check : Json → Checked α) : Json → Checked (List α)
  | .arr items => eachFrom check 0 items
  | _ => .fail .notTuple

def eachEntry {α : Type} (check : Json → Checked α) :
    Json.Entries → Checked (List (String × α))
  | [] => .ok []
  | (k, v) :: rest =>
    Checked.both (((check v).below (.key k)).map fun a => ((k, a) :: ·)) (eachEntry check rest)

def dictionary {α : Type} (check : Json → Checked α) : Json → Checked (List (String × α))
  | .obj entries => eachEntry check entries
  | _ => .fail .notDictionary

/-- As `dictionary`, with members as they were written: each is checked, and the last one of a key is kept. -/
def writtenDictionary {α : Type} (check : Json → Checked α) : Json → Checked (List (String × α))
  | .obj members => (eachEntry check members).map Json.ofList
  | _ => .fail .notDictionary

def anyDictionary : Json → Checked Json.Entries
  | .obj entries => .ok entries
  | _ => .fail .notDictionary

/-- Null, or a value that passes the check. -/
def nullable {α : Type} (check : Json → Checked α) : Json → Checked (Option α)
  | .null => .ok none
  | v => (check v).map some

/-! ## Fields -/

/-- A field's two names: the one on the wire, and the one it may also have. -/
structure Name where
  wire : String
  plain : String

def word (s : String) : Name := ⟨s, s⟩

def Name.find? (n : Name) (entries : Json.Entries) : Option (String × Json) :=
  match Json.get? n.wire entries with
  | some v => some (n.wire, v)
  | none => (Json.get? n.plain entries).map fun v => (n.plain, v)

def required {α : Type} (entries : Json.Entries) (n : Name) (check : Json → Checked α) : Checked α :=
  match n.find? entries with
  | some (used, v) => (check v).below (.key used)
  | none => (Checked.fail .missing).below (.key n.wire)

def withDefault {α : Type} (entries : Json.Entries) (n : Name) (default : α)
    (check : Json → Checked α) : Checked α :=
  match n.find? entries with
  | some (used, v) => (check v).below (.key used)
  | none => .ok default

def optional {α : Type} (entries : Json.Entries) (n : Name) (check : Json → Checked α) :
    Checked (Option α) :=
  withDefault entries n none (nullable check)

def model {α : Type} (name : String) (fields : Json.Entries → Checked α) : Json → Checked α
  | .obj entries => fields entries
  | _ => .fail (.notModel name)

/-- As `model`, with members as they were written. -/
def writtenModel {α : Type} (name : String) (fields : Json.Entries → Checked α) : Json → Checked α
  | .obj members => fields (Json.ofList members)
  | _ => .fail (.notModel name)

end ParserHost.Schema
