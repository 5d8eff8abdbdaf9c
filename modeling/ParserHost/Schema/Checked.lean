import ParserHost.Json.Basic
import ParserHost.Schema.Issue

/-!
Checking a value against a shape. A check never stops at the first violation: `Checked` carries
either a value or all violations, in order, and two checks side by side report both.

Main statements: `both` has a value exactly when both sides have one (`both_eq_ok_iff`), and its
violations are those of the left side followed by those of the right (`violations_both`).
-/
namespace ParserHost.Schema

inductive Complaint where
  | missing
  | notString
  | notUnicode
  | notInteger
  | notIntegerText
  | hasFraction
  | tooLarge
  | notFinite
  | notNumber
  | notNumberText
  | notBoolean
  | notBooleanText
  | notTuple
  | notDictionary
  | notModel (name : String)
  | notPath
  | notOneOf (choices : List String)
  /-- As `notOneOf`, for a field with fixed texts rather than an enumeration. -/
  | notLiteral (choices : List String)
  | noTag
  | unknownTag (tag : String) (choices : List String)
  | notTagged
  | notPositive
  deriving DecidableEq, Repr

/-- How the value came: as one, or as text; it decides some of the words. -/
inductive Medium where
  | value
  | text
  deriving DecidableEq, Repr

/-- Quoted choices, the last one after `or`. -/
def choiceText : List String → String
  | [] => ""
  | [a] => s!"'{a}'"
  | [a, b] => s!"'{a}' or '{b}'"
  | a :: rest => s!"'{a}', " ++ choiceText rest

def Complaint.type : Complaint → String
  | missing => "missing"
  | notString => "string_type"
  | notUnicode => "string_unicode"
  | notInteger => "int_type"
  | notIntegerText => "int_parsing"
  | hasFraction => "int_from_float"
  | tooLarge => "int_parsing_size"
  | notFinite => "finite_number"
  | notNumber => "float_type"
  | notNumberText => "float_parsing"
  | notBoolean => "bool_type"
  | notBooleanText => "bool_parsing"
  | notTuple => "tuple_type"
  | notDictionary => "dict_type"
  | notModel _ => "model_type"
  | notPath => "path_type"
  | notOneOf _ => "enum"
  | notLiteral _ => "literal_error"
  | noTag => "union_tag_not_found"
  | unknownTag .. => "union_tag_invalid"
  | notTagged => "model_attributes_type"
  | notPositive => "value_error"

def Complaint.detail (medium : Medium) : Complaint → String
  | missing => "Field required"
  | notString => "Input should be a valid string"
  | notUnicode =>
    "Input should be a valid string, unable to parse raw data as a unicode string"
  | notInteger => "Input should be a valid integer"
  | notIntegerText => "Input should be a valid integer, unable to parse string as an integer"
  | hasFraction => "Input should be a valid integer, got a number with a fractional part"
  | tooLarge => "Unable to parse input string as an integer, exceeded maximum size"
  | notFinite => "Input should be a finite number"
  | notNumber => "Input should be a valid number"
  | notNumberText => "Input should be a valid number, unable to parse string as a number"
  | notBoolean => "Input should be a valid boolean"
  | notBooleanText => "Input should be a valid boolean, unable to interpret input"
  | notTuple =>
    match medium with
    | .value => "Input should be a valid tuple"
    | .text => "Input should be a valid array"
  | notDictionary =>
    match medium with
    | .value => "Input should be a valid dictionary"
    | .text => "Input should be an object"
  | notModel name =>
    match medium with
    | .value => s!"Input should be a valid dictionary or instance of {name}"
    | .text => "Input should be an object"
  | notPath => "Input is not a valid path for <class 'pathlib.Path'>"
  | notOneOf choices | notLiteral choices => s!"Input should be {choiceText choices}"
  | noTag => "Unable to extract tag using discriminator 'mode'"
  | unknownTag tag choices =>
    let expected := Text.join ", " (choices.map fun c => s!"'{c}'")
    s!"Input tag '{tag}' found using 'mode' does not match any of the expected tags: {expected}"
  | notTagged =>
    match medium with
    | .value => "Input should be a valid dictionary or object to extract fields from"
    | .text => "Input should be an object"
  | notPositive => "Value error, timeout must be greater than zero"

structure Violation where
  location : Location
  complaint : Complaint
  deriving DecidableEq, Repr

def Violation.report (medium : Medium) (v : Violation) : Report :=
  ⟨v.location, v.complaint.type, v.complaint.detail medium⟩

/-- A value, or all violations that keep it from being one. -/
inductive Checked (α : Type) where
  | ok (value : α)
  | bad (first : Violation) (rest : List Violation)
  deriving Repr

namespace Checked

variable {α β γ : Type}

def violations : Checked α → List Violation
  | ok _ => []
  | bad v vs => v :: vs

def fail (c : Complaint) : Checked α :=
  bad ⟨[], c⟩ []

def map (f : α → β) : Checked α → Checked β
  | ok a => ok (f a)
  | bad v vs => bad v vs

/-- Applies a checked function to a checked value; violations of both are kept, in order. -/
def both : Checked (α → β) → Checked α → Checked β
  | ok f, ok a => ok (f a)
  | ok _, bad v vs => bad v vs
  | bad v vs, x => bad v (vs ++ x.violations)

def toExcept : Checked α → Except (List Violation) α
  | ok a => .ok a
  | bad v vs => .error (v :: vs)

def below (s : Segment) : Checked α → Checked α
  | ok a => ok a
  | bad v vs =>
    let shift (v : Violation) : Violation := ⟨s :: v.location, v.complaint⟩
    bad (shift v) (vs.map shift)

/-- A check whose violations are marked as those of a union member. -/
def tagged (tag : String) : Checked α → Checked α
  | ok a => ok a
  | bad v vs =>
    let mark (v : Violation) : Violation := ⟨v.location ++ [.key tag], v.complaint⟩
    bad (mark v) (vs.map mark)

/-- The first of two checks that has a value; if none has, all violations of both. -/
def orElse : Checked α → Checked α → Checked α
  | ok a, _ => ok a
  | bad .., ok a => ok a
  | bad v vs, bad w ws => bad v (vs ++ w :: ws)

instance : Functor Checked where
  map := Checked.map

instance : Applicative Checked where
  pure := ok
  seq f x := both f (x ())

theorem both_eq_ok_iff {f : Checked (α → β)} {x : Checked α} {b : β} :
    both f x = ok b ↔ ∃ g a, f = ok g ∧ x = ok a ∧ g a = b := by
  cases f <;> cases x <;> simp [both]

theorem violations_both (f : Checked (α → β)) (x : Checked α) :
    (both f x).violations = f.violations ++ x.violations := by
  cases f <;> cases x <;> simp [both, violations]

theorem violations_below (s : Segment) (x : Checked α) :
    (x.below s).violations =
      x.violations.map fun v => ⟨s :: v.location, v.complaint⟩ := by
  cases x <;> simp [below, violations]

end Checked

end ParserHost.Schema
