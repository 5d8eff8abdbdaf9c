import ParserHost.Text.Search

/-!
Where in a value a violation was found: a list of keys and indices. `render` writes it as a field
path, `withoutTags` drops the marks of union members.
-/
namespace ParserHost.Schema

inductive Segment where
  | key (name : String)
  | index (n : Int)
  deriving DecidableEq, Repr, Inhabited

abbrev Location := List Segment

def Segment.addTo (rendered : String) : Segment → String
  | .index n => s!"{rendered}[{n}]"
  | .key name => if rendered.isEmpty then name else s!"{rendered}.{name}"

def rootPath : String := "response"

/-- The field path of a location, such as `docs[2].language`. -/
def Location.render (l : Location) : String :=
  let rendered := l.foldl Segment.addTo ""
  if rendered.isEmpty then rootPath else rendered

def scalarTags : List String :=
  ["str", "int", "float", "bool", "bytes", "list", "dict", "tuple", "none"]

def isTagChar (c : Char) : Bool :=
  c.isLower || c.isDigit || c = '_' || c = '-'

/-- Whether text is free of line feeds up to a closing bracket at its end; a line feed after that
bracket does not count. -/
def closesBracket (cs : List Char) : Bool :=
  let cs := match cs.reverse with
    | '\n' :: rest => rest
    | rest => rest
  match cs with
  | ']' :: rest => !rest.contains '\n'
  | _ => false

/-- A tag with parameters, such as `list[str]`. -/
def isParametrisedTag (s : String) : Bool :=
  match s.toList with
  | c :: rest =>
    c.isLower &&
      match rest.dropWhile isTagChar with
      | '[' :: inside => closesBracket inside
      | _ => false
  | [] => false

def Segment.isParametrisedTag : Segment → Bool
  | .key name => Schema.isParametrisedTag name
  | .index _ => false

def Segment.isScalarTag : Segment → Bool
  | .key name => scalarTags.contains name
  | .index _ => false

/-- A location without the tags of union members: those with parameters wherever they stand, a plain
one only after another segment at the end. -/
def Location.withoutTags (l : Location) : Location :=
  let parts := l.filter fun s => !s.isParametrisedTag
  match parts.getLast? with
  | some last => if 1 < parts.length && last.isScalarTag then parts.dropLast else parts
  | none => parts

end ParserHost.Schema
