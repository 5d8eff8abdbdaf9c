import ParserHost.Exchange.Request
import ParserHost.Failure.Fault
import ParserHost.Text.Lines

/-!
The responses of single modules, which a parser leaves in a directory, and their sum: the results and
the messages of all modules, in the order of the file names.
-/
namespace ParserHost.Modules

def resultKey : Mode → String
  | .parse => "docs"
  | .create => "createdFiles"

def messagesKey : String := "messages"

def nameLe (a b : String) : Bool :=
  !decide (b < a)

def isHidden (name : String) : Bool :=
  Text.startsWith "." name

/-- The names of the entries of a directory; anything else has none. -/
def entries (t : FileTree) (directory : Path) : List String :=
  match t.stat directory with
  | .ok (at', .directory) => (t.children at').map Prod.fst
  | _ => []

/-- The names of the files of a directory that are not hidden, in order. -/
def names (t : FileTree) (directory : Path) : Except SystemError (List String) :=
  let found := entries t directory
  match (directory :: found.map directory.child).findSome? t.unanswered? with
  | some e => .error e
  | none =>
    .ok ((found.filter fun n => !isHidden n && t.isFile (directory.child n)).mergeSort nameLe)

def faultText (f : Json.Fault) (text : String) : String :=
  let (line, column) := f.position text.toList
  s!"{f.expected.text} at line {line} column {column}"

/-- The object that a text holds; `file` is where the text comes from. -/
def ofText (file : Path) (text : String) : Except Failure Json.Entries :=
  match Json.read text with
  | .error ⟨.within limit, _⟩ => .error (.fault (.beyond limit))
  | .error f => .error (.run (.malformedModule file (faultText f text)))
  | .ok (.obj e) => .ok e
  | .ok _ => .error (.run (.malformedModule file "expected a JSON object"))

def load (t : FileTree) (file : Path) : Except Failure Json.Entries :=
  match t.read file with
  | .error e => .error (.run (.malformedModule file e.text))
  | .ok bytes =>
    match Text.Utf8.decode bytes with
    | .error _ => .error (.run (.malformedModule file "file is not valid UTF-8"))
    | .ok text => ofText file (Text.unifyNewlines text)

/-- The list under a key; an absent one is empty. -/
def items (file : Path) (key : String) (e : Json.Entries) : Except Failure (List Json) :=
  match Json.get? key e with
  | none => .ok []
  | some (.arr vs) => .ok vs
  | some _ => .error (.run (.malformedModule file s!"`{key}` must be an array"))

structure Parts where
  results : List Json
  messages : List Json
  deriving Repr, Inhabited

def Parts.append (a b : Parts) : Parts :=
  ⟨a.results ++ b.results, a.messages ++ b.messages⟩

def parts (t : FileTree) (mode : Mode) (file : Path) : Except Failure Parts := do
  let e ← load t file
  let results ← items file (resultKey mode) e
  let messages ← items file messagesKey e
  return ⟨results, messages⟩

def sum (t : FileTree) (mode : Mode) (directory : Path) : List String → Except Failure Parts
  | [] => .ok ⟨[], []⟩
  | name :: rest => do
    let first ← parts t mode (directory.child name)
    let more ← sum t mode directory rest
    return first.append more

structure Aggregate where
  payload : Json
  modules : List String
  deriving Repr, Inhabited

def payload (mode : Mode) (p : Parts) : Json :=
  .obj [(resultKey mode, .arr p.results), (messagesKey, .arr p.messages)]

/-- The response that all modules of a directory make up. -/
def aggregate (t : FileTree) (directory : Path) (mode : Mode) : Except Failure Aggregate := do
  let found ← (names t directory).mapError fun e => .fault (.system e)
  let p ← sum t mode directory found
  return ⟨payload mode p, found⟩

end ParserHost.Modules
