import ParserHost.Failure.Fault

/-!
Workspaces, the temporary directories through which a host and a parser exchange files. A workspace
is active between `enter` and `leave`; only then it has a root. Paths have a limit here, since a workspace
lies deeper than the directory that was chosen for it.
-/
namespace ParserHost

/-- A workspace below a directory, with its root while it is active. -/
structure Workspace where
  base : Path
  root : Option Path
  deriving DecidableEq, Repr, Inhabited

namespace Workspace

def requestFileName : String := "request.json"

def outputDirName : String := "parser-output"

def longest (names : List String) : Nat :=
  names.foldr (fun name n => max name.length n) 0

/-- How long the number in a name becomes at most. -/
def numberRoom : Nat := 200

/-- A name with a number in it, which is written in binary with its lowest place first. -/
def numbered (places k : Nat) : String :=
  String.ofList ('r' :: 'u' :: 'n' :: '-' :: '0' ::
    (List.range places).map fun i => if k.testBit i then '1' else '0')

/-- A name that is not in use. It is longer than all that are, as far as a name may be long. -/
def freshName (names : List String) : String :=
  let places := min (longest names) numberRoom
  let candidates := (List.range (names.length + 1)).map (numbered places)
  (candidates.find? fun name => !names.contains name).getD (numbered places 0)

def namesIn (t : FileTree) (directory : Path) : List String :=
  match t.stat directory with
  | .ok (at', .directory) => (t.children at').map Prod.fst
  | _ => []

def activeRoot (w : Workspace) : Except Fault Path :=
  match w.root with
  | some root => .ok root
  | none => .error .workspaceInactive

def requestFile (w : Workspace) : Except Fault Path :=
  w.activeRoot.map fun root => root.child requestFileName

def outputDir (w : Workspace) : Except Fault Path :=
  w.activeRoot.map fun root => root.child outputDirName

/-- The longest path that the system takes, in bytes. -/
def pathLimit : Nat := 4095

def isTooLong (p : Path) : Bool :=
  pathLimit < p.text.utf8ByteSize

/-- What the system answers about a path; of one that is too long it says only that. -/
def asked {α : Type} (p : Path) (answer : Except Errno α) : Except Errno α :=
  if isTooLong p then .error .nameTooLong else answer

/-- A workspace that could not be entered, as far as it was made. -/
structure HalfMade where
  fault : Fault
  workspace : Workspace
  tree : FileTree

/-- Makes the directories of a workspace, under a given name. One that was active before is left as it
is. The workspace is active as soon as it has the first directory, whatever becomes of the second. -/
def enterAs (w : Workspace) (name : String) (t : FileTree) : Except HalfMade (Workspace × FileTree) :=
  let root := w.base.child name
  match asked root (t.makeDirectory root) with
  | .error e => .error ⟨.system ⟨e, root.text⟩, w, t⟩
  | .ok t =>
    let entered : Workspace := ⟨w.base, some root⟩
    let output := root.child outputDirName
    match asked output (t.makeDirectory output) with
    | .error e => .error ⟨.system ⟨e, output.text⟩, entered, t⟩
    | .ok t => .ok (entered, t)

def enter (w : Workspace) (t : FileTree) : Except HalfMade (Workspace × FileTree) :=
  w.enterAs (freshName (namesIn t w.base)) t

/-- Writes a text, given by its code points, to the request file. The file is emptied first, and stays
empty if the text has no bytes. -/
def writeRequest (w : Workspace) (codes : List Nat) (t : FileTree) : Except Fault Unit × FileTree :=
  match w.requestFile with
  | .error f => (.error f, t)
  | .ok file =>
    let encoded := Text.Utf8.encodeCodes codes
    match asked file (t.write file (encoded.toOption.getD [])) with
    | .error e => (.error (.system ⟨e, file.text⟩), t)
    | .ok t => ((encoded.mapError .notEncodable).map fun _ => (), t)

/-- A tree without a directory and what is in it; anything else stays. -/
def removeTree (t : FileTree) (directory : Path) : FileTree :=
  match t.find false directory with
  | .ok (.found at') =>
    match t.node? at' with
    | some .directory => t.remove at'
    | _ => t
  | _ => t

def leave (w : Workspace) (t : FileTree) : Workspace × FileTree :=
  match w.root with
  | some root => (⟨w.base, none⟩, removeTree t root)
  | none => (w, t)

end Workspace

end ParserHost
