import ParserHost.Failure.Fault
import ParserHost.Launch.Child

/-!
Finding the program that a command names. A name without directories is looked up in the search
path; a relative path with directories is seen from the directory in which the command will run.
-/
namespace ParserHost.Executable

/-- Whether a path, as written, names a file that may be run. One that ends with a slash or with a dot
after a slash asks for a directory. -/
def isProgram (t : FileTree) (h : Host) (written : String) : Bool :=
  let p := h.absolute (Path.parse written)
  !Text.endsWith "/" written && !Text.endsWith "/." written && !FileTree.hasNul p &&
    match t.stat p with
    | .ok (_, .file _ executable) => executable
    | _ => false

def searchPath (h : Host) : List String :=
  let value := (h.environment.lookup "PATH").getD "/bin:/usr/bin"
  if value.isEmpty then [] else Text.splitOn ':' value

def below (directory name : String) : String :=
  if directory.isEmpty || Text.endsWith "/" directory then directory ++ name
  else directory ++ "/" ++ name

/-- The program that a name stands for. One that is written with a slash stands for itself. -/
def find? (t : FileTree) (h : Host) (name : String) : Option String :=
  if Text.contains "/" name then
    if isProgram t h name then some name else none
  else ((searchPath h).map (below · name)).find? (isProgram t h)

/-- A command whose program is found; the arguments stay. -/
def resolve (t : FileTree) (h : Host) (cwd : Option Path) : List String → Except Fault (List String)
  | [] => .error .emptyCommand
  | head :: arguments =>
    let p := Path.parse head
    if p.isAbsolute then .ok (p.text :: arguments)
    else if 1 < p.parts.length then
      let base := cwd.getD h.directory
      let candidate := base.join p
      match t.unanswered? (h.absolute candidate) with
      | some e => .error (.system ⟨e.errno, candidate.text⟩)
      | none =>
        if t.exists? (h.absolute candidate) then .ok (candidate.text :: arguments)
        else
          .error (.executableNotFound s!"Executable '{head}' was not found relative to {base.text}")
    else
      match find? t h head with
      | some program => .ok (program :: arguments)
      | none => .error (.executableNotFound s!"Executable '{head}' was not found on PATH")

def holdsNul (text : String) : Bool :=
  text.toList.contains '\x00'

/-- Why the system is not asked for a launch. A name in the environment with an equals sign would
run into its value; a NUL would end a text too early. -/
def refusal? (l : Launch) : Option Fault :=
  if l.environment.any fun (name, _) => Text.contains "=" name then some .environmentName
  else if l.words.any holdsNul || (l.environment.any fun (name, value) =>
      holdsNul name || holdsNul value) || l.directory.any FileTree.hasNul then some .embeddedNul
  else none

def start (h : Host) (l : Launch) (t : FileTree) : Except Fault Ended × FileTree :=
  match refusal? l with
  | some f => (.error f, t)
  | none =>
    match h.launch l t with
    | (.ok e, t) => (.ok e, t)
    | (.error e, t) => (.error (.system e), t)

end ParserHost.Executable
