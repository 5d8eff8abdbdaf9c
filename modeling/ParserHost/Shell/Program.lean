import ParserHost.Shell.Tool

/-!
Programs of the system: the tools, the shell, and scripts, whose first line names the program that
reads them. `Program.find` says what the system starts for a path, or why it refuses.
-/
namespace ParserHost.Shell

inductive Program where
  | tool (name : String)
  | shell
  /-- Runs another program with changed variables. -/
  | withVariables
  deriving DecidableEq, Repr, Inhabited

namespace Program

def directory : Location := ["usr", "bin"]

def byName : List (String × Program) :=
  [("sh", .shell), ("dash", .shell), ("env", .withVariables)] ++
    Tool.programs.map fun (name, _) => (name, .tool name)

def installed? (at' : Location) : Option Program :=
  match Path.dropParts? directory at' with
  | some [name] => byName.lookup name
  | _ => none

def systemFiles : List (Location × Node) :=
  [(["usr"], .directory), (directory, .directory), (["bin"], .link "usr/bin"),
    (["tmp"], .directory), (["dev"], .directory), (["dev", "null"], .file [] false)] ++
    byName.map fun (name, _) => (directory ++ [name], .file [127, 69, 76, 70] true)

def interpreter? (content : Text.Utf8.Bytes) : Option (String × Option String) :=
  match content with
  | 35 :: 33 :: rest =>
    let line := (Text.Utf8.decodeReplacing (rest.takeWhile (· != 10))).toList
    let blank (c : Char) : Bool := c = ' ' || c = '\t'
    let (name, after) := (line.dropWhile blank).span fun c => !blank c
    let option := ((after.dropWhile blank).reverse.dropWhile blank).reverse
    some (String.ofList name, if option.isEmpty then none else some (String.ofList option))
  | _ => none

def scriptLimit : Nat := 5

/-- The program that a path stands for and the words that it gets. -/
def findFrom (t : FileTree) (directory : Path) :
    Nat → String → List String → Except Errno (Program × List String)
  | 0, _, _ => .error .linkLoop
  | fuel + 1, written, words =>
    match t.stat (directory.join (Path.parse written)) with
    | .error e => .error e
    | .ok (_, .directory) => .error .permission
    | .ok (_, .link _) => .error .linkLoop
    | .ok (at', .file content executable) =>
      if !executable then .error .permission
      else
        match installed? at' with
        | some p => .ok (p, words)
        | none =>
          match interpreter? content with
          | none => .error .execFormat
          | some (name, option) =>
            findFrom t directory fuel name ([name] ++ option.toList ++ written :: words.drop 1)

def find (t : FileTree) (directory : Path) (written : String) (words : List String) :
    Except Errno (Program × List String) :=
  findFrom t directory scriptLimit written words

def defaultSearchPath : String :=
  "/usr/local/sbin:/usr/local/bin:/usr/sbin:/usr/bin:/sbin:/bin"

/-- The path of a program by its name: the first one in the search path. -/
def locate? (s : Session) (name : String) : Option String :=
  if Text.contains "/" name then some name
  else
    let directories := Text.splitOn ':' ((s.process.valueOf? "PATH").getD defaultSearchPath)
    let below (d : String) : String := if d.isEmpty then name else d ++ "/" ++ name
    (directories.map below).find? fun path =>
      match s.world.tree.stat (s.absolute path) with
      | .ok (_, .file _ executable) => executable
      | _ => false

end Program

end ParserHost.Shell
