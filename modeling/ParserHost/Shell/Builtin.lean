import ParserHost.Shell.Expansion
import ParserHost.Shell.Program
import ParserHost.Shell.Signal

/-!
Commands that are part of the shell because they change its process: variables, options, arguments,
the directory, and the end of loops, functions and the script.
-/
namespace ParserHost.Shell

/-! ## Variables -/

def split (text : String) : String × Option String :=
  match Text.findPart ['='] text.toList with
  | some (name, value) => (String.ofList name, some (String.ofList value))
  | none => (text, none)

def exportAll (names : List String) (p : Process) : Process :=
  names.foldl (fun p written =>
    match split written with
    | (name, some value) => (p.assign name value).export' name
    | (name, none) => p.export' name) p

def restore (p : Process) (name : String) (value : Option String) : Process :=
  match value with
  | some value => p.assign name value
  | none => p.unassign name

def keepLocal (p : Process) (written : String) : Process :=
  let (name, value) := split written
  let p := if p.hidden.any fun h => h.1 = name then p
    else { p with hidden := (name, p.valueOf? name) :: p.hidden }
  match value with
  | some value => p.assign name value
  | none => p

def unset (arguments : List String) (p : Process) : Process :=
  match arguments with
  | "-f" :: names =>
    { p with functions := p.functions.filter fun f => !names.contains f.1 }
  | "-v" :: names | names => names.foldl Process.unassign p

/-! ## Options and arguments -/

def Manner.set (m : Manner) (on : Bool) (letters : List Char) : Manner where
  endsOnFailure := if letters.contains 'e' then on else m.endsOnFailure
  demandsSet := if letters.contains 'u' then on else m.demandsSet
  shows := if letters.contains 'x' then on else m.shows
  tested := m.tested

def optionLetter (name : String) : List Char :=
  match name with
  | "errexit" => ['e']
  | "nounset" => ['u']
  | "xtrace" => ['x']
  | _ => []

/-- What `set` makes of its words. -/
def setWords : List String → Process → Process
  | "--" :: rest, p => { p with arguments := rest }
  | "-o" :: name :: rest, p =>
    setWords rest { p with manner := p.manner.set true (optionLetter name) }
  | "+o" :: name :: rest, p =>
    setWords rest { p with manner := p.manner.set false (optionLetter name) }
  | a :: rest, p =>
    match a.toList with
    | '-' :: letters => setWords rest { p with manner := p.manner.set true letters }
    | '+' :: letters => setWords rest { p with manner := p.manner.set false letters }
    | _ => { p with arguments := a :: rest }
  | [], p => p

/-- Ends the script because one of its own commands is used wrongly. -/
def misused (text : String) : Run := fun s => (.exited, (s.warn 2 text).2)

/-- Goes on with the count that is the first word, or with a default. -/
def withCount (default : Nat) (arguments : List String) (go : Nat → Run) : Run :=
  match arguments with
  | [] => go default
  | a :: _ => if Tool.isCount a then go (Literal.natural a.toList) else misused s!"Illegal number: {a}"

def exit (flow : Flow) : Tool := fun arguments s =>
  withCount s.process.status arguments (fun n s =>
    (flow, s.withProcess { s.process with status := n % 256 })) s

def leaveLoops (flow : Nat → Flow) : Tool := fun arguments =>
  withCount 1 arguments fun n s =>
    if s.process.loops = 0 then s.ended 0 else (flow (min n s.process.loops), s)

def shift : Tool := fun arguments =>
  withCount 1 arguments fun n s =>
    if s.process.arguments.length < n then misused "can't shift that many" s
    else (s.withProcess { s.process with arguments := s.process.arguments.drop n }).ended 0

/-! ## Directory, input and time -/

def changeDirectory : Tool := fun arguments s =>
  let old := s.process.directory
  let target := match arguments.head? with
    | some "-" => (s.process.valueOf? "OLDPWD").getD old.text
    | some target => target
    | none => (s.process.valueOf? "HOME").getD "/"
  let p := s.absolute target
  if s.world.tree.isDirectory p then
    let q := Path.absolute (FileTree.normalize p.parts)
    let s := s.withProcess { s.process.assign "OLDPWD" old.text with directory := q }
    (if arguments.head? = some "-" then s.print 1 (q.text ++ "\n") else s).ended 0
  else s.warn 2 s!"can't cd to {target}"

/-- The characters of a line, which know whether a backslash stood in front of them, and whether the
line goes on. -/
def unescaped : List Char → Field × Bool
  | [] => ([], false)
  | ['\\', '\n'] => ([], true)
  | '\\' :: c :: rest =>
    let (more, goesOn) := unescaped rest
    ((c, true) :: more, goesOn)
  | c :: rest =>
    let (more, goesOn) := unescaped rest
    (if c = '\n' then more else (c, false) :: more, goesOn)

def nextLine (raw : Bool) : Nat → Session → Field × Bool × Session
  | 0, s => ([], false, s)
  | fuel + 1, s =>
    let (bytes, w) := s.world.take (s.channel 0) (Tool.takeLines 1)
    let s := { s with world := w }
    let cs := (Text.Utf8.decodeReplacing bytes).toList
    let ends := bytes.getLast? = some 10
    if raw then ((cs.filter (· != '\n')).map (·, false), ends, s)
    else
      match unescaped cs with
      | (line, false) => (line, ends, s)
      | (line, true) =>
        let (more, ends, s) := nextLine raw fuel s
        (line ++ more, ends, s)

/-- Puts the parts of a line into variables; the last of them gets what is left. -/
def fillVariables (separators : List Char) : List String → Field → Process → Process
  | [], _, p => p
  | name :: rest, line, p =>
    let isBlank : Char × Bool → Bool := fun (c, q) => !q && separators.contains c && isSoftBlank c
    let isSeparator : Char × Bool → Bool := fun (c, q) => !q && separators.contains c
    let line := line.dropWhile isBlank
    if rest.isEmpty then
      p.assign name (String.ofList (((line.reverse.dropWhile isBlank).reverse).map Prod.fst))
    else
      let (word, after) := line.span fun c => !isSeparator c
      let after := after.dropWhile isBlank
      let after := if (after.head?.map isSeparator).getD false then after.drop 1 else after
      fillVariables separators rest after (p.assign name (String.ofList (word.map Prod.fst)))

def readLine : Tool := fun arguments s =>
  let (letters, names) := options arguments
  if names.isEmpty then s.warn 2 "arg count"
  else
    let (line, ends, s) := nextLine (letters.contains 'r') 1000 s
    let p := fillVariables (separators s.process) names line s.process
    (s.withProcess p).ended (if ends then 0 else 1)

def wait : Tool := fun arguments s =>
  if arguments.all (· = backgroundNumber) then s.waitUntil s.world.backgroundEnd else s.ended 127

/-! ## Names -/

/-- Commands after whose misuse a script ends, and in front of which assignments stay. -/
def specialNames : List String :=
  [".", ":", "break", "continue", "eval", "exec", "exit", "export", "readonly", "return", "set",
    "shift", "times", "trap", "unset"]

def processTool? (name : String) : Option Tool :=
  match name with
  | "exit" => some (exit .exited)
  | "return" => some (exit .returned)
  | "break" => some (leaveLoops .leave)
  | "continue" => some (leaveLoops .again)
  | "cd" => some changeDirectory
  | "export" | "readonly" => some fun arguments s =>
    (s.withProcess (exportAll arguments s.process)).ended 0
  | "local" => some fun arguments s =>
    (s.withProcess (arguments.foldl keepLocal s.process)).ended 0
  | "unset" => some fun arguments s => (s.withProcess (unset arguments s.process)).ended 0
  | "shift" => some shift
  | "set" => some fun arguments s => (s.withProcess (setWords arguments s.process)).ended 0
  | "wait" => some wait
  | "kill" => some kill
  | "read" => some readLine
  | "trap" => some trap
  | "umask" | "ulimit" | "times" | "alias" => some Tool.succeed
  | _ => Tool.builtins.lookup name

def isBuiltin (name : String) : Bool :=
  (processTool? name).isSome || [".", "command", "eval", "exec", "type"].contains name

/-- What the shell would run for a name, in the words of `type`. -/
def typeOf (s : Session) (name : String) : String × Nat :=
  if (s.process.functions.lookup name).isSome then (s!"{name} is a shell function", 0)
  else if specialNames.contains name then (s!"{name} is a special shell builtin", 0)
  else if isBuiltin name then (s!"{name} is a shell builtin", 0)
  else
    match Program.locate? s name with
    | some path => (s!"{name} is {path}", 0)
    | none => (s!"{name}: not found", 127)

end ParserHost.Shell
