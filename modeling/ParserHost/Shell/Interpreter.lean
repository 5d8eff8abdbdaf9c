import ParserHost.Shell.Builtin
import ParserHost.Shell.Redirect

/-!
Running scripts. `Interpreter.command` runs a tree of commands; its fuel bounds how deep commands and
programs may stand in each other, and a script that needs more counts as one that does not end.
-/
namespace ParserHost.Shell

/-! ## Loops -/

/-- What a loop makes of the way its body ended: whether to stop, and how. -/
def Flow.afterRound : Flow → Option Flow
  | .next => none
  | .again n => if n ≤ 1 then none else some (.again (n - 1))
  | .leave n => some (if n ≤ 1 then .next else .leave (n - 1))
  | flow => some flow

/-- The number of rounds after which a loop counts as one that does not end. -/
def roundLimit : Nat := 100000

/-- Rounds of a body for as long as a condition holds, or until it does. The status is that of the
last round, and zero after a loop that was left. -/
def rounds (stops : Bool) (condition body : Run) : Nat → Nat → Run
  | 0, _, s => (.overdue, s)
  | fuel + 1, last, s =>
    match condition s with
    | (.next, s) =>
      if (s.process.status = 0) = stops then s.ended last
      else
        match body s with
        | (flow, s) =>
          match flow.afterRound with
          | none => rounds stops condition body fuel s.process.status s
          | some .next => s.ended 0
          | some flow => (flow, s)
    | (flow, s) =>
      match flow.afterRound with
      | none => rounds stops condition body fuel last s
      | some .next => s.ended 0
      | some flow => (flow, s)

def eachValue (name : String) (body : Run) : List String → Run
  | [], s => (.next, s)
  | value :: rest, s =>
    match body (s.withProcess (s.process.assign name value)) with
    | (flow, s) =>
      match flow.afterRound with
      | none => eachValue name body rest s
      | some flow => (flow, s)

def inLoop (loop : Run) : Run := fun s =>
  match loop (s.withProcess { s.process with loops := s.process.loops + 1 }) with
  | (flow, after) => (flow, after.withProcess { after.process with loops := s.process.loops })

/-! ## Failing -/

def Session.withTested (s : Session) (tested : Bool) : Session :=
  s.withProcess { s.process with manner := { s.process.manner with tested := tested } }

/-- Runs something whose status is asked for, so that it may fail. -/
def asked (run : Run) : Run := fun s =>
  match run (s.withTested true) with
  | (flow, after) => (flow, after.withTested s.process.manner.tested)

def orEnd (run : Run) : Run :=
  Run.andThen run fun s =>
    let m := s.process.manner
    if m.endsOnFailure && !m.tested && s.process.status != 0 then (.exited, s) else (.next, s)

/-! ## Simple commands -/

structure Prepared where
  words : List String
  assignments : List (String × String)
  opened : Bool

def traced (words : List String) (assignments : List (String × String)) (s : Session) : Session :=
  if s.process.manner.shows then
    let written := assignments.map (fun (name, value) => name ++ "=" ++ value) ++ words
    s.print 2 ("+ " ++ Text.join " " written ++ "\n")
  else s

def prepare (run : Nat → List Char → Run) (assignments : List (List Char × Word))
    (words : List Word) (redirections : List Redirection) : Expanding Prepared := do
  let words ← wordFields run words
  let before := (← get).process.channels
  let opened ← redirect run redirections
  let assignments ← assignments.mapM fun (name, w) =>
    return (String.ofList name, ← wordText run w)
  modify fun s =>
    let shown := traced words assignments (s.withProcess { s.process with channels := before })
    shown.withProcess s.process
  return ⟨words, assignments, opened⟩

def runsCommands (w : Word) : Bool :=
  w.any fun
    | .output .. => true
    | _ => false

def assignAll (assignments : List (String × String)) (p : Process) : Process :=
  assignments.foldl (fun p (name, value) => p.assign name value) p

/-- A process that exports some variables with values of their own. -/
def Process.given (p : Process) (assignments : List (String × String)) : Process :=
  exportAll (assignments.map fun (name, value) => name ++ "=" ++ value) p

def Process.takenBack (p before : Process) (assignments : List (String × String)) : Process :=
  let p := assignments.foldl (fun p (name, _) => restore p name (before.valueOf? name)) p
  if assignments.isEmpty then p else { p with exported := before.exported }

def withChannels (channels : List (Nat × Channel)) (s : Session) : Session :=
  s.withProcess { s.process with channels := channels }

/-- Runs a command of the shell, which stands in front of its messages. -/
def labelled (name : String) (run : Run) : Run := fun s =>
  match run (s.withProcess { s.process with within := name ++ ": " }) with
  | (flow, after) => (flow, after.withProcess { after.process with within := s.process.within })

def childProcess (p : Process) (words : List String) : Process where
  name := words.headD ""
  arguments := words.drop 1
  bindings := p.environment
  exported := p.exported
  status := 0
  directory := p.directory
  channels := p.channels
  traps := p.copy.traps

/-- Variables in front of the words of `env`. -/
def leadingVariables : List String → List (String × String) × List String
  | w :: rest =>
    match split w with
    | (name, some value) =>
      let (more, words) := leadingVariables rest
      ((name, value) :: more, words)
    | (_, none) => ([], w :: rest)
  | [] => ([], [])

namespace Interpreter

mutual
def command : Nat → Command → Run
  | 0, _ => fun s => (.overdue, s)
  | fuel + 1, c =>
    match c with
    | .nothing => fun s => (.next, s)
    | .sequence first second => Run.andThen (command fuel first) (command fuel second)
    | .both left right => Run.andThen (asked (command fuel left)) fun s =>
      if s.process.status = 0 then command fuel right s else (.next, s)
    | .either left right => Run.andThen (asked (command fuel left)) fun s =>
      if s.process.status = 0 then (.next, s) else command fuel right s
    | .negated c => Run.andThen (asked (command fuel c)) fun s =>
      s.ended (if s.process.status = 0 then 1 else 0)
    | .choose condition yes no => Run.andThen (asked (command fuel condition)) fun s =>
      if s.process.status = 0 then Run.andThen (fun s => s.ended 0) (command fuel yes) s
      else Run.andThen (fun s => s.ended 0) (command fuel no) s
    | .repeat stops condition body =>
      inLoop (rounds stops (asked (command fuel condition)) (command fuel body) roundLimit 0)
    | .nested c => orEnd (Session.nested (finished fuel (command fuel c)))
    | .background c => Session.background (command fuel c)
    | .define name body => fun s =>
      let name := String.ofList name
      let others := s.process.functions.filter fun f => f.1 != name
      (s.withProcess { s.process with functions := (name, body) :: others }).ended 0
    | .pipe left right => orEnd <| Session.tidily fun s =>
      let (w, n) := s.world.addStream []
      let start := { s with world := w }
      let writing := Session.nested fun s =>
        command fuel left (s.withProcess (s.process.setChannel 1 (.stream n)))
      let reading := Session.nested fun s =>
        command fuel right (s.withProcess (s.process.setChannel 0 (.stream n)))
      Run.andThen writing reading start
    | .forEach name words body => inLoop fun s =>
      let values := match words with
        | some ws => wordFields (script fuel) ws
        | none => do return (← get).process.arguments
      match values s with
      | .ok values s => eachValue (String.ofList name) (command fuel body) values s
      | .error flow s => (flow, s)
    | .match' subject cases => fun s =>
      match wordText (script fuel) subject s with
      | .error flow s => (flow, s)
      | .ok text s => firstCase fuel text.toList cases s
    | .redirected line c rs => orEnd <| Session.tidily fun s =>
      match redirect (script fuel) rs (s.withProcess { s.process with line := line }) with
      | .error flow s => (flow, s)
      | .ok false after => (.next, withChannels s.process.channels after)
      | .ok true after =>
        match command fuel c after with
        | (flow, after) => (flow, withChannels s.process.channels after)
    | .simple line assignments words rs => orEnd fun s =>
      match prepare (script fuel) assignments words rs
          (s.withProcess { s.process with line := line }) with
      | .error flow after => (flow, withChannels s.process.channels after)
      | .ok p after =>
        let isSpecial := (p.words.head?.map specialNames.contains).getD false
        if !p.opened then
          (if isSpecial then .exited else .next, withChannels s.process.channels after)
        else
          match p.words with
          | [] =>
            let after := withChannels s.process.channels after
            let status := if (words ++ assignments.map Prod.snd).any runsCommands then
              after.process.status else 0
            (after.withProcess (assignAll p.assignments after.process)).ended status
          | ["exec"] => after.ended 0
          | name :: arguments =>
            let before := after.process
            let inner := after.withProcess (before.given p.assignments)
            match Run.andThen (named fuel name arguments) (caught fuel) inner with
            | (flow, done) =>
              let kept := if isSpecial then done.process
                else done.process.takenBack before p.assignments
              let done := done.withProcess kept
              if rs.isEmpty then (flow, done)
              else Session.tidily (fun _ => (flow, withChannels s.process.channels done)) s

def firstCase : Nat → List Char → List (List Word × Command) → Run
  | 0, _, _ => fun s => (.overdue, s)
  | _, _, [] => fun s => s.ended 0
  | fuel + 1, text, (ws, body) :: rest => fun s =>
    match ws.mapM (wordAtoms (script fuel)) s with
    | .error flow s => (flow, s)
    | .ok patterns s =>
      if patterns.any fun atoms => Glob.accepts (atomPattern atoms) text then
        Run.andThen (fun s => s.ended 0) (command fuel body) s
      else firstCase fuel text rest s

/-- Runs what is pending because signals came; the status stays. -/
def caught : Nat → Run
  | 0 => fun s => (.overdue, s)
  | fuel + 1 => fun s =>
    match s.process.pending with
    | [] => (.next, s)
    | action :: rest =>
      let status := s.process.status
      let run := script fuel 1 action.toList
      Run.andThen run (fun s => Run.andThen (fun s => s.ended status) (caught fuel) s)
        (s.withProcess { s.process with pending := rest })

/-- Runs something and then what the process has set for its end; the status stays. -/
def finished : Nat → Run → Run
  | 0, _ => fun s => (.overdue, s)
  | fuel + 1, run => fun s =>
    match run s with
    | (.signalled n, s) => (.signalled n, s)
    | (.overdue, s) => (.overdue, s)
    | (flow, s) =>
      match s.process.traps.lookup 0 with
      | none => (flow, s)
      | some action =>
        let p := { s.process with
          traps := s.process.traps.filter fun t => t.1 != 0, within := "" }
        match script fuel 1 action.toList (s.withProcess p) with
        | (.next, after) => (flow, (after.ended s.process.status).2)
        | ended => ended

/-- Runs a command by its name: a function, or what the name stands for without it. -/
def named : Nat → String → Tool
  | 0, _, _ => fun s => (.overdue, s)
  | fuel + 1, name, arguments => fun s =>
    match s.process.functions.lookup name with
    | some body => called fuel body arguments s
    | none => ordinary fuel name arguments s

def called : Nat → Command → Tool
  | 0, _, _ => fun s => (.overdue, s)
  | fuel + 1, body, arguments => fun s =>
    let p := s.process
    match command fuel body
        (s.withProcess { p with arguments := arguments, hidden := [], loops := 0 }) with
    | (flow, after) =>
      let q := after.process.hidden.foldl (fun q (name, value) => restore q name value) after.process
      let q := { q with arguments := p.arguments, hidden := p.hidden, loops := p.loops }
      (if flow = .returned then .next else flow, after.withProcess q)

def ordinary : Nat → String → Tool
  | 0, _, _ => fun s => (.overdue, s)
  | fuel + 1, name, arguments =>
    match name, arguments with
    | "exec", inner :: rest => labelled "exec" fun s =>
      match started fuel (inner :: rest) s with
      | (.next, s) => (.exited, s)
      | stopped => stopped
    | "eval", arguments => labelled "eval" (script fuel 1 (Text.join " " arguments).toList)
    | "command", "-v" :: names => fun s =>
      let name := names.headD ""
      if (s.process.functions.lookup name).isSome || isBuiltin name then
        (s.print 1 (name ++ "\n")).ended 0
      else
        match Program.locate? s name with
        | some path => (s.print 1 (path ++ "\n")).ended 0
        | none => s.ended 127
    | "command", inner :: rest => ordinary fuel inner rest
    | "type", names => fun s =>
      let said := names.map (typeOf s)
      let status := said.foldl (fun n (_, m) => max n m) 0
      (s.print 1 (String.join (said.map fun (text, _) => text ++ "\n"))).ended status
    | ".", file :: _ => labelled "." fun s =>
      match if Text.contains "/" file then some file else Program.locate? s file with
      | none => misused s!"{file}: not found" s
      | some path =>
        match s.readFile path with
        | .error _ => misused s!"cannot open {file}: No such file" s
        | .ok bytes =>
          match script fuel 1 (Text.Utf8.decodeReplacing bytes).toList s with
          | (.returned, s) => (.next, s)
          | ended => ended
    | name, arguments =>
      match processTool? name with
      | some tool => labelled name (tool arguments)
      | none => fun s => Session.child s.process (started fuel (name :: arguments)) s

def started : Nat → List String → Run
  | 0, _ => fun s => (.overdue, s)
  | fuel + 1, words => fun s =>
    let name := words.headD ""
    match Program.locate? s name with
    | none => s.warn 127 s!"{name}: not found"
    | some path =>
      match Program.find s.world.tree s.process.directory path words with
      | .ok (program', words) =>
        program fuel program' words (s.withProcess (childProcess s.process words))
      | .error .execFormat =>
        program fuel .shell ("sh" :: path :: words.drop 1)
          (s.withProcess (childProcess s.process words))
      | .error .noEntry => s.warn 127 s!"{name}: not found"
      | .error e => s.warn 126 s!"{name}: {e.text}"

/-- Runs a program with its words, of which the first is its name. -/
def program : Nat → Program → List String → Run
  | 0, _, _ => fun s => (.overdue, s)
  | fuel + 1, p, words =>
    match p with
    | .tool name =>
      match Tool.programs.lookup name with
      | some tool => tool (words.drop 1)
      | none => fun s => s.ended 127
    | .withVariables => fun s =>
      let (assignments, words) := leadingVariables (options (words.drop 1)).2
      let given := s.process.given assignments
      if words.isEmpty then
        let shown := given.environment.map fun (name, value) => name ++ "=" ++ value ++ "\n"
        (s.print 1 (String.join shown)).ended 0
      else started fuel words (s.withProcess given)
    | .shell => fun s =>
      let name := words.headD "sh"
      let (letters, rest) := options (words.drop 1)
      let s := s.withProcess { s.process with manner := s.process.manner.set true letters }
      let running (name : String) (arguments : List String) (text : List Char) (s : Session) :=
        finished fuel (script fuel 1 text)
          (s.withProcess { s.process with name := name, arguments := arguments })
      if letters.contains 'c' then
        running ((rest.drop 1).headD name) (rest.drop 2) (rest.headD "").toList s
      else
        match rest with
        | file :: arguments =>
          match s.readFile file with
          | .ok bytes => running file arguments (Text.Utf8.decodeReplacing bytes).toList s
          | .error _ => s.complain 2 s!"{name}: 0: cannot open {file}: No such file"
        | [] =>
          let (bytes, s) := s.readAll
          running name [] (Text.Utf8.decodeReplacing bytes).toList s

/-- Runs the commands of a script whose first line has a given number. -/
def script : Nat → Nat → List Char → Run
  | 0, _, _ => fun s => (.overdue, s)
  | fuel + 1, line, text =>
    let read := Script.ofChars line text
    Run.andThen (command fuel read.commands) fun s =>
      if read.whole then (.next, s) else misused "Syntax error" s
end

def depth : Nat := 1000000

end Interpreter

end ParserHost.Shell
