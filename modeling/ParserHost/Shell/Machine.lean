import ParserHost.Launch.Child
import ParserHost.Shell.Interpreter

/-!
A small machine that starts programs from a file tree: the tools, and scripts of the shell. `launch`
answers what a parent sees of a child.
-/
namespace ParserHost.Shell.Machine

open Text.Utf8 (Bytes)

/-- How much of its input a child need not have read before the one who feeds it notices. -/
def pipeSize : Nat := 65536

def limit? (timeout : Option Double) : Option Nat :=
  match timeout with
  | some (.finite negative units) =>
    if negative then some 0 else (Double.finite false units).thousandths
  | _ => none

def world (l : Launch) (t : FileTree) : World where
  tree := t
  clock := 0
  limit := limit? l.timeout
  streams := [[⟨0, Text.Utf8.encode (l.input.getD "")⟩], [], []]
  backgroundEnd := 0
  heldUntil := 0

def process (l : Launch) (directory : Path) : Process where
  name := l.words.headD ""
  arguments := l.words.drop 1
  bindings := l.environment
  exported := l.environment.map Prod.fst
  status := 0
  directory := directory
  channels :=
    [(0, if l.input.isSome then .stream 0 else .nothing),
      (1, if l.captured then .stream 1 else .nothing),
      (2, if l.captured then .stream 2 else .nothing)]

/-- The status of a child by the way its run ended; one whose time was up was killed. -/
def statusOf : Flow → Nat → Int
  | .signalled n, _ => -(n : Int)
  | .overdue, _ => -9
  | _, status => (status % 256 : Nat)

def ended (flow : Flow) (s : Session) : Ended :=
  let w := s.world
  let held := match w.limit with
    | some limit => decide (limit ≤ max w.clock w.heldUntil)
    | none => false
  let late := flow = .overdue || held
  { status := statusOf flow s.process.status
    output := w.before (if late then w.limit else none) 1
    errors := w.before (if late then w.limit else none) 2
    timedOut := late
    inputUnread := pipeSize < (w.contents 0).length }

def directory (base : Path) (l : Launch) (t : FileTree) : Except SystemError Path :=
  match l.directory with
  | none => .ok base
  | some d =>
    match t.stat (base.join d) with
    | .ok (at', .directory) => .ok (Path.absolute at')
    | .ok _ => .error ⟨.notDirectory, d.text⟩
    | .error e => .error ⟨e, d.text⟩

/-- Starts a program for a parent that runs in a given directory. -/
def launch (base : Path) : Launcher := fun l t =>
  match directory base l t with
  | .error e => (.error e, t)
  | .ok here =>
    let name := l.words.headD ""
    match Program.find t here name l.words with
    | .error e => (.error ⟨e, name⟩, t)
    | .ok (program, words) =>
      let session : Session := ⟨world l t, process l here⟩
      if limit? l.timeout = some 0 then (.ok (ended .overdue session), t)
      else
        match Interpreter.program Interpreter.depth program words session with
        | (flow, s) => (.ok (ended flow s), s.world.tree)

end ParserHost.Shell.Machine
