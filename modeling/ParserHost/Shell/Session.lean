import ParserHost.Files.Tree
import ParserHost.Shell.Script

/-!
What a running script can change: the files, the clock, the streams between processes, and the state
of its own process. Time passes only while something sleeps, so a run is determined by its input.
-/
namespace ParserHost.Shell

open Text.Utf8 (Bytes)

/-- Bytes with the time at which they were written, in thousandths of a second. -/
structure Chunk where
  time : Nat
  bytes : Bytes
  deriving DecidableEq, Repr, Inhabited

inductive Channel where
  | closed
  /-- Reads as empty, and forgets what is written. -/
  | nothing
  | stream (n : Nat)
  | file (at' : Location)
  deriving DecidableEq, Repr, Inhabited

structure World where
  tree : FileTree
  /-- Thousandths of a second since the start. -/
  clock : Nat
  /-- The time at which everything is killed. -/
  limit : Option Nat
  /-- The streams by number; the newest chunk comes first. -/
  streams : List (List Chunk)
  /-- When the last process in the background ends. -/
  backgroundEnd : Nat
  /-- Until when a sleeping process could still write to the streams of the whole run. -/
  heldUntil : Nat
  deriving Repr, Inhabited

namespace World

def chunks (w : World) (n : Nat) : List Chunk :=
  (w.streams[n]?).getD []

def joined (chunks : List Chunk) : Bytes :=
  (chunks.reverse.map Chunk.bytes).flatten

def contents (w : World) (n : Nat) : Bytes :=
  joined (w.chunks n)

/-- What was written to a stream before a given time, in the order of time. -/
def before (w : World) (limit : Option Nat) (n : Nat) : Bytes :=
  let timely := match limit with
    | some limit => (w.chunks n).filter fun (c : Chunk) => c.time < limit
    | none => w.chunks n
  ((timely.reverse.mergeSort fun (a b : Chunk) => a.time ≤ b.time).map Chunk.bytes).flatten

def push (w : World) (n : Nat) (bytes : Bytes) : World :=
  { w with streams := w.streams.set n (⟨w.clock, bytes⟩ :: w.chunks n) }

def emit (w : World) (channel : Channel) (bytes : Bytes) : World :=
  match channel with
  | .closed | .nothing => w
  | .stream n => w.push n bytes
  | .file at' =>
    match w.tree.node? at' with
    | some (.file content executable) =>
      { w with tree := w.tree.set at' (.file (content ++ bytes) executable) }
    | _ => w

def addStream (w : World) (bytes : Bytes) : World × Nat :=
  ({ w with streams := w.streams ++ [[⟨w.clock, bytes⟩]] }, w.streams.length)

/-- Forgets the streams from a number on, which nothing leads to any more. -/
def forget (w : World) (n : Nat) : World :=
  { w with streams := w.streams.take n }

/-- Takes bytes from a stream: those that `part` puts first; the others stay. -/
def take (w : World) (channel : Channel) (part : Bytes → Bytes × Bytes) : Bytes × World :=
  match channel with
  | .stream n =>
    let (first, rest) := part (w.contents n)
    (first, { w with streams := w.streams.set n [⟨w.clock, rest⟩] })
  | _ => ([], w)

def takeAll (w : World) (channel : Channel) : Bytes × World :=
  w.take channel fun bytes => (bytes, [])

end World

/-- How a process takes failures and variables that are not set, and whether it shows what it runs. -/
structure Manner where
  endsOnFailure : Bool := false
  demandsSet : Bool := false
  shows : Bool := false
  /-- Whether the status of what runs now is asked for, so that it may fail. -/
  tested : Bool := false
  deriving DecidableEq, Repr, Inhabited

structure Process where
  /-- The name under which the script runs. -/
  name : String
  arguments : List String
  bindings : List (String × String)
  /-- The variables that processes below this one see. -/
  exported : List String
  status : Nat
  directory : Path
  channels : List (Nat × Channel)
  /-- The line of the script that runs now. -/
  line : Nat := 1
  /-- What the shell says in front of a message about one of its own commands. -/
  within : String := ""
  functions : List (String × Command) := []
  /-- What variables held before a function took their names for its own. -/
  hidden : List (String × Option String) := []
  manner : Manner := {}
  /-- How many loops the command that runs now stands in. -/
  loops : Nat := 0
  /-- Whether something was started in the background. -/
  startsOthers : Bool := false
  /-- What runs when a signal comes, by its number; zero stands for the end of the process. -/
  traps : List (Nat × String) := []
  /-- What is to run because a signal came. -/
  pending : List String := []
  deriving Repr, Inhabited

namespace Process

def channel (p : Process) (n : Nat) : Channel :=
  (p.channels.lookup n).getD .closed

def setChannel (p : Process) (n : Nat) (c : Channel) : Process :=
  { p with channels := (n, c) :: p.channels.filter fun e => e.1 != n }

def valueOf? (p : Process) (name : String) : Option String :=
  p.bindings.lookup name

def assign (p : Process) (name value : String) : Process :=
  { p with bindings := (name, value) :: p.bindings.filter fun e => e.1 != name }

def unassign (p : Process) (name : String) : Process :=
  { p with bindings := p.bindings.filter fun e => e.1 != name }

def export' (p : Process) (name : String) : Process :=
  { p with exported := name :: p.exported.filter fun e => e != name }

/-- A copy of the process, in which only signals that are ignored do not have their own effect. -/
def copy (p : Process) : Process :=
  { p with traps := p.traps.filter fun t => t.2.isEmpty, pending := [] }

def environment (p : Process) : List (String × String) :=
  p.bindings.filter fun e => p.exported.contains e.1

end Process

def processNumber : String := "4242"

def backgroundNumber : String := "4243"

structure Session where
  world : World
  process : Process
  deriving Repr, Inhabited

/-- How a command ended, as far as what follows it is concerned. -/
inductive Flow where
  | next
  /-- Leaves so many loops. -/
  | leave (loops : Nat)
  /-- Goes on with the next round of a loop, so many loops outwards. -/
  | again (loops : Nat)
  /-- Leaves a function. -/
  | returned
  | exited
  | signalled (signal : Nat)
  /-- The time is up. -/
  | overdue
  deriving DecidableEq, Repr, Inhabited

/-- A command as a function of the session. -/
abbrev Run := Session → Flow × Session

/-- One command after another; the second only if the first lets the script go on. -/
def Run.andThen (first second : Run) : Run := fun s =>
  match first s with
  | (.next, s) => second s
  | stopped => stopped

namespace Session

def channel (s : Session) (n : Nat) : Channel :=
  s.process.channel n

def ended (s : Session) (status : Nat) : Flow × Session :=
  (.next, { s with process := { s.process with status := status } })

def write (s : Session) (n : Nat) (bytes : Bytes) : Session :=
  { s with world := s.world.emit (s.channel n) bytes }

def print (s : Session) (n : Nat) (text : String) : Session :=
  s.write n (Text.Utf8.encode text)

def complain (s : Session) (status : Nat) (text : String) : Flow × Session :=
  (s.print 2 (text ++ "\n")).ended status

/-- Ends with a message of the shell, which names the script and the line. -/
def warn (s : Session) (status : Nat) (text : String) : Flow × Session :=
  let p := s.process
  s.complain status s!"{p.name}: {p.line}: {p.within}{text}"

def absolute (s : Session) (written : String) : Path :=
  s.process.directory.join (Path.parse written)

/-- How much of a file without an end is there to be read. -/
def endlessSize : Nat := 1048576

def readFile (s : Session) (written : String) : Except Errno Bytes :=
  let p := s.absolute written
  if p = Path.absolute ["dev", "null"] then .ok []
  else if p = Path.absolute ["dev", "zero"] then .ok (List.replicate endlessSize 0)
  else s.world.tree.read p

def readAll (s : Session) : Bytes × Session :=
  let (bytes, w) := s.world.takeAll (s.channel 0)
  (bytes, { s with world := w })

def withTree (s : Session) (t : FileTree) : Session :=
  { s with world := { s.world with tree := t } }

def withProcess (s : Session) (p : Process) : Session :=
  { s with process := p }

/-- Whether the process can write to the output or the errors of the whole run. -/
def holdsOutput (s : Session) : Bool :=
  let isOuter (c : Channel) : Bool := c = .stream 1 || c = .stream 2
  isOuter (s.channel 1) || isOuter (s.channel 2)

def waitUntil (s : Session) (time : Nat) : Flow × Session :=
  let clock := max s.world.clock time
  let held := if s.holdsOutput then max s.world.heldUntil clock else s.world.heldUntil
  let s := { s with world := { s.world with clock := clock, heldUntil := held } }
  match s.world.limit with
  | some limit => if limit ≤ clock then (.overdue, s) else s.ended 0
  | none => s.ended 0

def sleep (s : Session) (thousandths : Nat) : Flow × Session :=
  s.waitUntil (s.world.clock + thousandths)

def tidily (run : Run) : Run := fun s =>
  match run s with
  | (flow, after) => (flow, { after with world := after.world.forget s.world.streams.length })

/-- Runs something in a copy of the process, of which only the status comes back. -/
def nested (run : Run) : Run := fun s =>
  let (flow, after) := run (s.withProcess s.process.copy)
  let s := { after with process := { s.process with status := after.process.status } }
  match flow with
  | .signalled n => (.signalled n, s)
  | .overdue => (.overdue, s)
  | _ => (.next, s)

/-- The status of a process that a signal ended, as a script sees it. -/
def signalStatus (signal : Nat) : Nat :=
  128 + signal

/-- Runs something in a process of its own, which a signal ends without harm to this one. -/
def child (process : Process) (run : Run) : Run := fun s =>
  match nested (fun s => run (s.withProcess process)) s with
  | (.signalled n, s) => s.ended (signalStatus n)
  | ended => ended

def background (run : Run) : Run := fun s =>
  let start := s.world.clock
  let quiet := s.withProcess (s.process.setChannel 0 .nothing)
  let (flow, after) := nested run quiet
  let finish := max after.world.backgroundEnd after.world.clock
  let s := { after with
    process := { s.process with status := 0, startsOthers := true },
    world := { after.world with clock := start, backgroundEnd := finish } }
  match flow with
  | .signalled n => (.signalled n, s)
  | _ => (.next, s)

/-- Runs something with a stream of its own as standard output, and answers with what it wrote. -/
def capture (run : Run) (s : Session) : Bytes × Flow × Session :=
  let (w, n) := s.world.addStream []
  let inner := { s with world := w, process := s.process.setChannel 1 (.stream n) }
  let (flow, after) := nested run inner
  (after.world.contents n, flow,
    { after with
      world := after.world.forget n
      process := { s.process with status := after.process.status } })

end Session

end ParserHost.Shell
