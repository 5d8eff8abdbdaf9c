import ParserHost.Shell.Tool

/-!
Signals: their names and numbers, what they do to a process, and the traps that a process sets for
them. A signal that is caught leaves its commands pending.
-/
namespace ParserHost.Shell

def signalNumbers : List (String × Nat) :=
  [("HUP", 1), ("INT", 2), ("QUIT", 3), ("ILL", 4), ("TRAP", 5), ("ABRT", 6), ("BUS", 7), ("FPE", 8),
    ("KILL", 9), ("USR1", 10), ("SEGV", 11), ("USR2", 12), ("PIPE", 13), ("ALRM", 14), ("TERM", 15),
    ("STKFLT", 16), ("CHLD", 17), ("CONT", 18), ("STOP", 19), ("TSTP", 20), ("TTIN", 21),
    ("TTOU", 22), ("URG", 23), ("XCPU", 24), ("XFSZ", 25), ("VTALRM", 26), ("PROF", 27),
    ("WINCH", 28), ("IO", 29), ("PWR", 30), ("SYS", 31)]

/-- The number of a signal, which is written as a number or as a name. -/
def signal? (written : String) : Option Nat :=
  if Tool.isCount written then
    let n := Literal.natural written.toList
    if n ≤ 64 then some n else none
  else if written = "EXIT" then some 0
  else signalNumbers.lookup written

/-! ## Sending -/

def killArguments : List String → Except String (Nat × List String)
  | "-s" :: name :: rest =>
    match signal? name with
    | some n => .ok (n, rest)
    | none => .error s!"invalid signal number or name: {name}"
  | "--" :: rest => .ok (15, rest)
  | a :: rest =>
    match a.toList with
    | '-' :: c :: _ =>
      match signal? (Text.dropPrefix "-" a) with
      | some n => .ok (n, rest)
      | none => .error s!"Illegal option -{c}"
    | _ => .ok (15, a :: rest)
  | [] =>
    .error "Usage: kill [-s sigspec | -signum | -sigspec] [pid | job]... or\nkill -l [exitstatus]"

def delivered (signal : Nat) (s : Session) : Flow × Session :=
  if signal = 0 then s.ended 0
  else
    match if signal = 9 then none else s.process.traps.lookup signal with
    | some action =>
      (s.withProcess { s.process with pending := s.process.pending ++ [action] }).ended 0
    | none =>
      if [17, 18, 23, 28].contains signal then s.ended 0
      else if [19, 20, 21, 22].contains signal then (.overdue, s)
      else (.signalled signal, s)

def endBackground (s : Session) : Session :=
  { s with world := { s.world with backgroundEnd := s.world.clock, heldUntil := s.world.clock } }

def kill : Tool := fun arguments s =>
  match killArguments arguments with
  | .ok (signal, targets) =>
    if targets.contains processNumber || targets.contains "0" then delivered signal s
    else if targets.contains backgroundNumber then
      (if signal = 0 then s else endBackground s).ended 0
    else s.warn 1 "No such process\n"
  | .error text => s.warn 2 text

/-! ## Catching -/

def setTraps (action : Option String) : List String → Run
  | [], s => s.ended 0
  | name :: rest, s =>
    match signal? name with
    | none => s.complain 1 s!"trap: {name}: bad trap"
    | some n =>
      let others := s.process.traps.filter fun t => t.1 != n
      let traps := match action with
        | some text => (n, text) :: others
        | none => others
      setTraps action rest (s.withProcess { s.process with traps := traps })

def trap : Tool := fun arguments s =>
  match arguments with
  | [] => s.ended 0
  | "--" :: rest => trapWords rest s
  | words => trapWords words s
where
  /-- A single word, or a number in front, names signals whose traps go away. -/
  trapWords : Tool := fun words s =>
    match words with
    | [name] => setTraps none [name] s
    | "-" :: names => setTraps none names s
    | action :: names =>
      if Tool.isCount action then setTraps none (action :: names) s
      else setTraps (some action) names s
    | [] => s.ended 0

end ParserHost.Shell
