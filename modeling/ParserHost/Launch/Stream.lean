import ParserHost.Launch.Executable
import ParserHost.Number.Decimal
import ParserHost.Text.Lines

/-!
Parser processes: they get their request on standard input, their standard output is kept whole and
their standard error is read line by line.
-/
namespace ParserHost

open Text.Utf8 (Bytes)

/-- A stream as text: what is not UTF-8 is replaced, and every line end is LF. -/
def streamText (bs : Bytes) : String :=
  Text.unifyNewlines (Text.Utf8.decodeReplacing bs)

def streamLines (bs : Bytes) : List String :=
  Text.terminated (Text.Utf8.decodeReplacing bs)

structure Streamed where
  words : List String
  status : Int
  output : String
  errorLines : List String
  timedOut : Bool
  inputUnread : Bool
  deriving DecidableEq, Repr, Inhabited

namespace Streamed

def ofEnded (words : List String) (e : Ended) : Streamed :=
  ⟨words, e.status, streamText e.output, streamLines e.errors, e.timedOut, e.inputUnread⟩

def errors (s : Streamed) : String :=
  Text.join "\n" s.errorLines

def killed (s : Streamed) : Bool :=
  s.status < 0

def feed {σ ε : Type} (s : Streamed) (reader : σ → String → Except ε σ) (start : σ) : Except ε σ :=
  s.errorLines.foldlM reader start

/-- Runs a command whose program is found, with a text for it to read. -/
def start (h : Host) (words : List String) (cwd : Option Path)
    (environment : Option (List (String × String))) (input : Option String)
    (timeout : Option Double) (t : FileTree) : Except Fault Streamed × FileTree :=
  match Executable.start h ⟨words, cwd, environment.getD h.environment, input, true, timeout⟩ t with
  | (.error f, t) => (.error f, t)
  | (.ok e, t) => (.ok (ofEnded words e), t)

def run (h : Host) (words : List String) (cwd : Option Path)
    (environment : Option (List (String × String))) (input : Option String)
    (timeout : Option Double) (t : FileTree) : Except Fault Streamed × FileTree :=
  match Executable.resolve t h cwd words with
  | .error f => (.error f, t)
  | .ok words => start h words cwd environment input timeout t

end Streamed

/-! ## Signals -/

/-- The names of signals, from number 1 on; two numbers are not in use. -/
def signalNames : List String :=
  ["HUP", "INT", "QUIT", "ILL", "TRAP", "ABRT", "BUS", "FPE", "KILL", "USR1", "SEGV", "USR2",
    "PIPE", "ALRM", "TERM", "STKFLT", "CHLD", "CONT", "STOP", "TSTP", "TTIN", "TTOU", "URG",
    "XCPU", "XFSZ", "VTALRM", "PROF", "WINCH", "IO", "PWR", "SYS"]

/-- The name of a signal; one without a name goes by its number. -/
def signalName (n : Int) : String :=
  if n = 34 then "SIGRTMIN"
  else if n = 64 then "SIGRTMAX"
  else if n < 1 then toString n
  else
    match signalNames[n.toNat - 1]? with
    | some name => "SIG" ++ name
    | none => toString n

def terminationText (timedOut : Bool) (status : Int) (timeout : Option Double) : String :=
  if timedOut then
    match timeout with
    | some limit => s!"timed out after {Decimal.general limit}s"
    | none => "timed out"
  else s!"terminated by signal {signalName (-status)}"

end ParserHost
