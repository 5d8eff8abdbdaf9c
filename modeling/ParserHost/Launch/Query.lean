import ParserHost.Launch.Executable
import ParserHost.Number.Decimal
import ParserHost.Text.Lines

/-!
Short commands that are run for their output. A command that takes too long counts as one that ended
with a status of its own.
-/
namespace ParserHost.Query

open Text.Utf8 (Bytes)

def timeoutStatus : Int := 124

inductive Kept where
  | nothing
  | text (s : String)
  | bytes (bs : Bytes)
  deriving DecidableEq, Repr, Inhabited

def Kept.text? : Kept → Option String
  | text s => some s
  | _ => none

structure Options where
  cwd : Option Path
  environment : Option (List (String × String))
  captured : Bool
  /-- Whether streams are kept as text. -/
  decoded : Bool
  timeout : Option Double
  deriving Repr, Inhabited

structure Completed where
  words : List String
  status : Int
  output : Kept
  errors : Kept
  deriving DecidableEq, Repr, Inhabited

/-- A stream as it is kept when the command ended in time. -/
def keep (o : Options) (bs : Bytes) : Except Fault Kept :=
  if !o.captured then .ok .nothing
  else if !o.decoded then .ok (.bytes bs)
  else
    match Text.Utf8.decode bs with
    | .ok s => .ok (.text (Text.unifyNewlines s))
    | .error f => .error (.notUnicode f)

/-- What stands in for a command that took too long: what it wrote so far, and a note. -/
def overdue (words : List String) (timeout : Option Double) (e : Ended) : Completed :=
  let note := match timeout with
    | some limit => s!"Command timed out after {Decimal.oneDecimal limit}s"
    | none => "Command timed out"
  let errors := Text.Utf8.decodeSkipping e.errors
  ⟨words, timeoutStatus, .text (Text.Utf8.decodeSkipping e.output),
    .text (if errors.isEmpty then note else s!"{errors}\n{note}")⟩

def completed (words : List String) (o : Options) (e : Ended) : Except Fault Completed :=
  if e.timedOut then .ok (overdue words o.timeout e)
  else do
    let output ← keep o e.output
    let errors ← keep o e.errors
    return ⟨words, e.status, output, errors⟩

def run (h : Host) (words : List String) (o : Options) (t : FileTree) :
    Except Fault Completed × FileTree :=
  match Executable.resolve t h o.cwd words with
  | .error f => (.error f, t)
  | .ok words =>
    let launch : Launch :=
      ⟨words, o.cwd, o.environment.getD h.environment, none, o.captured, o.timeout⟩
    match Executable.start h launch t with
    | (.error f, t) => (.error f, t)
    | (.ok e, t) => (completed words o e, t)

structure Failed where
  words : List String
  status : Int
  output : Option String
  errors : Option String
  deriving DecidableEq, Repr, Inhabited

def Failed.message (f : Failed) : String :=
  let errors := ((f.errors.filter fun s => !s.isEmpty).getD "<none>")
  let program := f.words.headD ""
  s!"Command '{program}' exited with status {f.status}. stderr: {errors}"

def Completed.checked (c : Completed) : Except Failed Completed :=
  if c.status = 0 then .ok c
  else .error ⟨c.words, c.status, c.output.text?, c.errors.text?⟩

end ParserHost.Query
