import ParserHost.Config.Settings
import ParserHost.Exchange.Component
import ParserHost.Json.Reader
import ParserHost.Launch.Child

/-!
What a command needs before it can run: the directory of the project, its configuration, settings and
a component. Each is either there or refused with a line for the user.
-/
namespace ParserHost.CommandLine

inductive Refusal where
  /-- A line for the user, and the status to end with. -/
  | said (message : String) (exitCode : Int)
  | escaped (failure : Failure)
  deriving Repr

namespace Refusal

def ofError (e : RunError) : Refusal :=
  said e.message e.exitCode

def ofFailure : Failure → Refusal
  | .run (.config message code) => said message code
  | f => escaped f

end Refusal

def resolved (h : Host) (t : FileTree) (p : Path) : Except Fault Path :=
  match t.resolve (h.absolute p) with
  | .ok q => .ok q
  | .error u => .error (.ofUnresolved u)

/-- The directory of the project; the current one if none is given. -/
def projectDirectory (h : Host) (t : FileTree) (given : Option Path) : Except Refusal Path :=
  match resolved h t (given.getD h.directory) with
  | .error f => .error (.escaped f)
  | .ok p =>
    match t.unanswered? p with
    | some e => .error (.escaped (Fault.system e))
    | none =>
      if t.isDirectory p then .ok p
      else .error (.said s!"Project directory {p.text} does not exist" 1)

def noConfigText (file : Path) : String :=
  s!"Config file {file.text} does not exist. A config file with a \x60parser\x60 key is required."

/-- The configuration file to read: the given one, or else that of the project. -/
def configFile (h : Host) (t : FileTree) (project : Path) (given : Option Path) :
    Except Refusal Path :=
  match given with
  | none =>
    match Config.find? t project with
    | some p => .ok p
    | none => .error (.said (noConfigText (project.child Config.defaultFileName)) 1)
  | some p =>
    match resolved h t p with
    | .error f => .error (.escaped f)
    | .ok p =>
      match t.unanswered? p with
      | some e => .error (.escaped (Fault.system e))
      | none => if t.isFile p then .ok p else .error (.said (noConfigText p) 1)

def loadConfig (t : FileTree) (file : Path) : Except Refusal Config :=
  (Config.load t file).mapError Refusal.ofFailure

def optionText (v : Schema.Violation) : String :=
  let place := Text.join "." (v.location.map Config.segmentText)
  s!"{place}: {v.complaint.detail .value}"

/-- The settings of a command. What is not given keeps its default. -/
def settings (h : Host) (project : Path) (verbose emoji : Bool) (timeout : Option Json)
    (label : Option String) : Except Refusal Settings :=
  let entries := Json.record [
    ("cwd", some (.str project.text)),
    ("verbose", some (.bool verbose)),
    ("use_emoji", some (.bool emoji)),
    ("timeout", timeout),
    ("label", (RunError.given? label).map .str)]
  match Settings.ofValues h.directory (h.environment.lookup Settings.timeoutVariable) entries with
  | .ok s => .ok s
  | .error (.fault (.invalid vs)) =>
    let listed := Text.join "; " (vs.map optionText)
    .error (.said s!"Invalid option: {listed}" 2)
  | .error f => .error (.ofFailure f)

/-- How many violations keep a text from being a component; one, if it is no JSON at all. -/
def component? (text : String) : Except Nat Component :=
  match Json.readChars Json.verbatim text.toList with
  | .error _ => .error 1
  | .ok v =>
    match (Component.checkWritten v).toExcept with
    | .ok c => .ok c
    | .error vs => .error vs.length

def loadComponent (h : Host) (t : FileTree) (file : Path) : Except Refusal Component :=
  if FileTree.hasNul file then .error (.escaped Fault.embeddedNul)
  else
    match t.read (h.absolute file) with
    | .error e => .error (.said s!"Unable to read component file {file.text}: {e.text}" 1)
    | .ok bytes =>
      match Text.Utf8.decode bytes with
      | .error f => .error (.escaped (Fault.notUnicode f))
      | .ok text =>
        match component? (Text.unifyNewlines text) with
        | .ok c => .ok c
        | .error n =>
          .error (.said s!"Invalid component file {file.text}: {n} validation error(s)" 1)

end ParserHost.CommandLine
