import ParserHost.Exchange.Message
import ParserHost.Files.SystemError
import ParserHost.Files.Path

/-!
The failures that end a run in an orderly way. Each has a kind, a message for the user and an exit
code; `RunError.message` is the only place that words them.
-/
namespace ParserHost

/-- What a handler says of its own failure: the name of the failure's type, and a text. -/
structure HandlerFailure where
  name : String
  text : String
  deriving DecidableEq, Repr, Inhabited

inductive RunError where
  /-- A failure of no particular kind. -/
  | general (message : String) (exitCode : Int)
  | config (message : String) (exitCode : Int)
  | parserNotFound (executable : String) (hint : Option String)
  | spawn (program : String) (cause : SystemReport)
  | parserFailed (parser : String) (failure : HandlerFailure)
  | aborted (program reason : String)
  | malformedModule (file : Path) (reason : String)
  | malformedResponse (reason : String) (status : Option Int) (suggestion : Option String)
  | schema (issues : List Schema.Issue)
  | reported (messages : List Message)
  deriving DecidableEq, Repr, Inhabited

namespace RunError

def configuration (message : String) : RunError :=
  config message 1

def kind : RunError → String
  | general .. => "error"
  | config .. => "ConfigError"
  | parserNotFound .. => "ParserNotFound"
  | spawn .. => "SpawnError"
  | parserFailed .. => "ParserFailed"
  | aborted .. => "ProcessAborted"
  | malformedModule .. => "MalformedModuleOutput"
  | malformedResponse .. => "MalformedResponse"
  | schema .. => "SchemaValidationFailed"
  | reported .. => "ParserReportedError"

def exitCode : RunError → Int
  | general _ code => code
  | config _ code => code
  | _ => 1

def encounteredNotice : String := "Errors encountered calling parser, exiting"

/-- A text that counts as given only if it is not empty. -/
def given? (s : Option String) : Option String :=
  s.filter fun s => !s.isEmpty

def malformedText (reason : String) (status : Option Int) (suggestion : Option String) : String :=
  match status.filter (· != 0) with
  | none => s!"Error returned from parser: {reason}"
  | some code =>
    match given? suggestion with
    | some hint => s!"Parser exited with code {code}: {hint} ({reason})"
    | none => s!"Parser exited with code {code} ({reason})"

def message : RunError → String
  | general text _ => text
  | config text _ => text
  | parserNotFound executable hint =>
    let text := s!"Parser executable '{executable}' could not be found"
    match given? hint with
    | some hint => s!"{text}. {hint}"
    | none => text
  | spawn program cause => s!"Failed to start parser '{program}': {cause.reason}"
  | parserFailed parser failure => s!"Parser '{parser}' failed: {failure.name}: {failure.text}"
  | aborted program reason => s!"Parser '{program}' was aborted: {reason}"
  | malformedModule file reason => s!"Failed to read parser output file {file.text}: {reason}"
  | malformedResponse reason status suggestion => malformedText reason status suggestion
  | schema issues =>
    let listed := Text.join "; " (issues.map Schema.Issue.describe)
    s!"Error returned from parser: Validation error: {listed}"
  | reported messages => Text.join "\n" (messages.map Message.text ++ [encounteredNotice])

end RunError

end ParserHost
