import ParserHost.Exchange.Response
import ParserHost.Failure.RunError

/-!
Outcomes, what a run comes to. A message at the level of errors fails a run whose response is well
formed; a failed run has neither documents nor created files.
-/
namespace ParserHost

inductive OutcomeStatus where
  | success
  | successWithWarnings
  | failure
  deriving DecidableEq, Repr, Inhabited

def OutcomeStatus.text : OutcomeStatus → String
  | success => "success"
  | successWithWarnings => "success-with-warnings"
  | failure => "failure"

structure Outcome where
  status : OutcomeStatus
  documents : List Document
  createdFiles : List CreatedFile
  messages : List Message
  /-- The failure of a failed run. -/
  error : Option RunError
  deriving Repr, Inhabited

namespace Outcome

def succeeded (o : Outcome) : Bool :=
  o.status != .failure

def exitCode (o : Outcome) : Int :=
  if o.succeeded then 0 else 1

def warnings (o : Outcome) : List Message :=
  o.messages.filter Message.isWarning

def errorText (o : Outcome) : Option String :=
  o.error.map RunError.message

def errorKind (o : Outcome) : Option String :=
  o.error.map RunError.kind

def failed (e : RunError) (messages : List Message) : Outcome :=
  ⟨.failure, [], [], messages, some e⟩

def classify (r : Response) (messages : List Message) : Outcome :=
  let errors := messages.filter Message.isError
  if errors.isEmpty then
    let status := if messages.any Message.isWarning then .successWithWarnings else .success
    ⟨status, r.documents, r.createdFiles, messages, none⟩
  else failed (.reported errors) messages

end Outcome

end ParserHost
