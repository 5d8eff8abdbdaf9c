import ParserHost.Config.Settings
import ParserHost.Discovery.Search
import ParserHost.Links.Publication
import ParserHost.Run.Invocation
import ParserHost.Run.Outcome

/-!
The engine: one run makes a request, asks the parser, checks and deduplicates the response, and comes
to an outcome. Orderly failures become outcomes here; only faults get past this point.
-/
namespace ParserHost

abbrev RepositoryLookup :=
  Path → Option String → FileTree → Except Fault (Option Repository) × FileTree

def Host.lookUp (h : Host) : RepositoryLookup :=
  fun directory given t => Repository.detect (Repository.ask h) directory given t

structure Engine where
  host : Host
  handlers : Registry
  config : Config
  settings : Settings
  lookUp : RepositoryLookup

namespace Engine

def context (e : Engine) : Invocation.Context :=
  ⟨e.host, e.handlers, e.config, e.settings.cwd, e.settings.verbose, e.settings.timeout⟩

def validate (mode : Mode) (payload : Json) : Except RunError Response :=
  match (Response.check mode payload).toExcept with
  | .ok r => .ok r
  | .error vs => .error (.schema (Schema.Issue.ofReports (vs.map (Schema.Violation.report .value))))

def execute (e : Engine) (request : Request) : Act Response := do
  let found ← Invocation.run e.context request
  let response ← Act.refuse (validate request.mode found.payload)
  Act.notes (response.messages.map .message)
  return response.dedupe

def largeText (files : Nat) : String :=
  s!"Matching number of files was excessively large ({files}) - consider using more specific " ++
    "include/exclude globs in your config file."

/-- The label that replaces those of documents: that of the run, or else that of the project. -/
def label (e : Engine) : Option String :=
  (RunError.given? e.settings.label).orElse fun _ => RunError.given? e.config.label

/-- Documents as they are published. -/
def finalize (e : Engine) (documents : List Document) : Act (List Document) := do
  match e.label with
  | some label => Act.log .info s!"Using label \"{label}\""
  | none => pure ()
  Act.note (.lookedUp e.settings.cwd e.settings.repositoryUrl)
  let repository ← Act.change (e.lookUp e.settings.cwd e.settings.repositoryUrl)
  let stamp : Publication.Stamp :=
    ⟨e.settings.cwd, e.settings.cliVersion, repository, e.config.substitutions.getD [], e.label⟩
  Act.read fun t => (Publication.finalize t stamp documents).mapError .fault

/-- The request of a run that parses; many files are worth a warning. -/
def parseRequest (e : Engine) : Act ParseRequest := do
  let request ← Act.read fun t =>
    Discovery.parseRequest t e.config e.settings.cwd e.settings.verbose
  if Discovery.largeThreshold < request.paths.length then
    Act.log .warn (largeText request.paths.length)
  return request

def parse (e : Engine) : Act Outcome := do
  let (result, messages) ← Act.attempt do
    let request ← e.parseRequest
    e.execute (.parse request)
  match result with
  | .error err => return .failed err messages
  | .ok response =>
    let outcome := Outcome.classify response messages
    if outcome.succeeded then
      let documents ← e.finalize outcome.documents
      return { outcome with documents := documents }
    else return outcome

def create (e : Engine) (component : Component) (destination : Path)
    (details : Discovery.Details) : Act Outcome := do
  let (result, messages) ← Act.attempt do
    let request ← Act.read fun t =>
      (Discovery.createRequest t e.config component destination details
        e.settings.verbose).mapError .fault
    e.execute (.create request)
  match result with
  | .error err => return .failed err messages
  | .ok response => return .classify response messages

end Engine

end ParserHost
