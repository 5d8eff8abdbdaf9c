import ParserHost.Launch.Plan
import ParserHost.Launch.Stream
import ParserHost.Run.Journal
import ParserHost.Run.Modules

/-!
Invocations: a parser is asked once, and its untyped response is collected. A workspace that was entered
is left again, whatever happens in it; one of which only a part could be made stays behind.
-/
namespace ParserHost

structure Invocation where
  payload : Json
  stderrMessages : List Message
  status : Option Int
  modules : List String
  deriving Repr, Inhabited

namespace Invocation

structure Context where
  host : Host
  handlers : Registry
  config : Config
  cwd : Path
  verbose : Bool
  timeout : Option Double

def decode (output : String) (status : Int) (suggestion : Option String) : Except Failure Json :=
  let text := Text.trim output
  let malformed (reason : String) : Except Failure Json :=
    .error (.run (.malformedResponse reason (some status) suggestion))
  if text.isEmpty then malformed "no response on standard output"
  else
    match Json.read text with
    | .ok v => .ok v
    | .error ⟨.within limit, _⟩ => .error (.fault (.beyond limit))
    | .error f => malformed s!"invalid JSON on standard output: {Modules.faultText f text}"

/-- The messages of lines; blank lines have none. -/
def messages (lines : List String) : List Message :=
  (lines.filter fun line => !Text.allBlank line).map Message.ofLine

/-- Asks a handler. One whose request has no payload counts as having failed, though it is not called. -/
def call (c : Context) (h : Handler) (request : Request) : Act Invocation :=
  let failed (f : HandlerFailure) : Act Invocation :=
    Act.fail (.run (.parserFailed c.config.parser.text f))
  match request.payload with
  | .error x => failed ⟨"ValueError", x.text⟩
  | .ok payload => do
    Act.note (.called payload c.cwd)
    match h.answer payload c.cwd with
    | .response v => return ⟨v, [], none, []⟩
    | .refused e => Act.fail (.run e)
    | .failed f => failed f

def startFailure (program : String) : Fault → Failure
  | .executableNotFound _ => .run (.parserNotFound program none)
  | .system e =>
    if e.errno = .noEntry then .run (.parserNotFound program none)
    else .run (.spawn program e.report)
  | f => .fault f

/-- Runs a command and takes up what it writes to standard error. -/
def stream (c : Context) (words : List String) (input : Option String) : Act Streamed :=
  fun t =>
    let program := words.headD ""
    match Executable.resolve t c.host (some c.cwd) words with
    | .error f => ⟨.error (startFailure program f), t, []⟩
    | .ok words =>
      match Streamed.start c.host words (some c.cwd) none input c.timeout t with
      | (.error f, t) => ⟨.error (startFailure program f), t, [.launched words]⟩
      | (.ok s, t) => ⟨.ok s, t, .launched words :: (messages s.errorLines).map .message⟩

/-- A process that came to an end by itself. -/
def finished (c : Context) (s : Streamed) : Except RunError Unit :=
  if s.timedOut || s.killed then
    .error (.aborted (s.words.headD "") (terminationText s.timedOut s.status c.timeout))
  else .ok ()

def suggestion (c : Context) (s : Streamed) : Option String :=
  if s.status = 0 then none else Toolchain.suggestion c.config.parser s.errors

/-- The sum of the modules that a process left; one that did not end well has to leave some. -/
def gather (c : Context) (mode : Mode) (directory : Path) (s : Streamed) (t : FileTree) :
    Except Failure Modules.Aggregate := do
  let names ← (Modules.names t directory).mapError fun e => .fault (.system e)
  if s.status != 0 && names.isEmpty then
    .error (.run (.malformedResponse "no module responses were written" (some s.status)
      (suggestion c s)))
  else Modules.aggregate t directory mode

def collectModules (c : Context) (mode : Mode) (directory : Path) (s : Streamed) :
    Act Invocation := do
  let found ← Act.read (gather c mode directory s)
  let listing := if found.modules.isEmpty then "[empty]" else Text.join ", " found.modules
  Act.log .debug s!"Aggregated parser output files: {listing}"
  return ⟨found.payload, messages s.errorLines, some s.status, found.modules⟩

def collectOutput (c : Context) (s : Streamed) : Act Invocation := do
  let v ← Act.lift (decode s.output s.status (suggestion c s))
  return ⟨v, messages s.errorLines, some s.status, []⟩

/-- The text for standard input; with files, the request is written to its file instead. -/
def deliver (w : Workspace) (transport : Transport) (text : String) : Act (Option String) :=
  match transport with
  | .pipes => pure (some text)
  | .files => do
    Act.change (w.writeRequest (text.toList.map Char.toNat))
    return none

def conclude (c : Context) (w : Workspace) (plan : Plan) (request : Request) (s : Streamed) :
    Act Invocation := do
  Act.refuse (finished c s)
  if s.inputUnread then
    Act.log .debug "Parser closed its standard input before reading the whole request"
  match plan.transport with
  | .pipes => collectOutput c s
  | .files =>
    let directory ← Act.lift (w.outputDir.mapError .fault)
    collectModules c request.mode directory s

def runCommand (c : Context) (w : Workspace) (plan : Plan) (request : Request) :
    Act Invocation := do
  let text ← Act.lift (request.serialized.mapError fun x => .fault (.unwritten x))
  let input ← deliver w plan.transport text
  let s ← stream c plan.words input
  conclude c w plan request s

def proceed (c : Context) (w : Workspace) (request : Request) : Plan → Act Invocation
  | .call h => call c h request
  | plan => runCommand c w plan request

def inside (c : Context) (request : Request) (w : Workspace) : Act Invocation := do
  let plan ← Act.read fun t =>
    Plan.ofConfig t c.handlers c.config c.cwd request.mode c.verbose w
  match plan.notice with
  | some text => Act.log .info text
  | none => pure ()
  Act.log .debug s!"Running parser: {plan.describe}"
  proceed c w request plan

def run (c : Context) (request : Request) : Act Invocation := do
  let w ← Act.change fun t =>
    match (Workspace.mk c.host.scratch none).enter t with
    | .ok (w, t) => (.ok w, t)
    | .error half => (.error half.fault, half.tree)
  (inside c request w).afterwards fun t => (w.leave t).2

end Invocation

end ParserHost
