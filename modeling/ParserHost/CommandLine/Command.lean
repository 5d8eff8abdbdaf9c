import ParserHost.CommandLine.Arguments
import ParserHost.CommandLine.Inputs
import ParserHost.Console.Highlight
import ParserHost.Console.Reporter
import ParserHost.Json.Writer
import ParserHost.Run.Engine

/-!
The commands. A command writes its result to standard output and everything that is meant for the
user to standard error, and ends with a status.
-/
namespace ParserHost.CommandLine

inductive Stop where
  | exit (code : Int)
  | escaped (failure : Failure)
  deriving Repr, Inhabited

structure Screen where
  tree : FileTree
  output : String
  errors : String

abbrev Command := EStateM Stop Screen

namespace Command

def say (line : String) : Command Unit :=
  modify fun s => { s with output := s.output ++ line ++ "\n" }

def tell (text : String) : Command Unit :=
  modify fun s => { s with errors := s.errors ++ text }

def line (c : Common) (tone : Console.Tone) (text : String) : Command Unit :=
  tell (Console.lineText tone text c.emoji)

def debug (c : Common) (text : String) : Command Unit :=
  if c.verbose then tell (Console.printed (Console.highlighted text).plain) else pure ()

/-- Something that the command needs; a refusal ends it. -/
def need {α : Type} (c : Common) (found : FileTree → Except Refusal α) : Command α := do
  match found (← get).tree with
  | .ok a => return a
  | .error (.said text code) =>
    line c (.level .error) text
    throw (.exit code)
  | .error (.escaped f) => throw (.escaped f)

/-- A step of the engine; what it has to say is printed. -/
def perform {α : Type} (settings : Settings) (act : Act α) : Command α := do
  let s ← get
  let done := act s.tree
  set { s with tree := done.tree }
  tell (Reporter.print ⟨settings.verbose, settings.useEmoji⟩ done.journal)
  match done.result with
  | .ok a => return a
  | .error f => throw (.escaped f)

def failedText (verbose : Bool) (o : Outcome) : String :=
  let text := (RunError.given? o.errorText).getD "Parser run failed"
  if verbose then text
  else s!"{text}. Try re-running the command with --verbose for more information."

/-- Ends the command if a run failed. What the parser reported has been printed as it came. -/
def demandSuccess (c : Common) (o : Outcome) : Command Unit := do
  if !o.succeeded then
    match o.error with
    | some (.reported _) => line c (.level .error) RunError.encounteredNotice
    | _ => line c (.level .error) (failedText c.verbose o)
    throw (.exit o.exitCode)

/-- Writes a text to a file, whose directory is made if it is missing. -/
def write (h : Host) (file : Path) (text : String) : Command Unit := do
  let s ← get
  let fail (e : SystemError) : Command Unit := throw (.escaped (Fault.system e))
  if FileTree.hasNul file then throw (.escaped Fault.embeddedNul)
  match s.tree.makeDirectories h.directory file.root file.parent.parts.reverse with
  | .error e => fail e
  | .ok t =>
    set { s with tree := t }
    match t.write (h.absolute file) (Text.Utf8.encode text) with
    | .ok t => set { s with tree := t }
    | .error e => fail ⟨e, file.text⟩

/-- The payloads of documents, as the text that a command publishes. -/
def rendered (documents : List Document) : Except Json.Excess String := do
  Json.written Json.indented (.arr (← documents.mapM Document.payload))

def publish (h : Host) (a : ParseArguments) (documents : List Document) : Command Unit := do
  match rendered documents with
  | .error x => throw (.escaped (Fault.unwritten x))
  | .ok text =>
    match a.outfile.map Path.parse with
    | none => say text
    | some file =>
      write h file (text ++ "\n")
      line a.common .success s!"Wrote {file.text}"

def plural (n : Nat) : String :=
  if n = 1 then "" else "s"

/-- The engine of a command, which registers no handlers. -/
def engine (h : Host) (c : Config) (s : Settings) : Engine :=
  ⟨h, [], c, s, h.lookUp⟩

def parse (h : Host) (a : ParseArguments) : Command Unit := do
  let c := a.common
  let project ← need c fun t => projectDirectory h t (c.directory.map Path.parse)
  let file ← need c fun t => configFile h t project (c.config.map Path.parse)
  debug c s!"Loading project config config={file.text}"
  let config ← need c fun t => loadConfig t file
  let settings ← need c fun _ =>
    settings h project c.verbose c.emoji (a.timeout.map .float) a.label
  debug c s!"Parsing project dir={project.text} parser={config.parser.text}"
  let outcome ← perform settings (engine h config settings).parse
  demandSuccess c outcome
  publish h a outcome.documents
  let n := outcome.documents.length
  let summary := s!"Parsed {n} document{plural n}"
  let warnings := outcome.warnings.length
  if warnings = 0 then line c .success summary
  else line c (.level .warn) s!"{summary} with {warnings} warning(s)"

def create (h : Host) (a : CreateArguments) : Command Unit := do
  let c := a.common
  let project ← need c fun t => projectDirectory h t (c.directory.map Path.parse)
  let file ← need c fun t => configFile h t project (c.config.map Path.parse)
  debug c s!"Loading project config config={file.text}"
  let config ← need c fun t => loadConfig t file
  let settings ← need c fun _ => settings h project c.verbose c.emoji none none
  let component ← need c fun t => loadComponent h t (Path.parse a.component)
  let destination ← need c fun t =>
    (resolved h t ((a.outDir.map Path.parse).getD project)).mapError fun f => .escaped (.fault f)
  let outcome ← perform settings
    ((engine h config settings).create component destination ⟨a.outFile, none, none, none⟩)
  demandSuccess c outcome
  outcome.createdFiles.forM fun f => say f.filePath
  let n := outcome.createdFiles.length
  if n = 0 then line c (.level .warn) "Parser did not create any files"
  else line c .success s!"Created {n} file(s) for {component.name}"

end Command

structure Finished where
  exitCode : Int
  output : String
  errors : String
  /-- A failure that the command itself has no answer to. -/
  escaped : Option Failure
  tree : FileTree

def misuseCode : Int := 2

def usage : String :=
  Text.join "\n" [
    "parse [--dir DIR] [--config FILE] [--outfile FILE] [--label TEXT] [--timeout SECONDS]",
    "create COMPONENT_FILE [--dir DIR] [--config FILE] [--out-dir DIR] [--out-file NAME]",
    "both also take --verbose and --no-emoji; --version shows the version",
    ""]

def finish (c : Command Unit) (t : FileTree) : Finished :=
  match c ⟨t, "", ""⟩ with
  | .ok _ s => ⟨0, s.output, s.errors, none, s.tree⟩
  | .error (.exit code) s => ⟨code, s.output, s.errors, none, s.tree⟩
  | .error (.escaped f) s => ⟨1, s.output, s.errors, some f, s.tree⟩

def run (h : Host) (arguments : List String) (t : FileTree) : Finished :=
  match Wish.ofArguments arguments with
  | .parse a => finish (Command.parse h a) t
  | .create a => finish (Command.create h a) t
  | .version => finish (Command.say Settings.version) t
  | .help => ⟨0, usage, "", none, t⟩
  | .misuse => ⟨misuseCode, "", usage, none, t⟩

end ParserHost.CommandLine
