import ParserHost.Launch.Handler
import ParserHost.Launch.Toolchain
import ParserHost.Launch.Words
import ParserHost.Launch.Workspace

/-!
Plans, which say how a parser will be asked: by a call of its handler, or by a command of a known
toolchain or of the project's own. A command gets its request and gives its response through pipes,
or through the files of a workspace.
-/
namespace ParserHost

inductive InvocationKind where
  | inProcess
  | fixedCommand
  | customCommand
  deriving DecidableEq, Repr, Inhabited

def InvocationKind.text : InvocationKind → String
  | inProcess => "in-process"
  | fixedCommand => "fixed-command"
  | customCommand => "custom-command"

inductive Transport where
  | pipes
  | files
  deriving DecidableEq, Repr, Inhabited

def Transport.requestChannel : Transport → String
  | pipes => "stdin"
  | files => "file"

def Transport.outputChannel : Transport → String
  | pipes => "stdout"
  | files => "module-directory"

inductive Plan where
  | call (handler : Handler)
  /-- A fixed command. -/
  | fixed (words : List String) (transport : Transport)
  /-- The project's own command, with a notice that it is used. -/
  | custom (words : List String) (notice : String)

namespace Plan

def kind : Plan → InvocationKind
  | call _ => .inProcess
  | fixed .. => .fixedCommand
  | custom .. => .customCommand

def words : Plan → List String
  | call _ => []
  | fixed ws _ => ws
  | custom ws _ => ws

def transport : Plan → Transport
  | fixed _ transport => transport
  | _ => .pipes

def notice : Plan → Option String
  | custom _ notice => some notice
  | _ => none

def describe : Plan → String
  | call h => s!"in-process parser {h.name}"
  | fixed ws _ => Words.join ws
  | custom ws _ => Words.join ws

def ofCommand (command : Option String) : Except RunError Plan :=
  let raw := Text.trim (command.getD "")
  if raw.isEmpty then
    .error (.configuration
      ("No `parserCommand` specified in config. A command is required when using the `custom` " ++
        "parser."))
  else
    match Words.split raw with
    | .ok words => .ok (custom words s!"Using custom parser command: {raw}")
    | .error u =>
      .error (.configuration s!"Invalid `parserCommand` {Text.quote raw}: {u.text}")

def ofHandler (kind : ParserKind) (handlers : Registry) : Except RunError Plan :=
  match handlers.handler? kind with
  | some h => .ok (call h)
  | none =>
    .error (.parserNotFound kind.text
      (some "No in-process parser is registered for this parser kind"))

def ofGradle (t : FileTree) (c : Config) (cwd : Path) (mode : Mode) (verbose : Bool)
    (w : Workspace) : Except Failure Plan := do
  let wrapper ← Toolchain.wrapper t cwd c.gradleWrapperPath
  let requestFile ← w.requestFile.mapError .fault
  let outputDir ← w.outputDir.mapError .fault
  return fixed (Toolchain.composeCommand wrapper mode requestFile outputDir verbose) .files

def ofConfig (t : FileTree) (handlers : Registry) (c : Config) (cwd : Path) (mode : Mode)
    (verbose : Bool) (w : Workspace) : Except Failure Plan :=
  match c.parser with
  | .react | .html => (ofHandler c.parser handlers).mapError .run
  | .swift => .ok (fixed (Toolchain.swiftCommand cwd c.swiftPackagePath) .pipes)
  | .compose => ofGradle t c cwd mode verbose w
  | .custom => (ofCommand c.parserCommand).mapError .run
  | .unitTest => .ok (fixed Toolchain.unitTestCommand .pipes)

end Plan

end ParserHost
