import ParserHost.Config.Section
import ParserHost.Exchange.Request

/-!
The commands that start the parsers of the known toolchains, and hints for their known failures.
-/
namespace ParserHost.Toolchain

def unitTestCommand : List String :=
  ["node", "parser/unit_test_parser.js"]

def given? (p : Option String) : Option Path :=
  (p.filter fun s => !s.isEmpty).map Path.parse

/-- Runs the parser of a Swift package, which is the directory itself unless one is configured. -/
def swiftCommand (cwd : Path) (package : Option String) : List String :=
  let dir := match given? package with
    | some p => cwd.join p
    | none => cwd
  ["swift", "run", "--package-path", dir.text, "figma-swift"]

def wrapperName : String := "gradlew"

def wrapperHint : String :=
  "Could not find the location of the gradlew in your project. You can specify the location of " ++
    "your gradlew file with the `gradleWrapperPath` config option."

/-- Where the Gradle wrapper is expected; what is configured may be the script or its directory. -/
def expectedWrapper (t : FileTree) (cwd : Path) (configured : Option String) : Path :=
  match given? configured with
  | some p =>
    let candidate := cwd.join p
    if t.isDirectory candidate then candidate.child wrapperName else candidate
  | none => cwd.child wrapperName

def wrapper (t : FileTree) (cwd : Path) (configured : Option String) : Except Failure Path :=
  let candidate := expectedWrapper t cwd configured
  let asked := ((given? configured).map cwd.join).toList ++ [candidate]
  match asked.findSome? t.unanswered? with
  | some e => .error (.fault (.system e))
  | none =>
    if t.isFile candidate then
      (t.resolve candidate).mapError fun u => .fault (.ofUnresolved u)
    else .error (.run (.parserNotFound candidate.text (some wrapperHint)))

def task : Mode → String
  | .parse => "parseCodeConnect"
  | .create => "createCodeConnect"

/-- Runs the task of a Gradle project, which reads its request from a file and writes one response
for each module into a directory. -/
def composeCommand (wrapper : Path) (mode : Mode) (requestFile outputDir : Path) (verbose : Bool) :
    List String :=
  [wrapper.text, "-p", wrapper.parent.text, task mode, s!"-PfilePath={requestFile.text}"] ++
    (if verbose then ["--stacktrace"] else []) ++ [s!"-PoutputDir={outputDir.text}"]

def oldJavaMark : String :=
  "Incompatible because this component declares a component, compatible with Java 17 " ++
    "and the consumer needed a component"

def oldJavaHint : String :=
  "Code Connect requires a minimum java version of Java 17, please update JAVA_HOME to point to " ++
    "a Java version that is greater or equal to 17"

/-- A hint for a failed run, by what the parser wrote to standard error. -/
def suggestion (parser : ParserKind) (errors : String) : Option String :=
  if parser = .compose && Text.contains oldJavaMark errors then some oldJavaHint else none

end ParserHost.Toolchain
