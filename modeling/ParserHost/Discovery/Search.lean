import ParserHost.Discovery.Globs
import ParserHost.Exchange.Request
import ParserHost.Glob.Braces

/-!
Finding the files of a project: those that a pattern includes and none excludes, in the order of
their parts, each once; and the requests made from them.

Main statement: dropping repetitions from a list keeps its members (`mem_distinct`).
-/
namespace ParserHost.Discovery

/-- A list without items that equal the one before. -/
def distinct : List Path → List Path
  | [] => []
  | [p] => [p]
  | p :: q :: rest => if p = q then distinct (q :: rest) else p :: distinct (q :: rest)

theorem mem_distinct {ps : List Path} {p : Path} : p ∈ distinct ps ↔ p ∈ ps := by
  fun_induction distinct ps with
  | case1 => simp
  | case2 => simp
  | case3 a rest ih => simp [ih]
  | case4 a b rest h ih => simp [ih]

/-- What two stars and a slash at the start of a pattern may also stand for: nothing. -/
def anyDepth : String := "**/"

/-- Whether one of some patterns, in which a star also crosses slashes, excludes a path. -/
def isExcluded (patterns : List String) (relative : String) : Bool :=
  patterns.any fun p =>
    Glob.matchesText p relative ||
      (Text.startsWith anyDepth p && Glob.matchesText (Text.dropPrefix anyDepth p) relative)

/-- The patterns that some patterns stand for, without empty ones. -/
def expanded (patterns : List String) : List String :=
  (patterns.flatMap Glob.expand).filter fun p => !p.isEmpty

def isWanted (t : FileTree) (base : Path) (excluded : List String) (p : Path) : Bool :=
  t.isFile p && !isExcluded excluded (p.relativeTo? base |>.getD p).text

def wanted (t : FileTree) (base : Path) (excluded : List String) (pattern : String) :
    Except Fault (List Path) :=
  match Glob.steps pattern with
  | .error r => .error (.pattern r)
  | .ok steps =>
    match Glob.obstacle? t base steps with
    | some e => .error (.system e)
    | none => .ok ((Glob.selected t base steps).filter (isWanted t base excluded))

/-- The files below a directory without links in its path. -/
def filesBelow (t : FileTree) (base : Path) (included excluded : List String) :
    Except Fault (List Path) := do
  let excluded := excluded.flatMap Glob.expand
  let found ← (expanded included).mapM (wanted t base excluded)
  return distinct (found.flatten.mergeSort Path.le)

/-- The files below a directory that are included and not excluded. -/
def files (t : FileTree) (root : Path) (included excluded : List String) :
    Except Fault (List Path) :=
  match t.resolve root with
  | .error u => .error (.ofUnresolved u)
  | .ok base => filesBelow t base included excluded

def largeThreshold : Nat := 10000

def parseRequest (t : FileTree) (c : Config) (root : Path) (verbose : Bool) :
    Except Failure ParseRequest := do
  let (included, excluded) ← (Globs.ofConfig c).mapError .run
  let found ← (files t root included excluded).mapError .fault
  let config ← c.toRequest.mapError fun x => .fault (.unwritten x)
  return ⟨found.map Path.text, config, verbose⟩

structure Details where
  destinationFile : Option String
  sourceFilepath : Option String
  sourceExport : Option String
  propMapping : Option Json.Entries
  deriving Repr, Inhabited

def createRequest (t : FileTree) (c : Config) (component : Component) (destination : Path)
    (d : Details) (verbose : Bool) : Except Fault CreateRequest :=
  match t.resolve destination with
  | .error u => .error (.ofUnresolved u)
  | .ok dir =>
    match c.toRequest with
    | .error x => .error (.unwritten x)
    | .ok config =>
      .ok ⟨dir.text, component, config, d.destinationFile, d.sourceFilepath, d.sourceExport,
        d.propMapping, verbose⟩

end ParserHost.Discovery
