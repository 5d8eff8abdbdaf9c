import ParserHost.Files.Tree
import ParserHost.Glob.Wildcard

/-!
Selecting paths of a file tree by a glob pattern. A pattern is a list of steps, one for each of its
parts; `select` walks a tree along them. Two stars stand for any chain of directories, without
following links; all other steps follow links.
-/
namespace ParserHost.Glob

inductive Step where
  | anyDepth
  | wild (pattern : List Wild)
  | name (text : String)
  /-- The pattern ends with a slash: a directory is asked for. -/
  | directory
  deriving DecidableEq, Repr

inductive Refusal where
  | absolute
  | noParts
  | onlySlash
  | starsInPart
  deriving DecidableEq, Repr

def isWild (cs : List Char) : Bool :=
  cs.any fun c => c = '*' || c = '?' || c = '['

def stepOf (part : String) : Except Refusal Step :=
  if part = "**" then .ok .anyDepth
  else if Text.contains "**" part then .error .starsInPart
  else if isWild part.toList then .ok (.wild (parse part))
  else .ok (.name part)

def steps (pattern : String) : Except Refusal (List Step) := do
  let p := Path.parse pattern
  if p.isAbsolute then throw .absolute
  let slash := pattern.toList.getLast? = some '/'
  if p.parts.isEmpty then throw (if slash then .onlySlash else .noParts)
  let parts ← p.parts.mapM stepOf
  return if slash then parts ++ [.directory] else parts

/-- The directories at or below a location that are reached without links, as paths. -/
def directoriesFrom (t : FileTree) (here : Location) (p : Path) : List Path :=
  p :: t.nodes.filterMap fun (l, n) =>
    match n, Path.dropParts? here l with
    | .directory, some (part :: parts) => some ⟨p.root, p.parts ++ part :: parts⟩
    | _, _ => none

/-- The paths that steps lead to from a path whose real location is known. -/
def select (t : FileTree) : List Step → Path → List Path
  | [], p => [p]
  | .directory :: _, p => [p]
  | .anyDepth :: rest, p =>
    match t.stat p with
    | .ok (here, _) => (directoriesFrom t here p).flatMap (select t rest)
    | .error _ => []
  | .wild w :: rest, p =>
    match t.stat p with
    | .ok (here, _) => (t.children here).flatMap fun (name, _) =>
        if accepts w name.toList && (rest.isEmpty || t.isDirectory (p.child name)) then
          select t rest (p.child name)
        else []
    | .error _ => []
  | .name name :: rest, p =>
    let q := p.child name
    if (if rest.isEmpty then t.exists? q else t.isDirectory q) then select t rest q else []

/-- The paths that the system is asked about while steps are followed, those they lead to included. -/
def asked (t : FileTree) : List Step → Path → List Path
  | [], p => [p]
  | .directory :: _, p => [p]
  | .anyDepth :: rest, p =>
    match t.stat p with
    | .ok (here, _) => (directoriesFrom t here p).flatMap (asked t rest)
    | .error _ => []
  | .wild w :: rest, p =>
    match t.stat p with
    | .ok (here, _) =>
      let entries := t.children here
      (if rest.isEmpty then [] else entries.map fun (name, _) => p.child name) ++
        entries.flatMap fun (name, _) =>
          if accepts w name.toList && (rest.isEmpty || t.isDirectory (p.child name)) then
            asked t rest (p.child name)
          else []
    | .error _ => []
  | .name name :: rest, p =>
    let q := p.child name
    q :: if (if rest.isEmpty then t.exists? q else t.isDirectory q) then asked t rest q else []

/-- What keeps the system from following steps from a directory to their end. -/
def obstacle? (t : FileTree) (base : Path) (steps : List Step) : Option SystemError :=
  (base :: if t.isDirectory base then asked t steps base else []).findSome? t.unanswered?

/-- The paths below a directory that steps lead to; there are none below anything else. -/
def selected (t : FileTree) (base : Path) (steps : List Step) : List Path :=
  if t.isDirectory base then select t steps base else []

end ParserHost.Glob
