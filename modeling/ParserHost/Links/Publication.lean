import ParserHost.Exchange.Document
import ParserHost.Links.Repository

/-!
What happens to documents before they are published: their nodes are substituted, their sources
become links, and they are stamped with a version and perhaps a label.
-/
namespace ParserHost.Publication

def isWebUrl (s : String) : Bool :=
  let lowered := String.ofList (Literal.lower s.toList)
  Text.startsWith "http://" lowered || Text.startsWith "https://" lowered

/-- Applies substitutions in order, each to the first occurrence of what it replaces. -/
def substitute (substitutions : List (String × String)) (node : String) : String :=
  substitutions.foldl (fun node (part, by') => Text.replaceFirst part by' node) node

/-- The source that is published: a link for a file of the repository, nothing for a file outside,
and the source itself if it is a link already or no repository is known. -/
def resolveSource (t : FileTree) (cwd : Path) (repository : Option Repository) (source : String) :
    Except Fault String :=
  match repository with
  | none => .ok source
  | some r =>
    if source.isEmpty || isWebUrl source then .ok source
    else r.fileUrl t (cwd.join (Path.parse source))

structure Stamp where
  cwd : Path
  cliVersion : String
  repository : Option Repository
  substitutions : List (String × String)
  label : Option String
  deriving Repr, Inhabited

def stampOne (t : FileTree) (s : Stamp) (d : Document) : Except Fault Document :=
  (resolveSource t s.cwd s.repository d.source).map fun source =>
    { d with
      figmaNode := substitute s.substitutions d.figmaNode
      label := (RunError.given? s.label).getD d.label
      source := source
      metadata := some ⟨s.cliVersion⟩ }

def finalize (t : FileTree) (s : Stamp) : List Document → Except Fault (List Document)
  | [] => .ok []
  | d :: rest =>
    match stampOne t s d with
    | .error f => .error f
    | .ok d => (finalize t s rest).map (d :: ·)

end ParserHost.Publication
