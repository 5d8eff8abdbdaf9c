import ParserHost.Files.Path
import ParserHost.Files.SystemError
import ParserHost.Text.Utf8

/-!
A file tree as a value: a list of nodes, each under the parts of its real path. The root directory
is always there. Links are followed as the system does (`find`, at most 40 of them) and as far as
possible (`resolve`).

Main statements: a node that was set is there (`node?_set_self`), every other node is what it was
(`node?_set_of_ne`), and removing a directory removes what lies at or below it and nothing else
(`node?_remove`).
-/
namespace ParserHost

open Text.Utf8 (Bytes)

inductive Node where
  | file (content : Bytes) (executable : Bool)
  | directory
  | link (target : String)
  deriving DecidableEq, Repr, Inhabited

/-- The parts of a real path. -/
abbrev Location := List String

structure FileTree where
  nodes : List (Location × Node)
  deriving DecidableEq, Repr, Inhabited

namespace FileTree

def empty : FileTree := ⟨[]⟩

def lookup (at' : Location) : List (Location × Node) → Option Node
  | [] => none
  | (l, n) :: rest => if l = at' then some n else lookup at' rest

def node? (t : FileTree) (at' : Location) : Option Node :=
  if at' = [] then some .directory else lookup at' t.nodes

def setNode (at' : Location) (node : Node) : List (Location × Node) → List (Location × Node)
  | [] => [(at', node)]
  | (l, n) :: rest => if l = at' then (at', node) :: rest else (l, n) :: setNode at' node rest

def set (t : FileTree) (at' : Location) (node : Node) : FileTree :=
  ⟨setNode at' node t.nodes⟩

/-- Whether a location is a directory's own or lies below it. -/
def within (dir at' : Location) : Bool :=
  dir.isPrefixOf at'

def remove (t : FileTree) (dir : Location) : FileTree :=
  ⟨t.nodes.filter fun (l, _) => !within dir l⟩

def children (t : FileTree) (dir : Location) : List (String × Node) :=
  t.nodes.filterMap fun (l, n) =>
    match Path.dropParts? dir l with
    | some [name] => some (name, n)
    | _ => none

theorem lookup_setNode_self (at' : Location) (node : Node) (nodes : List (Location × Node)) :
    lookup at' (setNode at' node nodes) = some node := by
  induction nodes with
  | nil => simp [setNode, lookup]
  | cons e rest ih =>
    obtain ⟨l, n⟩ := e
    by_cases h : l = at' <;> simp [setNode, lookup, h, ih]

theorem lookup_setNode_of_ne {at' other : Location} (h : other ≠ at') (node : Node)
    (nodes : List (Location × Node)) :
    lookup other (setNode at' node nodes) = lookup other nodes := by
  induction nodes with
  | nil => simp [setNode, lookup, h.symm]
  | cons e rest ih =>
    obtain ⟨l, n⟩ := e
    by_cases hl : l = at'
    · subst hl; simp [setNode, lookup, h.symm]
    · simp [setNode, lookup, hl, ih]

theorem node?_set_self {t : FileTree} {at' : Location} (h : at' ≠ []) (node : Node) :
    (t.set at' node).node? at' = some node := by
  simp [node?, h, set, lookup_setNode_self]

theorem node?_set_of_ne {t : FileTree} {at' other : Location} (h : other ≠ at') (node : Node) :
    (t.set at' node).node? other = t.node? other := by
  simp [node?, set, lookup_setNode_of_ne h]

theorem node?_remove {t : FileTree} {dir at' : Location} (h : at' ≠ []) :
    (t.remove dir).node? at' = if within dir at' then none else t.node? at' := by
  simp only [node?, h, if_false, remove]
  induction t.nodes with
  | nil => simp [lookup]
  | cons e rest ih =>
    obtain ⟨l, n⟩ := e
    by_cases hw : within dir l
    · simp only [List.filter_cons, hw]
      by_cases hl : l = at'
      · subst hl; simpa [hw, lookup] using ih
      · simpa [lookup, hl] using ih
    · simp only [List.filter_cons, hw]
      by_cases hl : l = at'
      · subst hl; simp [hw, lookup]
      · simpa [lookup, hl] using ih

/-! ## Following links -/

/-- Where a walk along parts ends when it does not follow links. -/
inductive Stop where
  | found (at' : Location)
  /-- Only the last part is missing. -/
  | vacant (dir : Location) (name : String)
  | link (dir : Location) (target : String) (rest : List String)
  | failed (errno : Errno)

def nameLimit : Nat := 255

def advance (t : FileTree) (follow : Bool) (here : Location) : List String → Stop
  | [] => .found here
  | part :: rest =>
    if part = "" || part = "." then advance t follow here rest
    else if part = ".." then advance t follow here.dropLast rest
    else if nameLimit < part.utf8ByteSize then .failed .nameTooLong
    else
      let there := here ++ [part]
      match t.node? there with
      | none => if rest.isEmpty then .vacant here part else .failed .noEntry
      | some (.link target) =>
        if rest.isEmpty && !follow then .found there else .link here target rest
      | some .directory => advance t follow there rest
      | some (.file ..) => if rest.isEmpty then .found there else .failed .notDirectory

/-- A place that a path names: a node, or a free name in a directory. -/
inductive Place where
  | found (at' : Location)
  | vacant (dir : Location) (name : String)
  deriving DecidableEq, Repr

/-- The parts of a link's target. A slash at its end asks for a directory, as a dot there does. -/
def targetParts (target : String) : List String :=
  (Path.parse target).parts ++ if Text.endsWith "/" target || Text.endsWith "/." target then ["."] else []

/-- The place that parts name, seen from a directory, with at most the given number of links. -/
def findFrom (t : FileTree) (follow : Bool) : Nat → Location → List String → Except Errno Place
  | links, here, parts =>
    match advance t follow here parts with
    | .found at' => .ok (.found at')
    | .vacant dir name => .ok (.vacant dir name)
    | .failed e => .error e
    | .link dir target rest =>
      match links with
      | 0 => .error .linkLoop
      | links + 1 =>
        let start := if (Path.parse target).isAbsolute then [] else dir
        findFrom t follow links start (targetParts target ++ rest)

def linkLimit : Nat := 40

def find (t : FileTree) (follow : Bool) (p : Path) : Except Errno Place :=
  findFrom t follow linkLimit [] p.parts

/-- The node that an absolute path names, with where it really is. -/
def stat (t : FileTree) (p : Path) : Except Errno (Location × Node) :=
  match t.find true p with
  | .error e => .error e
  | .ok (.vacant ..) => .error .noEntry
  | .ok (.found at') =>
    match t.node? at' with
    | some n => .ok (at', n)
    | none => .error .noEntry

def hasNul (p : Path) : Bool :=
  p.parts.any fun part => part.toList.contains '\x00'

def isFile (t : FileTree) (p : Path) : Bool :=
  !hasNul p && match t.stat p with
    | .ok (_, .file ..) => true
    | _ => false

def isDirectory (t : FileTree) (p : Path) : Bool :=
  !hasNul p && match t.stat p with
    | .ok (_, .directory) => true
    | _ => false

def exists? (t : FileTree) (p : Path) : Bool :=
  !hasNul p && (t.stat p).toBool

/-- Why the system does not say whether there is something at a path. -/
def unanswered? (t : FileTree) (p : Path) : Option SystemError :=
  match t.stat p with
  | .error .nameTooLong => if hasNul p then none else some ⟨.nameTooLong, p.text⟩
  | _ => none

/-! ## Resolving -/

/-- A path as far as it could be resolved; when links run in a circle, the parts left over. -/
structure Resolved where
  parts : Location
  circular : Bool

/-- Resolves parts seen from a directory; `link` resolves the target of a link. -/
def resolveParts (t : FileTree) (link : Location → Location → String → Resolved)
    (here : Location) : List String → Resolved
  | [] => ⟨here, false⟩
  | part :: rest =>
    if part = "" || part = "." then resolveParts t link here rest
    else if part = ".." then resolveParts t link here.dropLast rest
    else
      match t.node? (here ++ [part]) with
      | some (.link target) =>
        let r := link here (here ++ [part]) target
        if r.circular then ⟨r.parts ++ rest, true⟩ else resolveParts t link r.parts rest
      | _ => resolveParts t link (here ++ [part]) rest

/-- Resolves a link that stands in a directory; `pending` are the links whose targets are being
resolved. -/
def resolveLink (t : FileTree) : Nat → List Location → Location → Location → String → Resolved
  | 0, _, _, self, _ => ⟨self, true⟩
  | fuel + 1, pending, here, self, target =>
    if pending.contains self then ⟨self, true⟩
    else
      let start := if (Path.parse target).isAbsolute then [] else here
      resolveParts t (resolveLink t fuel (self :: pending)) start (targetParts target)

/-- Parts without dots: a double dot takes away the part before it. -/
def normalize (parts : List String) : List String :=
  (parts.foldl (fun acc part =>
    if part = "" || part = "." then acc
    else if part = ".." then acc.drop 1
    else part :: acc) []).reverse

inductive Unresolved where
  | loop (file : String)
  | nul
  deriving DecidableEq, Repr

def resolve (t : FileTree) (p : Path) : Except Unresolved Path :=
  if hasNul p then .error .nul
  else
    let r := resolveParts t (resolveLink t (t.nodes.length + 1) []) [] p.parts
    let q := Path.absolute (normalize r.parts)
    match t.find true q with
    | .error .linkLoop => .error (.loop q.text)
    | _ => .ok q

/-! ## Reading and writing -/

def read (t : FileTree) (p : Path) : Except Errno Bytes :=
  match t.stat p with
  | .error e => .error e
  | .ok (_, .file content _) => .ok content
  | .ok _ => .error .isDirectory

/-- Writes a file through links; a new one is not executable. -/
def write (t : FileTree) (p : Path) (content : Bytes) : Except Errno FileTree :=
  match t.find true p with
  | .error e => .error e
  | .ok (.vacant dir name) => .ok (t.set (dir ++ [name]) (.file content false))
  | .ok (.found at') =>
    match t.node? at' with
    | some (.file _ executable) => .ok (t.set at' (.file content executable))
    | _ => .error .isDirectory

def makeDirectory (t : FileTree) (p : Path) : Except Errno FileTree :=
  match t.find false p with
  | .error e => .error e
  | .ok (.found _) => .error .exists
  | .ok (.vacant dir name) => .ok (t.set (dir ++ [name]) .directory)

/-- Makes a directory, and those above it if one of them is missing; a directory that is there already
is kept. The path is that from `base` to the given parts, of which the last comes first. -/
def makeDirectories (t : FileTree) (base : Path) (root : Root) :
    List String → Except SystemError FileTree
  | [] => .ok t
  | part :: above =>
    let written : Path := ⟨root, (part :: above).reverse⟩
    let p := base.join written
    let kept (t : FileTree) (e : Errno) : Except SystemError FileTree :=
      if t.isDirectory p then .ok t else .error ⟨e, written.text⟩
    match t.makeDirectory p with
    | .ok t => .ok t
    | .error .noEntry =>
      match makeDirectories t base root above with
      | .error e => .error e
      | .ok t =>
        match t.makeDirectory p with
        | .ok t => .ok t
        | .error e => kept t e
    | .error e => kept t e

end FileTree

end ParserHost
