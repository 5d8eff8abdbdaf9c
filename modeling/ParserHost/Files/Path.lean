import ParserHost.Text.Search

/-!
Paths as lists of parts. A path is kept without empty parts and single dots; double dots stay, since
what they mean depends on links. `parse` and `text` go to and from the written form.
-/
namespace ParserHost

/-- Where a path starts. Exactly two slashes are a root of their own. -/
inductive Root where
  | relative
  | slash
  | twoSlashes
  deriving DecidableEq, Repr, Inhabited

structure Path where
  root : Root
  parts : List String
  deriving DecidableEq, Repr, Inhabited

namespace Path

def partsOf (cs : List Char) : List String :=
  ((Text.splitAt '/' cs).map String.ofList).filter fun part => part != "" && part != "."

def rootOf : List Char → Root
  | '/' :: '/' :: '/' :: _ => .slash
  | '/' :: '/' :: _ => .twoSlashes
  | '/' :: _ => .slash
  | _ => .relative

def parse (s : String) : Path :=
  ⟨rootOf s.toList, partsOf s.toList⟩

def rootText : Root → String
  | .relative => ""
  | .slash => "/"
  | .twoSlashes => "//"

def text (p : Path) : String :=
  match p.root, p.parts with
  | .relative, [] => "."
  | root, parts => rootText root ++ Text.join "/" parts

def isAbsolute (p : Path) : Bool :=
  p.root != .relative

def join (p q : Path) : Path :=
  if q.isAbsolute then q else ⟨p.root, p.parts ++ q.parts⟩

def child (p : Path) (name : String) : Path :=
  ⟨p.root, p.parts ++ [name]⟩

def parent (p : Path) : Path :=
  ⟨p.root, p.parts.dropLast⟩

def name (p : Path) : String :=
  p.parts.getLast?.getD ""

def absolute (parts : List String) : Path :=
  ⟨.slash, parts⟩

def dropParts? : List String → List String → Option (List String)
  | [], qs => some qs
  | _ :: _, [] => none
  | p :: ps, q :: qs => if p = q then dropParts? ps qs else none

def relativeTo? (p base : Path) : Option Path :=
  if p.root = base.root then (dropParts? base.parts p.parts).map (⟨.relative, ·⟩) else none

/-- What paths are sorted by: their root and their parts. -/
def key (p : Path) : List String :=
  match p.root with
  | .relative => p.parts
  | root => rootText root :: p.parts

def keyLe (a b : List String) : Bool :=
  !(decide (b < a))

def le (p q : Path) : Bool :=
  keyLe p.key q.key

theorem join_absolute {p q : Path} (h : q.isAbsolute = true) : p.join q = q := by
  simp [join, h]

theorem dropParts?_eq_some_iff {ps qs rest : List String} :
    dropParts? ps qs = some rest ↔ qs = ps ++ rest := by
  induction ps generalizing qs with
  | nil => simp [dropParts?, eq_comm]
  | cons p ps ih =>
    cases qs with
    | nil => simp [dropParts?]
    | cons q qs =>
      by_cases h : p = q
      · subst h; simp [dropParts?, ih]
      · simp [dropParts?, h, Ne.symm h]

end Path

end ParserHost
