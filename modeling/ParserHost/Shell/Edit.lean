import ParserHost.Shell.Expression

/-!
Edits of lines by rules: a rule replaces what matches an expression, prints, drops or adds lines, and
can be meant for some lines only.
-/
namespace ParserHost.Shell.Edit

/-! ## Replacing -/

def unescape : Char → Char
  | 'n' => '\n'
  | 't' => '\t'
  | c => c

/-- A replacement with the match in place of each ampersand, and groups in place of their numbers. -/
def filled (m : Expression.Match) : List Char → List Char
  | [] => []
  | '\\' :: c :: rest =>
    (if c.isDigit then
      if c = '0' then m.found else (m.groups.lookup (c.toNat - '0'.toNat)).getD []
    else [unescape c]) ++ filled m rest
  | '&' :: rest => m.found ++ filled m rest
  | c :: rest => c :: filled m rest

structure Replacement where
  expression : Expression
  by' : List Char
  fold : Bool
  /-- The number of the first match that is replaced. -/
  which : Nat
  all : Bool
  prints : Bool
  deriving DecidableEq, Repr, Inhabited

/-- Replaces matches from a place on; `number` is that of the next match, and `lastEnd` says that a
match has just ended here. -/
def Replacement.from (r : Replacement) : Nat → Nat → Nat → Bool → List Char → List Char
  | 0, _, _, _, cs => cs
  | fuel + 1, number, passed, lastEnd, cs =>
    match r.expression.findFrom r.fold passed cs with
    | none => cs
    | some m =>
      let here := passed + m.before.length
      if m.found.isEmpty && lastEnd && m.before.isEmpty then
        match cs with
        | [] => []
        | c :: rest => c :: r.from fuel number (passed + 1) false rest
      else
        let counts := number = r.which || (r.all && r.which < number)
        let put := if counts then filled m r.by' else m.found
        let goesOn := r.all || number < r.which
        if !goesOn then m.before ++ put ++ m.after
        else if m.found.isEmpty then
          match m.after with
          | [] => m.before ++ put
          | c :: after => m.before ++ put ++ c :: r.from fuel (number + 1) (here + 1) false after
        else m.before ++ put ++ r.from fuel (number + 1) (here + m.found.length) true m.after

/-- The text after the replacement, if there is anything to replace. -/
def Replacement.apply? (r : Replacement) (cs : List Char) : Option (List Char) :=
  if (r.expression.find? r.fold cs).isSome then some (r.from (2 * cs.length + 2) 1 0 false cs)
  else none

/-! ## Rules -/

inductive Address where
  | line (n : Nat)
  | last
  | matching (e : Expression)
  deriving DecidableEq, Repr, Inhabited

inductive Scope where
  | every
  | one (a : Address)
  | between (a b : Address)
  deriving DecidableEq, Repr, Inhabited

inductive Action where
  | replace (r : Replacement)
  | exchange (old new : List Char)
  | print
  | drop
  | stop
  | number
  | insert (text : List Char)
  | append (text : List Char)
  | change (text : List Char)
  /-- Goes on with the next line, or adds it to this one. -/
  | next
  | join
  deriving DecidableEq, Repr, Inhabited

structure Rule where
  scope : Scope
  negated : Bool
  action : Action
  deriving DecidableEq, Repr, Inhabited

/-! ## Reading -/

/-- The text up to a character that is not escaped, and the rest. An escaped one loses its
backslash. -/
def upTo (stop : Char) : List Char → List Char × List Char
  | [] => ([], [])
  | '\\' :: c :: rest =>
    let (inside, after) := upTo stop rest
    (if c = stop then c :: inside else '\\' :: c :: inside, after)
  | c :: rest =>
    if c = stop then ([], rest)
    else
      let (inside, after) := upTo stop rest
      (c :: inside, after)

def count (ds : List Char) : Nat :=
  ds.foldl (fun n c => n * 10 + (c.toNat - '0'.toNat)) 0

def address? (extended : Bool) (cs : List Char) : Option (Address × List Char) :=
  match cs with
  | '$' :: rest => some (.last, rest)
  | '/' :: rest =>
    let (inside, after) := upTo '/' rest
    some (.matching (.ofChars extended inside), after)
  | cs =>
    let (digits, rest) := cs.span Char.isDigit
    if digits.isEmpty then none else some (.line (count digits), rest)

def isSpace (c : Char) : Bool :=
  c = ' ' || c = '\t'

def scope (extended : Bool) (cs : List Char) : Scope × List Char :=
  match address? extended cs with
  | none => (.every, cs)
  | some (a, ',' :: rest) =>
    match address? extended (rest.dropWhile isSpace) with
    | some (b, rest) => (.between a b, rest)
    | none => (.one a, ',' :: rest)
  | some (a, rest) => (.one a, rest)

/-- The text that a rule adds: what stands on its line or, after a backslash, on the next one. -/
def addedText (cs : List Char) : List Char × List Char :=
  let cs := match cs.dropWhile isSpace with
    | '\\' :: '\n' :: rest => rest
    | '\\' :: rest => rest
    | cs => cs
  let (text, after) := upTo '\n' cs
  (text.filter (· != '\\'), after)

def action? (extended : Bool) (cs : List Char) : Option (Action × List Char) :=
  match cs with
  | 's' :: stop :: rest =>
    let (written, after) := upTo stop rest
    let (by', after) := upTo stop after
    let (flags, after) := after.span fun c => c.isDigit || ['g', 'p', 'i', 'I'].contains c
    let digits := flags.filter Char.isDigit
    some (.replace {
      expression := .ofChars extended written
      by' := by'
      fold := flags.contains 'i' || flags.contains 'I'
      which := if digits.isEmpty then 1 else count digits
      all := flags.contains 'g'
      prints := flags.contains 'p' }, after)
  | 'y' :: stop :: rest =>
    let (old, after) := upTo stop rest
    let (new, after) := upTo stop after
    some (.exchange old new, after)
  | 'p' :: rest => some (.print, rest)
  | 'd' :: rest => some (.drop, rest)
  | 'q' :: rest => some (.stop, rest)
  | '=' :: rest => some (.number, rest)
  | 'n' :: rest => some (.next, rest)
  | 'N' :: rest => some (.join, rest)
  | c :: rest =>
    let (text, after) := addedText rest
    if c = 'i' then some (.insert text, after)
    else if c = 'a' then some (.append text, after)
    else if c = 'c' then some (.change text, after)
    else none
  | [] => none

def isBetween (c : Char) : Bool :=
  isSpace c || c = ';' || c = '\n'

def rules (extended : Bool) : Nat → List Char → Option (List Rule)
  | 0, _ => none
  | fuel + 1, cs =>
    match cs.dropWhile isBetween with
    | [] => some []
    | cs =>
      let (scope, after) := scope extended cs
      let after := after.dropWhile isSpace
      let negated := after.head? = some '!'
      let after := if negated then (after.drop 1).dropWhile isSpace else after
      match action? extended after with
      | some (action, after) => (rules extended fuel after).map (⟨scope, negated, action⟩ :: ·)
      | none => none

/-! ## Running -/

/-- The line that is edited, the lines after it, and what is to be printed. -/
structure Space where
  line : List Char
  number : Nat
  rest : List (List Char)
  /-- The lines printed so far, the last one first. -/
  printed : List (List Char)
  /-- The lines to print after this one, the last one first. -/
  appended : List (List Char)
  /-- The rules, by their place, whose range of lines is open. -/
  within : List Nat
  deriving DecidableEq, Repr, Inhabited

inductive Ending where
  | kept
  | dropped
  | stopped
  deriving DecidableEq, Repr, Inhabited

def Address.holds (a : Address) (s : Space) : Bool :=
  match a with
  | .line n => n = s.number
  | .last => s.rest.isEmpty
  | .matching e => (e.find? false s.line).isSome

def Address.isLater (a : Address) (s : Space) : Bool :=
  match a with
  | .line n => s.number < n
  | .last => !s.rest.isEmpty
  | .matching _ => true

def Scope.holds (scope : Scope) (place : Nat) (s : Space) : Bool × Space :=
  match scope with
  | every => (true, s)
  | one a => (a.holds s, s)
  | between a b =>
    if s.within.contains place then
      let ends : Bool := match b with
        | .line n => n ≤ s.number
        | b => b.holds s
      (true, if ends then { s with within := s.within.filter (· != place) } else s)
    else if a.holds s then
      (true, if b.isLater s then { s with within := place :: s.within } else s)
    else (false, s)

def Space.print (s : Space) (line : List Char) : Space :=
  { s with printed := line :: s.printed }

/-- Prints the line, unless the edit is quiet, and what was to follow it. -/
def Space.flush (s : Space) (quiet : Bool) : Space :=
  let s := if quiet then s else s.print s.line
  { s with printed := s.appended ++ s.printed, appended := [] }

def exchanged (old new : List Char) (c : Char) : Char :=
  match old.idxOf? c with
  | some n => (new[n]?).getD c
  | none => c

/-- Applies rules in their order, of which the first has a given place. -/
def apply (quiet : Bool) : Nat → List Rule → Space → Ending × Space
  | _, [], s => (.kept, s)
  | place, r :: rest, s =>
    let (holds, s) := r.scope.holds place s
    let goOn (s : Space) := apply quiet (place + 1) rest s
    if holds = r.negated then goOn s
    else
      match r.action with
      | .drop => (.dropped, s)
      | .stop => (.stopped, s)
      | .print => goOn (s.print s.line)
      | .number => goOn (s.print (toString s.number).toList)
      | .insert text => goOn (s.print text)
      | .append text => goOn { s with appended := text :: s.appended }
      | .change text => (.dropped, if s.within.contains place then s else s.print text)
      | .exchange old new => goOn { s with line := s.line.map (exchanged old new) }
      | .replace r =>
        match r.apply? s.line with
        | none => goOn s
        | some line =>
          let s := { s with line := line }
          goOn (if r.prints then s.print line else s)
      | .next =>
        match s.rest with
        | [] => (.stopped, s)
        | line :: more =>
          goOn { s.flush quiet with line := line, number := s.number + 1, rest := more }
      | .join =>
        match s.rest with
        | [] => (.stopped, s)
        | line :: more =>
          goOn { s with line := s.line ++ '\n' :: line, number := s.number + 1, rest := more }

/-- Edits one line after the other; each round takes at least one. -/
def editFrom (quiet : Bool) (rs : List Rule) : Nat → Space → List (List Char)
  | 0, s => s.printed
  | fuel + 1, s =>
    match s.rest with
    | [] => s.printed
    | line :: rest =>
      match apply quiet 0 rs { s with line := line, number := s.number + 1, rest := rest } with
      | (.kept, s) => editFrom quiet rs fuel (s.flush quiet)
      | (.dropped, s) => editFrom quiet rs fuel (s.flush true)
      | (.stopped, s) => (s.flush quiet).printed

/-- The lines after all edits; those that are kept are printed unless the edit is quiet. -/
def lines (quiet : Bool) (rs : List Rule) (given : List (List Char)) : List (List Char) :=
  (editFrom quiet rs given.length ⟨[], 0, given, [], [], []⟩).reverse

example : lines false ((rules false 99 "s/.*/\"&\"/".toList).getD []) ["ab".toList] =
    ["\"ab\"".toList] := by decide +kernel
example : lines true ((rules false 99 "2,3p".toList).getD []) (["a", "b", "c", "d"].map String.toList) =
    ["b".toList, "c".toList] := by decide +kernel

end ParserHost.Shell.Edit
