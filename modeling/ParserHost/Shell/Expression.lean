import ParserHost.Glob.Wildcard

/-!
Regular expressions with groups. `Expression.ofChars` reads one in the basic or the extended notation,
which differ in where a backslash stands, and `Expression.find?` looks for the first match in a text. A
repetition takes as much as it can.
-/
namespace ParserHost.Shell

inductive Expression where
  | nothing
  | any
  | char (c : Char)
  | set (negated : Bool) (members : List Glob.Interval)
  /-- The start of the text, and its end. -/
  | start
  | finish
  | group (n : Nat) (e : Expression)
  /-- The text of a group once more. -/
  | again (n : Nat)
  | sequence (a b : Expression)
  | either (a b : Expression)
  | many (e : Expression) (least : Nat) (most : Option Nat)
  deriving DecidableEq, Repr, Inhabited

namespace Expression

/-! ## Matching -/

structure Place where
  passed : Nat
  rest : List Char
  groups : List (Nat × List Char)
  deriving DecidableEq, Repr, Inhabited

/-- A way to go on from a place, given what is to follow. -/
abbrev Step := (Place → Option Place) → Place → Option Place

def takeChar (accepts : Char → Bool) : Step := fun follow p =>
  match p.rest with
  | c :: rest => if accepts c then follow ⟨p.passed + 1, rest, p.groups⟩ else none
  | [] => none

def takeText (same : Char → Char → Bool) : List Char → Step
  | [], follow, p => follow p
  | c :: cs, follow, p => takeChar (same c) (takeText same cs follow) p

/-- A step as often as possible, at least and at most so many times. A round that is not demanded has
to get on. -/
def repeated (step : Step) : Nat → Nat → Option Nat → Step
  | 0, _, _, follow, p => follow p
  | fuel + 1, least, most, follow, p =>
    if most = some 0 then follow p
    else
      let round := step (fun q =>
        if least = 0 && q.passed = p.passed then none
        else repeated step fuel (least - 1) (most.map (· - 1)) follow q) p
      if least = 0 then round.orElse fun _ => follow p else round

def sameChar (fold : Bool) (a b : Char) : Bool :=
  a = b || (fold && a.toLower = b.toLower)

def step (fold : Bool) : Expression → Step
  | nothing, follow, p => follow p
  | any, follow, p => takeChar (fun _ => true) follow p
  | char d, follow, p => takeChar (sameChar fold d) follow p
  | set negated members, follow, p =>
    let holds (c : Char) : Bool := members.any fun r => Glob.Interval.holds r c
    takeChar (fun c => negated != (holds c || (fold && (holds c.toLower || holds c.toUpper)))) follow p
  | start, follow, p => if p.passed = 0 then follow p else none
  | finish, follow, p => if p.rest.isEmpty then follow p else none
  | group n e, follow, p =>
    step fold e (fun q =>
      follow { q with groups := (n, p.rest.take (q.passed - p.passed)) :: q.groups }) p
  | again n, follow, p => takeText (sameChar fold) ((p.groups.lookup n).getD []) follow p
  | sequence a b, follow, p => step fold a (step fold b follow) p
  | either a b, follow, p => (step fold a follow p).orElse fun _ => step fold b follow p
  | many e least most, follow, p =>
    repeated (step fold e) (p.rest.length + least + 1) least most follow p

/-- What stands before a match, the match, what stands after it, and the groups. -/
structure Match where
  before : List Char
  found : List Char
  after : List Char
  groups : List (Nat × List Char)
  deriving DecidableEq, Repr, Inhabited

/-- The match at the start of a text of which some characters have been passed. -/
def matchHere? (fold : Bool) (e : Expression) (passed : Nat) (cs : List Char) : Option Match :=
  (step fold e some ⟨passed, cs, []⟩).map fun q =>
    ⟨[], cs.take (q.passed - passed), cs.drop (q.passed - passed), q.groups⟩

def findFrom (fold : Bool) (e : Expression) : Nat → List Char → Option Match
  | passed, [] => matchHere? fold e passed []
  | passed, c :: cs =>
    match matchHere? fold e passed (c :: cs) with
    | some m => some m
    | none => (findFrom fold e (passed + 1) cs).map fun m => { m with before := c :: m.before }

def find? (fold : Bool) (e : Expression) (cs : List Char) : Option Match :=
  findFrom fold e 0 cs

/-! ## Reading -/

inductive Mark where
  | atom (e : Expression)
  | opening
  | closing
  | bar
  | times (least : Nat) (most : Option Nat)
  deriving DecidableEq, Repr, Inhabited

def classes : List (String × List Glob.Interval) :=
  [("[:alpha:]", [('a', 'z'), ('A', 'Z')]), ("[:digit:]", [('0', '9')]),
    ("[:alnum:]", [('a', 'z'), ('A', 'Z'), ('0', '9')]), ("[:upper:]", [('A', 'Z')]),
    ("[:lower:]", [('a', 'z')]), ("[:space:]", [(' ', ' '), ('\t', '\r')]),
    ("[:blank:]", [(' ', ' '), ('\t', '\t')]), ("[:punct:]", [('!', '/'), (':', '@'), ('[', '\x60'),
      ('\x7b', '~')]), ("[:xdigit:]", [('0', '9'), ('a', 'f'), ('A', 'F')])]

/-- The intervals of a bracket up to its end, and what follows it. -/
def members : Nat → List Char → List Glob.Interval × List Char
  | 0, cs => ([], cs)
  | fuel + 1, cs =>
    match classes.findSome? fun (name, intervals) =>
        if name.toList.isPrefixOf cs then some (intervals, cs.drop name.length) else none with
    | some (intervals, rest) =>
      let (more, after) := members fuel rest
      (intervals ++ more, after)
    | none =>
      match cs with
      | [] => ([], [])
      | ']' :: rest => ([], rest)
      | a :: '-' :: b :: rest =>
        if b = ']' then ([(a, a), ('-', '-')], rest)
        else
          let (more, after) := members fuel rest
          ((a, b) :: more, after)
      | '\\' :: 'n' :: rest =>
        let (more, after) := members fuel rest
        (('\n', '\n') :: more, after)
      | a :: rest =>
        let (more, after) := members fuel rest
        ((a, a) :: more, after)

/-- The bracket after its opening; a closing one at its start does not end it. -/
def bracket (cs : List Char) : Expression × List Char :=
  let (negated, cs) := match cs with
    | '^' :: rest => (true, rest)
    | cs => (false, cs)
  let (first, cs) := match cs with
    | ']' :: rest => ([(']', ']')], rest)
    | cs => ([], cs)
  let (more, after) := members (cs.length + 1) cs
  (.set negated (first ++ more), after)

/-- The bounds of a repetition after the opening brace, and what follows the closing one. -/
def bounds (extended : Bool) (cs : List Char) : Mark × List Char :=
  let count (ds : List Char) : Nat := ds.foldl (fun n c => n * 10 + (c.toNat - '0'.toNat)) 0
  let (low, rest) := cs.span Char.isDigit
  let (most, rest) := match rest with
    | ',' :: rest =>
      let (high, rest) := rest.span Char.isDigit
      (if high.isEmpty then none else some (count high), rest)
    | rest => (some (count low), rest)
  (.times (count low) most, rest.drop (if extended then 1 else 2))

def wordIntervals : List Glob.Interval :=
  [('a', 'z'), ('A', 'Z'), ('0', '9'), ('_', '_')]

def escaped (c : Char) : Expression :=
  match c with
  | 'n' => .char '\n'
  | 't' => .char '\t'
  | 'w' => .set false wordIntervals
  | 'W' => .set true wordIntervals
  | 's' => .set false [(' ', ' '), ('\t', '\r')]
  | 'S' => .set true [(' ', ' '), ('\t', '\r')]
  | c => if c.isDigit && c != '0' then .again (c.toNat - '0'.toNat) else .char c

/-- The operator that a character is; in the basic notation a backslash stands in front of it. -/
def operator? (extended : Bool) (c : Char) (rest : List Char) : Option (Mark × List Char) :=
  match c with
  | '(' => some (.opening, rest)
  | ')' => some (.closing, rest)
  | '|' => some (.bar, rest)
  | '+' => some (.times 1 none, rest)
  | '?' => some (.times 0 (some 1), rest)
  | '\x7b' => some (bounds extended rest)
  | _ => none

def endsHere : List Char → Bool
  | [] => true
  | '\\' :: ')' :: _ | '\\' :: '|' :: _ => true
  | _ => false

/-- The marks of an expression; `first` says that a part of it starts here. -/
def marks (extended : Bool) : Nat → Bool → List Char → List Mark
  | 0, _, _ => []
  | _, _, [] => []
  | fuel + 1, first, c :: rest =>
    let atom (e : Expression) (rest : List Char) := Mark.atom e :: marks extended fuel false rest
    let sign (m : Mark) (rest : List Char) :=
      m :: marks extended fuel (m = .opening || m = .bar) rest
    match c, rest with
    | '\\', d :: rest =>
      match if extended then none else operator? false d rest with
      | some (m, rest) => sign m rest
      | none => atom (escaped d) rest
    | '.', rest => atom .any rest
    | '[', rest =>
      let (e, rest) := bracket rest
      atom e rest
    | '^', rest =>
      if extended || first then .atom .start :: marks extended fuel true rest
      else atom (.char '^') rest
    | '$', rest => atom (if extended || endsHere rest then .finish else .char '$') rest
    | '*', rest => if first then atom (.char '*') rest else sign (.times 0 none) rest
    | c, rest =>
      match if extended then operator? true c rest else none with
      | some (m, rest) => sign m rest
      | none => atom (.char c) rest

def withTimes (e : Expression) : List Mark → Expression × List Mark
  | .times least most :: rest => withTimes (.many e least most) rest
  | rest => (e, rest)

mutual
/-- Parts with bars between them; groups are counted from a number on. -/
def alternatives : Nat → Nat → List Mark → Expression × Nat × List Mark
  | 0, n, ms => (.nothing, n, ms)
  | fuel + 1, n, ms =>
    match row fuel n ms with
    | (e, n, .bar :: rest) =>
      let (other, n, after) := alternatives fuel n rest
      (.either e other, n, after)
    | found => found

def row : Nat → Nat → List Mark → Expression × Nat × List Mark
  | 0, n, ms => (.nothing, n, ms)
  | fuel + 1, n, ms =>
    match ms with
    | .atom e :: rest =>
      let (e, rest) := withTimes e rest
      let (more, n, after) := row fuel n rest
      (.sequence e more, n, after)
    | .opening :: rest =>
      let (inside, m, after) := alternatives fuel (n + 1) rest
      let after := match after with
        | .closing :: after => after
        | after => after
      let (e, rest) := withTimes (.group n inside) after
      let (more, n, after) := row fuel m rest
      (.sequence e more, n, after)
    | .times .. :: rest => row fuel n rest
    | ms => (.nothing, n, ms)
end

def ofChars (extended : Bool) (cs : List Char) : Expression :=
  let ms := marks extended (cs.length + 1) true cs
  (alternatives (2 * ms.length + 2) 1 ms).1

example : (((ofChars false "\\(a*\\)b\\1".toList).find? false "xaabaac".toList).map Match.found) =
    some "aabaa".toList := by decide +kernel
example : (((ofChars true "(a|bc)+$".toList).find? false "abca".toList).map Match.found) =
    some "abca".toList := by decide +kernel
example : ((ofChars false "x*".toList).find? false "ax".toList).map Match.before = some [] := by
  decide +kernel

end Expression

end ParserHost.Shell
