import ParserHost.Text.Search

/-!
Wildcards inside one name or one text: a star for any text, a question mark for any character, a
bracket set for one of some characters. `parse` reads a pattern, `Wild.accepts` matches it against a
whole text.
-/
namespace ParserHost.Glob

/-- Characters from the first to the second, both included. -/
abbrev Interval := Char × Char

def Interval.holds (r : Interval) (c : Char) : Bool :=
  r.1.toNat ≤ c.toNat && c.toNat ≤ r.2.toNat

inductive Wild where
  | star
  | one
  | char (c : Char)
  | set (negated : Bool) (members : List Interval)
  deriving DecidableEq, Repr

/-! ## Bracket sets -/

/-- What a bracket holds, and what follows it. The first character, after a `!`, does not close. -/
def bracket? (cs : List Char) : Option (List Char × List Char) :=
  let (mark, rest) := match cs with
    | '!' :: rest => (['!'], rest)
    | rest => ([], rest)
  let (first, rest) := match rest with
    | ']' :: rest => ([']'], rest)
    | rest => ([], rest)
  let (body, tail) := rest.span (· != ']')
  match tail with
  | [] => none
  | _ :: after => some (mark ++ first ++ body, after)

/-- Cuts at the hyphens that stand for ranges. The first `skip` characters of a piece do not count:
a hyphen there is a character, as is one within two characters of the last cut. -/
def cutAtHyphens : Nat → List Char → List Char → List (List Char)
  | _, [], piece => [piece.reverse]
  | 0, '-' :: rest, piece => piece.reverse :: cutAtHyphens 2 rest []
  | 0, c :: rest, piece => cutAtHyphens 0 rest (c :: piece)
  | skip + 1, c :: rest, piece => cutAtHyphens skip rest (c :: piece)

/-- A piece that is empty at the end gives its hyphen to the piece before it. -/
def mendLast : List (List Char) → List (List Char)
  | [] => []
  | [piece] => [piece]
  | [piece, []] => [piece ++ ['-']]
  | piece :: rest => piece :: mendLast rest

/-- Joins two neighbouring pieces whose range is empty, without its ends. -/
def dropEmptyRange (piece : List Char) : List (List Char) → List (List Char)
  | [] => [piece]
  | next :: rest =>
    match piece.getLast?, next with
    | some low, high :: more =>
      if high.toNat < low.toNat then (piece.dropLast ++ more) :: rest else piece :: next :: rest
    | _, _ => piece :: next :: rest

def dropEmptyRanges : List (List Char) → List (List Char)
  | [] => []
  | piece :: rest => dropEmptyRange piece (dropEmptyRanges rest)

/-- A character of a bracket, or the hyphen between the ends of a range. -/
inductive Mark where
  | char (c : Char)
  | to

def marks : List (List Char) → List Mark
  | [] => []
  | [piece] => piece.map .char
  | piece :: rest => piece.map .char ++ .to :: marks rest

def intervals : List Mark → List Interval
  | [] => []
  | .char a :: .to :: .char b :: rest => (a, b) :: intervals rest
  | .char a :: rest => (a, a) :: intervals rest
  | .to :: rest => ('-', '-') :: intervals rest

/-- The set that the inside of a bracket stands for. What is left of it after empty ranges are
dropped decides whether it is negated; an empty negated set is any character. -/
def setOf (inside : List Char) : Wild :=
  let pieces :=
    if inside.contains '-' then
      let skip := if inside.head? = some '!' then 2 else 1
      dropEmptyRanges (mendLast (cutAtHyphens skip inside []))
    else [inside]
  match pieces with
  | [] => .set false []
  | ['!'] :: [] => .one
  | ('!' :: piece) :: rest => .set true (intervals (marks (piece :: rest)))
  | pieces => .set false (intervals (marks pieces))

/-! ## Patterns -/

/-- Reads a pattern; a bracket that is not closed stands for itself, and stars that follow each other
are one. Needs no more fuel than the pattern has characters. -/
def parseChars : Nat → List Char → List Wild
  | 0, _ => []
  | _, [] => []
  | fuel + 1, c :: rest =>
    if c = '*' then .star :: parseChars fuel (rest.dropWhile (· = '*'))
    else if c = '?' then .one :: parseChars fuel rest
    else if c = '[' then
      match bracket? rest with
      | some (inside, after) => setOf inside :: parseChars fuel after
      | none => .char '[' :: parseChars fuel rest
    else .char c :: parseChars fuel rest

def parse (pattern : String) : List Wild :=
  parseChars pattern.toList.length pattern.toList

/-- Whether a single wildcard that is no star accepts a character. -/
def Wild.acceptsChar : Wild → Char → Bool
  | star, _ => true
  | one, _ => true
  | char d, c => d = c
  | set negated members, c => negated != members.any fun r => Interval.holds r c

/-- Whether some end of a text, the whole of it included, is accepted. -/
def anyTail (p : List Char → Bool) : List Char → Bool
  | [] => p []
  | c :: rest => p (c :: rest) || anyTail p rest

def accepts : List Wild → List Char → Bool
  | [], cs => cs.isEmpty
  | .star :: rest, cs => anyTail (accepts rest) cs
  | _ :: _, [] => false
  | w :: rest, c :: cs => w.acceptsChar c && accepts rest cs

def matchesText (pattern text : String) : Bool :=
  accepts (parse pattern) text.toList

theorem anyTail_iff {p : List Char → Bool} {cs : List Char} :
    anyTail p cs = true ↔ ∃ before after, cs = before ++ after ∧ p after = true := by
  induction cs with
  | nil =>
    constructor
    · intro h
      exact ⟨[], [], rfl, h⟩
    · rintro ⟨b, a, hba, h⟩
      obtain ⟨rfl, rfl⟩ := List.nil_eq_append_iff.1 hba
      exact h
  | cons c rest ih =>
    simp only [anyTail, Bool.or_eq_true, ih]
    constructor
    · rintro (h | ⟨b, a, rfl, h⟩)
      · exact ⟨[], c :: rest, by simp, h⟩
      · exact ⟨c :: b, a, by simp, h⟩
    · rintro ⟨b, a, hba, h⟩
      cases b with
      | nil =>
        rw [List.nil_append] at hba
        exact .inl (hba ▸ h)
      | cons d b =>
        simp only [List.cons_append, List.cons.injEq] at hba
        exact .inr ⟨b, a, hba.2, h⟩

end ParserHost.Glob
