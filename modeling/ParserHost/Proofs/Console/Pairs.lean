import ParserHost.Console.Highlight

/-!
# Pairs in a text

A pair of a key and a value is what a pattern finds (`Pattern`, `pairs`): at the first place where it can match, in
the first way in which it can, and then again behind that (`Scan`). There is one way only to cut a text like this,
and it is how `pieces` cuts it (`scan_iff`).
-/

namespace ParserHost.Console

/-! ## Patterns -/

/-- What a pattern may take off the start of a text, with what it leaves, in the order in which a matcher that goes
back after a failure tries it. -/
abbrev Pattern := List Char → List (List Char × List Char)

namespace Pattern

def one (p : Char → Bool) : Pattern
  | [] => []
  | c :: rest => if p c then [([c], rest)] else []

def many (p : Char → Bool) : Pattern
  | [] => [([], [])]
  | c :: rest => (if p c then (many p rest).map fun (a, after) => (c :: a, after) else []) ++ [([], c :: rest)]

def few (p : Char → Bool) : Pattern
  | [] => [([], [])]
  | c :: rest => ([], c :: rest) :: if p c then (few p rest).map fun (a, after) => (c :: a, after) else []

def followedBy (first second : Pattern) : Pattern := fun cs =>
  (first cs).flatMap fun (a, rest) => (second rest).map fun (b, after) => (a ++ b, after)

def orElse (first second : Pattern) : Pattern := fun cs =>
  first cs ++ second cs

def several (p : Char → Bool) : Pattern :=
  (one p).followedBy (many p)

end Pattern

open Pattern

def isQuote (c : Char) : Bool :=
  c == '"'

def quotedText : Pattern :=
  (one isQuote).followedBy ((few (· != '\n')).followedBy (one isQuote))

def pairValue : Pattern :=
  quotedText.orElse (Pattern.several fun c => !Text.isBlank c)

def pairs (cs : List Char) : List (List Char × List Char × List Char) :=
  (Pattern.several isKeyChar cs).flatMap fun (key, rest) =>
    (one (· == '=') rest).flatMap fun (_, rest) =>
      (pairValue rest).map fun (v, after) => (key, v, after)

variable {p : Char → Bool} {cs rest before after key v : List Char}

/-- The first way takes all that it can, and any other leaves a character of the class. -/
theorem many_eq (p : Char → Bool) (cs : List Char) :
    ∃ shorter, many p cs = (cs.takeWhile p, cs.dropWhile p) :: shorter ∧
      ∀ way ∈ shorter, ∃ c more, way.2 = c :: more ∧ p c = true := by
  induction cs with
  | nil => exact ⟨[], rfl, by simp⟩
  | cons c rest ih =>
    by_cases fits : p c = true
    · obtain ⟨shorter, longest, left⟩ := ih
      refine ⟨shorter.map (fun (a, after) => (c :: a, after)) ++ [([], c :: rest)], ?_, ?_⟩
      · simp [many, fits, longest]
      · intro way member
        rcases List.mem_append.1 member with other | last
        · obtain ⟨way, earlier, rfl⟩ := List.mem_map.1 other
          exact left way earlier
        · rw [List.mem_singleton.1 last]
          exact ⟨c, rest, rfl, fits⟩
    · exact ⟨[], by simp [many, fits], by simp⟩

theorem several_of_nil (none : cs.takeWhile p = []) : Pattern.several p cs = [] := by
  cases cs with
  | nil => rfl
  | cons c rest =>
    have other : ¬ p c = true := by
      intro fits
      simp [fits] at none
    simp [Pattern.several, followedBy, one, other]

theorem several_of_ne_nil (found : cs.takeWhile p ≠ []) :
    ∃ shorter, Pattern.several p cs = (cs.takeWhile p, cs.dropWhile p) :: shorter ∧
      ∀ way ∈ shorter, ∃ c more, way.2 = c :: more ∧ p c = true := by
  cases cs with
  | nil => exact absurd rfl found
  | cons c rest =>
    have fits : p c = true := by
      cases fits : p c with
      | true => rfl
      | false => simp [fits] at found
    obtain ⟨shorter, longest, left⟩ := many_eq p rest
    refine ⟨shorter.map fun (a, after) => (c :: a, after), ?_, ?_⟩
    · simp [Pattern.several, followedBy, one, fits, longest]
    · intro way member
      obtain ⟨way, earlier, rfl⟩ := List.mem_map.1 member
      exact left way earlier

theorem head?_several (p : Char → Bool) (cs : List Char) : (Pattern.several p cs).head? =
    if (cs.takeWhile p).isEmpty then none else some (cs.takeWhile p, cs.dropWhile p) := by
  by_cases none : cs.takeWhile p = []
  · simp [none, several_of_nil]
  · obtain ⟨shorter, longest, -⟩ := several_of_ne_nil none
    simp [none, longest]

/-! ## The first way to match -/

theorem head?_closing (cs : List Char) :
    ((few (· != '\n')).followedBy (one isQuote) cs).head? = toQuote? cs := by
  induction cs with
  | nil => rfl
  | cons c rest ih =>
    by_cases quote : c = '"'
    · simp [followedBy, few, one, isQuote, toQuote?, quote]
    · by_cases newline : c = '\n'
      · simp [followedBy, few, one, isQuote, toQuote?, newline]
      · have later : (few (· != '\n')).followedBy (one isQuote) (c :: rest) =
            ((few (· != '\n')).followedBy (one isQuote) rest).map fun (a, after) => (c :: a, after) := by
          simp [followedBy, few, one, isQuote, quote, newline, List.flatMap_map, List.map_flatMap,
            Function.comp_def]
        rw [later, List.head?_map, ih]
        simp [toQuote?, quote, newline]

theorem head?_quotedText (rest : List Char) : (quotedText ('"' :: rest)).head? =
    (toQuote? rest).map fun (inside, after) => ('"' :: inside, after) := by
  rw [← head?_closing]
  simp [quotedText, followedBy, one, isQuote]

theorem quotedText_of_other (other : ∀ rest, cs ≠ '"' :: rest) : quotedText cs = [] := by
  cases cs with
  | nil => rfl
  | cons c rest =>
    have unquoted : c ≠ '"' := fun quote => other rest (quote ▸ rfl)
    simp [quotedText, followedBy, one, isQuote, unquoted]

theorem value_quote (rest : List Char) : value ('"' :: rest) =
    ((toQuote? rest).map fun (inside, after) => ('"' :: inside, after)).getD (toBlank ('"' :: rest)) := by
  rw [value]
  cases toQuote? rest <;> rfl

theorem value_of_other (other : ∀ rest, cs ≠ '"' :: rest) : value cs = toBlank cs := by
  unfold value
  split
  · next rest => exact absurd rfl (other rest)
  · rfl

theorem head?_pairValue (cs : List Char) :
    (pairValue cs).head? = if (value cs).1.isEmpty then none else some (value cs) := by
  have blank : (several (fun c => !Text.isBlank c) cs).head? =
      if (toBlank cs).1.isEmpty then none else some (toBlank cs) := head?_several _ _
  rw [pairValue, orElse, List.head?_append, blank]
  by_cases quoted : ∃ rest, cs = '"' :: rest
  · obtain ⟨rest, rfl⟩ := quoted
    rw [head?_quotedText, value_quote]
    cases toQuote? rest <;> rfl
  · have other : ∀ rest, cs ≠ '"' :: rest := fun rest quote => quoted ⟨rest, quote⟩
    rw [quotedText_of_other other, value_of_other other]
    rfl

theorem not_isKeyChar_equals : isKeyChar '=' = false := by decide +kernel

/-- A key is never cut short, since no equals sign comes inside of one. -/
theorem pairs_eq (found : cs.takeWhile isKeyChar ≠ []) : pairs cs =
    (one (· == '=') (cs.dropWhile isKeyChar)).flatMap fun (_, rest) =>
      (pairValue rest).map fun (v, after) => (cs.takeWhile isKeyChar, v, after) := by
  obtain ⟨shorter, longest, left⟩ := several_of_ne_nil found
  have useless : shorter.flatMap (fun (key, rest) => (one (· == '=') rest).flatMap fun (_, rest) =>
      (pairValue rest).map fun (v, after) => (key, v, after)) = [] := by
    rw [List.flatMap_eq_nil_iff]
    rintro ⟨key, rest⟩ member
    obtain ⟨c, more, rfl, inKey⟩ := left _ member
    have other : c ≠ '=' := by
      rintro rfl
      exact absurd inKey (by simp [not_isKeyChar_equals])
    simp [one, other]
  rw [pairs, longest, List.flatMap_cons, useless, List.append_nil]

theorem head?_pairs (cs : List Char) : (pairs cs).head? = pair? cs := by
  unfold pair?
  by_cases none : cs.takeWhile isKeyChar = []
  · rw [pairs, several_of_nil none]
    split <;> simp [none]
  · rw [pairs_eq none]
    split
    · next rest opened =>
      rw [opened]
      simp only [one, beq_self_eq_true, if_true, List.flatMap_singleton, List.head?_map, head?_pairValue]
      by_cases empty : (value rest).1.isEmpty = true <;> simp [none, empty]
    · next other =>
      cases left : cs.dropWhile isKeyChar with
      | nil => rfl
      | cons c more =>
        have unequal : c ≠ '=' := fun equal => other more (equal ▸ left)
        simp [one, unequal]

theorem pairs_eq_nil_iff : pairs cs = [] ↔ pair? cs = none := by
  rw [← head?_pairs, List.head?_eq_none_iff]

/-! ## The search -/

def Clear (before rest : List Char) : Prop :=
  ∀ b, b <:+ before → b ≠ [] → pairs (b ++ rest) = []

/-- A text cut at its pairs: up to the first place where one begins, and on behind it. -/
inductive Scan : List Char → List Piece → Prop
  | last {cs : List Char} (clear : Clear cs []) : Scan cs (plainPiece cs)
  | pair {before cs key v after : List Char} {ps : List Piece} (clear : Clear before cs)
      (first : (pairs cs).head? = some (key, v, after)) (more : Scan after ps) :
      Scan (before ++ cs) (plainPiece before ++ .pair key v :: ps)

theorem clear_nil (rest : List Char) : Clear [] rest :=
  fun _ suffix nonempty => absurd (List.suffix_nil.1 suffix) nonempty

theorem clear_cons {c : Char} : Clear (c :: before) rest ↔ pairs (c :: before ++ rest) = [] ∧ Clear before rest := by
  constructor
  · intro clear
    exact ⟨clear _ (List.suffix_refl _) (List.cons_ne_nil _ _),
      fun b suffix => clear b (suffix.trans (List.suffix_cons _ _))⟩
  · rintro ⟨here, later⟩ b suffix nonempty
    rcases List.suffix_cons_iff.1 suffix with rfl | further
    · exact here
    · exact later b further nonempty

inductive Search (cs : List Char) : List Char × Option (List Char × List Char × List Char) → Prop
  | nothing (clear : Clear cs []) : Search cs (cs, none)
  | pair {before rest : List Char} {found : List Char × List Char × List Char} (split : cs = before ++ rest)
      (clear : Clear before rest) (first : pair? rest = some found) : Search cs (before, some found)

/-- Where no pair begins at the start of a key, none begins further on in it. -/
theorem unpaired_of_cons {c : Char} (inKey : isKeyChar c = true) (unpaired : pair? (c :: rest) = none) :
    pair? rest = none := by
  unfold pair? at unpaired ⊢
  rw [List.dropWhile_cons_of_pos inKey, List.takeWhile_cons_of_pos inKey] at unpaired
  split
  · next more opened =>
    rw [opened] at unpaired
    cases empty : (value more).1.isEmpty with
    | true => simp [empty]
    | false => simp [empty] at unpaired
  · rfl

theorem search_findPair (inWord : Bool) (cs : List Char) (idle : inWord = true → pair? cs = none) :
    Search cs (findPair inWord cs) := by
  induction cs generalizing inWord with
  | nil => exact .nothing (clear_nil [])
  | cons c rest ih =>
    rw [findPair]
    split
    · next found here =>
      cases inWord with
      | true => cases here
      | false => exact .pair (List.nil_append _).symm (clear_nil _) here
    · next nowhere =>
      have unpaired : pair? (c :: rest) = none := by
        cases inWord with
        | true => exact idle rfl
        | false => exact nowhere
      have later := ih (isKeyChar c) fun inKey => unpaired_of_cons inKey unpaired
      generalize findPair (isKeyChar c) rest = ended at later
      cases later with
      | nothing clear =>
        refine .nothing (clear_cons.2 ⟨?_, clear⟩)
        rwa [List.append_nil, pairs_eq_nil_iff]
      | pair split clear first =>
        subst split
        exact .pair rfl (clear_cons.2 ⟨pairs_eq_nil_iff.2 unpaired, clear⟩) first

theorem scan_piecesFrom (fuel : Nat) (cs : List Char) (enough : cs.length ≤ fuel) :
    Scan cs (piecesFrom fuel cs) := by
  induction fuel generalizing cs with
  | zero =>
    obtain rfl := List.length_eq_zero_iff.1 (Nat.le_zero.1 enough)
    exact .last (clear_nil [])
  | succ fuel ih =>
    have searched := search_findPair false cs nofun
    rw [piecesFrom]
    generalize findPair false cs = ended at searched
    cases searched with
    | nothing clear => exact .last clear
    | @pair before rest found split clear first =>
      obtain ⟨key, v, after⟩ := found
      have parts := eq_of_pair? first
      have shorter : after.length ≤ fuel := by
        rw [split, parts] at enough
        simp only [List.length_append, List.length_cons] at enough
        omega
      subst split
      exact .pair clear ((head?_pairs _).trans first) (ih after shorter)

theorem scan_pieces (cs : List Char) : Scan cs (pieces cs) :=
  scan_piecesFrom _ cs (Nat.le_refl _)

theorem key_of_pair? (found : pair? cs = some (key, v, after)) : key = cs.takeWhile isKeyChar := by
  unfold pair? at found
  split at found
  · dsimp only at found
    split at found
    · cases found
    · simp only [Option.some.injEq, Prod.mk.injEq] at found
      exact found.1.symm
  · cases found

theorem isKeyChar_of_scan {ps : List Piece} (scan : Scan cs ps) (member : .pair key v ∈ ps) :
    ∀ c ∈ key, isKeyChar c = true := by
  have plain {text : List Char} : .pair key v ∉ plainPiece text := by
    cases text <;> simp [plainPiece]
  induction scan with
  | last => exact absurd member plain
  | pair _ first _ ih =>
    rw [List.mem_append, List.mem_cons] at member
    rcases member with between | here | later
    · exact absurd between plain
    · cases here
      rw [key_of_pair? ((head?_pairs _).symm.trans first)]
      exact List.all_eq_true.1 List.all_takeWhile
    · exact ih later

/-! ## One way only -/

theorem scan_cases {ps : List Piece} (scan : Scan cs ps) : (Clear cs [] ∧ ps = plainPiece cs) ∨
    ∃ before rest key v after more, cs = before ++ rest ∧ Clear before rest ∧
      (pairs rest).head? = some (key, v, after) ∧ Scan after more ∧
      ps = plainPiece before ++ .pair key v :: more := by
  cases scan with
  | last clear => exact .inl ⟨clear, rfl⟩
  | pair clear first more => exact .inr ⟨_, _, _, _, _, _, rfl, clear, first, more, rfl⟩

theorem pairs_ne_nil {found : List Char × List Char × List Char} (first : (pairs cs).head? = some found) :
    pairs cs ≠ [] := by
  rintro none
  simp [none] at first

theorem not_clear {found : List Char × List Char × List Char} (first : (pairs rest).head? = some found) :
    ¬ Clear (before ++ rest) [] := by
  intro clear
  have nonempty : rest ≠ [] := by
    rintro rfl
    cases first
  have none := clear rest (List.suffix_append before rest) nonempty
  rw [List.append_nil] at none
  exact pairs_ne_nil first none

/-- The first place where a pair begins is not behind another such place. -/
theorem clear_append {found : List Char × List Char × List Char} {extra : List Char}
    (clear : Clear (before ++ extra) rest) (first : (pairs (extra ++ rest)).head? = some found) : extra = [] := by
  by_cases here : extra = []
  · exact here
  · exact absurd (clear extra (List.suffix_append before extra) here) (pairs_ne_nil first)

theorem place_unique {before' rest' : List Char} {found found' : List Char × List Char × List Char}
    (clear : Clear before rest) (first : (pairs rest).head? = some found) (clear' : Clear before' rest')
    (first' : (pairs rest').head? = some found') (same : before ++ rest = before' ++ rest') :
    before = before' ∧ rest = rest' := by
  rcases List.append_eq_append_iff.1 same with ⟨extra, rfl, rfl⟩ | ⟨extra, rfl, rfl⟩
  · obtain rfl := clear_append clear' first
    simp
  · obtain rfl := clear_append clear first'
    simp

theorem scan_unique {ps ps' : List Piece} (scan : Scan cs ps) (scan' : Scan cs ps') : ps = ps' := by
  induction scan generalizing ps' with
  | last clear =>
    rcases scan_cases scan' with ⟨-, same⟩ | ⟨before, rest, key, v, after, more, rfl, -, first, -, -⟩
    · exact same.symm
    · exact absurd clear (not_clear first)
  | pair clear first _ ih =>
    rcases scan_cases scan' with ⟨clear', -⟩ | ⟨before, rest, key, v, after, more, same, clear', first', scan', rfl⟩
    · exact absurd clear' (not_clear first)
    · obtain ⟨rfl, rfl⟩ := place_unique clear first clear' first' same
      rw [first, Option.some.injEq, Prod.mk.injEq, Prod.mk.injEq] at first'
      obtain ⟨rfl, rfl, rfl⟩ := first'
      rw [ih scan']

theorem scan_iff {ps : List Piece} : Scan cs ps ↔ ps = pieces cs :=
  ⟨fun scan => scan_unique scan (scan_pieces cs), fun same => same ▸ scan_pieces cs⟩

end ParserHost.Console
