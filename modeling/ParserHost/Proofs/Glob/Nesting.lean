import Mathlib.Algebra.BigOperators.Group.List.Basic
import Mathlib.Computability.Language
import Mathlib.Data.List.Lex
import ParserHost.Proofs.Glob.Expansion

/-!
# Groups inside groups

Patterns whose braces are nested, as trees. What such a pattern expands to is found along its tree
(`expansions_text`): it is the language of the tree (`mem_words_iff`), and without groups in groups
it is one text for each choice of alternatives, in lexicographic order (`words_eq_fill`).
-/

namespace ParserHost.Glob

def isLiteral (inside : Bool) (c : Char) : Bool :=
  !isBrace c && !(inside && c = ',')

mutual

inductive Nested : Bool → Type
  | done {inside : Bool} : Nested inside
  | char {inside : Bool} (c : Char) (literal : isLiteral inside c = true) (rest : Nested inside) :
    Nested inside
  | group {inside : Bool} (choice : Alternatives) (rest : Nested inside) : Nested inside

inductive Alternatives : Type
  | last (a : Nested true)
  | more (a : Nested true) (others : Alternatives)

end

mutual

def Nested.text {inside : Bool} : Nested inside → List Char
  | .done => []
  | .char c _ rest => c :: rest.text
  | .group choice rest => '\x7b' :: choice.text ++ '\x7d' :: rest.text

def Alternatives.text : Alternatives → List Char
  | .last a => a.text
  | .more a others => a.text ++ ',' :: others.text

end

mutual

def Nested.language {inside : Bool} : Nested inside → Language Char
  | .done => 1
  | .char c _ rest => {[c]} * rest.language
  | .group choice rest => choice.language * rest.language

def Alternatives.language : Alternatives → Language Char
  | .last a => a.language
  | .more a others => a.language + others.language

end

mutual

/-- The texts of the language as they come up when inner groups are replaced first. -/
def Nested.words {inside : Bool} : Nested inside → List (List Char)
  | .done => [[]]
  | .char c _ rest => rest.words.map (c :: ·)
  | .group choice rest =>
    choice.readings.flatMap fun options => options.flatMap fun w => rest.words.map (w ++ ·)

def Alternatives.readings : Alternatives → List (List (List Char))
  | .last a => a.words.map fun w => [w]
  | .more a others => a.words.flatMap fun w => others.readings.map (w :: ·)

end

mutual

def Nested.depth {inside : Bool} : Nested inside → Nat
  | .done => 0
  | .char _ _ rest => rest.depth
  | .group choice rest => max (choice.depth + 1) rest.depth

def Alternatives.depth : Alternatives → Nat
  | .last a => a.depth
  | .more a others => max a.depth others.depth

end

/-! ## Words -/

theorem literal_of_inside {inside : Bool} {c : Char} (literal : isLiteral true c = true) :
    isLiteral inside c = true := by
  simp only [isLiteral, Bool.true_and, Bool.and_eq_true, Bool.not_eq_true'] at literal ⊢
  exact ⟨literal.1, by simp [literal.2]⟩

mutual

theorem Nested.literal_of_mem_words {inside : Bool} {T : Nested inside} {w : List Char}
    (member : w ∈ T.words) : ∀ c ∈ w, isLiteral inside c = true := by
  intro d within
  match T with
  | .done =>
    rw [List.mem_singleton.1 member] at within
    cases within
  | .char c literal rest =>
    obtain ⟨v, among, rfl⟩ := List.mem_map.1 member
    rcases List.mem_cons.1 within with rfl | within
    · exact literal
    · exact Nested.literal_of_mem_words among d within
  | .group choice rest =>
    obtain ⟨options, reading, member⟩ := List.mem_flatMap.1 member
    obtain ⟨u, chosen, member⟩ := List.mem_flatMap.1 member
    obtain ⟨v, among, rfl⟩ := List.mem_map.1 member
    rcases List.mem_append.1 within with within | within
    · exact literal_of_inside (Alternatives.literal_of_mem_readings reading u chosen d within)
    · exact Nested.literal_of_mem_words among d within

theorem Alternatives.literal_of_mem_readings {choice : Alternatives} {options : List (List Char)}
    (reading : options ∈ choice.readings) : ∀ w ∈ options, ∀ c ∈ w, isLiteral true c = true := by
  intro w member
  match choice with
  | .last a =>
    obtain ⟨u, among, rfl⟩ := List.mem_map.1 reading
    rw [List.mem_singleton.1 member]
    exact Nested.literal_of_mem_words among
  | .more a others =>
    obtain ⟨u, among, reading⟩ := List.mem_flatMap.1 reading
    obtain ⟨more, rest, rfl⟩ := List.mem_map.1 reading
    rcases List.mem_cons.1 member with rfl | member
    · exact Nested.literal_of_mem_words among
    · exact Alternatives.literal_of_mem_readings rest w member

end

theorem Alternatives.ne_nil_of_mem_readings {choice : Alternatives} {options : List (List Char)}
    (reading : options ∈ choice.readings) : options ≠ [] := by
  cases choice with
  | last a =>
    obtain ⟨u, -, rfl⟩ := List.mem_map.1 reading
    exact List.cons_ne_nil _ _
  | more a others =>
    obtain ⟨u, -, reading⟩ := List.mem_flatMap.1 reading
    obtain ⟨more, -, rfl⟩ := List.mem_map.1 reading
    exact List.cons_ne_nil _ _

theorem isBrace_of_literal {inside : Bool} {c : Char} (literal : isLiteral inside c = true) :
    isBrace c = false := by
  rw [isLiteral, Bool.and_eq_true, Bool.not_eq_true'] at literal
  exact literal.1

theorem ne_close_of_literal {inside : Bool} {c : Char} (literal : isLiteral inside c = true) :
    c ≠ '\x7d' := by
  rintro rfl
  exact absurd (isBrace_of_literal literal) (by decide)

theorem ne_comma_of_literal {c : Char} (literal : isLiteral true c = true) : c ≠ ',' := by
  rintro rfl
  exact absurd literal (by decide)

/-! ## Expansion along the tree -/

/-- The group of some alternatives without groups is replaced by each of them. -/
theorem expansions_options {options : List (List Char)} {before : List Char}
    (some_options : options ≠ [])
    (literal : ∀ w ∈ options, ∀ c ∈ w, isLiteral true c = true) (free : ¬ HasGroup before)
    (after : List Char) :
    expansions (before ++ '\x7b' :: [','].intercalate options ++ '\x7d' :: after) =
      options.flatMap fun w => expansions (before ++ w ++ after) := by
  have plain : ∀ c ∈ [','].intercalate options, isBrace c = false := by
    intro c member
    rcases Text.mem_intercalate member with rfl | ⟨w, among, within⟩
    · decide
    · exact isBrace_of_literal (literal w among c within)
  have cut : Text.splitAt ',' ([','].intercalate options) = options :=
    Text.splitAt_intercalate some_options fun w among member =>
      ne_comma_of_literal (literal w among _ member) rfl
  rw [expansions_of_group (group?_of_free free plain after), cut]

mutual

/-- Behind a text without groups, a pattern expands along its tree, whatever follows. -/
theorem Nested.expansions_between {inside : Bool} (T : Nested inside) {before : List Char}
    (free : ¬ HasGroup before) (after : List Char) :
    expansions (before ++ T.text ++ after) =
      T.words.flatMap fun w => expansions (before ++ w ++ after) := by
  match T with
  | .done => simp [Nested.text, Nested.words]
  | .char c literal rest =>
    have later := rest.expansions_between
      (not_hasGroup_snoc free (ne_close_of_literal literal)) after
    simpa [Nested.text, Nested.words, List.flatMap_map] using later
  | .group choice rest =>
    -- inside the group first: its brace is still open, so the text in front has no group yet
    have opened : ¬ HasGroup (before ++ ['\x7b']) := not_hasGroup_snoc free (by decide)
    have outer : ∀ options ∈ choice.readings,
        expansions (before ++ '\x7b' :: [','].intercalate options ++ '\x7d' :: (rest.text ++ after)) =
          options.flatMap fun w =>
            rest.words.flatMap fun v => expansions (before ++ w ++ v ++ after) := by
      intro options reading
      have literal := choice.literal_of_mem_readings reading
      rw [expansions_options (choice.ne_nil_of_mem_readings reading) literal free]
      refine List.flatMap_congr fun w chosen => ?_
      rw [← List.append_assoc]
      refine rest.expansions_between (not_hasGroup_append free fun closing => ?_) after
      exact ne_close_of_literal (literal w chosen _ closing) rfl
    calc expansions (before ++ (Nested.group choice rest).text ++ after)
      _ = choice.readings.flatMap fun options => expansions
            (before ++ '\x7b' :: [','].intercalate options ++ '\x7d' :: (rest.text ++ after)) := by
        have inner := choice.expansions_between opened ('\x7d' :: (rest.text ++ after))
        simpa [Nested.text] using inner
      _ = choice.readings.flatMap fun options => options.flatMap fun w =>
            rest.words.flatMap fun v => expansions (before ++ w ++ v ++ after) :=
        List.flatMap_congr outer
      _ = _ := by
        simp [Nested.words, List.flatMap_assoc, List.flatMap_map]

theorem Alternatives.expansions_between (choice : Alternatives) {before : List Char}
    (free : ¬ HasGroup before) (after : List Char) :
    expansions (before ++ choice.text ++ after) =
      choice.readings.flatMap fun options =>
        expansions (before ++ [','].intercalate options ++ after) := by
  match choice with
  | .last a =>
    have alone := a.expansions_between free after
    simpa [Alternatives.text, Alternatives.readings, List.flatMap_map] using alone
  | .more a others =>
    have later : ∀ w ∈ a.words, expansions (before ++ w ++ ',' :: (others.text ++ after)) =
        others.readings.flatMap fun options =>
          expansions (before ++ [','].intercalate (w :: options) ++ after) := by
      intro w among
      have closed_later : '\x7d' ∉ w ++ [','] := by
        intro closing
        rcases List.mem_append.1 closing with closing | closing
        · exact ne_close_of_literal (a.literal_of_mem_words among _ closing) rfl
        · exact absurd closing (by decide)
      have next := others.expansions_between (not_hasGroup_append free closed_later) after
      rw [← List.append_assoc before w [',']] at next
      rw [List.append_cons, ← List.append_assoc, next]
      refine List.flatMap_congr fun options reading => ?_
      rw [List.intercalate_cons_of_ne_nil (others.ne_nil_of_mem_readings reading)]
      simp only [List.append_assoc]
    calc expansions (before ++ (Alternatives.more a others).text ++ after)
      _ = a.words.flatMap fun w => expansions (before ++ w ++ ',' :: (others.text ++ after)) := by
        have first := a.expansions_between free (',' :: (others.text ++ after))
        simpa [Alternatives.text] using first
      _ = a.words.flatMap fun w => others.readings.flatMap fun options =>
            expansions (before ++ [','].intercalate (w :: options) ++ after) :=
        List.flatMap_congr later
      _ = _ := by
        simp [Alternatives.readings, List.flatMap_assoc, List.flatMap_map]

end

theorem Nested.expansions_text {inside : Bool} (T : Nested inside) :
    expansions T.text = T.words := by
  have along : expansions ([] ++ T.text ++ []) = T.words.flatMap fun w => expansions ([] ++ w ++ []) :=
    T.expansions_between (not_hasGroup_of_not_mem (by simp)) []
  have alone : ∀ w ∈ T.words, expansions ([] ++ w ++ []) = [w] := by
    intro w member
    have closed : '\x7d' ∉ w := fun closing =>
      ne_close_of_literal (T.literal_of_mem_words member _ closing) rfl
    rw [List.nil_append, List.append_nil, expansions_of_free (not_hasGroup_of_not_mem closed)]
  rw [List.flatMap_congr alone, List.flatMap_singleton'] at along
  simpa using along

/-! ## Languages -/

mutual

theorem Nested.words_ne_nil {inside : Bool} (T : Nested inside) : T.words ≠ [] := by
  match T with
  | .done => exact List.cons_ne_nil _ _
  | .char c _ rest =>
    simpa [Nested.words] using rest.words_ne_nil
  | .group choice rest =>
    obtain ⟨options, reading⟩ := List.exists_mem_of_ne_nil _ choice.readings_ne_nil
    obtain ⟨w, chosen⟩ := List.exists_mem_of_ne_nil _ (choice.ne_nil_of_mem_readings reading)
    obtain ⟨v, member⟩ := List.exists_mem_of_ne_nil _ rest.words_ne_nil
    have found : w ++ v ∈ (Nested.group choice rest).words :=
      List.mem_flatMap.2 ⟨options, reading,
        List.mem_flatMap.2 ⟨w, chosen, List.mem_map.2 ⟨v, member, rfl⟩⟩⟩
    exact List.ne_nil_of_mem found

theorem Alternatives.readings_ne_nil (choice : Alternatives) : choice.readings ≠ [] := by
  match choice with
  | .last a => simpa [Alternatives.readings] using a.words_ne_nil
  | .more a others =>
    obtain ⟨w, member⟩ := List.exists_mem_of_ne_nil _ a.words_ne_nil
    obtain ⟨options, reading⟩ := List.exists_mem_of_ne_nil _ others.readings_ne_nil
    have found : w :: options ∈ (Alternatives.more a others).readings :=
      List.mem_flatMap.2 ⟨w, member, List.mem_map.2 ⟨options, reading, rfl⟩⟩
    exact List.ne_nil_of_mem found

end

mutual

theorem Nested.mem_words_iff {inside : Bool} {T : Nested inside} {w : List Char} :
    w ∈ T.words ↔ w ∈ T.language := by
  match T with
  | .done => rw [Nested.words, Nested.language, List.mem_singleton, Language.mem_one]
  | .char c _ rest =>
    rw [Nested.words, Nested.language, List.mem_map, Language.mem_mul]
    constructor
    · rintro ⟨v, among, rfl⟩
      exact ⟨[c], rfl, v, rest.mem_words_iff.1 among, rfl⟩
    · rintro ⟨u, rfl, v, among, rfl⟩
      exact ⟨v, rest.mem_words_iff.2 among, rfl⟩
  | .group choice rest =>
    rw [Nested.words, Nested.language, Language.mem_mul]
    constructor
    · intro member
      obtain ⟨options, reading, member⟩ := List.mem_flatMap.1 member
      obtain ⟨u, chosen, member⟩ := List.mem_flatMap.1 member
      obtain ⟨v, among, joined⟩ := List.mem_map.1 member
      exact ⟨u, choice.mem_readings_iff.1 ⟨options, reading, chosen⟩, v,
        rest.mem_words_iff.1 among, joined⟩
    · rintro ⟨u, chosen, v, among, joined⟩
      obtain ⟨options, reading, chosen⟩ := choice.mem_readings_iff.2 chosen
      exact List.mem_flatMap.2 ⟨options, reading, List.mem_flatMap.2
        ⟨u, chosen, List.mem_map.2 ⟨v, rest.mem_words_iff.2 among, joined⟩⟩⟩

theorem Alternatives.mem_readings_iff {choice : Alternatives} {w : List Char} :
    (∃ options ∈ choice.readings, w ∈ options) ↔ w ∈ choice.language := by
  match choice with
  | .last a =>
    rw [Alternatives.language, ← a.mem_words_iff]
    simp [Alternatives.readings]
  | .more a others =>
    rw [Alternatives.language, Language.mem_add, ← a.mem_words_iff, ← others.mem_readings_iff]
    constructor
    · rintro ⟨options, reading, chosen⟩
      obtain ⟨u, among, reading⟩ := List.mem_flatMap.1 reading
      obtain ⟨more, rest, rfl⟩ := List.mem_map.1 reading
      rcases List.mem_cons.1 chosen with rfl | chosen
      · exact .inl among
      · exact .inr ⟨more, rest, chosen⟩
    · rintro (among | ⟨more, rest, chosen⟩)
      · obtain ⟨more, rest⟩ := List.exists_mem_of_ne_nil _ others.readings_ne_nil
        exact ⟨w :: more, List.mem_flatMap.2 ⟨w, among, List.mem_map.2 ⟨more, rest, rfl⟩⟩, .head _⟩
      · obtain ⟨u, among⟩ := List.exists_mem_of_ne_nil _ a.words_ne_nil
        exact ⟨u :: more, List.mem_flatMap.2 ⟨u, among, List.mem_map.2 ⟨more, rest, rfl⟩⟩,
          .tail _ chosen⟩

end

/-! ## Balanced texts -/

def isBalanced : Nat → List Char → Bool
  | depth, [] => depth = 0
  | depth, c :: cs =>
    if c = '\x7b' then isBalanced (depth + 1) cs
    else if c = '\x7d' then 0 < depth && isBalanced (depth - 1) cs
    else isBalanced depth cs

theorem isBalanced_of_literal {inside : Bool} {c : Char} (literal : isLiteral inside c = true)
    (depth : Nat) (cs : List Char) : isBalanced depth (c :: cs) = isBalanced depth cs := by
  have plain := isBrace_of_literal literal
  simp only [isBrace, Bool.or_eq_false_iff, decide_eq_false_iff_not] at plain
  rw [isBalanced, if_neg plain.1, if_neg plain.2]

mutual

theorem Nested.isBalanced_text {inside : Bool} (T : Nested inside) (depth : Nat)
    (after : List Char) : isBalanced depth (T.text ++ after) = isBalanced depth after := by
  match T with
  | .done => rfl
  | .char c literal rest =>
    rw [Nested.text, List.cons_append, isBalanced_of_literal literal, rest.isBalanced_text]
  | .group choice rest =>
    have inner := choice.isBalanced_text (depth + 1) ('\x7d' :: (rest.text ++ after))
    simpa [Nested.text, isBalanced, rest.isBalanced_text] using inner

theorem Alternatives.isBalanced_text (choice : Alternatives) (depth : Nat) (after : List Char) :
    isBalanced depth (choice.text ++ after) = isBalanced depth after := by
  match choice with
  | .last a => exact a.isBalanced_text depth after
  | .more a others =>
    rw [Alternatives.text, List.append_assoc, a.isBalanced_text, List.cons_append]
    simpa [isBalanced] using others.isBalanced_text depth after

end

inductive Closing : Nat → List Char → Prop
  | done (T : Nested false) : Closing 0 T.text
  | close {depth : Nat} {cs : List Char} (choice : Alternatives) :
    Closing depth cs → Closing (depth + 1) (choice.text ++ '\x7d' :: cs)

namespace Alternatives

def mapFirst (f : Nested true → Nested true) : Alternatives → Alternatives
  | .last a => .last (f a)
  | .more a others => .more (f a) others

theorem text_mapFirst {f : Nested true → Nested true} {w : List Char}
    (adds : ∀ a, (f a).text = w ++ a.text) (choice : Alternatives) :
    (choice.mapFirst f).text = w ++ choice.text := by
  cases choice with
  | last a => exact adds a
  | more a others => simp [mapFirst, text, adds]

end Alternatives

namespace Closing

variable {depth : Nat} {cs : List Char}

theorem group (closing : Closing depth cs) (choice : Alternatives) :
    Closing depth ('\x7b' :: choice.text ++ '\x7d' :: cs) := by
  cases closing with
  | done T => exact .done (.group choice T)
  | close first closing =>
    have adds : ∀ a : Nested true,
        (Nested.group choice a).text = ('\x7b' :: choice.text ++ ['\x7d']) ++ a.text := by
      intro a
      simp [Nested.text]
    have closed := close (first.mapFirst (.group choice)) closing
    rw [first.text_mapFirst adds] at closed
    simpa using closed

theorem char (closing : Closing depth cs) {c : Char} (plain : isBrace c = false) :
    Closing depth (c :: cs) := by
  cases closing with
  | done T => exact .done (.char c (by simp [isLiteral, plain]) T)
  | close first closing =>
    -- a comma ends an alternative that is empty so far
    by_cases comma : c = ','
    · subst comma
      exact close (.more .done first) closing
    · have literal : isLiteral true c = true := by simp [isLiteral, plain, comma]
      have adds : ∀ a, (Nested.char c literal a).text = [c] ++ a.text := fun _ => rfl
      have closed := close (first.mapFirst (.char c literal)) closing
      rw [first.text_mapFirst adds] at closed
      exact closed

end Closing

theorem closing_of_isBalanced {depth : Nat} {cs : List Char}
    (balanced : isBalanced depth cs = true) : Closing depth cs := by
  -- what follows is a tree already; the next character goes in front of its innermost open group
  induction cs generalizing depth with
  | nil =>
    obtain rfl : depth = 0 := by simpa [isBalanced] using balanced
    exact .done .done
  | cons c cs ih =>
    rw [isBalanced] at balanced
    split at balanced
    · next opening =>
      subst opening
      cases ih balanced with
      | close choice closing => exact closing.group choice
    · next other =>
      split at balanced
      · next closing =>
        subst closing
        rw [Bool.and_eq_true, decide_eq_true_eq] at balanced
        obtain ⟨deep, balanced⟩ := balanced
        obtain ⟨above, rfl⟩ := Nat.exists_eq_succ_of_ne_zero deep.ne'
        exact .close (.last .done) (ih balanced)
      · next plain => exact (ih balanced).char (by simp [isBrace, other, plain])

theorem isBalanced_iff {cs : List Char} :
    isBalanced 0 cs = true ↔ ∃ T : Nested false, T.text = cs := by
  constructor
  · intro balanced
    cases closing_of_isBalanced balanced with
    | done T => exact ⟨T, rfl⟩
  · rintro ⟨T, rfl⟩
    have read := T.isBalanced_text 0 []
    rwa [List.append_nil] at read

/-! ## One choice for each group -/

def selections : List Nat → List (List Nat)
  | [] => [[]]
  | n :: ns => (List.range n).flatMap fun i => (selections ns).map (i :: ·)

theorem mem_selections {ns picks : List Nat} :
    picks ∈ selections ns ↔ List.Forall₂ (· < ·) picks ns := by
  induction ns generalizing picks with
  | nil => simp [selections]
  | cons n ns ih =>
    simp only [selections, List.mem_flatMap, List.mem_range, List.mem_map, ih]
    constructor
    · rintro ⟨i, below, more, picked, rfl⟩
      exact .cons below picked
    · intro all
      cases all with
      | cons below picked => exact ⟨_, below, _, picked, rfl⟩

theorem pairwise_selections (ns : List Nat) : (selections ns).Pairwise (· < ·) := by
  induction ns with
  | nil => exact List.pairwise_singleton _ _
  | cons n ns ih =>
    rw [selections, List.pairwise_flatMap]
    constructor
    · intro i _
      exact List.pairwise_map.2 (ih.imp .cons)
    · refine List.pairwise_lt_range.imp fun less picks member picks' member' => ?_
      obtain ⟨more, -, rfl⟩ := List.mem_map.1 member
      obtain ⟨more', -, rfl⟩ := List.mem_map.1 member'
      exact .rel less

theorem length_selections (ns : List Nat) : (selections ns).length = ns.prod := by
  induction ns with
  | nil => rfl
  | cons n ns ih => simp [selections, List.length_flatMap, ih]

def Alternatives.texts : Alternatives → List (List Char)
  | .last a => [a.text]
  | .more a others => a.text :: others.texts

def Nested.groups {inside : Bool} : Nested inside → List (List (List Char))
  | .done => []
  | .char _ _ rest => rest.groups
  | .group choice rest => choice.texts :: rest.groups

def Nested.fill {inside : Bool} : Nested inside → List Nat → List Char
  | .done, _ => []
  | .char c _ rest, picks => c :: rest.fill picks
  | .group _ _, [] => []
  | .group choice rest, pick :: picks => choice.texts.getD pick [] ++ rest.fill picks

theorem Nested.words_of_depth_zero {inside : Bool} {T : Nested inside} (flat : T.depth = 0) :
    T.words = [T.text] := by
  match T with
  | .done => rfl
  | .char c _ rest =>
    have flat : rest.depth = 0 := flat
    rw [Nested.words, rest.words_of_depth_zero flat]
    rfl
  | .group choice rest => simp [Nested.depth] at flat

theorem Alternatives.readings_of_depth_zero {choice : Alternatives} (flat : choice.depth = 0) :
    choice.readings = [choice.texts] := by
  match choice with
  | .last a => rw [readings, Nested.words_of_depth_zero flat]; rfl
  | .more a others =>
    obtain ⟨first, later⟩ : a.depth = 0 ∧ others.depth = 0 := by simpa [depth] using flat
    rw [readings, Nested.words_of_depth_zero first, readings_of_depth_zero later]
    rfl

theorem Nested.words_eq_fill {inside : Bool} {T : Nested inside} (flat : T.depth ≤ 1) :
    T.words = (selections (T.groups.map List.length)).map T.fill := by
  match T with
  | .done => rfl
  | .char c _ rest =>
    have flat : rest.depth ≤ 1 := flat
    rw [Nested.words, rest.words_eq_fill flat, List.map_map]
    rfl
  | .group choice rest =>
    obtain ⟨inner, later⟩ : choice.depth = 0 ∧ rest.depth ≤ 1 := by simpa [Nested.depth] using flat
    have listed : choice.texts = (List.range choice.texts.length).map (choice.texts.getD · []) := by
      refine List.ext_getElem (by simp) fun i below _ => ?_
      simp [below]
    rw [Nested.words, choice.readings_of_depth_zero inner, List.flatMap_singleton,
      rest.words_eq_fill later]
    calc choice.texts.flatMap _
      _ = ((List.range choice.texts.length).map (choice.texts.getD · [])).flatMap _ :=
        congrArg (List.flatMap _) listed
      _ = (List.range choice.texts.length).flatMap fun i =>
            (selections (rest.groups.map List.length)).map fun picks =>
              choice.texts.getD i [] ++ rest.fill picks := by
        simp only [List.flatMap_map, List.map_map, Function.comp_def]
      _ = _ := by
        rw [Nested.groups, List.map_cons, selections, List.map_flatMap]
        simp only [List.map_map, Function.comp_def, Nested.fill]

theorem expand_eq (pattern : String) :
    expand pattern = (expansions pattern.toList).map String.ofList := rfl

/-- The first group is replaced by its alternatives until none is left, which comes to an end. What a
pattern with nested braces expands to is its language; without groups in groups, one text for each
choice of alternatives, in lexicographic order. -/
theorem expansion_law (pattern : String) :
    (Acc (fun ds cs => Replaces cs ds) pattern.toList ∧
      (group? pattern.toList = none → expand pattern = [pattern]) ∧
      ∀ g, group? pattern.toList = some g →
        expand pattern = (Text.splitAt ',' g.body).flatMap fun option =>
          expand (String.ofList (g.before ++ option ++ g.after))) ∧
    (∀ e ∈ expand pattern, ¬ HasGroup e.toList) ∧
    (isBalanced 0 pattern.toList = true ↔ ∃ T : Nested false, T.text = pattern.toList) ∧
    ∀ T : Nested false, T.text = pattern.toList →
      (∀ e, e ∈ expand pattern ↔ e.toList ∈ T.language) ∧
      (T.depth ≤ 1 →
        (∃ choices : List (List Nat), choices.Pairwise (· < ·) ∧
          (∀ picks, picks ∈ choices ↔ List.Forall₂ (· < ·) picks (T.groups.map List.length)) ∧
          expand pattern = choices.map fun picks => String.ofList (T.fill picks)) ∧
        (expand pattern).length = (T.groups.map List.length).prod) := by
  refine ⟨⟨wellFounded_replaces.apply _, fun none_found => ?_, fun g found => ?_⟩, fun e member => ?_,
    isBalanced_iff, fun T written => ⟨fun e => ?_, fun flat => ?_⟩⟩
  · rw [expand_eq, expansions_of_free (group?_eq_none_iff.1 none_found)]
    simp
  · rw [expand_eq, expansions_of_group found, List.map_flatMap]
    simp [expand_eq]
  · rw [expand_eq] at member
    obtain ⟨w, among, rfl⟩ := List.mem_map.1 member
    rw [String.toList_ofList]
    exact free_of_mem_expansions among
  · rw [expand_eq, ← written, T.expansions_text, ← T.mem_words_iff]
    constructor
    · intro member
      obtain ⟨w, among, rfl⟩ := List.mem_map.1 member
      rwa [String.toList_ofList]
    · intro among
      exact List.mem_map.2 ⟨_, among, String.ofList_toList⟩
  · have filled : expand pattern = (selections (T.groups.map List.length)).map fun picks =>
        String.ofList (T.fill picks) := by
      rw [expand_eq, ← written, T.expansions_text, T.words_eq_fill flat, List.map_map]
      rfl
    refine ⟨⟨_, pairwise_selections _, fun picks => mem_selections, filled⟩, ?_⟩
    rw [filled, List.length_map, length_selections]

end ParserHost.Glob
