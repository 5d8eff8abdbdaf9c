import ParserHost.Proofs.Glob.Slashes
import ParserHost.Proofs.Run.Faults

/-!
# Patterns as includes and as excludes

What a pattern finds is what is found by its parts, name by name; what it excludes is decided by the
path as one text. `self_exclusion` says what is left when a pattern is used both ways: only files that
the pattern finds with two stars behind its first part standing for no directory at all, or with a
pattern that is not written as its parts.
-/

namespace ParserHost

/-! ## Parts between slashes -/

namespace Path

def joined (parts : List String) : List Char :=
  (Text.join "/" parts).toList

theorem joined_singleton (part : String) : joined [part] = part.toList := by
  simp [joined, Text.join]

theorem joined_cons {parts : List String} (some_parts : parts ≠ []) (part : String) :
    joined (part :: parts) = part.toList ++ '/' :: joined parts := by
  cases parts with
  | nil => exact absurd rfl some_parts
  | cons next parts => simp [joined, Text.join, String.intercalate_cons_cons]

theorem joined_append {parts more : List String} (some_parts : parts ≠ []) (some_more : more ≠ []) :
    joined (parts ++ more) = joined parts ++ '/' :: joined more := by
  induction parts with
  | nil => exact absurd rfl some_parts
  | cons part parts ih =>
    by_cases last : parts = []
    · subst last
      rw [joined_singleton, List.singleton_append, joined_cons some_more]
    · rw [List.cons_append, joined_cons (by simp [last]), ih last, joined_cons last]
      simp

theorem not_mem_of_mem_partsOf {cs : List Char} {part : String} (member : part ∈ partsOf cs) :
    '/' ∉ part.toList := by
  obtain ⟨written, -⟩ := List.mem_filter.1 member
  obtain ⟨piece, cut, rfl⟩ := List.mem_map.1 written
  rw [String.toList_ofList]
  exact Text.not_mem_of_mem_splitAt cut

theorem text_relative {parts : List String} (some_parts : parts ≠ []) :
    (text ⟨.relative, parts⟩).toList = joined parts := by
  cases parts with
  | nil => exact absurd rfl some_parts
  | cons part parts => simp [text, rootText, joined]

end Path

/-! ## Lists of results -/

theorem forall₂_of_mapM {α β ε : Type} {f : α → Except ε β} {as : List α} {bs : List β}
    (mapped : as.mapM f = .ok bs) : List.Forall₂ (fun a b => f a = .ok b) as bs := by
  induction as generalizing bs with
  | nil =>
    cases mapped
    exact .nil
  | cons a as ih =>
    rw [List.mapM_cons] at mapped
    obtain ⟨b, first, others⟩ := bind_eq_ok.1 mapped
    obtain ⟨rest, tail, done⟩ := bind_eq_ok.1 others
    cases done
    exact .cons first (ih tail)

/-! ## Names along a pattern -/

namespace Glob

/-- A part of a pattern takes some names of a path: two stars any of them, other parts one. -/
def Takes (part : String) (names : List String) : Prop :=
  part = "**" ∨ ∃ name, names = [name] ∧ matchesText part name = true

theorem stars_of_takes {part : String} (takes : Takes part []) : part = "**" := by
  rcases takes with stars | ⟨name, none, -⟩
  · exact stars
  · cases none

def Step.Fits : Step → List String → Prop
  | .anyDepth, _ => True
  | .wild w, names => ∃ name, names = [name] ∧ accepts w name.toList = true
  | .name text, names => names = [text]
  | .directory, names => names = []

theorem parse_eq_wilds (pattern : String) : parse pattern = wilds pattern.toList := rfl

theorem matchesText_self {part : String} (plain : isWild part.toList = false) :
    matchesText part part = true := by
  have read : ∀ cs : List Char, isWild cs = false → accepts (wilds cs) cs = true := by
    intro cs
    induction cs with
    | nil => exact fun _ => rfl
    | cons c cs ih =>
      intro plain
      simp only [isWild, List.any_cons, Bool.or_eq_false_iff, decide_eq_false_iff_not] at plain
      obtain ⟨⟨⟨star, single⟩, shut⟩, plain⟩ := plain
      rw [wilds_other shut]
      simpa [unbracketed, star, single, accepts, Wild.acceptsChar] using ih plain
  exact read part.toList plain

theorem takes_of_fits {part : String} {step : Step} {names : List String}
    (parsed : stepOf part = .ok step) (fits : step.Fits names) : Takes part names := by
  unfold stepOf at parsed
  split at parsed
  · next stars => exact .inl stars
  · split at parsed
    · cases parsed
    · split at parsed
      · cases parsed
        exact .inr fits
      · next plain =>
        cases parsed
        exact .inr ⟨part, fits, matchesText_self (by simpa using plain)⟩

theorem forall₂_takes {parts : List String} {steps : List Step} {chunks : List (List String)}
    (parsed : List.Forall₂ (fun part step => stepOf part = .ok step) parts steps)
    (fits : List.Forall₂ Step.Fits steps chunks) : List.Forall₂ Takes parts chunks := by
  induction parsed generalizing chunks with
  | nil =>
    cases fits
    exact .nil
  | cons first _ ih =>
    cases fits with
    | cons fit fits => exact .cons (takes_of_fits first fit) (ih fits)

theorem stepOf_ne_directory {part : String} : stepOf part ≠ .ok .directory := by
  unfold stepOf
  split
  · simp
  · split
    · simp
    · split <;> simp

theorem mem_directoriesFrom {t : FileTree} {here : Location} {p q : Path}
    (member : q ∈ directoriesFrom t here p) : ∃ names, q = ⟨p.root, p.parts ++ names⟩ := by
  rcases List.mem_cons.1 member with rfl | member
  · exact ⟨[], by simp⟩
  · obtain ⟨⟨l, n⟩, -, found⟩ := List.mem_filterMap.1 member
    dsimp only at found
    split at found
    · cases found
      exact ⟨_, rfl⟩
    · cases found

theorem takeWhile_named {parts : List String} {named : List Step}
    (mapped : parts.mapM stepOf = .ok named) (more : List Step)
    (ends : more.takeWhile (· != .directory) = []) :
    (named ++ more).takeWhile (· != .directory) = named := by
  have other : ∀ step ∈ named, (step != Step.directory) = true := by
    intro step member
    obtain ⟨part, -, parsed⟩ := (exists_of_mem_forall₂ (forall₂_of_mapM mapped)).1 step member
    rw [bne_iff_ne]
    rintro rfl
    exact stepOf_ne_directory parsed
  rw [List.takeWhile_append_of_pos other, ends, List.append_nil]

theorem steps_eq_ok {pattern : String} {steps : List Step} (parsed : Glob.steps pattern = .ok steps) :
    (Path.parse pattern).isAbsolute = false ∧ (Path.parse pattern).parts ≠ [] ∧
      (Path.parse pattern).parts.mapM stepOf = .ok (steps.takeWhile (· != .directory)) := by
  have accepted : ¬ ∃ r, Glob.steps pattern = .error r := by simp [parsed]
  rw [steps_fault_iff, not_or, not_or, Bool.not_eq_true] at accepted
  obtain ⟨relative, some_parts, -⟩ := accepted
  have filled : (Path.parse pattern).parts.isEmpty = false := by simpa using some_parts
  refine ⟨relative, some_parts, ?_⟩
  simp only [Glob.steps, relative, filled, Bool.false_eq_true, if_false] at parsed
  obtain ⟨named, mapped, done⟩ := bind_eq_ok.1 parsed
  rw [mapped]
  split at done
  · cases done
    rw [takeWhile_named mapped [.directory] rfl]
  · cases done
    have alone := takeWhile_named mapped [] rfl
    rw [List.append_nil] at alone
    rw [alone]

/-- The names that lead to a selected path fall to the steps one after the other. -/
theorem mem_select {t : FileTree} {steps : List Step} {p q : Path} (member : q ∈ select t steps p) :
    ∃ chunks, List.Forall₂ Step.Fits (steps.takeWhile (· != .directory)) chunks ∧
      q = ⟨p.root, p.parts ++ chunks.flatten⟩ := by
  induction steps generalizing p with
  | nil =>
    obtain rfl : q = p := by simpa [select] using member
    exact ⟨[], .nil, by simp⟩
  | cons step rest ih =>
    cases step with
    | directory =>
      obtain rfl : q = p := by simpa [select] using member
      exact ⟨[], .nil, by simp⟩
    | anyDepth =>
      simp only [select] at member
      split at member
      · obtain ⟨p', below, member⟩ := List.mem_flatMap.1 member
        obtain ⟨names, rfl⟩ := mem_directoriesFrom below
        obtain ⟨chunks, fits, rfl⟩ := ih member
        exact ⟨names :: chunks, .cons trivial fits, by simp⟩
      · cases member
    | wild w =>
      simp only [select] at member
      split at member
      · obtain ⟨⟨name, n⟩, -, member⟩ := List.mem_flatMap.1 member
        split at member
        · next accepted =>
          obtain ⟨chunks, fits, rfl⟩ := ih member
          rw [Bool.and_eq_true] at accepted
          exact ⟨[name] :: chunks, .cons ⟨name, rfl, accepted.1⟩ fits, by simp [Path.child]⟩
        · cases member
      · cases member
    | name text =>
      simp only [select] at member
      generalize (if rest.isEmpty then t.exists? (p.child text) else t.isDirectory (p.child text))
        = there at member
      cases there with
      | false => cases member
      | true =>
        obtain ⟨chunks, fits, rfl⟩ := ih member
        exact ⟨[text] :: chunks, .cons rfl fits, by simp [Path.child]⟩

/-- Parts that take one name at least match the names joined by slashes. -/
theorem accepts_joined {parts : List String} {chunks : List (List String)}
    (some_parts : parts ≠ []) (slashless : ∀ part ∈ parts, '/' ∉ part.toList)
    (unbroken : Unbroken (Path.joined parts)) (taken : List.Forall₂ Takes parts chunks)
    (some_names : [] ∉ chunks) :
    chunks.flatten ≠ [] ∧ accepts (wilds (Path.joined parts)) (Path.joined chunks.flatten) = true := by
  induction taken with
  | nil => exact absurd rfl some_parts
  | @cons part names parts chunks takes taken ih =>
    obtain ⟨first, others⟩ := not_or.1 (mt List.mem_cons.2 some_names)
    have some_first : names ≠ [] := Ne.symm first
    have accepted : accepts (wilds part.toList) (Path.joined names) = true := by
      rcases takes with rfl | ⟨name, rfl, matched⟩
      · exact accepts_star _
      · rw [Path.joined_singleton]
        exact matched
    refine ⟨by simp [some_first], ?_⟩
    by_cases last : parts = []
    · subst last
      cases taken
      simpa [Path.joined_singleton] using accepted
    · rw [Path.joined_cons last] at unbroken ⊢
      obtain ⟨read, unbroken⟩ := wilds_append_slash (slashless part (.head _)) unbroken
      obtain ⟨some_rest, rest⟩ :=
        ih last (fun p member => slashless p (.tail _ member)) unbroken others
      rw [read, List.flatten_cons, Path.joined_append some_first some_rest]
      exact accepts_append accepted (accepts_slash rest)

def EmptyInside (parts : List String) (chunks : List (List String)) : Prop :=
  ("**", []) ∈ (parts.zip chunks).tail

theorem mem_tail_of_emptyInside {parts : List String} {chunks : List (List String)}
    (empty : EmptyInside parts chunks) : "**" ∈ parts.tail := by
  rw [EmptyInside, List.tail_zip] at empty
  exact (List.of_mem_zip empty).1

structure Spelled (pattern : String) : Prop where
  written : (Path.parse pattern).text = pattern
  unbroken : Unbroken pattern.toList

theorem Spelled.toList_eq {pattern : String} (spelled : Spelled pattern)
    (relative : (Path.parse pattern).isAbsolute = false)
    (some_parts : (Path.parse pattern).parts ≠ []) :
    pattern.toList = Path.joined (Path.parse pattern).parts := by
  have root : (Path.parse pattern).root = .relative := by
    simpa [Path.isAbsolute] using relative
  rw [← Path.text_relative some_parts, ← root]
  exact congrArg String.toList spelled.written.symm

end Glob

/-! ## What is found -/

namespace Discovery

variable {t : FileTree} {root base : Path} {pattern : String} {included excluded : List String}

def Finds (t : FileTree) (base : Path) (pattern : String) (p : Path) : Prop :=
  ∃ steps, Glob.steps pattern = .ok steps ∧ p ∈ Glob.selected t base steps ∧ t.isFile p = true

/-- A path as excludes see it: as one text, from the directory of the search. -/
def seen (base p : Path) : String :=
  (p.relativeTo? base |>.getD p).text

theorem mem_wanted_iff {excludes : List String} {found : List Path}
    (answered : wanted t base excludes pattern = .ok found) {p : Path} :
    p ∈ found ↔ Finds t base pattern p ∧ isExcluded excludes (seen base p) = false := by
  unfold wanted at answered
  cases parsed : Glob.steps pattern with
  | error r =>
    rw [parsed] at answered
    cases answered
  | ok steps =>
    rw [parsed] at answered
    dsimp only at answered
    split at answered
    · cases answered
    · cases answered
      rw [List.mem_filter, isWanted, Bool.and_eq_true, Bool.not_eq_true', ← and_assoc]
      refine and_congr_left' ⟨fun found => ⟨steps, parsed, found⟩, ?_⟩
      rintro ⟨steps', parsed', found⟩
      cases parsed.symm.trans parsed'
      exact found

theorem mem_files_iff {found : List Path} (resolved : t.resolve root = .ok base)
    (searched : files t root included excluded = .ok found) {p : Path} :
    p ∈ found ↔ (∃ e ∈ expanded included, Finds t base e p) ∧
      isExcluded (excluded.flatMap Glob.expand) (seen base p) = false := by
  simp only [files, resolved, filesBelow] at searched
  obtain ⟨lists, mapped, done⟩ := bind_eq_ok.1 searched
  cases done
  obtain ⟨back, forth⟩ := exists_of_mem_forall₂ (forall₂_of_mapM mapped)
  rw [mem_distinct, List.mem_mergeSort, List.mem_flatten]
  constructor
  · rintro ⟨list, member, inside⟩
    obtain ⟨e, among, answered⟩ := back list member
    obtain ⟨finds, kept⟩ := (mem_wanted_iff answered).1 inside
    exact ⟨⟨e, among, finds⟩, kept⟩
  · rintro ⟨⟨e, among, finds⟩, kept⟩
    obtain ⟨list, member, answered⟩ := forth e among
    exact ⟨list, member, (mem_wanted_iff answered).2 ⟨finds, kept⟩⟩

theorem not_isDirectory_of_isFile {p : Path} (file : t.isFile p = true) :
    t.isDirectory p ≠ true := by
  intro directory
  simp only [FileTree.isFile, FileTree.isDirectory, Bool.and_eq_true] at file directory
  obtain ⟨-, file⟩ := file
  obtain ⟨-, directory⟩ := directory
  split at file
  · next found => simp [found] at directory
  · cases file

/-- What a pattern finds lies below the directory, its names taken by the parts of the pattern. -/
theorem takes_of_finds {p : Path} (finds : Finds t base pattern p) :
    ∃ chunks, List.Forall₂ Glob.Takes (Path.parse pattern).parts chunks ∧
      p = ⟨base.root, base.parts ++ chunks.flatten⟩ ∧ chunks.flatten ≠ [] := by
  obtain ⟨steps, parsed, selected, file⟩ := finds
  obtain ⟨-, -, mapped⟩ := Glob.steps_eq_ok parsed
  rw [Glob.selected] at selected
  split at selected
  · next directory =>
    obtain ⟨chunks, fits, rfl⟩ := Glob.mem_select selected
    refine ⟨chunks, ?_, rfl, ?_⟩
    · exact Glob.forall₂_takes (forall₂_of_mapM mapped) fits
    · intro none
      rw [none, List.append_nil] at file
      exact not_isDirectory_of_isFile file directory
  · cases selected

theorem seen_below (names : List String) :
    seen base ⟨base.root, base.parts ++ names⟩ = Path.text ⟨.relative, names⟩ := by
  have dropped : Path.dropParts? base.parts (base.parts ++ names) = some names :=
    Path.dropParts?_eq_some_iff.2 rfl
  simp [seen, Path.relativeTo?, dropped]

theorem nil_not_mem_of_takes {parts : List String} {chunks : List (List String)}
    (taken : List.Forall₂ Glob.Takes parts chunks) (filled : ("**", []) ∉ parts.zip chunks) :
    [] ∉ chunks := by
  induction taken with
  | nil => simp
  | @cons part names parts chunks takes _ ih =>
    obtain ⟨first, others⟩ := not_or.1 (mt List.mem_cons.2 filled)
    rw [List.mem_cons, not_or]
    refine ⟨?_, ih others⟩
    rintro rfl
    cases Glob.stars_of_takes takes
    exact first rfl

open Glob in
/-- A pattern excludes the names that its parts take, unless two stars behind the first part take
none. -/
theorem isExcluded_of_takes {patterns : List String} {chunks : List (List String)}
    (member : pattern ∈ patterns) (relative : (Path.parse pattern).isAbsolute = false)
    (spelled : Spelled pattern) (taken : List.Forall₂ Takes (Path.parse pattern).parts chunks)
    (some_names : chunks.flatten ≠ [])
    (filled : ¬ EmptyInside (Path.parse pattern).parts chunks) :
    isExcluded patterns (Path.text ⟨.relative, chunks.flatten⟩) = true := by
  refine List.any_eq_true.2 ⟨pattern, member, ?_⟩
  have slashless : ∀ part ∈ (Path.parse pattern).parts, '/' ∉ part.toList :=
    fun _ => Path.not_mem_of_mem_partsOf
  have some_parts : (Path.parse pattern).parts ≠ [] := by
    intro none
    rw [none] at taken
    cases taken
    exact some_names rfl
  have written := spelled.toList_eq relative some_parts
  have unbroken := spelled.unbroken
  rw [written] at unbroken
  simp only [matchesText, parse_eq_wilds, Path.text_relative some_names, Bool.or_eq_true,
    Bool.and_eq_true]
  generalize (Path.parse pattern).parts = parts at *
  cases taken with
  | nil => exact absurd rfl some_names
  | @cons part names parts chunks takes taken =>
    have some_others := nil_not_mem_of_takes taken filled
    by_cases empty : names = []
    · -- only two stars take nothing, and the text behind their slash is matched by itself
      subst empty
      have stars := stars_of_takes takes
      have some_rest : parts ≠ [] := by
        rintro rfl
        cases taken
        exact some_names rfl
      rw [Path.joined_cons some_rest, stars] at unbroken written
      have cut : Text.dropPart? anyDepth.toList pattern.toList = some (Path.joined parts) :=
        Text.dropPart?_eq_some_iff.2 written
      right
      refine ⟨by simp [Text.startsWith, cut], ?_⟩
      simp only [Text.dropPrefix, cut, String.toList_ofList]
      exact (accepts_joined some_rest (fun p member => slashless p (.tail _ member))
        (wilds_append_slash (by decide) unbroken).2 taken some_others).2
    · left
      rw [written]
      exact (accepts_joined (by simp) slashless unbroken (.cons takes taken)
        (by simp [Ne.symm empty, some_others])).2

/-- A text with fewer slashes than a pattern is not matched by it. -/
theorem matchesText_eq_false {text : String} (unbroken : Glob.Unbroken pattern.toList)
    (fewer : text.toList.count '/' < pattern.toList.count '/') :
    Glob.matchesText pattern text = false := by
  rw [Bool.eq_false_iff]
  intro matched
  have least := Glob.count_le_of_accepts matched '/'
  rw [Glob.parse_eq_wilds, Glob.count_wilds unbroken] at least
  omega

structure Deeper (pattern text : String) : Prop where
  unbroken : Glob.Unbroken pattern.toList
  fewer : text.toList.count '/' + (if Text.startsWith anyDepth pattern then 1 else 0) <
    pattern.toList.count '/'

theorem isExcluded_eq_false {patterns : List String} {text : String}
    (deeper : ∀ pattern ∈ patterns, Deeper pattern text) : isExcluded patterns text = false := by
  refine List.any_eq_false.2 fun pattern member => ?_
  obtain ⟨unbroken, fewer⟩ := deeper pattern member
  rw [matchesText_eq_false unbroken (by omega), Bool.false_or, Bool.and_eq_true]
  rintro ⟨starts, matched⟩
  obtain ⟨rest, cut⟩ := Option.isSome_iff_exists.1 starts
  have whole : pattern.toList = "**/".toList ++ rest := Text.dropPart?_eq_some_iff.1 cut
  rw [if_pos starts] at fewer
  rw [whole] at unbroken fewer
  have starred : Glob.Unbroken ("**".toList ++ '/' :: rest) := unbroken
  obtain ⟨-, unbroken_rest⟩ := Glob.wilds_append_slash (by decide) starred
  rw [Text.dropPrefix, cut, matchesText_eq_false] at matched
  · cases matched
  · rwa [String.toList_ofList]
  · simp at fewer
    simpa using fewer

/-- What is left of the files that a pattern finds when it also excludes: with a spelled pattern, only
files that it finds with two stars behind its first part taking no name. -/
theorem self_exclusion (resolved : t.resolve root = .ok base)
    (accepted : ∀ e ∈ expanded [pattern], ¬ Stuck t base e) :
    ∃ found, files t root [pattern] [pattern] = .ok found ∧
      (∀ p ∈ found, ∃ e ∈ expanded [pattern], Finds t base e p ∧
        (Glob.Spelled e → ∀ chunks, List.Forall₂ Glob.Takes (Path.parse e).parts chunks →
          p = ⟨base.root, base.parts ++ chunks.flatten⟩ →
          Glob.EmptyInside (Path.parse e).parts chunks)) ∧
      ((∀ e ∈ expanded [pattern], Glob.Spelled e ∧ "**" ∉ (Path.parse e).parts.tail) →
        found = []) ∧
      ∀ p, (∃ e ∈ expanded [pattern], Finds t base e p) →
        (∀ e ∈ Glob.expand pattern, Deeper e (seen base p)) → p ∈ found := by
  have answered : ¬ ∃ f, files t root [pattern] [pattern] = .error f := by
    rw [files_fault_iff]
    rintro (⟨u, unresolved⟩ | ⟨base', same, e, member, stuck⟩)
    · cases resolved.symm.trans unresolved
    · cases resolved.symm.trans same
      exact accepted e member stuck
  cases searched : files t root [pattern] [pattern] with
  | error f => exact absurd ⟨f, searched⟩ answered
  | ok found =>
    have members := fun p => mem_files_iff (p := p) resolved searched
    have left : ∀ p ∈ found, ∃ e ∈ expanded [pattern], Finds t base e p ∧
        (Glob.Spelled e → ∀ chunks, List.Forall₂ Glob.Takes (Path.parse e).parts chunks →
          p = ⟨base.root, base.parts ++ chunks.flatten⟩ →
          Glob.EmptyInside (Path.parse e).parts chunks) := by
      intro p member
      obtain ⟨⟨e, among, finds⟩, kept⟩ := (members p).1 member
      refine ⟨e, among, finds, fun spelled chunks taken below => ?_⟩
      obtain ⟨steps, parsed, -⟩ := id finds
      obtain ⟨chunks', -, below', some_names⟩ := takes_of_finds finds
      have same : chunks.flatten = chunks'.flatten :=
        List.append_cancel_left (congrArg Path.parts (below.symm.trans below'))
      by_contra filled
      have excluded := isExcluded_of_takes (List.mem_of_mem_filter among)
        (Glob.steps_eq_ok parsed).1 spelled taken (same ▸ some_names) filled
      rw [below, seen_below, excluded] at kept
      cases kept
    refine ⟨found, rfl, left, ?_, ?_⟩
    · intro first_only
      refine List.eq_nil_iff_forall_not_mem.2 fun p member => ?_
      obtain ⟨e, among, finds, empty⟩ := left p member
      obtain ⟨spelled, once⟩ := first_only e among
      obtain ⟨chunks, taken, below, -⟩ := takes_of_finds finds
      exact once (Glob.mem_tail_of_emptyInside (empty spelled chunks taken below))
    · intro p finds deeper
      refine (members p).2 ⟨finds, isExcluded_eq_false ?_⟩
      simpa using deeper

def nested : FileTree :=
  ⟨[(["A.kt"], .file [] false), (["src"], .directory), (["src", "B.kt"], .file [] false)]⟩

theorem self_exclusion_of_leading :
    files nested ⟨.slash, []⟩ ["**/*.kt"] ["**/*.kt"] = .ok [] := by
  have resolved : nested.resolve ⟨.slash, []⟩ = .ok ⟨.slash, []⟩ := by rfl
  have alone : expanded ["**/*.kt"] = ["**/*.kt"] := by decide +kernel
  have accepted : ∀ e ∈ expanded ["**/*.kt"], ¬ Stuck nested ⟨.slash, []⟩ e := by
    intro e member stuck
    obtain rfl : e = "**/*.kt" := by simpa [alone] using member
    have refused : ∃ f, wanted nested ⟨.slash, []⟩ [] "**/*.kt" = .error f :=
      wanted_fault_iff.2 stuck
    obtain ⟨f, failed⟩ := refused
    have answered : (wanted nested ⟨.slash, []⟩ [] "**/*.kt").toBool = true := by
      decide +kernel
    rw [failed] at answered
    cases answered
  have spelled : Glob.Spelled "**/*.kt" := ⟨by decide +kernel, Glob.unbroken_of_not_mem (by decide)⟩
  obtain ⟨found, searched, -, none, -⟩ := self_exclusion resolved accepted
  rw [searched, none]
  intro e member
  obtain rfl : e = "**/*.kt" := by simpa [alone] using member
  exact ⟨spelled, by decide +kernel⟩

/-- Two stars in the middle find what lies in no further directory, and do not exclude it. -/
theorem kept_without_directory :
    files nested ⟨.slash, []⟩ ["src/**/*.kt"] ["src/**/*.kt"] = .ok [⟨.slash, ["src", "B.kt"]⟩] := by
  decide +kernel

end Discovery

end ParserHost
