import ParserHost.Proofs.Discovery.Comprehension
import ParserHost.Proofs.Discovery.Names

/-!
# Excluded directories

The name of a directory in front of `/**` excludes what lies below the directory of that name at the
start of the path, with `**/` in front of it what lies below such a directory at any depth
(`isExcluded_below`, `isExcluded_anywhere`). So do the excludes that go with a parser
(`default_excludes`).
-/

namespace ParserHost

/-! ## Patterns made of a name -/

namespace Glob

def Plain (name : String) : Prop :=
  ∀ c ∈ name.toList, c ∉ ['/', '*', '?', '[', '\x7b', '\x7d']

theorem wilds_append_plain {cs : List Char} (plain : ∀ c ∈ cs, c ∉ ['*', '?', '['])
    (rest : List Char) : wilds (cs ++ rest) = cs.map .char ++ wilds rest := by
  induction cs with
  | nil => rfl
  | cons c cs ih =>
    have first := plain c (.head _)
    simp only [List.mem_cons, List.not_mem_nil, or_false, not_or] at first
    obtain ⟨star, single, shut⟩ := first
    rw [List.cons_append, wilds_other shut, ih fun d member => plain d (.tail _ member)]
    simp [unbracketed, star, single]

theorem accepts_chars_iff {cs text : List Char} {ws : List Wild} :
    accepts (cs.map .char ++ ws) text = true ↔ ∃ rest, text = cs ++ rest ∧ accepts ws rest = true := by
  induction cs generalizing text with
  | nil => simp
  | cons c cs ih =>
    cases text with
    | nil => simp [accepts]
    | cons d text =>
      rw [List.map_cons, List.cons_append, accepts_cons (by simp), Bool.and_eq_true, ih]
      constructor
      · rintro ⟨same, rest, rfl, accepted⟩
        obtain rfl : c = d := by simpa [Wild.acceptsChar] using same
        exact ⟨rest, rfl, accepted⟩
      · rintro ⟨rest, whole, accepted⟩
        obtain ⟨rfl, rfl⟩ := List.cons.inj whole
        exact ⟨by simp [Wild.acceptsChar], rest, rfl, accepted⟩

theorem accepts_slash_iff {text : List Char} {ws : List Wild} :
    accepts (.char '/' :: ws) text = true ↔ ∃ rest, text = '/' :: rest ∧ accepts ws rest = true :=
  @accepts_chars_iff ['/'] text ws

end Glob

namespace Discovery

variable {t : FileTree} {root base : Path} {pattern : String} {included excluded : List String}

def below (name : String) : String :=
  name ++ "/**"

def anywhereBelow (name : String) : String :=
  anyDepth ++ below name

theorem accepts_everything (cs : List Char) : Glob.accepts [.char '/', .star] cs = true ↔
    ∃ rest, cs = '/' :: rest := by
  constructor
  · intro accepted
    obtain ⟨rest, whole, -⟩ := Glob.accepts_slash_iff.1 accepted
    exact ⟨rest, whole⟩
  · rintro ⟨rest, rfl⟩
    exact Glob.accepts_slash (Glob.accepts_star rest)

theorem wilds_below {name : String} (plain : Glob.Plain name) :
    Glob.wilds (below name).toList = name.toList.map .char ++ [.char '/', .star] := by
  rw [below, String.toList_append]
  refine Glob.wilds_append_plain (fun c member special => plain c member ?_) "/**".toList
  simp at special ⊢
  tauto

theorem matchesText_below {name : String} (plain : Glob.Plain name) (text : String) :
    Glob.matchesText (below name) text = true ↔ ∃ rest, text.toList = name.toList ++ '/' :: rest := by
  rw [Glob.matchesText, Glob.parse_eq_wilds, wilds_below plain, Glob.accepts_chars_iff]
  constructor
  · rintro ⟨back, whole, accepted⟩
    obtain ⟨rest, rfl⟩ := (accepts_everything back).1 accepted
    exact ⟨rest, whole⟩
  · rintro ⟨rest, whole⟩
    exact ⟨'/' :: rest, whole, (accepts_everything _).2 ⟨rest, rfl⟩⟩

theorem wilds_anywhereBelow (name : String) :
    Glob.wilds (anywhereBelow name).toList =
      .star :: .char '/' :: Glob.wilds (below name).toList := by
  have written : (anywhereBelow name).toList = '*' :: '*' :: '/' :: (below name).toList := by
    rw [anywhereBelow, String.toList_append]
    rfl
  rw [written, Glob.wilds_other (by decide), Glob.wilds_other (by decide),
    Glob.wilds_other (by decide)]
  rfl

theorem matchesText_anywhereBelow {name text : String} (plain : Glob.Plain name) :
    Glob.matchesText (anywhereBelow name) text = true ↔
      ∃ before rest, text.toList = before ++ '/' :: (name.toList ++ '/' :: rest) := by
  have inner := fun cs => matchesText_below plain (String.ofList cs)
  simp only [Glob.matchesText, Glob.parse_eq_wilds, String.toList_ofList] at inner
  rw [Glob.matchesText, Glob.parse_eq_wilds, wilds_anywhereBelow]
  constructor
  · intro accepted
    obtain ⟨before, after, whole, accepted⟩ := Glob.anyTail_iff.1 accepted
    obtain ⟨back, rfl, accepted⟩ := Glob.accepts_slash_iff.1 accepted
    obtain ⟨rest, rfl⟩ := (inner back).1 accepted
    exact ⟨before, rest, whole⟩
  · rintro ⟨before, rest, whole⟩
    exact Glob.anyTail_iff.2 ⟨before, _, whole, Glob.accepts_slash ((inner _).2 ⟨rest, rfl⟩)⟩

theorem expand_of_noBrace {text : String} (closed : '\x7d' ∉ text.toList) :
    Glob.expand text = [text] := by
  have alone := Glob.expansions_of_free (Glob.not_hasGroup_of_not_mem closed)
  have whole : Glob.expand text = (Glob.expansions text.toList).map String.ofList := rfl
  rw [whole, alone, List.map_singleton, String.ofList_toList]

theorem not_mem_below {name : String} (plain : Glob.Plain name) : '\x7d' ∉ (below name).toList := by
  rw [below, String.toList_append, List.mem_append]
  rintro (closing | closing)
  · exact plain _ closing (by simp)
  · exact absurd closing (by decide)

theorem expand_below {name : String} (plain : Glob.Plain name) :
    Glob.expand (below name) = [below name] :=
  expand_of_noBrace (not_mem_below plain)

theorem expand_anywhereBelow {name : String} (plain : Glob.Plain name) :
    Glob.expand (anywhereBelow name) = [anywhereBelow name] := by
  refine expand_of_noBrace fun closing => ?_
  rw [anywhereBelow, String.toList_append, List.mem_append] at closing
  rcases closing with closing | closing
  · exact absurd closing (by decide)
  · exact not_mem_below plain closing

theorem startsWith_below {name : String} (plain : Glob.Plain name) :
    Text.startsWith anyDepth (below name) = false := by
  rw [Text.startsWith, Option.isSome_eq_false_iff, Option.isNone_iff_eq_none]
  cases cut : Text.dropPart? anyDepth.toList (below name).toList with
  | none => rfl
  | some rest =>
    have whole : name.toList ++ "/**".toList = '*' :: '*' :: '/' :: rest := by
      rw [← String.toList_append]
      exact Text.dropPart?_eq_some_iff.1 cut
    cases letters : name.toList with
    | nil => simp [letters] at whole
    | cons c cs =>
      rw [letters] at whole
      obtain ⟨rfl, -⟩ := List.cons.inj whole
      exact absurd (plain '*' (by simp [letters])) (by simp)

theorem isExcluded_below (named : t.Named) {name : String} (plain : Glob.Plain name) {p : Path}
    (finds : Finds t base pattern p) :
    isExcluded (Glob.expand (below name)) (seen base p) = true ↔
      (directories base p).head? = some name := by
  obtain ⟨names, some_names, slashless, text, above⟩ := names_of_finds named finds
  have free : '/' ∉ name.toList := fun slash => plain _ slash (by simp)
  rw [expand_below plain, isExcluded, List.any_cons, List.any_nil, Bool.or_false,
    startsWith_below plain, Bool.false_and, Bool.or_false, matchesText_below plain, text,
    Path.starts_joined_iff free some_names slashless, above]

theorem isExcluded_anywhere (named : t.Named) {name : String} (plain : Glob.Plain name) {p : Path}
    (finds : Finds t base pattern p) :
    isExcluded (Glob.expand (anywhereBelow name)) (seen base p) = true ↔
      name ∈ directories base p := by
  obtain ⟨names, some_names, slashless, text, above⟩ := names_of_finds named finds
  have free : '/' ∉ name.toList := fun slash => plain _ slash (by simp)
  have cut : Text.dropPart? anyDepth.toList (anywhereBelow name).toList = some (below name).toList :=
    Text.dropPart?_eq_some_iff.2 (String.toList_append ..)
  have starts : Text.startsWith anyDepth (anywhereBelow name) = true := by
    rw [Text.startsWith, cut]
    rfl
  have left : Text.dropPrefix anyDepth (anywhereBelow name) = below name := by
    rw [Text.dropPrefix, cut]
    exact String.ofList_toList
  rw [expand_anywhereBelow plain, isExcluded, List.any_cons, List.any_nil, Bool.or_false, starts,
    Bool.true_and, left, Bool.or_eq_true, matchesText_anywhereBelow plain, matchesText_below plain,
    text, Path.holds_joined_iff free some_names slashless, above]

/-! ## Searches with such excludes -/

/-- One more exclude takes away the files that it matches. -/
theorem files_exclude (resolved : t.resolve root = .ok base) (accepted : Accepted t base included)
    (excluded : List String) {exclude : String} {kept : Path → Prop}
    (decided : ∀ e p, Finds t base e p →
      (isExcluded (Glob.expand exclude) (seen base p) = false ↔ kept p)) :
    ∃ a b, files t root included excluded = .ok a ∧
      files t root included (excluded ++ [exclude]) = .ok b ∧ ∀ p, p ∈ b ↔ p ∈ a ∧ kept p := by
  obtain ⟨a, alone⟩ := (files_eq_ok_iff resolved excluded).2 accepted
  obtain ⟨b, both⟩ := (files_eq_ok_iff resolved (excluded ++ [exclude])).2 accepted
  refine ⟨a, b, alone, both, fun p => ?_⟩
  rw [mem_files_iff resolved both, mem_files_iff resolved alone, List.flatMap_append,
    isExcluded_append, List.flatMap_singleton, ← and_assoc]
  refine and_congr_right fun found => ?_
  obtain ⟨⟨e, -, finds⟩, -⟩ := found
  exact decided e p finds

theorem kept_below (named : t.Named) {name : String} (plain : Glob.Plain name) {e : String} {p : Path}
    (finds : Finds t base e p) :
    isExcluded (Glob.expand (below name)) (seen base p) = false ↔
      (directories base p).head? ≠ some name := by
  rw [← Bool.not_eq_true, isExcluded_below named plain finds]

theorem kept_anywhere (named : t.Named) {name : String} (plain : Glob.Plain name) {e : String}
    {p : Path} (finds : Finds t base e p) :
    isExcluded (Glob.expand (anywhereBelow name)) (seen base p) = false ↔
      name ∉ directories base p := by
  rw [← Bool.not_eq_true, isExcluded_anywhere named plain finds]

theorem parseRequest_of_files {c : Config} {found : List Path}
    (patterns : Globs.ofConfig c = .ok (included, excluded))
    (searched : files t root included excluded = .ok found) (verbose : Bool) :
    parseRequest t c root verbose = (c.toRequest.mapError fun x => .fault (.unwritten x)).map
      fun config => ⟨found.map Path.text, config, verbose⟩ := by
  rw [parseRequest, patterns, mapError_ok]
  change (((files t root included excluded).mapError Failure.fault >>= _) : Except Failure ParseRequest) = _
  rw [searched, mapError_ok]
  cases c.toRequest <;> rfl

theorem excluded_of_config {c : Config} (patterns : Globs.ofConfig c = .ok (included, excluded))
    (own : c.excluded.getD [] = []) : excluded = Globs.defaultExcluded c.parser := by
  rw [Globs.ofConfig, own, List.nil_append] at patterns
  split at patterns
  · cases patterns
    rfl
  · cases patterns

/-- What the excludes that go with a parser leave. -/
theorem kept_by_default (named : t.Named) (kind : ParserKind) {e : String} {p : Path}
    (finds : Finds t base e p) :
    isExcluded ((Globs.defaultExcluded kind).flatMap Glob.expand) (seen base p) = false ↔
      match kind with
      | .react | .html => (directories base p).head? ≠ some "node_modules"
      | .swift => "__test__" ∉ directories base p
      | _ => True := by
  have modules : Glob.Plain "node_modules" := by simp [Glob.Plain]
  have test : Glob.Plain "__test__" := by simp [Glob.Plain]
  cases kind with
  | react | html =>
    rw [Globs.defaultExcluded, List.flatMap_singleton]
    exact kept_below named modules finds
  | swift =>
    rw [Globs.defaultExcluded, List.flatMap_singleton]
    exact kept_anywhere named test finds
  | compose | custom | unitTest => exact iff_of_true rfl trivial

/-- Without excludes of its own, a project leaves out what its parser does not look at: what lies
below the first directory, or any, of a certain name, and nothing else. So does every exclude of such
a form. -/
theorem default_excludes (named : t.Named) (resolved : t.resolve root = .ok base) :
    (∀ (c : Config) (verbose : Bool) (included excluded : List String),
      Globs.ofConfig c = .ok (included, excluded) → c.excluded.getD [] = [] →
      Accepted t base included →
      ∃ found : List Path, files t root included excluded = .ok found ∧
        (parseRequest t c root verbose = (c.toRequest.mapError fun x => .fault (.unwritten x)).map
          fun config => ⟨found.map Path.text, config, verbose⟩) ∧
        (c.parser = .react ∨ c.parser = .html → ∀ p, p ∈ found ↔
          (∃ e ∈ expanded included, Finds t base e p) ∧
            (directories base p).head? ≠ some "node_modules") ∧
        (c.parser = .swift → ∀ p, p ∈ found ↔
          (∃ e ∈ expanded included, Finds t base e p) ∧ "__test__" ∉ directories base p) ∧
        ∀ p, (∃ e ∈ expanded included, Finds t base e p) → "node_modules" ∉ directories base p →
          "__test__" ∉ directories base p → p ∈ found) ∧
    ∀ (name : String) (included excluded : List String),
      Glob.Plain name → Accepted t base included →
      (∃ a b, files t root included excluded = .ok a ∧
        files t root included (excluded ++ [name ++ "/**"]) = .ok b ∧
        ∀ p, p ∈ b ↔ p ∈ a ∧ (directories base p).head? ≠ some name) ∧
      ∃ a b, files t root included excluded = .ok a ∧
        files t root included (excluded ++ ["**/" ++ (name ++ "/**")]) = .ok b ∧
        ∀ p, p ∈ b ↔ p ∈ a ∧ name ∉ directories base p := by
  refine ⟨fun c verbose included excluded patterns own accepted => ?_,
    fun name included excluded plain accepted => ⟨?_, ?_⟩⟩
  · obtain ⟨found, searched⟩ := (files_eq_ok_iff resolved excluded).2 accepted
    have members := fun p => mem_files_iff (p := p) resolved searched
    rw [excluded_of_config patterns own] at members
    have kept := fun {e : String} {p : Path} (finds : Finds t base e p) =>
      kept_by_default named c.parser finds
    refine ⟨found, searched, parseRequest_of_files patterns searched verbose, ?_, ?_, ?_⟩
    · intro kind p
      rw [members]
      refine and_congr_right fun ⟨e, _, finds⟩ => ?_
      rcases kind with kind | kind <;> simpa only [kind] using kept finds
    · intro kind p
      rw [members]
      refine and_congr_right fun ⟨e, _, finds⟩ => ?_
      simpa only [kind] using kept finds
    · rintro p ⟨e, among, finds⟩ modules test
      refine (members p).2 ⟨⟨e, among, finds⟩, (kept finds).2 ?_⟩
      cases c.parser with
      | react | html => exact fun first => modules (List.mem_of_head? first)
      | swift => exact test
      | compose | custom | unitTest => trivial
  · exact files_exclude resolved accepted excluded fun e p => kept_below named plain
  · exact files_exclude resolved accepted excluded fun e p => kept_anywhere named plain

def installed : FileTree :=
  ⟨[(["node_modules"], .directory), (["node_modules", "a.tsx"], .file [] false),
    (["my_node_modules"], .directory), (["my_node_modules", "b.tsx"], .file [] false)]⟩

def reactProject : Config :=
  ⟨.react, none, none, none, none, none, none, none, none, none, none, []⟩

theorem default_excludes_of_installed :
    installed.Named ∧ installed.resolve ⟨.slash, []⟩ = .ok ⟨.slash, []⟩ ∧
    ∃ found : List Path, parseRequest installed reactProject ⟨.slash, []⟩ false =
        .ok ⟨found.map Path.text, [("parser", .str "react")], false⟩ ∧
      ⟨.slash, ["node_modules", "a.tsx"]⟩ ∉ found ∧
      ⟨.slash, ["my_node_modules", "b.tsx"]⟩ ∈ found := by
  have named : installed.Named := by
    unfold FileTree.Named
    decide
  have resolved : installed.resolve ⟨.slash, []⟩ = .ok ⟨.slash, []⟩ := by rfl
  have accepted : Accepted installed ⟨.slash, []⟩ ["**/*.\x7btsx,jsx\x7d"] :=
    accepted_of_answered (by decide +kernel)
  have finds : Finds installed ⟨.slash, []⟩ "**/*.tsx" ⟨.slash, ["my_node_modules", "b.tsx"]⟩ :=
    ⟨[.anyDepth, .wild (Glob.parse "*.tsx")], by decide +kernel, by decide +kernel,
      by decide +kernel⟩
  obtain ⟨found, -, requested, kept, -⟩ :=
    (default_excludes named resolved).1 reactProject false _ _ rfl rfl accepted
  refine ⟨named, resolved, found, requested, fun member => ?_, ?_⟩
  · exact ((kept (.inl rfl) _).1 member).2 (by decide)
  · exact (kept (.inl rfl) _).2 ⟨⟨"**/*.tsx", by decide +kernel, finds⟩, by decide⟩

end Discovery

end ParserHost
