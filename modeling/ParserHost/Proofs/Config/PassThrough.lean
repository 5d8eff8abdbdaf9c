import ParserHost.Config.Section
import ParserHost.Proofs.Exchange.Documents
import ParserHost.Proofs.Exchange.Payloads

/-!
# Sections in requests

A request carries a section as it was written: first the fields that the section declares, then all its
other keys, in order (`toEntries_of_accepted`), unless a value among these is too deep
(`toRequest_of_accepted`). What a check of a section depends on is only what stands under the names of the
fields (`accepted_of_same`), so the section of a request is accepted again.
-/

namespace ParserHost

open Schema

namespace Json

variable {key : String} {e : Entries}

theorem get?_eq_none_iff : get? key e = none ↔ key ∉ keys e := by
  induction e with
  | nil => simp [get?, keys]
  | cons m rest ih =>
    obtain ⟨k, v⟩ := m
    by_cases same : k = key
    · simp [get?, keys, same]
    · simp only [get?, same, if_false, ih, keys, List.map_cons, List.mem_cons, Ne.symm same, false_or]

theorem get?_append (key : String) (e more : Entries) :
    get? key (e ++ more) = (get? key e).or (get? key more) := by
  induction e with
  | nil => rfl
  | cons m rest ih =>
    obtain ⟨k, v⟩ := m
    by_cases same : k = key <;> simp [get?, same, ih]

theorem get?_record_of_mem {fields : List (String × Option Json)} {o : Option Json}
    (once : (fields.map Prod.fst).Nodup) (member : (key, o) ∈ fields) :
    get? key (record fields) = o := by
  induction fields with
  | nil => cases member
  | cons f rest ih =>
    obtain ⟨k, p⟩ := f
    rw [List.map_cons, List.nodup_cons] at once
    rw [get?_record_cons]
    rcases List.mem_cons.1 member with same | later
    · cases same
      have absent : get? key (record rest) = none :=
        get?_eq_none_iff.2 fun found => once.1 ((keys_record rest).subset found)
      simp [absent]
    · have other : k ≠ key := by
        rintro rfl
        exact once.1 (List.mem_map.2 ⟨_, later, rfl⟩)
      simp [other, ih once.2 later]

theorem finiteEntries_iff : FiniteEntries e ↔ ∀ m ∈ e, m.2.Finite := by
  induction e with
  | nil => simp [FiniteEntries]
  | cons m rest ih =>
    obtain ⟨k, v⟩ := m
    rw [FiniteEntries, ih, List.forall_mem_cons]

end Json

namespace Config

/-! ## Declared fields -/

def isDeclared (key : String) : Bool :=
  names.any fun n => key = n.wire || key = n.plain

def GivenOnce (e : Json.Entries) : Prop :=
  ∀ n ∈ names, n.wire ∈ Json.keys e → n.plain ∈ Json.keys e → n.plain = n.wire

/-- What a section says for a field; null says nothing. -/
def given? (e : Json.Entries) (n : Name) : Option Json :=
  ((n.find? e).map Prod.snd).filter fun v => !isNull v

def declared (e : Json.Entries) : Json.Entries :=
  Json.record (names.map fun n => (n.wire, given? e n))

def undeclared (e : Json.Entries) : Json.Entries :=
  e.filter fun (k, v) => !isDeclared k && !isNull v

variable {e e' : Json.Entries} {c : Config}

theorem isDeclared_iff {key : String} :
    isDeclared key = true ↔ ∃ n ∈ names, key = n.wire ∨ key = n.plain := by
  simp [isDeclared]

theorem isDeclared_wire {n : Name} (member : n ∈ names) : isDeclared n.wire = true :=
  isDeclared_iff.2 ⟨n, member, .inl rfl⟩

theorem isDeclared_plain {n : Name} (member : n ∈ names) : isDeclared n.plain = true :=
  isDeclared_iff.2 ⟨n, member, .inr rfl⟩

theorem mem_usedKeys {key : String} :
    key ∈ usedKeys e ↔ ∃ n ∈ names, ∃ v, n.find? e = some (key, v) := by
  simp [usedKeys]

theorem used_of_declared (once : GivenOnce e) {key : String} (here : key ∈ Json.keys e)
    (known : isDeclared key = true) : key ∈ usedKeys e := by
  obtain ⟨n, member, spelling⟩ := isDeclared_iff.1 known
  cases wire : Json.get? n.wire e with
  | some v =>
    have there : n.wire ∈ Json.keys e := by
      by_contra missing
      simp [Json.get?_eq_none_iff.2 missing] at wire
    have same : key = n.wire := spelling.elim id fun plain =>
      plain.trans (once n member there (plain ▸ here))
    exact mem_usedKeys.2 ⟨n, member, v, same ▸ find?_of_wire wire⟩
  | none =>
    have same : key = n.plain :=
      spelling.resolve_left fun named => Json.get?_eq_none_iff.1 wire (named ▸ here)
    cases plain : Json.get? n.plain e with
    | none => exact absurd (same ▸ here) (Json.get?_eq_none_iff.1 plain)
    | some v =>
      refine mem_usedKeys.2 ⟨n, member, v, ?_⟩
      simp [Name.find?, wire, plain, same]

theorem declared_of_used {key : String} (used : key ∈ usedKeys e) : isDeclared key = true := by
  obtain ⟨n, member, v, found⟩ := mem_usedKeys.1 used
  unfold Name.find? at found
  split at found
  · cases found
    exact isDeclared_wire member
  · obtain ⟨w, -, same⟩ := Option.map_eq_some_iff.1 found
    cases same
    exact isDeclared_plain member

theorem extraOf_eq (once : GivenOnce e) : extraOf e = e.filter fun m => !isDeclared m.1 := by
  refine List.filter_congr fun m member => ?_
  have here : m.1 ∈ Json.keys e := List.mem_map.2 ⟨m, member, rfl⟩
  have same : (usedKeys e).contains m.1 = isDeclared m.1 := by
    rw [Bool.eq_iff_iff, List.contains_iff_mem]
    exact ⟨declared_of_used, used_of_declared once here⟩
  exact congrArg (!·) same

/-! ## What a check makes of what is given -/

theorem isNull_iff {v : Json} : isNull v = true ↔ v = .null := by
  cases v <;> simp [isNull]

section
variable {α : Type} {check : Json → Checked α} {n : Name}

theorem nullable_eq_ok {v : Json} {o : Option α} :
    nullable check v = .ok o ↔
      (v = .null ∧ o = none) ∨ (v ≠ .null ∧ ∃ a, check v = .ok a ∧ o = some a) := by
  unfold nullable
  split
  · simp [eq_comm]
  · next other =>
    have given : v ≠ .null := other
    simp [given, map_eq_checked, eq_comm]

theorem given?_eq_some {v : Json} :
    given? e n = some v ↔ (∃ used, n.find? e = some (used, v)) ∧ v ≠ .null := by
  rw [given?, Option.filter_eq_some_iff]
  simp [← isNull_iff]

theorem given?_eq_none :
    given? e n = none ↔ n.find? e = none ∨ ∃ used, n.find? e = some (used, .null) := by
  unfold given?
  cases n.find? e with
  | none => simp
  | some m =>
    obtain ⟨used, v⟩ := m
    simp [isNull_iff]

theorem optional_eq_ok {o : Option α} :
    Schema.optional e n check = .ok o ↔
      (given? e n = none ∧ o = none) ∨
        ∃ v a, given? e n = some v ∧ check v = .ok a ∧ o = some a := by
  unfold Schema.optional withDefault
  cases found : n.find? e with
  | none => simp [given?, found, eq_comm]
  | some m =>
    obtain ⟨used, v⟩ := m
    simp only [below_eq_ok, nullable_eq_ok, given?_eq_none, given?_eq_some, found]
    grind

theorem required_eq_ok {a : α} (refuses : ∀ a, check .null ≠ .ok a) :
    required e n check = .ok a ↔ ∃ v, given? e n = some v ∧ check v = .ok a := by
  unfold required
  cases found : n.find? e with
  | none => simp [given?, found, Checked.fail, Checked.below]
  | some m =>
    obtain ⟨used, v⟩ := m
    simp only [below_eq_ok, given?_eq_some, found]
    grind

theorem given?_of_optional {write : α → Json} {o : Option α}
    (kept : ∀ v a, check v = .ok a → v = write a) (checked : Schema.optional e n check = .ok o) :
    given? e n = o.map write := by
  rcases optional_eq_ok.1 checked with ⟨none, rfl⟩ | ⟨v, a, some, fits, rfl⟩
  · exact none
  · rw [some, kept v a fits]
    rfl

theorem optional_of_same {o : Option α} (same : given? e' n = given? e n)
    (checked : Schema.optional e n check = .ok o) : Schema.optional e' n check = .ok o := by
  rw [optional_eq_ok, same]
  exact optional_eq_ok.1 checked

end

theorem eq_str_of_string {v : Json} {s : String} (fits : string v = .ok s) : v = .str s := by
  cases v <;> cases fits
  rfl

theorem eq_texts_of_tuple {v : Json} {ss : List String} (fits : tuple string v = .ok ss) :
    v = texts ss := by
  cases v with
  | arr vs =>
    rw [tuple_eq_ok] at fits
    refine congrArg Json.arr ?_
    induction fits with
    | nil => rfl
    | cons first _ ih => rw [List.map_cons, ih, eq_str_of_string first]
  | _ => cases fits

theorem eq_obj_of_dictionary {v : Json} {ss : List (String × String)}
    (fits : dictionary string v = .ok ss) : v = .obj (ss.map fun (k, s) => (k, .str s)) := by
  cases v with
  | obj entries =>
    refine congrArg Json.obj ?_
    change eachEntry string entries = .ok ss at fits
    induction entries generalizing ss with
    | nil =>
      cases fits
      rfl
    | cons m rest ih =>
      obtain ⟨k, v⟩ := m
      obtain ⟨f, more, first, later, rfl⟩ := Checked.both_eq_ok_iff.1 fits
      obtain ⟨s, checked, rfl⟩ := map_eq_checked.1 first
      rw [ih later, eq_str_of_string (below_eq_ok.1 checked)]
      rfl
  | _ => cases fits

theorem eq_str_of_choice {v : Json} {k : ParserKind} (fits : choice ParserKind.choices v = .ok k) :
    v = .str k.text := by
  cases v with
  | str s =>
    unfold choice at fits
    cases found : ParserKind.choices.lookup s with
    | none => simp [found, Checked.fail] at fits
    | some k' =>
      obtain rfl : k' = k := by simpa [found] using fits
      obtain ⟨before, after, split, -⟩ := List.lookup_eq_some_iff.1 found
      have member : (s, k') ∈ ParserKind.choices := split ▸ List.mem_append_right _ (.head _)
      obtain ⟨k'', -, same⟩ := List.mem_map.1 member
      cases same
      rfl
  | _ => cases fits

/-! ## Accepted sections -/

structure Accepted (e : Json.Entries) (c : Config) : Prop where
  parser : required e (word "parser") (choice ParserKind.choices) = .ok c.parser
  parserCommand : Schema.optional e ⟨"parserCommand", "parser_command"⟩ string = .ok c.parserCommand
  included : Schema.optional e (word "include") (tuple string) = .ok c.included
  excluded : Schema.optional e (word "exclude") (tuple string) = .ok c.excluded
  label : Schema.optional e (word "label") string = .ok c.label
  language : Schema.optional e (word "language") string = .ok c.language
  substitutions : Schema.optional e ⟨"documentUrlSubstitutions", "document_url_substitutions"⟩
    (dictionary string) = .ok c.substitutions
  gradleWrapperPath :
    Schema.optional e ⟨"gradleWrapperPath", "gradle_wrapper_path"⟩ string = .ok c.gradleWrapperPath
  swiftPackagePath :
    Schema.optional e ⟨"swiftPackagePath", "swift_package_path"⟩ string = .ok c.swiftPackagePath
  xcodeprojPath : Schema.optional e ⟨"xcodeprojPath", "xcodeproj_path"⟩ string = .ok c.xcodeprojPath
  sourcePackagesPath :
    Schema.optional e ⟨"sourcePackagesPath", "source_packages_path"⟩ string = .ok c.sourcePackagesPath
  extra : extraOf e = c.extra

theorem fields_eq_ok_iff : fields e = .ok c ↔ Accepted e c := by
  constructor
  · intro accepted
    simp only [fields, seq_eq_ok_iff, fmap_eq_ok_iff] at accepted
    obtain ⟨_, _, ⟨_, _, ⟨_, _, ⟨_, _, ⟨_, _, ⟨_, _, ⟨_, _, ⟨_, _, ⟨_, _, ⟨_, _, ⟨_, _, ⟨_, parser, rfl⟩,
      parserCommand, rfl⟩, included, rfl⟩, excluded, rfl⟩, label, rfl⟩, language, rfl⟩,
      substitutions, rfl⟩, gradleWrapperPath, rfl⟩, swiftPackagePath, rfl⟩, xcodeprojPath, rfl⟩,
      sourcePackagesPath, rfl⟩, extra, rfl⟩ := accepted
    cases extra
    exact ⟨parser, parserCommand, included, excluded, label, language, substitutions,
      gradleWrapperPath, swiftPackagePath, xcodeprojPath, sourcePackagesPath, rfl⟩
  · intro a
    exact seq_eq_ok (seq_eq_ok (seq_eq_ok (seq_eq_ok (seq_eq_ok (seq_eq_ok (seq_eq_ok (seq_eq_ok
      (seq_eq_ok (seq_eq_ok (seq_eq_ok (fmap_eq_ok a.parser) a.parserCommand) a.included) a.excluded)
      a.label) a.language) a.substitutions) a.gradleWrapperPath) a.swiftPackagePath) a.xcodeprojPath)
      a.sourcePackagesPath) (congrArg Checked.ok a.extra)

/-- What is accepted depends only on what stands under the names of the fields. -/
theorem accepted_of_same (same : ∀ n ∈ names, given? e' n = given? e n) (a : Accepted e c) :
    Accepted e' { c with extra := extraOf e' } where
  parser := by
    rw [required_eq_ok (by simp [choice, Checked.fail]), same _ (by simp [names])]
    exact (required_eq_ok (by simp [choice, Checked.fail])).1 a.parser
  parserCommand := optional_of_same (same _ (by simp [names])) a.parserCommand
  included := optional_of_same (same _ (by simp [names])) a.included
  excluded := optional_of_same (same _ (by simp [names])) a.excluded
  label := optional_of_same (same _ (by simp [names])) a.label
  language := optional_of_same (same _ (by simp [names])) a.language
  substitutions := optional_of_same (same _ (by simp [names])) a.substitutions
  gradleWrapperPath := optional_of_same (same _ (by simp [names])) a.gradleWrapperPath
  swiftPackagePath := optional_of_same (same _ (by simp [names])) a.swiftPackagePath
  xcodeprojPath := optional_of_same (same _ (by simp [names])) a.xcodeprojPath
  sourcePackagesPath := optional_of_same (same _ (by simp [names])) a.sourcePackagesPath
  extra := rfl

theorem toEntries_of_accepted (a : Accepted e c) (once : GivenOnce e) :
    c.toEntries = declared e ++ Json.finiteEntries (undeclared e) := by
  have parser : given? e (word "parser") = some (.str c.parser.text) := by
    obtain ⟨v, some, fits⟩ := (required_eq_ok (by simp [choice, Checked.fail])).1 a.parser
    rw [some, eq_str_of_choice fits]
  have texted {n : Name} {o : Option String} (checked : Schema.optional e n string = .ok o) :
      given? e n = o.map .str :=
    given?_of_optional (fun _ _ => eq_str_of_string) checked
  have listed {n : Name} {o : Option (List String)}
      (checked : Schema.optional e n (tuple string) = .ok o) : given? e n = o.map texts :=
    given?_of_optional (fun _ _ => eq_texts_of_tuple) checked
  have extra : c.extra.filter (fun (_, v) => !isNull v) = undeclared e := by
    rw [← a.extra, extraOf_eq once, List.filter_filter, undeclared]
    exact List.filter_congr fun m _ => Bool.and_comm ..
  rw [toEntries, extra, declared]
  refine congrArg (Json.record · ++ _) ?_
  simp only [names, List.map_cons, List.map_nil, parser, texted a.parserCommand, listed a.included,
    listed a.excluded, texted a.label, texted a.language, texted a.gradleWrapperPath,
    texted a.swiftPackagePath, texted a.xcodeprojPath, texted a.sourcePackagesPath,
    given?_of_optional (fun _ _ => eq_obj_of_dictionary) a.substitutions, word_wire]

/-- Nothing that is left out of a request is deep. -/
theorem shallow_undeclared (a : Accepted e c) (once : GivenOnce e) :
    Json.Shallow [undeclared e] ↔ Json.entryLevels c.extra ≤ Json.levelLimit := by
  rw [Json.Shallow, List.forall_mem_singleton, Json.entryLevels_le_iff, Json.entryLevels_le_iff, ← a.extra,
    extraOf_eq once]
  constructor
  · intro shallow m member
    obtain ⟨here, other⟩ := List.mem_filter.1 member
    cases null : isNull m.2 with
    | true =>
      rw [isNull_iff.1 null]
      decide
    | false => exact shallow m (List.mem_filter.2 ⟨here, by simp [null]; simpa using other⟩)
  · intro shallow m member
    obtain ⟨here, other⟩ := List.mem_filter.1 member
    exact shallow m (List.mem_filter.2 ⟨here, (Bool.and_eq_true_iff.1 other).1⟩)

theorem toRequest_of_shallow (a : Accepted e c) (once : GivenOnce e)
    (shallow : Json.Shallow [undeclared e]) :
    c.toRequest = .ok (declared e ++ Json.finiteEntries (undeclared e)) := by
  rw [toRequest, if_pos ((shallow_undeclared a once).1 shallow), toEntries_of_accepted a once]

theorem toRequest_of_deep (a : Accepted e c) (once : GivenOnce e)
    (deep : ¬ Json.Shallow [undeclared e]) : c.toRequest = .error .levels := by
  rw [toRequest, if_neg (mt (shallow_undeclared a once).2 deep)]

/-! ## The section of a request -/

theorem isDeclared_of_mem_undeclared {m : String × Json} (member : m ∈ undeclared e) :
    isDeclared m.1 = false ∧ isNull m.2 = false := by
  simpa using (List.mem_filter.1 member).2

theorem nodup_wires : (names.map Name.wire).Nodup := by decide

/-- A name that no request uses is the name of no field there. -/
theorem plain_ne_wire : ∀ n ∈ names, n.plain ≠ n.wire → n.plain ∉ names.map Name.wire := by decide

theorem get?_undeclared {key : String} (known : isDeclared key = true) :
    Json.get? key (Json.finiteEntries (undeclared e)) = none := by
  rw [Json.get?_eq_none_iff, Json.keys_finiteEntries]
  intro found
  obtain ⟨m, member, rfl⟩ := List.mem_map.1 found
  simp [(isDeclared_of_mem_undeclared member).1] at known

theorem get?_wire {n : Name} (member : n ∈ names) :
    Json.get? n.wire (declared e ++ Json.finiteEntries (undeclared e)) = given? e n := by
  have once : ((names.map fun n => (n.wire, given? e n)).map Prod.fst).Nodup := by
    rw [List.map_map]
    exact nodup_wires
  rw [Json.get?_append, get?_undeclared (isDeclared_wire member), Option.or_none, declared]
  exact Json.get?_record_of_mem once (List.mem_map.2 ⟨n, member, rfl⟩)

theorem get?_plain {n : Name} (member : n ∈ names) (other : n.plain ≠ n.wire) :
    Json.get? n.plain (declared e ++ Json.finiteEntries (undeclared e)) = none := by
  rw [Json.get?_append, get?_undeclared (isDeclared_plain member), Option.or_none,
    Json.get?_eq_none_iff]
  intro found
  have named := (Json.keys_record _).subset found
  rw [List.map_map] at named
  exact plain_ne_wire n member other named

theorem given?_request {n : Name} (member : n ∈ names) :
    given? (declared e ++ Json.finiteEntries (undeclared e)) n = given? e n := by
  cases said : given? e n with
  | some v =>
    have found := find?_of_wire ((get?_wire member).trans said)
    exact given?_eq_some.2 ⟨⟨_, found⟩, (given?_eq_some.1 said).2⟩
  | none =>
    have wire := (get?_wire member).trans said
    refine given?_eq_none.2 (.inl (find?_of_absent wire ?_))
    by_cases other : n.plain = n.wire
    · rw [other, wire]
    · exact get?_plain member other

theorem givenOnce_request : GivenOnce (declared e ++ Json.finiteEntries (undeclared e)) := by
  intro n member _ plain
  by_contra other
  exact Json.get?_eq_none_iff.1 (get?_plain member other) plain

theorem isDeclared_of_mem_declared {m : String × Json} (member : m ∈ declared e) :
    isDeclared m.1 = true := by
  obtain ⟨n, named, same⟩ := List.mem_map.1 (Json.mem_record.1 member)
  exact (congrArg Prod.fst same) ▸ isDeclared_wire named

theorem finite_undeclared (finite : Json.FiniteEntries e) : Json.FiniteEntries (undeclared e) :=
  Json.finiteEntries_iff.2 fun m member =>
    Json.finiteEntries_iff.1 finite m (List.mem_filter.1 member).1

theorem declared_request :
    declared (declared e ++ Json.finiteEntries (undeclared e)) = declared e :=
  congrArg Json.record (List.map_congr_left fun _ member => congrArg _ (given?_request member))

theorem undeclared_request (finite : Json.FiniteEntries e) :
    undeclared (declared e ++ Json.finiteEntries (undeclared e)) = undeclared e := by
  rw [(Json.finiteEntries_eq_iff _).2 (finite_undeclared finite)]
  change (declared e ++ undeclared e).filter _ = _
  have none : (declared e).filter (fun (k, v) => !isDeclared k && !isNull v) = [] :=
    List.filter_eq_nil_iff.2 fun m member => by simp [isDeclared_of_mem_declared member]
  have all : (undeclared e).filter (fun (k, v) => !isDeclared k && !isNull v) = undeclared e :=
    List.filter_eq_self.2 fun m member => by simp [isDeclared_of_mem_undeclared member]
  rw [List.filter_append, none, all, List.nil_append]

/-- The section of a request is accepted, and makes the same section of a request. -/
theorem request_accepted (a : Accepted e c) (once : GivenOnce e) (finite : Json.FiniteEntries e)
    (shallow : Json.Shallow [undeclared e]) :
    ∃ c', fields (declared e ++ Json.finiteEntries (undeclared e)) = .ok c' ∧
      c'.toRequest = c.toRequest := by
  have again := accepted_of_same (fun _ member => given?_request member) a
  refine ⟨_, fields_eq_ok_iff.2 again, ?_⟩
  rw [toRequest_of_shallow a once shallow,
    toRequest_of_shallow again givenOnce_request (by rwa [undeclared_request finite]),
    declared_request, undeclared_request finite]

/-! ## Documents with and without a section -/

theorem ofDocument_of_section {document : Json.Entries} (whole : Json.get? sectionKey e = none)
    (part : Json.get? sectionKey document = some (.obj e)) (source : String) :
    ofDocument document source = ofDocument e source := by
  unfold ofDocument
  rw [whole, part]
  rfl

def customSection : Json.Entries :=
  [("retries", .int 3), ("parser_command", .str "./parse"), ("note", .null), ("parser", .str "custom"),
    ("options", .obj [("strict", .null), ("tags", .arr [.bool true, .null])]), ("label", .null)]

def customConfig : Config :=
  ⟨.custom, some "./parse", none, none, none, none, none, none, none, none, none,
    [("retries", .int 3), ("note", .null),
      ("options", .obj [("strict", .null), ("tags", .arr [.bool true, .null])])]⟩

def customRequest : Json.Entries :=
  [("parser", .str "custom"), ("parserCommand", .str "./parse"), ("retries", .int 3),
    ("options", .obj [("strict", .null), ("tags", .arr [.bool true, .null])])]

def deepSection : Json.Entries :=
  ("parser", .str "html") :: Json.deepPart

def deepConfig : Config :=
  ⟨.html, none, none, none, none, none, none, none, none, none, none, Json.deepPart⟩

/-- A number that is no number is null in a request, and so is left out of the request of that. -/
example :
    (∃ c, fields [("parser", .str "html"), ("ratio", .float .nan)] = .ok c ∧
      c.toRequest = .ok [("parser", .str "html"), ("ratio", .null)]) ∧
    ∃ c, fields [("parser", .str "html"), ("ratio", .null)] = .ok c ∧
      c.toRequest = .ok [("parser", .str "html")] :=
  ⟨⟨_, rfl, rfl⟩, _, rfl, rfl⟩

end Config

end ParserHost
