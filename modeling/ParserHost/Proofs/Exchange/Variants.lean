import ParserHost.Proofs.Exchange.Parts
import ParserHost.Proofs.Exchange.Refusals
import ParserHost.Proofs.Json.Distinct

/-!
# Entries of variants

The value of an entry of a document's variant is a text or a boolean, or converts to a boolean; any
other value is a misfit and is complained about twice, once for each member of the union. A response
with nothing else wrong is refused with one issue for each path of a misfit (`issues_of_misfits`).
Entries of one document share a path when their keys look like tags with parameters, because such keys
are left out of paths.
-/

namespace ParserHost

open Schema

namespace Schema

/-! ## Values of entries -/

def isText : Json → Bool
  | .str _ | .broken _ => true
  | _ => false

/-- A value that is no text and does not convert to a boolean. -/
def isMisfit (v : Json) : Bool :=
  !isText v &&
    match boolean v with
    | .ok _ => false
    | .bad .. => true

theorem boolean_cases (v : Json) :
    (∃ b, boolean v = .ok b) ∨ boolean v = .fail .notBoolean ∨ boolean v = .fail .notBooleanText := by
  unfold boolean
  repeat' split
  all_goals simp

theorem string_of_not_isText {v : Json} (other : isText v = false) : string v = .fail .notString := by
  cases v with
  | str s => cases other
  | broken cs => cases other
  | null | bool | int | float | arr | obj => rfl

def flagComplaint (v : Json) : Complaint :=
  match boolean v with
  | .ok _ => .notBoolean
  | .bad w _ => w.complaint

theorem kind_flagComplaint (v : Json) : IssueKind.ofType (flagComplaint v).type = .invalidType := by
  rcases boolean_cases v with ⟨b, answer⟩ | answer | answer
  · rw [flagComplaint, answer]
    change IssueKind.ofType Complaint.notBoolean.type = .invalidType
    decide +kernel
  · rw [flagComplaint, answer]
    decide +kernel
  · rw [flagComplaint, answer]
    decide +kernel

theorem textOrFlag_misfit {v : Json} (misfit : isMisfit v = true) :
    (textOrFlag v).violations =
      [⟨[.key "str"], .notString⟩, ⟨[.key "bool"], flagComplaint v⟩] := by
  rw [isMisfit, Bool.and_eq_true, Bool.not_eq_true'] at misfit
  obtain ⟨other, refused⟩ := misfit
  rw [textOrFlag, string_of_not_isText other]
  rcases boolean_cases v with ⟨b, answer⟩ | answer | answer
  · rw [answer] at refused
    cases refused
  · rw [flagComplaint, answer]
    rfl
  · rw [flagComplaint, answer]
    rfl

theorem textOrFlag_fit {v : Json} (fits : isMisfit v = false) :
    (textOrFlag v).violations = [] ∨ ∃ cs, v = .broken cs := by
  cases text : isText v with
  | true =>
    cases v with
    | str s => exact .inl rfl
    | broken cs => exact .inr ⟨cs, rfl⟩
    | null | bool | int | float | arr | obj => cases text
  | false =>
    rw [isMisfit, text, Bool.not_false, Bool.true_and] at fits
    rw [textOrFlag, string_of_not_isText text]
    rcases boolean_cases v with ⟨b, converts⟩ | answer | answer
    · rw [converts]
      exact .inl rfl
    · rw [answer] at fits
      cases fits
    · rw [answer] at fits
      cases fits

end Schema

/-! ## Violations of a document -/

namespace Document

theorem filter_fields (e : Json.Entries) :
    (fields e).violations.filter (startsAt "variant") =
      (optional e (word "variant") (dictionary textOrFlag)).violations := by
  have aside {n : Name} {vs : List Violation} (under : Under n vs)
      (apart : n.wire ≠ "variant" ∧ n.plain ≠ "variant") : vs.filter (startsAt "variant") = [] :=
    filter_under_of_ne under apart.1 apart.2
  simp only [fields, violations_seq, violations_fmap, List.filter_append]
  rw [aside (under_required e _ _) (by decide), aside (under_required e _ _) (by decide),
    aside (under_required e _ _) (by decide), aside (under_required e _ _) (by decide),
    aside (under_required e _ _) (by decide), aside (under_optional e _ _) (by decide),
    filter_under_word (under_optional e _ _),
    aside (under_withDefault e _ _ _) (by decide),
    aside (under_withDefault e _ _ _) (by decide),
    aside (under_optional e _ _) (by decide),
    aside (under_optional e _ _) (by decide)]
  simp

def variantOf (d : Json) : Json.Entries :=
  match d.field? "variant" with
  | some (.obj entries) => entries
  | _ => []

def misfitsOf (d : Json) : Json.Entries :=
  (variantOf d).filter fun m => isMisfit m.2

def misfitFaults (m : String × Json) : List Violation :=
  [⟨[.key "variant", .key m.1, .key "str"], .notString⟩,
    ⟨[.key "variant", .key m.1, .key "bool"], flagComplaint m.2⟩]

theorem violations_variant (e : Json.Entries) :
    (optional e (word "variant") (dictionary textOrFlag)).violations =
        ((variantOf (.obj e)).flatMap fun m => (textOrFlag m.2).violations.map fun w =>
          ⟨.key "variant" :: .key m.1 :: w.location, w.complaint⟩) ∨
      ⟨[.key "variant"], .notDictionary⟩ ∈
        (optional e (word "variant") (dictionary textOrFlag)).violations := by
  unfold Schema.optional withDefault
  rw [find?_word]
  have here : variantOf (.obj e) = match Json.get? "variant" e with
    | some (.obj entries) => entries
    | _ => [] := rfl
  rw [here]
  cases Json.get? "variant" e with
  | none => exact .inl rfl
  | some v =>
    cases v with
    | null => exact .inl rfl
    | obj entries =>
      refine .inl ?_
      change (((eachEntry textOrFlag entries).map some).below (.key "variant")).violations = _
      rw [Checked.violations_below, violations_map, violations_eachEntry, List.map_flatMap]
      simp only [List.map_map]
      rfl
    | bool | int | float | str | broken | arr => exact .inr List.mem_cons_self

theorem flatMap_eq_filter {α β : Type} {l : List α} {p : α → Bool} {f g : α → List β}
    (kept : ∀ a ∈ l, p a = true → f a = g a) (dropped : ∀ a ∈ l, p a = false → f a = []) :
    l.flatMap f = (l.filter p).flatMap g := by
  induction l with
  | nil => rfl
  | cons a rest ih =>
    have more := ih (fun b member => kept b (List.mem_cons_of_mem _ member))
      (fun b member => dropped b (List.mem_cons_of_mem _ member))
    cases holds : p a with
    | true =>
      rw [List.filter_cons_of_pos holds, List.flatMap_cons, List.flatMap_cons, more,
        kept a List.mem_cons_self holds]
    | false =>
      rw [List.filter_cons_of_neg (by simp [holds]), List.flatMap_cons, more,
        dropped a List.mem_cons_self holds, List.nil_append]

theorem distinct_variantOf {d : Json} (distinct : d.Distinct) :
    (Json.keys (variantOf d)).Nodup := by
  cases d with
  | obj e =>
    have here : variantOf (.obj e) = match Json.get? "variant" e with
      | some (.obj entries) => entries
      | _ => [] := rfl
    rw [here]
    cases found : Json.get? "variant" e with
    | none => exact List.nodup_nil
    | some v =>
      have inner := distinct.get? found
      cases v with
      | obj entries => exact (Json.distinct_obj.1 inner).1
      | null | bool | int | float | str | broken | arr => exact List.nodup_nil
  | null | bool | int | float | str | broken | arr => exact List.nodup_nil

def AtMisfits (d : Json) (vs : List Violation) : Prop :=
  ∀ w ∈ vs, ∃ m ∈ misfitsOf d, ∃ tag, w.location = [.key "variant", .key m.1, .key tag]

theorem isMisfit_of_key {d : Json} (distinct : d.Distinct) {m m' : String × Json}
    (member : m ∈ variantOf d) (misfit : m' ∈ misfitsOf d) (same : m.1 = m'.1) :
    isMisfit m.2 = true := by
  obtain ⟨member', holds⟩ := List.mem_filter.1 misfit
  have once := distinct_variantOf distinct
  have found : Json.get? m.1 (variantOf d) = some m.2 := Json.get?_of_mem once member
  have found' : Json.get? m'.1 (variantOf d) = some m'.2 := Json.get?_of_mem once member'
  rw [same, found', Option.some.injEq] at found
  rw [← found]
  exact holds

theorem eq_obj_of_atMisfits {d : Json} (only : AtMisfits d (check d).violations) :
    ∃ e, d = .obj e := by
  cases d with
  | obj e => exact ⟨e, rfl⟩
  | null | bool | int | float | str | broken | arr =>
    obtain ⟨m, -, tag, here⟩ := only _ List.mem_cons_self
    cases here

theorem violations_of_atMisfits {e : Json.Entries}
    (only : AtMisfits (.obj e) (check (.obj e)).violations) :
    (check (.obj e)).violations =
      (variantOf (.obj e)).flatMap fun m => (textOrFlag m.2).violations.map fun w =>
        ⟨.key "variant" :: .key m.1 :: w.location, w.complaint⟩ := by
  have variant : (check (.obj e)).violations =
      (optional e (word "variant") (dictionary textOrFlag)).violations := by
    rw [← filter_fields]
    refine (List.filter_eq_self.2 fun w member => ?_).symm
    obtain ⟨m, -, tag, here⟩ := only w member
    rw [startsAt, here]
    rfl
  rw [variant] at only ⊢
  rcases violations_variant e with entries | refused
  · exact entries
  · obtain ⟨m, -, tag, here⟩ := only _ refused
    cases here

/-- If the misfits are all that is wrong with a document, it is refused for them, in order. -/
theorem violations_of_misfits {d : Json} (distinct : d.Distinct)
    (only : AtMisfits d (check d).violations) :
    (check d).violations = (misfitsOf d).flatMap misfitFaults := by
  obtain ⟨e, rfl⟩ := eq_obj_of_atMisfits only
  have entries := violations_of_atMisfits only
  rw [entries]
  refine flatMap_eq_filter (fun m _ misfit => ?_) (fun m member fits => ?_)
  · rw [textOrFlag_misfit misfit]
    rfl
  · rcases textOrFlag_fit fits with none | ⟨cs, text⟩
    · rw [none]
      rfl
    · -- A text that is not Unicode would be refused too, but it is no misfit.
      have wrong : ⟨[.key "variant", .key m.1, .key "str"], .notUnicode⟩ ∈
          (check (.obj e)).violations := by
        rw [entries]
        refine List.mem_flatMap.2 ⟨m, member, ?_⟩
        rw [text]
        exact List.mem_cons_self
      obtain ⟨m', misfit, tag, here⟩ := only _ wrong
      simp only [List.cons.injEq, true_and, Segment.key.injEq] at here
      rw [isMisfit_of_key distinct member misfit here.1] at fits
      cases fits

end Document

/-! ## Issues -/

namespace Engine

open Document (variantOf misfitsOf misfitFaults)

def documentsOf (payload : Json) : List Json :=
  match payload.field? "docs" with
  | some (.arr ds) => ds
  | _ => []

structure Misfit where
  document : Nat
  key : String
  value : Json

def misfits (payload : Json) : List Misfit :=
  (documentsOf payload).zipIdx.flatMap fun d => (misfitsOf d.1).map fun m => ⟨d.2, m.1, m.2⟩

def OnlyMisfits (payload : Json) : Prop :=
  ∀ w ∈ (Response.check .parse payload).violations, ∃ m ∈ misfits payload, ∃ tag ∈ ["str", "bool"],
    w.location = [.key "docs", .index m.document, .key "variant", .key m.key, .key tag]

instance (payload : Json) : Decidable (OnlyMisfits payload) :=
  inferInstanceAs (Decidable (∀ w ∈ _, ∃ m ∈ misfits payload, ∃ tag ∈ ["str", "bool"], _))

namespace Misfit

def path (m : Misfit) : String :=
  s!"docs[{m.document}].variant.{m.key}"

/-- The path under which an entry is reported: a key that looks like a tag is left out. -/
def reportedPath (m : Misfit) : String :=
  if isParametrisedTag m.key then s!"docs[{m.document}].variant" else m.path

def issue (m : Misfit) : Issue :=
  ⟨m.reportedPath, .invalidType, Complaint.notString.detail .value⟩

def repeated (m : Misfit) : Issue :=
  ⟨m.reportedPath, IssueKind.ofType (flagComplaint m.value).type,
    (flagComplaint m.value).detail .value⟩

theorem label_repeated (m : Misfit) : m.repeated.label = m.issue.label := by
  rw [repeated, Issue.label, kind_flagComplaint]
  rfl

theorem path_eq (m : Misfit) : m.path = indexed "docs" m.document ++ (".variant." ++ m.key) := by
  apply String.toList_injective
  simp [path, indexed]
  rfl

theorem reportedPath_of_tag {m : Misfit} (looks : isParametrisedTag m.key = true) :
    m.reportedPath = indexed "docs" m.document ++ ".variant" := by
  rw [reportedPath, looks, if_pos rfl]
  apply String.toList_injective
  simp [indexed]
  rfl

theorem reportedPath_of_plain {m : Misfit} (plain : isParametrisedTag m.key = false) :
    m.reportedPath = m.path := by
  rw [reportedPath, plain, if_neg Bool.false_ne_true]

theorem itemPath_entry (m : Misfit) (tag : String) (scalar : tag ∈ scalarTags)
    (plain : isParametrisedTag tag = false) :
    itemPath "docs" m.document [.key "variant", .key m.key, .key tag] = m.reportedPath := by
  have last : Segment.isScalarTag (.key tag) = true := List.contains_iff_mem.2 scalar
  have word : isParametrisedTag "variant" = false := by decide +kernel
  cases looks : isParametrisedTag m.key with
  | true =>
    have shown : Location.untagged [.key "variant", .key m.key, .key tag] = [.key "variant"] := by
      simp [Location.untagged, Segment.isParametrisedTag, word, looks, plain, last]
    rw [itemPath, shown, reportedPath_of_tag looks]
    rfl
  | false =>
    have shown : Location.untagged [.key "variant", .key m.key, .key tag] =
        [.key "variant", .key m.key] := by
      simp [Location.untagged, Segment.isParametrisedTag, word, looks, plain, last]
    rw [itemPath, shown, reportedPath_of_plain looks, path_eq]
    apply String.toList_injective
    simp [Location.suffix, Segment.suffix]

theorem path_inj {m m' : Misfit} (same : m.path = m'.path) :
    m.document = m'.document ∧ m.key = m'.key := by
  rw [path_eq, path_eq, indexed_eq_iff] at same
  exact ⟨same.1, (String.append_right_inj _).1 same.2⟩

/-- A path that leaves a key out is the path of no entry. -/
theorem reportedPath_ne_path {m : Misfit} (looks : isParametrisedTag m.key = true) (m' : Misfit) :
    m.reportedPath ≠ m'.path := by
  rw [reportedPath_of_tag looks, path_eq]
  intro same
  have longer := congrArg String.length (indexed_eq_iff.1 same).2
  rw [String.length_append] at longer
  have short : ".variant".length < ".variant.".length := by decide
  omega

end Misfit

theorem violations_object (e : Json.Entries) :
    (Response.check .parse (.obj e)).violations =
      (required e (word "docs") (tuple Document.check)).violations ++
        (required e (word "messages") (tuple Message.check)).violations := by
  rw [Response.check, violations_map]
  change (Checked.both ((required _ _ (tuple Document.check)).map ParseResponse.mk)
    (required _ _ (tuple Message.check))).violations = _
  rw [Checked.violations_both, violations_map]

theorem violations_documents (e : Json.Entries) :
    (required e (word "docs") (tuple Document.check)).violations =
        listFaults "docs" (fun d => (Document.check d).violations) (documentsOf (.obj e)) ∨
      ∃ c, ⟨[.key "docs"], c⟩ ∈ (required e (word "docs") (tuple Document.check)).violations := by
  have here : documentsOf (.obj e) = match Json.get? "docs" e with
    | some (.arr ds) => ds
    | _ => [] := rfl
  have named := find?_word "docs" e
  rw [here]
  cases found : Json.get? "docs" e with
  | none =>
    rw [found] at named
    rw [required, named]
    exact .inr ⟨.missing, List.mem_cons_self⟩
  | some v =>
    rw [found] at named
    cases v with
    | arr ds => exact .inl (violations_list named)
    | null | bool | int | float | str | broken | obj =>
      rw [violations_required named]
      exact .inr ⟨.notTuple, List.mem_cons_self⟩

theorem violations_of_only {payload : Json} (only : OnlyMisfits payload) :
    (Response.check .parse payload).violations =
      listFaults "docs" (fun d => (Document.check d).violations) (documentsOf payload) := by
  obtain ⟨e, rfl⟩ : ∃ e, payload = .obj e := by
    cases payload with
    | obj e => exact ⟨e, rfl⟩
    | null | bool | int | float | str | broken | arr =>
      obtain ⟨m, -, tag, -, here⟩ := only _ List.mem_cons_self
      cases here
  have messages : (required e (word "messages") (tuple Message.check)).violations = [] := by
    refine List.eq_nil_iff_forall_not_mem.2 fun w member => ?_
    have wrong : w ∈ (Response.check .parse (.obj e)).violations := by
      rw [violations_object]
      exact List.mem_append_right _ member
    obtain ⟨m, -, tag, -, here⟩ := only w wrong
    obtain ⟨used, rest, named, there⟩ := under_required e (word "messages") _ w member
    rw [here] at there
    rcases named with rfl | rfl
    · injection there with same
      exact absurd (Segment.key.inj same) (by decide)
    · injection there with same
      exact absurd (Segment.key.inj same) (by decide)
  rcases violations_documents e with documents | ⟨c, refused⟩
  · rw [violations_object, messages, List.append_nil, documents]
  · have wrong : ⟨[.key "docs"], c⟩ ∈ (Response.check .parse (.obj e)).violations := by
      rw [violations_object]
      exact List.mem_append_left _ refused
    obtain ⟨m, -, tag, -, here⟩ := only _ wrong
    cases here

theorem distinct_documentsOf {payload : Json} (distinct : payload.Distinct) :
    ∀ d ∈ documentsOf payload, d.Distinct := by
  intro d member
  unfold documentsOf at member
  split at member
  · next ds found =>
    obtain ⟨e, rfl⟩ : ∃ e, payload = .obj e := by
      cases payload with
      | obj e => exact ⟨e, rfl⟩
      | null | bool | int | float | str | broken | arr => cases found
    have inner : (Json.arr ds).Distinct := distinct.get? found
    exact Json.distinct_arr.1 inner d member
  · cases member

theorem violations_document {payload d : Json} {i : Nat} (distinct : payload.Distinct)
    (only : OnlyMisfits payload) (member : (d, i) ∈ (documentsOf payload).zipIdx) :
    (Document.check d).violations = (misfitsOf d).flatMap misfitFaults := by
  refine Document.violations_of_misfits
    (distinct_documentsOf distinct d (List.fst_mem_of_mem_zipIdx member)) fun w refused => ?_
  have wrong : ⟨.key "docs" :: .index i :: w.location, w.complaint⟩ ∈
      (Response.check .parse payload).violations := by
    rw [violations_of_only only]
    exact List.mem_flatMap.2 ⟨(d, i), member, List.mem_map.2 ⟨w, refused, rfl⟩⟩
  obtain ⟨m, misfit, tag, -, here⟩ := only _ wrong
  obtain ⟨⟨d', i'⟩, member', entry⟩ := List.mem_flatMap.1 misfit
  obtain ⟨m', own, rfl⟩ := List.mem_map.1 entry
  simp only [List.cons.injEq, true_and, Segment.index.injEq, Int.natCast_inj] at here
  obtain ⟨rfl, here⟩ := here
  have same : d = d' := by
    have one := List.mem_zipIdx_iff_getElem?.1 member
    have other := List.mem_zipIdx_iff_getElem?.1 member'
    exact Option.some.inj (one.symm.trans other)
  subst same
  exact ⟨m', own, tag, here⟩

/-- Before any is left out, the issues are two for each misfit. -/
theorem reports_of_misfits {payload : Json} (distinct : payload.Distinct)
    (only : OnlyMisfits payload) :
    ((Response.check .parse payload).violations.map (Violation.report .value)).map Issue.ofReport =
      (misfits payload).flatMap fun m => [m.issue, m.repeated] := by
  rw [violations_of_only only, ofReport_list (by decide) (by decide +kernel), misfits,
    List.flatMap_assoc]
  refine List.flatMap_congr fun d member => ?_
  rw [violations_document distinct only member, List.map_flatMap, List.flatMap_map]
  refine List.flatMap_congr fun m _ => ?_
  have text := Misfit.itemPath_entry ⟨d.2, m.1, m.2⟩ "str" (by decide) (by decide +kernel)
  have flag := Misfit.itemPath_entry ⟨d.2, m.1, m.2⟩ "bool" (by decide) (by decide +kernel)
  have kind : IssueKind.ofType Complaint.notString.type = .invalidType := by decide +kernel
  simp only [misfitFaults, List.map_cons, List.map_nil, itemIssue, text, flag, kind]
  rfl

theorem nodup_misfits {payload : Json} (distinct : payload.Distinct) :
    (misfits payload).Pairwise fun m m' => m.path ≠ m'.path := by
  refine List.pairwise_flatMap.2 ⟨fun d member => ?_, ?_⟩
  · have once : ((misfitsOf d.1).map Prod.fst).Nodup :=
      (Document.distinct_variantOf (distinct_documentsOf distinct d.1
        (List.fst_mem_of_mem_zipIdx member))).sublist (List.filter_sublist.map _)
    refine List.pairwise_map.2 ((List.pairwise_map.1 once).imp fun different same => ?_)
    exact different (Misfit.path_inj same).2
  · have indices : ((documentsOf payload).zipIdx.map Prod.snd).Pairwise (· ≠ ·) := by
      rw [List.zipIdx_map_snd]
      exact List.nodup_range'
    refine (List.pairwise_map.1 indices).imp fun different m here m' there same => ?_
    obtain ⟨_, -, rfl⟩ := List.mem_map.1 here
    obtain ⟨_, -, rfl⟩ := List.mem_map.1 there
    exact different (Misfit.path_inj same).1

def Misfit.expected (m : Misfit) : String × IssueKind :=
  (m.path, .invalidType)

/-- A response is refused for its misfits: the issues are one for each path, in order. They are one for
each entry, under its own path, exactly if no key looks like a tag. -/
theorem issues_of_misfits {payload : Json} (distinct : payload.Distinct)
    (only : OnlyMisfits payload) :
    issuesOf .parse payload = ((misfits payload).map Misfit.issue).eraseDups ∧
      ((issuesOf .parse payload).map Issue.label = (misfits payload).map Misfit.expected ↔
        ∀ m ∈ misfits payload, isParametrisedTag m.key = false) := by
  have issues : issuesOf .parse payload = ((misfits payload).map Misfit.issue).eraseDups := by
    rw [issuesOf_eq, Issue.ofReports, reports_of_misfits distinct only,
      unique_doubled Misfit.label_repeated]
    refine unique_eq_eraseDups fun i one j other same => ?_
    obtain ⟨m, -, rfl⟩ := List.mem_map.1 one
    obtain ⟨m', -, rfl⟩ := List.mem_map.1 other
    have path : m.reportedPath = m'.reportedPath := congrArg Prod.fst same
    rw [Misfit.issue, path, Misfit.issue]
  refine ⟨issues, fun corresponds m member => ?_, fun plain => ?_⟩
  · -- The claimed path of such a key would have to be reported, but no reported path shows one.
    cases looks : isParametrisedTag m.key with
    | false => rfl
    | true =>
      have claimed : m.expected ∈ (issuesOf .parse payload).map Issue.label := by
        rw [corresponds]
        exact List.mem_map_of_mem member
      rw [issues] at claimed
      obtain ⟨i, kept, same⟩ := List.mem_map.1 claimed
      obtain ⟨m', -, rfl⟩ := List.mem_map.1 (List.mem_eraseDups.1 kept)
      have path : m'.reportedPath = m.path := congrArg Prod.fst same
      cases looks' : isParametrisedTag m'.key with
      | true => exact absurd path (Misfit.reportedPath_ne_path looks' m)
      | false =>
        rw [Misfit.reportedPath_of_plain looks'] at path
        rw [(Misfit.path_inj path).2, looks] at looks'
        cases looks'
  · have paths : ∀ m ∈ misfits payload, m.issue.label = m.expected := fun m member =>
      congrArg (·, IssueKind.invalidType) (Misfit.reportedPath_of_plain (plain m member))
    have once : ((misfits payload).map Misfit.issue).Nodup := by
      refine List.pairwise_map.2 ((nodup_misfits distinct).imp_of_mem fun one other differ same => ?_)
      have labels := congrArg Issue.label same
      rw [paths _ one, paths _ other] at labels
      exact differ (congrArg Prod.fst labels)
    rw [issues, eraseDups_of_nodup once, List.map_map]
    exact List.map_congr_left paths

def collapsing : Json :=
  .obj [
    ("docs", .arr [.obj [
      ("figmaNode", .str "n"), ("label", .str "l"), ("language", .str "kotlin"),
      ("template", .str "t"), ("templateData", .obj []),
      ("variant", .obj [("size[large]", .arr []), ("state[hover]", .null)])]]),
    ("messages", .arr [])]

theorem issues_of_misfits_of_collapsing :
    collapsing.Distinct ∧ OnlyMisfits collapsing ∧
      issuesOf .parse collapsing = [⟨"docs[0].variant", .invalidType, "Input should be a valid string"⟩] := by
  have distinct : collapsing.Distinct := by decide +kernel
  have only : OnlyMisfits collapsing := by decide +kernel
  refine ⟨distinct, only, ?_⟩
  rw [(issues_of_misfits distinct only).1]
  decide +kernel

/-- Two entries become one issue, and its path shows neither key. -/
theorem collapsing_entries :
    OnlyMisfits collapsing ∧
      (misfits collapsing).map Misfit.path =
        ["docs[0].variant.size[large]", "docs[0].variant.state[hover]"] ∧
      (issuesOf .parse collapsing).map Issue.path = ["docs[0].variant"] := by
  decide +kernel

end Engine
end ParserHost
