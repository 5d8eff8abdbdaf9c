import Mathlib.Data.List.Basic
import ParserHost.Proofs.Run.Stages
import ParserHost.Proofs.Schema.Issues

/-!
# Refusals

How the violations of a shape come from those of its parts (`violations_list` for the list under a
key), where those of a field lie (`under_required`), what they are reported as (`ofReport_list`), and
the issues with which a response is refused (`issuesOf_eq`, `issues_of_error`).
-/

namespace ParserHost

/-! ## Violations of parts -/

namespace Schema

variable {α β : Type}

theorem violations_map (f : α → β) (x : Checked α) : (x.map f).violations = x.violations := by
  cases x <;> rfl

theorem violations_required {check : Json → Checked α} {e : Json.Entries} {n : Name} {used : String}
    {v : Json} (found : n.find? e = some (used, v)) :
    (required e n check).violations =
      (check v).violations.map fun w => ⟨.key used :: w.location, w.complaint⟩ := by
  rw [required, found]
  exact Checked.violations_below _ _

theorem violations_eachFrom (check : Json → Checked α) (n : Nat) (vs : List Json) :
    (eachFrom check n vs).violations =
      (vs.zipIdx n).flatMap fun item =>
        (check item.1).violations.map fun w => ⟨.index item.2 :: w.location, w.complaint⟩ := by
  induction vs generalizing n with
  | nil => rfl
  | cons v rest ih =>
    rw [eachFrom, Checked.violations_both, violations_map, Checked.violations_below, ih,
      List.zipIdx_cons, List.flatMap_cons]

theorem violations_fmap (f : α → β) (x : Checked α) : (f <$> x).violations = x.violations :=
  violations_map f x

theorem violations_seq (f : Checked (α → β)) (x : Checked α) :
    (f <*> x).violations = f.violations ++ x.violations :=
  Checked.violations_both f x

theorem violations_eachEntry (check : Json → Checked α) (e : Json.Entries) :
    (eachEntry check e).violations =
      e.flatMap fun m => (check m.2).violations.map fun w => ⟨.key m.1 :: w.location, w.complaint⟩ := by
  induction e with
  | nil => rfl
  | cons m rest ih =>
    obtain ⟨k, v⟩ := m
    rw [eachEntry, Checked.violations_both, violations_map, Checked.violations_below, ih,
      List.flatMap_cons]

def Under (n : Name) (vs : List Violation) : Prop :=
  ∀ w ∈ vs, ∃ used rest, (used = n.wire ∨ used = n.plain) ∧ w.location = .key used :: rest

theorem used_of_find? {n : Name} {e : Json.Entries} {used : String} {v : Json}
    (found : n.find? e = some (used, v)) : used = n.wire ∨ used = n.plain := by
  unfold Name.find? at found
  split at found
  · cases found
    exact .inl rfl
  · obtain ⟨_, -, same⟩ := Option.map_eq_some_iff.1 found
    cases same
    exact .inr rfl

theorem under_below (n : Name) {used : String} (name : used = n.wire ∨ used = n.plain)
    (x : Checked α) : Under n (x.below (.key used)).violations := by
  intro w member
  rw [Checked.violations_below] at member
  obtain ⟨inner, -, rfl⟩ := List.mem_map.1 member
  exact ⟨used, _, name, rfl⟩

theorem under_required (e : Json.Entries) (n : Name) (check : Json → Checked α) :
    Under n (required e n check).violations := by
  unfold required
  split
  · next found => exact under_below n (used_of_find? found) _
  · exact under_below n (.inl rfl) _

theorem under_withDefault (e : Json.Entries) (n : Name) (default : α) (check : Json → Checked α) :
    Under n (withDefault e n default check).violations := by
  unfold withDefault
  split
  · next found => exact under_below n (used_of_find? found) _
  · intro w member
    cases member

theorem under_optional (e : Json.Entries) (n : Name) (check : Json → Checked α) :
    Under n (optional e n check).violations :=
  under_withDefault e n none (nullable check)

def startsAt (key : String) (w : Violation) : Bool :=
  w.location.head? = some (.key key)

theorem filter_under_of_ne {n : Name} {vs : List Violation} {key : String} (under : Under n vs)
    (wire : n.wire ≠ key) (plain : n.plain ≠ key) : vs.filter (startsAt key) = [] := by
  refine List.filter_eq_nil_iff.2 fun w member => ?_
  obtain ⟨used, rest, name, here⟩ := under w member
  have other : used ≠ key := by
    rcases name with rfl | rfl
    · exact wire
    · exact plain
  simp [startsAt, here, other]

theorem filter_under_word {vs : List Violation} {key : String} (under : Under (word key) vs) :
    vs.filter (startsAt key) = vs := by
  refine List.filter_eq_self.2 fun w member => ?_
  obtain ⟨used, rest, rfl | rfl, here⟩ := under w member
  · simp [startsAt, here]
  · simp [startsAt, here]

/-! ## Violations of a list -/

def itemIssue (key : String) (i : Nat) (w : Violation) : Issue :=
  ⟨itemPath key i w.location, IssueKind.ofType w.complaint.type, w.complaint.detail .value⟩

def listFaults (key : String) (faults : Json → List Violation) (vs : List Json) : List Violation :=
  vs.zipIdx.flatMap fun item =>
    (faults item.1).map fun w => ⟨.key key :: .index item.2 :: w.location, w.complaint⟩

theorem violations_list {α : Type} {check : Json → Checked α} {e : Json.Entries} {n : Name}
    {used : String} {vs : List Json} (found : n.find? e = some (used, .arr vs)) :
    (required e n (tuple check)).violations =
      listFaults used (fun v => (check v).violations) vs := by
  rw [violations_required found]
  change (eachFrom check 0 vs).violations.map _ = _
  rw [violations_eachFrom, List.map_flatMap]
  simp only [List.map_map]
  rfl

theorem ofReport_item {key : String} (named : key ≠ "") (plain : isParametrisedTag key = false) (i : Nat)
    (w : Violation) :
    Issue.ofReport (Violation.report .value ⟨.key key :: .index i :: w.location, w.complaint⟩) =
      itemIssue key i w := by
  rw [Issue.ofReport, Violation.report, path_item named plain]
  rfl

theorem ofReport_list {key : String} (named : key ≠ "") (plain : isParametrisedTag key = false)
    (faults : Json → List Violation) (vs : List Json) :
    ((listFaults key faults vs).map (Violation.report .value)).map Issue.ofReport =
      vs.zipIdx.flatMap fun item => (faults item.1).map (itemIssue key item.2) := by
  rw [listFaults]
  simp only [List.map_flatMap, List.map_map]
  refine List.flatMap_congr fun item _ => List.map_congr_left fun w _ => ?_
  exact ofReport_item named plain item.2 w

end Schema

open Schema

namespace Engine

/-- The issues with which an untyped response is refused; there are none if it fits. -/
def issuesOf (mode : Mode) (v : Json) : List Issue :=
  match validate mode v with
  | .error (.schema issues) => issues
  | _ => []

theorem issuesOf_eq (mode : Mode) (v : Json) :
    issuesOf mode v =
      Issue.ofReports ((Response.check mode v).violations.map (Violation.report .value)) := by
  unfold issuesOf validate
  cases Response.check mode v <;> rfl

theorem issues_of_error {mode : Mode} {v : Json} {e : RunError}
    (refused : validate mode v = .error e) :
    e = .schema (issuesOf mode v) ∧ issuesOf mode v ≠ [] := by
  have raised := issuesOf_eq mode v
  unfold validate at refused
  cases checked : Response.check mode v with
  | ok r =>
    rw [checked] at refused
    cases refused
  | bad w ws =>
    rw [checked] at refused raised
    cases refused
    rw [raised]
    exact ⟨rfl, unique_ne_nil _⟩

end Engine

end ParserHost
