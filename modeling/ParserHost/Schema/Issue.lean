import ParserHost.Schema.Location

/-!
Issues, the violations of a response as they are reported. `Issue.ofReports` names each distinct
path and kind once, at its first violation.

Main statement: an issue that is kept was reported (`mem_unique`).
-/
namespace ParserHost.Schema

inductive IssueKind where
  | required
  | invalidType
  | invalidValue
  | unrecognized
  | invalid
  deriving DecidableEq, Repr, Inhabited

def IssueKind.text : IssueKind → String
  | required => "Required"
  | invalidType => "InvalidType"
  | invalidValue => "InvalidValue"
  | unrecognized => "Unrecognized"
  | invalid => "Invalid"

def IssueKind.ofType (type : String) : IssueKind :=
  if type = "missing" then required
  else if type = "literal_error" || type = "enum" then invalidValue
  else if type = "extra_forbidden" then unrecognized
  else if Text.endsWith "_type" type || Text.endsWith "_parsing" type then invalidType
  else invalid

structure Report where
  location : Location
  type : String
  detail : String
  deriving DecidableEq, Repr

structure Issue where
  path : String
  kind : IssueKind
  detail : String
  deriving DecidableEq, Repr, Inhabited

def Issue.describe (i : Issue) : String :=
  s!"{i.path}: {i.kind.text}"

def Issue.ofReport (r : Report) : Issue :=
  ⟨r.location.withoutTags.render, IssueKind.ofType r.type, r.detail⟩

/-- The issues whose path and kind do not come earlier in the list or among those seen. -/
def unique (seen : List (String × IssueKind)) : List Issue → List Issue
  | [] => []
  | i :: rest =>
    if seen.contains (i.path, i.kind) then unique seen rest
    else i :: unique ((i.path, i.kind) :: seen) rest

/-- The issues of reports, in order, each path and kind once. -/
def Issue.ofReports (reports : List Report) : List Issue :=
  unique [] (reports.map Issue.ofReport)

theorem mem_unique {seen : List (String × IssueKind)} {issues : List Issue} {i : Issue}
    (h : i ∈ unique seen issues) : i ∈ issues ∧ (i.path, i.kind) ∉ seen := by
  induction issues generalizing seen with
  | nil => simp [unique] at h
  | cons j rest ih =>
    simp only [unique, List.contains_eq_mem, decide_eq_true_eq] at h
    split at h
    · exact ⟨List.mem_cons_of_mem _ (ih h).1, (ih h).2⟩
    · next hj =>
      rcases List.mem_cons.1 h with rfl | h
      · exact ⟨List.mem_cons_self, hj⟩
      · exact ⟨List.mem_cons_of_mem _ (ih h).1, fun hs => (ih h).2 (List.mem_cons_of_mem _ hs)⟩

end ParserHost.Schema
