import ParserHost.Proofs.Schema.Paths

/-!
# Issues, each once

Which issues `unique` keeps depends on their labels only, the pairs of path and kind. So it takes apart
lists whose labels differ (`unique_append_of_apart`, `unique_flatMap`), it goes along with every change
of paths that keeps labels apart (`unique_map`), and it only drops repetitions where labels tell issues
apart (`unique_eq_eraseDups`).
-/

namespace ParserHost.Schema

def Issue.label (i : Issue) : String × IssueKind :=
  (i.path, i.kind)

variable {seen seen' : List (String × IssueKind)} {issues : List Issue}

theorem unique_of_mem {i : Issue} (known : i.label ∈ seen) :
    unique seen (i :: issues) = unique seen issues := by
  have found : seen.contains (i.path, i.kind) = true := List.contains_iff_mem.2 known
  rw [unique, if_pos found]

theorem unique_of_not_mem {i : Issue} (new : i.label ∉ seen) :
    unique seen (i :: issues) = i :: unique (i.label :: seen) issues := by
  have missing : ¬ seen.contains (i.path, i.kind) = true := fun found =>
    new (List.contains_iff_mem.1 found)
  rw [unique, if_neg missing]
  rfl

theorem unique_congr (same : ∀ i ∈ issues, i.label ∈ seen ↔ i.label ∈ seen') :
    unique seen issues = unique seen' issues := by
  induction issues generalizing seen seen' with
  | nil => rfl
  | cons i rest ih =>
    have here := same i List.mem_cons_self
    have later := fun j member => same j (List.mem_cons_of_mem _ member)
    by_cases known : i.label ∈ seen
    · rw [unique_of_mem known, unique_of_mem (here.1 known), ih later]
    · rw [unique_of_not_mem known, unique_of_not_mem (mt here.2 known)]
      refine congrArg (i :: ·) (ih fun j member => ?_)
      rw [List.mem_cons, List.mem_cons, later j member]

/-- Labels that were seen before may as well be left out afterwards. -/
theorem unique_eq_filter (seen : List (String × IssueKind)) (issues : List Issue) :
    unique seen issues = (unique [] issues).filter fun i => i.label ∉ seen := by
  induction issues generalizing seen with
  | nil => rfl
  | cons i rest ih =>
    rw [unique_of_not_mem List.not_mem_nil, ih [i.label], List.filter_cons, List.filter_filter]
    by_cases known : i.label ∈ seen
    · rw [unique_of_mem known, ih seen, if_neg (by simpa using known)]
      refine List.filter_congr fun j _ => ?_
      have fresh : j.label ∉ seen → j.label ≠ i.label := fun new same => new (same ▸ known)
      rw [Bool.eq_iff_iff]
      simpa using fresh
    · rw [unique_of_not_mem known, ih (i.label :: seen), if_pos (by simpa using known)]
      refine congrArg (i :: ·) (List.filter_congr fun j _ => ?_)
      rw [Bool.eq_iff_iff]
      simp [and_comm]

theorem unique_append (seen : List (String × IssueKind)) (issues more : List Issue) :
    unique seen (issues ++ more) =
      unique seen issues ++ unique (issues.map Issue.label ++ seen) more := by
  induction issues generalizing seen with
  | nil => rfl
  | cons i rest ih =>
    rw [List.cons_append]
    by_cases known : i.label ∈ seen
    · rw [unique_of_mem known, unique_of_mem known, ih]
      refine congrArg (_ ++ ·) (unique_congr fun j _ => ?_)
      simp only [List.map_cons, List.cons_append, List.mem_cons, List.mem_append]
      constructor
      · exact .inr
      · rintro (same | found)
        · exact .inr (same ▸ known)
        · exact found
    · rw [unique_of_not_mem known, unique_of_not_mem known, ih, List.cons_append]
      refine congrArg (i :: _ ++ ·) (unique_congr fun j _ => ?_)
      simp only [List.map_cons, List.cons_append, List.mem_cons, List.mem_append]
      tauto

def Apart (issues more : List Issue) : Prop :=
  ∀ i ∈ issues, ∀ j ∈ more, i.label ≠ j.label

theorem unique_append_of_apart {more : List Issue} (apart : Apart issues more) :
    unique [] (issues ++ more) = unique [] issues ++ unique [] more := by
  rw [unique_append]
  refine congrArg (_ ++ ·) (unique_congr fun j member => ?_)
  simp only [List.append_nil, List.not_mem_nil, iff_false, List.mem_map, not_exists, not_and]
  exact fun i here same => apart i here j member same

theorem unique_flatMap {α : Type} {f : α → List Issue} {xs : List α}
    (apart : xs.Pairwise fun x y => Apart (f x) (f y)) :
    unique [] (xs.flatMap f) = xs.flatMap fun x => unique [] (f x) := by
  induction xs with
  | nil => rfl
  | cons x rest ih =>
    obtain ⟨first, more⟩ := List.pairwise_cons.1 apart
    have fresh : Apart (f x) (rest.flatMap f) := by
      intro i here j later
      obtain ⟨y, member, found⟩ := List.mem_flatMap.1 later
      exact first y member i here j found
    rw [List.flatMap_cons, List.flatMap_cons, unique_append_of_apart fresh, ih more]

/-- As `unique_map`, behind issues that were seen before. -/
theorem unique_map_from {f : Issue → Issue} (before : List Issue)
    (keeps : ∀ i ∈ before ++ issues, ∀ j ∈ before ++ issues,
      (f i).label = (f j).label ↔ i.label = j.label) :
    unique ((before.map f).map Issue.label) (issues.map f) =
      (unique (before.map Issue.label) issues).map f := by
  induction issues generalizing before with
  | nil => rfl
  | cons i rest ih =>
    have member : i ∈ before ++ i :: rest := List.mem_append_right _ List.mem_cons_self
    have known : (f i).label ∈ (before.map f).map Issue.label ↔ i.label ∈ before.map Issue.label := by
      simp only [List.map_map, List.mem_map, Function.comp_apply]
      refine exists_congr fun j => and_congr_right fun earlier => ?_
      exact keeps j (List.mem_append_left _ earlier) i member
    rw [List.map_cons]
    by_cases old : i.label ∈ before.map Issue.label
    · rw [unique_of_mem (known.2 old), unique_of_mem old]
      refine ih before fun j one k other => keeps j ?_ k ?_
      · exact List.mem_append.2 ((List.mem_append.1 one).imp_right (List.mem_cons_of_mem _))
      · exact List.mem_append.2 ((List.mem_append.1 other).imp_right (List.mem_cons_of_mem _))
    · rw [unique_of_not_mem (mt known.1 old), unique_of_not_mem old, List.map_cons]
      refine congrArg (f i :: ·) (ih (i :: before) fun j one k other => keeps j ?_ k ?_)
      · exact List.perm_middle.symm.mem_iff.1 one
      · exact List.perm_middle.symm.mem_iff.1 other

theorem unique_map {f : Issue → Issue}
    (keeps : ∀ i ∈ issues, ∀ j ∈ issues, (f i).label = (f j).label ↔ i.label = j.label) :
    unique [] (issues.map f) = (unique [] issues).map f :=
  unique_map_from [] keeps

theorem unique_ne_nil {i : Issue} (rest : List Issue) : unique [] (i :: rest) ≠ [] := by
  rw [unique_of_not_mem List.not_mem_nil]
  exact List.cons_ne_nil _ _

/-- A second issue with the label of the one before it is never kept. -/
theorem unique_doubled {γ : Type} {f g : γ → Issue} (same : ∀ m, (g m).label = (f m).label)
    (seen : List (String × IssueKind)) (ms : List γ) :
    unique seen (ms.flatMap fun m => [f m, g m]) = unique seen (ms.map f) := by
  induction ms generalizing seen with
  | nil => rfl
  | cons m rest ih =>
    change unique seen (f m :: g m :: rest.flatMap _) = unique seen (f m :: rest.map f)
    by_cases known : (f m).label ∈ seen
    · have again : (g m).label ∈ seen := same m ▸ known
      rw [unique_of_mem known, unique_of_mem again, unique_of_mem known, ih]
    · have again : (g m).label ∈ (f m).label :: seen := same m ▸ List.mem_cons_self
      rw [unique_of_not_mem known, unique_of_mem again, unique_of_not_mem known, ih]

/-- As `unique_eq_eraseDups`, behind labels that were seen before. -/
theorem unique_eq_eraseDups_filter {issues : List Issue}
    (told : ∀ i ∈ issues, ∀ j ∈ issues, i.label = j.label → i = j)
    (seen : List (String × IssueKind)) :
    unique seen issues = (issues.filter fun i => i.label ∉ seen).eraseDups := by
  induction issues generalizing seen with
  | nil => rfl
  | cons i rest ih =>
    have later := ih fun j one k other =>
      told j (List.mem_cons_of_mem _ one) k (List.mem_cons_of_mem _ other)
    by_cases known : i.label ∈ seen
    · rw [unique_of_mem known, later, List.filter_cons_of_neg (by simpa using known)]
    · rw [unique_of_not_mem known, later, List.filter_cons_of_pos (by simpa using known),
        List.eraseDups_cons, List.filter_filter]
      refine congrArg (fun kept => i :: List.eraseDups kept) (List.filter_congr fun j member => ?_)
      have differ : (j = i) ↔ j.label = i.label :=
        ⟨fun same => same ▸ rfl, told j (List.mem_cons_of_mem _ member) i List.mem_cons_self⟩
      rw [Bool.eq_iff_iff]
      simp [differ, not_or]

/-- Where labels tell issues apart, each issue is kept once. -/
theorem unique_eq_eraseDups {issues : List Issue}
    (told : ∀ i ∈ issues, ∀ j ∈ issues, i.label = j.label → i = j) :
    unique [] issues = issues.eraseDups := by
  rw [unique_eq_eraseDups_filter told, List.filter_eq_self.2 (by simp)]

theorem eraseDups_of_nodup {γ : Type} [BEq γ] [LawfulBEq γ] {l : List γ} (once : l.Nodup) :
    l.eraseDups = l := by
  induction l with
  | nil => rfl
  | cons a rest ih =>
    obtain ⟨new, more⟩ := List.nodup_cons.1 once
    have kept : rest.filter (fun b => !b == a) = rest :=
      List.filter_eq_self.2 fun b member => by
        rw [Bool.not_eq_true', beq_eq_false_iff_ne]
        rintro rfl
        exact new member
    rw [List.eraseDups_cons, kept, ih more]

end ParserHost.Schema
