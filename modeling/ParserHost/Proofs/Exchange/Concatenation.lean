import ParserHost.Proofs.Exchange.Parts
import ParserHost.Proofs.Exchange.Refusals

/-!
# Responses end to end

The issues of a response are those of its results and then those of its messages, item by item
(`issuesOf_payload`): issues of different items never share a path. So a response that two others make
up end to end is judged as the two are by themselves, except that the indices of the second move on
(`validate_append`).
-/

namespace ParserHost

open Schema
open Engine (issuesOf issuesOf_eq issues_of_error)

/-! ## Issues of a list -/

namespace Modules

variable {mode : Mode} {key : String}

def itemIssues (key : String) (faults : Json → List Violation) (item : Json × Nat) : List Issue :=
  unique [] ((faults item.1).map (itemIssue key item.2))

def listIssues (key : String) (faults : Json → List Violation) (n : Nat) (vs : List Json) :
    List Issue :=
  (vs.zipIdx n).flatMap (itemIssues key faults)

theorem listIssues_append (faults : Json → List Violation) (n : Nat) (vs ws : List Json) :
    listIssues key faults n (vs ++ ws) =
      listIssues key faults n vs ++ listIssues key faults (n + vs.length) ws := by
  rw [listIssues, List.zipIdx_append, List.flatMap_append]
  rfl

theorem listIssues_cons (faults : Json → List Violation) (n : Nat) (v : Json) (rest : List Json) :
    listIssues key faults n (v :: rest) =
      itemIssues key faults (v, n) ++ listIssues key faults (n + 1) rest := by
  rw [listIssues, List.zipIdx_cons, List.flatMap_cons]
  rfl

def shift (key : String) (by' : Nat) (i : Issue) : Issue :=
  { i with path := shiftPath key by' i.path }

theorem shift_itemIssue (by' i : Nat) (w : Violation) :
    shift key by' (itemIssue key i w) = itemIssue key (i + by') w := by
  rw [shift, itemIssue, shiftPath_itemPath]
  rfl

theorem shift_itemIssues (faults : Json → List Violation) (by' : Nat) (v : Json) (i : Nat) :
    (itemIssues key faults (v, i)).map (shift key by') = itemIssues key faults (v, i + by') := by
  have moved : (faults v).map (itemIssue key (i + by')) =
      ((faults v).map (itemIssue key i)).map (shift key by') := by
    rw [List.map_map]
    exact List.map_congr_left fun w _ => (shift_itemIssue by' i w).symm
  rw [itemIssues, itemIssues, moved, unique_map]
  intro a here b there
  obtain ⟨w, -, rfl⟩ := List.mem_map.1 here
  obtain ⟨w', -, rfl⟩ := List.mem_map.1 there
  rw [shift_itemIssue, shift_itemIssue]
  simp only [itemIssue, Issue.label, Prod.mk.injEq, itemPath_eq_iff]

theorem shift_listIssues (faults : Json → List Violation) (n by' : Nat) (vs : List Json) :
    (listIssues key faults n vs).map (shift key by') = listIssues key faults (n + by') vs := by
  induction vs generalizing n with
  | nil => rfl
  | cons v rest ih =>
    have next : n + by' + 1 = n + 1 + by' := by omega
    rw [listIssues_cons, listIssues_cons, List.map_append, shift_itemIssues, ih, next]

/-! ## Issues of a response -/

def resultFaults : Mode → Json → List Violation
  | .parse, v => (Document.check v).violations
  | .create, v => (CreatedFile.check v).violations

def messageFaults (v : Json) : List Violation :=
  (Message.check v).violations

def isIn (key : String) (i : Issue) : Bool :=
  Text.startsWith (key ++ "[") i.path

theorem startsWith_itemPath (key : String) (i : Nat) (l : Schema.Location) :
    Text.startsWith (key ++ "[") (itemPath key i l) = true := by
  have split : (itemPath key i l).toList = (key ++ "[").toList ++
      (Nat.toDigits 10 i ++ ']' :: l.untagged.suffix.toList) := by
    rw [itemPath, toList_indexed, String.toList_append, List.append_assoc]
    rfl
  rw [Text.startsWith, Text.dropPart?_eq_some_iff.2 split]
  rfl

theorem startsWith_other (mode : Mode) (i : Nat) (l : Schema.Location) :
    Text.startsWith (resultKey mode ++ "[") (itemPath messagesKey i l) = false ∧
      Text.startsWith (messagesKey ++ "[") (itemPath (resultKey mode) i l) = false := by
  simp only [Text.startsWith, itemPath, toList_indexed]
  cases mode with
  | parse => exact ⟨rfl, rfl⟩
  | create => exact ⟨rfl, rfl⟩

theorem mem_listIssues {faults : Json → List Violation} {n : Nat} {vs : List Json} {i : Issue}
    (member : i ∈ listIssues key faults n vs) : ∃ j w, i = itemIssue key j w := by
  obtain ⟨item, -, kept⟩ := List.mem_flatMap.1 member
  obtain ⟨w, -, rfl⟩ := List.mem_map.1 (mem_unique kept).1
  exact ⟨_, w, rfl⟩

theorem violations_payload (mode : Mode) (p : Parts) :
    (Response.check mode (payload mode p)).violations =
      listFaults (resultKey mode) (resultFaults mode) p.results ++
        listFaults messagesKey messageFaults p.messages := by
  cases mode with
  | parse =>
    rw [Response.check, violations_map]
    change (Checked.both ((required _ _ (tuple Document.check)).map ParseResponse.mk)
      (required _ _ (tuple Message.check))).violations = _
    rw [Checked.violations_both, violations_map, violations_list rfl, violations_list rfl]
    rfl
  | create =>
    rw [Response.check, violations_map]
    change (Checked.both ((required _ _ (tuple CreatedFile.check)).map CreateResponse.mk)
      (required _ _ (tuple Message.check))).violations = _
    rw [Checked.violations_both, violations_map, violations_list rfl, violations_list rfl]
    rfl

theorem apart_items {i j : Nat} (different : i ≠ j) (faults faults' : List Violation) :
    Apart (faults.map (itemIssue key i)) (faults'.map (itemIssue key j)) := by
  intro a here b there same
  obtain ⟨w, -, rfl⟩ := List.mem_map.1 here
  obtain ⟨w', -, rfl⟩ := List.mem_map.1 there
  exact different (itemPath_eq_iff.1 (Prod.mk.inj same).1).1

theorem unique_items (faults : Json → List Violation) (n : Nat) (vs : List Json) :
    unique [] ((vs.zipIdx n).flatMap fun item => (faults item.1).map (itemIssue key item.2)) =
      listIssues key faults n vs := by
  refine unique_flatMap ?_
  have indices : ((vs.zipIdx n).map Prod.snd).Pairwise (· ≠ ·) := by
    rw [List.zipIdx_map_snd]
    exact List.nodup_range'
  exact (List.pairwise_map.1 indices).imp fun different => apart_items different _ _

theorem itemPath_result_ne_message (mode : Mode) (i j : Nat) (l l' : Schema.Location) :
    itemPath (resultKey mode) i l ≠ itemPath messagesKey j l' := by
  intro same
  have begins := startsWith_itemPath (resultKey mode) i l
  rw [same, (startsWith_other mode j l').1] at begins
  exact Bool.false_ne_true begins

theorem apart_lists (mode : Mode) (faults faults' : Json → List Violation) (vs ws : List Json) :
    Apart (vs.zipIdx.flatMap fun item => (faults item.1).map (itemIssue (resultKey mode) item.2))
      (ws.zipIdx.flatMap fun item => (faults' item.1).map (itemIssue messagesKey item.2)) := by
  intro a here b there same
  obtain ⟨item, -, member⟩ := List.mem_flatMap.1 here
  obtain ⟨item', -, member'⟩ := List.mem_flatMap.1 there
  obtain ⟨w, -, rfl⟩ := List.mem_map.1 member
  obtain ⟨w', -, rfl⟩ := List.mem_map.1 member'
  exact itemPath_result_ne_message mode _ _ _ _ (Prod.mk.inj same).1

theorem issuesOf_payload (mode : Mode) (p : Parts) :
    issuesOf mode (payload mode p) =
      listIssues (resultKey mode) (resultFaults mode) 0 p.results ++
        listIssues messagesKey messageFaults 0 p.messages := by
  have named : resultKey mode ≠ "" ∧ isParametrisedTag (resultKey mode) = false := by
    cases mode <;> decide
  rw [issuesOf_eq, Issue.ofReports, violations_payload, List.map_append, List.map_append,
    ofReport_list named.1 named.2, ofReport_list (by decide) (by decide),
    unique_append_of_apart (apart_lists mode _ _ _ _), unique_items, unique_items]

/-! ## A response made up of two -/

theorem isIn_list (key other : String) (same : Bool) (faults : Json → List Violation) (n : Nat)
    (vs : List Json)
    (begins : ∀ i l, Text.startsWith (other ++ "[") (itemPath key i l) = same) :
    (listIssues key faults n vs).filter (isIn other) =
      if same then listIssues key faults n vs else [] := by
  have each : ∀ i ∈ listIssues key faults n vs, isIn other i = same := by
    intro i member
    obtain ⟨j, w, rfl⟩ := mem_listIssues member
    exact begins j w.location
  cases same with
  | true => exact List.filter_eq_self.2 each
  | false => exact List.filter_eq_nil_iff.2 fun i member => by simp [each i member]

def resultIssues (mode : Mode) (v : Json) : List Issue :=
  (issuesOf mode v).filter (isIn (resultKey mode))

def messageIssues (mode : Mode) (v : Json) : List Issue :=
  (issuesOf mode v).filter (isIn messagesKey)

theorem resultIssues_payload (mode : Mode) (p : Parts) :
    resultIssues mode (payload mode p) =
      listIssues (resultKey mode) (resultFaults mode) 0 p.results := by
  rw [resultIssues, issuesOf_payload, List.filter_append,
    isIn_list _ _ true _ _ _ (startsWith_itemPath (resultKey mode)),
    isIn_list _ _ false _ _ _ fun i l => (startsWith_other mode i l).1]
  exact List.append_nil _

theorem messageIssues_payload (mode : Mode) (p : Parts) :
    messageIssues mode (payload mode p) = listIssues messagesKey messageFaults 0 p.messages := by
  rw [messageIssues, issuesOf_payload, List.filter_append,
    isIn_list _ _ false _ _ _ fun i l => (startsWith_other mode i l).2,
    isIn_list _ _ true _ _ _ (startsWith_itemPath messagesKey)]
  rfl

theorem issuesOf_append (mode : Mode) (p q : Parts) :
    issuesOf mode (payload mode (p.append q)) =
      resultIssues mode (payload mode p) ++
        (resultIssues mode (payload mode q)).map (shift (resultKey mode) p.results.length) ++
        (messageIssues mode (payload mode p) ++
          (messageIssues mode (payload mode q)).map (shift messagesKey p.messages.length)) := by
  simp only [resultIssues_payload, messageIssues_payload, shift_listIssues]
  rw [issuesOf_payload]
  change listIssues _ _ 0 (p.results ++ q.results) ++ listIssues _ _ 0 (p.messages ++ q.messages) = _
  rw [listIssues_append, listIssues_append]

theorem validate_join {mode : Mode} {p q : Parts} {r : Response} :
    Engine.validate mode (payload mode (p.append q)) = .ok r ↔
      ∃ a b, Engine.validate mode (payload mode p) = .ok a ∧
        Engine.validate mode (payload mode q) = .ok b ∧ r = join mode a b := by
  simp only [Engine.validate_eq_ok, check_payload]
  exact tells_append

/-- A response that two others make up end to end fits exactly when both fit, and then it tells what
they tell, one after the other. Otherwise its issues are those of the results of the first, those of
the results of the second with their indices moved on, and in the same way those of the messages; and
the issues of any response are those of its results and those of its messages. -/
theorem validate_append (mode : Mode) (p q : Parts) :
    ((∃ r, Engine.validate mode (payload mode (p.append q)) = .ok r) ↔
      (∃ a, Engine.validate mode (payload mode p) = .ok a) ∧
        ∃ b, Engine.validate mode (payload mode q) = .ok b) ∧
    (∀ a b, Engine.validate mode (payload mode p) = .ok a →
      Engine.validate mode (payload mode q) = .ok b →
        Engine.validate mode (payload mode (p.append q)) = .ok (join mode a b)) ∧
    (∀ e, Engine.validate mode (payload mode (p.append q)) = .error e →
      ∃ issues, e = .schema issues ∧ issues ≠ [] ∧ issues =
        resultIssues mode (payload mode p) ++
          (resultIssues mode (payload mode q)).map (shift (resultKey mode) p.results.length) ++
          (messageIssues mode (payload mode p) ++
            (messageIssues mode (payload mode q)).map (shift messagesKey p.messages.length))) ∧
    ∀ part : Parts, issuesOf mode (payload mode part) =
      resultIssues mode (payload mode part) ++ messageIssues mode (payload mode part) := by
  refine ⟨⟨?_, ?_⟩, ?_, ?_, ?_⟩
  · rintro ⟨r, fits⟩
    obtain ⟨a, b, first, second, -⟩ := validate_join.1 fits
    exact ⟨⟨a, first⟩, b, second⟩
  · rintro ⟨⟨a, first⟩, b, second⟩
    exact ⟨_, validate_join.2 ⟨a, b, first, second, rfl⟩⟩
  · intro a b first second
    exact validate_join.2 ⟨a, b, first, second, rfl⟩
  · intro e refused
    obtain ⟨same, some⟩ := issues_of_error refused
    exact ⟨_, same, some, issuesOf_append mode p q⟩
  · intro part
    rw [resultIssues_payload, messageIssues_payload, issuesOf_payload]

end Modules

end ParserHost
