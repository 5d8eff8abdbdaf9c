import ParserHost.Proofs.Run.Faults

/-!
# Faults that escape a run

A run that parses returns an outcome except where the search for files gets stuck, the invocation is
derailed, or a document cannot be published (`Escapes`, `parse_returns_iff`).
-/

namespace ParserHost.Engine
open Invocation (Derailed)

variable {e : Engine} {task : Task} {t : FileTree}

/-- The ways in which a run that parses ends in a fault. The last two come after a response that fits
and has no errors. -/
inductive Escapes (e : Engine) (t : FileTree) : Prop
  | search (stuck : Discovery.Unsearchable t e.config e.settings.cwd)
  | invocation {request} (asked : e.request t .parse = .ok request)
      (derailed : Derailed e.context request t)
  | repository {r ms f u} (replied : Replied e .parse t r ms)
      (clean : ∀ m ∈ ms ++ r.messages, m.level ≠ .error)
      (lost : e.lookUp e.settings.cwd e.settings.repositoryUrl (e.stages .parse t).tree =
        (.error f, u))
  | document {r ms found u d repository} (replied : Replied e .parse t r ms)
      (clean : ∀ m ∈ ms ++ r.messages, m.level ≠ .error)
      (known : e.lookUp e.settings.cwd e.settings.repositoryUrl (e.stages .parse t).tree =
        (.ok found, u))
      (member : d ∈ Document.dedupe r.documents)
      (unpublishable : Publication.Unpublishable u (e.stamp found) d repository)

/-! ## Stages -/

theorem request_fault_iff :
    (∃ f, e.request t .parse = .error (.fault f)) ↔
      Discovery.Unsearchable t e.config e.settings.cwd := by
  simp only [request, map_eq_error]
  exact Discovery.parseRequest_fault_iff

theorem stopped_fault_iff :
    (∃ f ms, Stopped e .parse t (.fault f) ms) ↔
      Discovery.Unsearchable t e.config e.settings.cwd ∨
        ∃ request, e.request t .parse = .ok request ∧ Derailed e.context request t := by
  constructor
  · rintro ⟨f, ms, stopped⟩
    cases stopped with
    | unasked refused => exact .inl (request_fault_iff.1 ⟨f, refused⟩)
    | unanswered asked ended =>
      exact .inr ⟨_, asked, Invocation.ends_fault_iff.1 ⟨f, ms, ended⟩⟩
  · rintro (stuck | ⟨request, asked, derailed⟩)
    · obtain ⟨f, refused⟩ := request_fault_iff.2 stuck
      exact ⟨f, [], .unasked refused⟩
    · obtain ⟨f, ms, ended⟩ := Invocation.ends_fault_iff.2 derailed
      exact ⟨f, ms, .unanswered asked ended⟩

/-! ## Publishing -/

theorem finalize_fault_iff {documents : List Document} :
    (∃ f, (e.finalize documents t).result = .error f) ↔
      (∃ f u, e.lookUp e.settings.cwd e.settings.repositoryUrl t = (.error f, u)) ∨
        ∃ found u, e.lookUp e.settings.cwd e.settings.repositoryUrl t = (.ok found, u) ∧
          ∃ d ∈ documents, ∃ r, Publication.Unpublishable u (e.stamp found) d r := by
  cases asked : e.lookUp e.settings.cwd e.settings.repositoryUrl t with
  | mk result u => cases result with
    | error f =>
      rw [(finalize_of_lost asked).1]
      exact ⟨fun _ => .inl ⟨f, u, rfl⟩, fun _ => ⟨_, rfl⟩⟩
    | ok found =>
      rw [(finalize_of_found asked).1]
      constructor
      · rintro ⟨f, failed⟩
        obtain ⟨f', failed', -⟩ := mapError_eq_error.1 failed
        exact .inr ⟨found, u, rfl, Publication.finalize_fault_iff.1 ⟨f', failed'⟩⟩
      · rintro (⟨f, v, other⟩ | ⟨found', v, same, unpublishable⟩)
        · cases other
        · cases same
          obtain ⟨f, failed⟩ := Publication.finalize_fault_iff.2 unpublishable
          exact ⟨_, mapError_eq_error.2 ⟨f, failed, rfl⟩⟩

theorem parse_error_of_replied {r : Response} {ms : List Message}
    (replied : Replied e .parse t r ms) :
    (∃ f, (e.parse t).result = .error f) ↔
      (∀ m ∈ ms ++ r.messages, m.level ≠ .error) ∧
        ∃ f, (e.finalize (Document.dedupe r.documents) (e.stages .parse t).tree).result = .error f := by
  have eq : (e.parse t).result = _ := result_of_replied replied
  rw [eq, ← filter_isError_eq_nil]
  by_cases clean : (ms ++ r.messages).filter Message.isError = []
  · rw [(settle_parse_of_clean clean).1, documents_dedupe]
    simp only [map_eq_error, clean, true_and]
  · rw [(settle_of_errors clean).1]
    constructor
    · rintro ⟨f, failed⟩
      cases failed
    · rintro ⟨none, -⟩
      exact absurd none clean

/-! ## Returning -/

theorem parse_error_iff : (∃ f, (e.parse t).result = .error f) ↔ Escapes e t := by
  rcases replied_or_stopped e .parse t with ⟨r, ms, replied⟩ | ⟨f, ms, stopped⟩
  · rw [parse_error_of_replied replied, finalize_fault_iff]
    constructor
    · rintro ⟨clean, ⟨f, u, lost⟩ | ⟨found, u, known, d, member, repository, unpublishable⟩⟩
      · exact .repository replied clean lost
      · exact .document replied clean known member unpublishable
    · intro escapes
      cases escapes with
      | search stuck =>
        obtain ⟨f, ms', stopped⟩ := stopped_fault_iff.2 (.inl stuck)
        exact absurd stopped (replied.not_stopped _ _)
      | invocation asked derailed =>
        obtain ⟨f, ms', stopped⟩ := stopped_fault_iff.2 (.inr ⟨_, asked, derailed⟩)
        exact absurd stopped (replied.not_stopped _ _)
      | repository replied' clean lost =>
        obtain ⟨rfl, rfl⟩ := replied.unique replied'
        exact ⟨clean, .inl ⟨_, _, lost⟩⟩
      | document replied' clean known member unpublishable =>
        obtain ⟨rfl, rfl⟩ := replied.unique replied'
        exact ⟨clean, .inr ⟨_, _, known, _, member, _, unpublishable⟩⟩
  · have stages := stopped_fault_iff (e := e) (t := t)
    cases f with
    | fault f =>
      refine ⟨fun _ => ?_, fun _ => ⟨_, (answer_of_fault stopped).1⟩⟩
      rcases stages.1 ⟨f, ms, stopped⟩ with stuck | ⟨request, asked, derailed⟩
      · exact .search stuck
      · exact .invocation asked derailed
    | run err =>
      have only (f : Fault) (ms' : List Message) : ¬ Stopped e .parse t (.fault f) ms' := by
        intro other
        cases (stopped.unique other).1
      constructor
      · rintro ⟨f, failed⟩
        cases failed.symm.trans (answer_of_stopped stopped).1
      · intro escapes
        cases escapes with
        | search stuck =>
          obtain ⟨f, ms', other⟩ := stages.2 (.inl stuck)
          exact absurd other (only f ms')
        | invocation asked derailed =>
          obtain ⟨f, ms', other⟩ := stages.2 (.inr ⟨_, asked, derailed⟩)
          exact absurd other (only f ms')
        | repository replied => exact absurd stopped (replied.not_stopped _ _)
        | document replied => exact absurd stopped (replied.not_stopped _ _)

/-- A run that parses returns an outcome exactly when no fault escapes it. -/
theorem parse_returns_iff (e : Engine) (t : FileTree) :
    (∃ o, (e.parse t).result = .ok o) ↔ ¬ Escapes e t := by
  rw [← parse_error_iff]
  cases (e.parse t).result with
  | error f => simp
  | ok o => simp

def absolute : Engine where
  host := ⟨Path.absolute ["home"], [], Path.absolute ["tmp"], fun _ t =>
    (.error ⟨.noEntry, ""⟩, t)⟩
  handlers := [(.react, ⟨"idle", fun _ _ => .response (ParseResponse.toJson ⟨[], []⟩)⟩)]
  config := ⟨.react, none, some ["/src/*.tsx"], none, none, none, none, none, none, none, none, []⟩
  settings := ⟨Path.absolute ["home"], false, none, none, none, "1", false⟩
  lookUp _ _ t := (.ok none, t)

theorem absolute_pattern_escapes :
    (absolute.parse bare).result = .error (.fault (.pattern .absolute)) := by
  have computed : ((absolute.parse bare).result.map fun _ => ()) =
      .error (.fault (.pattern .absolute)) := by
    decide +kernel
  exact map_eq_error.1 computed

end ParserHost.Engine
