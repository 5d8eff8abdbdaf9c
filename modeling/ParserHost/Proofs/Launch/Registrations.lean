import ParserHost.Proofs.Launch.Plans

/-!
# Registrations of handlers

Handlers are registered and removed in any order. A step that is refused leaves the registry as it is, so the
handler of a kind is the one that was registered by the last step on it that took effect
(`handler?_after`), and this is the one its plan calls (`registrations_law`).
-/

namespace ParserHost

namespace Registry

inductive Step where
  | register (kind : ParserKind) (h : Handler)
  | unregister (kind : ParserKind)

def Step.kind : Step → ParserKind
  | .register kind _ => kind
  | .unregister kind => kind

def Step.handler? : Step → Option Handler
  | .register _ h => some h
  | .unregister _ => none

def apply (r : Registry) : Step → Except Fault Registry
  | .register kind h => r.register kind h
  | .unregister kind => .ok (r.unregister kind)

def next (r : Registry) (step : Step) : Registry :=
  match r.apply step with
  | .ok r' => r'
  | .error _ => r

def after (r : Registry) (steps : List Step) : Registry :=
  steps.foldl next r

def effective (r : Registry) : List Step → List Step
  | [] => []
  | step :: rest =>
    match r.apply step with
    | .ok r' => step :: effective r' rest
    | .error _ => effective r rest

def lastStep? (r : Registry) (kind : ParserKind) (steps : List Step) : Option Step :=
  ((r.effective steps).filter fun step => step.kind = kind).getLast?

variable {r r' : Registry} {kind : ParserKind} {h : Handler}

/-! ## One step -/

/-- All that a registration can do. -/
theorem register_cases (r : Registry) (kind : ParserKind) (h : Handler) :
    (kind.inProcess = false ∧ r.register kind h = .error (.notInProcess kind.text)) ∨
    (kind.inProcess = true ∧ (∃ held, r.handler? kind = some held ∧ held.identity ≠ h.identity) ∧
      r.register kind h = .error (.handlerTaken kind.text)) ∨
    (kind.inProcess = true ∧ (∀ held, r.handler? kind = some held → held.identity = h.identity) ∧
      r.register kind h = .ok ((kind, h) :: r.unregister kind)) := by
  rw [register]
  cases runs : kind.inProcess with
  | false => exact .inl ⟨rfl, rfl⟩
  | true =>
    refine .inr ?_
    cases found : r.handler? kind with
    | none => exact .inr ⟨rfl, nofun, rfl⟩
    | some held =>
      by_cases same : held.identity = h.identity
      · refine .inr ⟨rfl, ?_, by simp [same]⟩
        rintro _ ⟨⟩
        exact same
      · exact .inl ⟨rfl, ⟨held, rfl, same⟩, by simp [same]⟩

theorem register_eq_error_iff : (∃ f, r.register kind h = .error f) ↔ kind.inProcess = false ∨
    ∃ held, r.handler? kind = some held ∧ held.identity ≠ h.identity := by
  rcases register_cases r kind h with ⟨foreign, refused⟩ | ⟨-, taken, refused⟩ | ⟨runs, free, done⟩
  · exact ⟨fun _ => .inl foreign, fun _ => ⟨_, refused⟩⟩
  · exact ⟨fun _ => .inr taken, fun _ => ⟨_, refused⟩⟩
  · rw [done, runs]
    constructor
    · nofun
    · rintro (⟨⟨⟩⟩ | ⟨held, found, different⟩)
      exact absurd (free held found) different

/-- A step that takes effect decides on the handler of its kind, and on no other. -/
theorem handler?_apply {step : Step} (done : r.apply step = .ok r') (kind : ParserKind) :
    r'.handler? kind = if step.kind = kind then step.handler? else r.handler? kind := by
  cases step with
  | register own h =>
    by_cases same : own = kind
    · subst same
      rw [handler?_register_self done, Step.kind, if_pos rfl]
      rfl
    · rw [handler?_register_of_ne done same, Step.kind, if_neg same]
  | unregister own =>
    cases done
    rw [handler?_unregister]
    rfl

theorem handler?_next_of_ne {step : Step} (different : step.kind ≠ kind) :
    (r.next step).handler? kind = r.handler? kind := by
  rw [next]
  cases done : r.apply step with
  | error f => rfl
  | ok r' =>
    dsimp only
    rw [handler?_apply done, if_neg different]

theorem next_of_refused {f : Fault} (refused : r.register kind h = .error f) :
    r.next (.register kind h) = r := by
  rw [next, apply, refused]

theorem handler?_next_register (r : Registry) (kind : ParserKind) (h : Handler) :
    (r.next (.register kind h)).handler? kind =
      if kind.inProcess ∧ ∀ held, r.handler? kind = some held → held.identity = h.identity then some h
      else r.handler? kind := by
  rcases register_cases r kind h with ⟨foreign, refused⟩ | ⟨-, ⟨held, found, different⟩, refused⟩ | ⟨runs, free, done⟩
  · rw [next_of_refused refused, if_neg fun both => by simp [foreign] at both]
  · rw [next_of_refused refused, if_neg fun both => different (both.2 held found)]
  · rw [next, apply, done, if_pos ⟨runs, free⟩]
    exact handler?_register_self done

theorem handler?_next_register_self (held : r.handler? kind = some h) (other : ParserKind) :
    (r.next (.register kind h)).handler? other = r.handler? other := by
  rw [next]
  cases done : r.apply (.register kind h) with
  | error f => rfl
  | ok r' =>
    dsimp only
    rw [handler?_apply done]
    split
    · next same =>
      cases same
      exact held.symm
    · rfl

/-! ## Many steps -/

def InProcess (r : Registry) : Prop :=
  ∀ entry ∈ r, entry.1.inProcess = true

theorem inProcess_nil : InProcess [] :=
  fun _ member => absurd member List.not_mem_nil

theorem mem_of_handler? (held : r.handler? kind = some h) : (kind, h) ∈ r := by
  induction r with
  | nil => cases held
  | cons entry rest ih =>
    obtain ⟨own, g⟩ := entry
    rw [handler?] at held
    split at held
    · next same =>
      cases same
      cases held
      exact List.mem_cons_self
    · exact List.mem_cons_of_mem _ (ih held)

theorem unregister_eq_filter (kind : ParserKind) (r : Registry) :
    r.unregister kind = r.filter fun entry => entry.1 ≠ kind := by
  induction r with
  | nil => rfl
  | cons entry rest ih =>
    rw [unregister, ih]
    by_cases same : entry.1 = kind
    · rw [if_pos same, List.filter_cons_of_neg (by simpa using same)]
    · rw [if_neg same, List.filter_cons_of_pos (by simpa using same)]

theorem InProcess.unregister (only : r.InProcess) (kind : ParserKind) : (r.unregister kind).InProcess := by
  rw [unregister_eq_filter]
  exact fun entry member => only entry (List.mem_filter.1 member).1

theorem InProcess.next (only : r.InProcess) (step : Step) : (r.next step).InProcess := by
  cases step with
  | unregister kind => exact only.unregister kind
  | register kind h =>
    rcases register_cases r kind h with ⟨-, refused⟩ | ⟨-, -, refused⟩ | ⟨runs, -, done⟩
    · rwa [next_of_refused refused]
    · rwa [next_of_refused refused]
    · rw [Registry.next, apply, done]
      exact List.forall_mem_cons.2 ⟨runs, only.unregister kind⟩

theorem InProcess.after (only : r.InProcess) (steps : List Step) : (r.after steps).InProcess := by
  induction steps generalizing r with
  | nil => exact only
  | cons step rest ih => exact ih (only.next step)

/-- A kind has the handler of the last step on it that took effect. -/
theorem handler?_after (r : Registry) (kind : ParserKind) (steps : List Step) :
    (r.after steps).handler? kind =
      match r.lastStep? kind steps with
      | some step => step.handler?
      | none => r.handler? kind := by
  induction steps generalizing r with
  | nil => rfl
  | cons step rest ih =>
    have later : (r.after (step :: rest)).handler? kind = _ := ih (r.next step)
    rw [later, lastStep?, lastStep?, effective, next]
    cases done : r.apply step with
    | error f => rfl
    | ok r' =>
      dsimp only
      rw [handler?_apply done]
      by_cases own : step.kind = kind
      · rw [List.filter_cons_of_pos (by simpa using own), List.getLast?_cons, if_pos own]
        cases ((r'.effective rest).filter fun step => step.kind = kind).getLast? <;> rfl
      · rw [List.filter_cons_of_neg (by simpa using own), if_neg own]

theorem handler?_next_congr {step : Step} (same : r.handler? step.kind = r'.handler? step.kind) :
    (r.next step).handler? step.kind = (r'.next step).handler? step.kind := by
  cases step with
  | unregister kind =>
    rw [next, apply, next, apply]
    simp only [Step.kind, handler?_unregister, if_true]
  | register kind h =>
    have same : r.handler? kind = r'.handler? kind := same
    have decided := handler?_next_register r kind h
    rw [same, ← handler?_next_register r' kind h] at decided
    exact decided

theorem handler?_after_own (same : r.handler? kind = r'.handler? kind) (steps : List Step) :
    (r.after steps).handler? kind =
      (r'.after (steps.filter fun step => step.kind = kind)).handler? kind := by
  induction steps generalizing r r' with
  | nil => exact same
  | cons step rest ih =>
    by_cases own : step.kind = kind
    · rw [List.filter_cons_of_pos (by simpa using own)]
      subst own
      exact ih (handler?_next_congr same)
    · rw [List.filter_cons_of_neg (by simpa using own)]
      exact ih ((handler?_next_of_ne own).trans same)

def Single (r : Registry) : Prop :=
  (r.map Prod.fst).Nodup

theorem single_nil : Single [] :=
  List.nodup_nil

theorem Single.unregister (single : r.Single) (kind : ParserKind) : (r.unregister kind).Single := by
  rw [unregister_eq_filter]
  exact single.sublist (List.filter_sublist.map Prod.fst)

theorem Single.next (single : r.Single) (step : Step) : (r.next step).Single := by
  cases step with
  | unregister kind => exact single.unregister kind
  | register kind h =>
    rcases register_cases r kind h with ⟨-, refused⟩ | ⟨-, -, refused⟩ | ⟨-, -, done⟩
    · rwa [next_of_refused refused]
    · rwa [next_of_refused refused]
    · rw [Registry.next, apply, done]
      refine List.nodup_cons.2 ⟨?_, single.unregister kind⟩
      rw [unregister_eq_filter]
      simp

theorem Single.after (single : r.Single) (steps : List Step) : (r.after steps).Single := by
  induction steps generalizing r with
  | nil => exact single
  | cons step rest ih => exact ih (single.next step)

theorem Single.perm_register (single : r.Single) (held : r.handler? kind = some h) :
    ((kind, h) :: r.unregister kind).Perm r := by
  induction r with
  | nil => cases held
  | cons entry rest ih =>
    obtain ⟨own, g⟩ := entry
    obtain ⟨fresh, others⟩ := List.nodup_cons.1 single
    rw [handler?] at held
    rw [Registry.unregister]
    by_cases same : own = kind
    · subst same
      rw [if_pos rfl] at held ⊢
      cases held
      have apart : Registry.unregister own rest = rest := by
        rw [unregister_eq_filter, List.filter_eq_self]
        intro entry member
        have other : entry.1 ≠ own := fun same => fresh (List.mem_map.2 ⟨entry, member, same⟩)
        simpa using other
      rw [apart]
    · rw [if_neg same] at held ⊢
      exact (List.Perm.swap _ _ _).trans ((ih others held).cons _)

theorem kind_of_lastStep? {step : Step} {steps : List Step} (last : r.lastStep? kind steps = some step) :
    step.kind = kind := by
  have member := (List.mem_filter.1 (List.mem_of_getLast? last)).2
  simpa using member

/-- A registration that was refused is not the last step on its kind, and one of another kind does not matter. -/
example {first second : Handler} (different : first.identity ≠ second.identity) :
    lastStep? [] .html [.register .html first, .register .html second, .register .swift second] =
      some (.register .html first) := by
  simp [lastStep?, effective, apply, register, handler?, unregister, ParserKind.inProcess, different, Step.kind]

theorem handler?_after_empty {steps : List Step} : (after [] steps).handler? kind = some h ↔
    lastStep? [] kind steps = some (.register kind h) := by
  rw [handler?_after]
  cases last : lastStep? [] kind steps with
  | none => simp [handler?]
  | some step =>
    have own := kind_of_lastStep? last
    cases step with
    | register other g =>
      simp only [Step.kind] at own
      simp [Step.handler?, own]
    | unregister other => simp [Step.handler?]

end Registry

namespace Plan

variable {t : FileTree} {r r' : Registry} {c : Config} {cwd : Path} {mode : Mode} {verbose : Bool}
  {w : Workspace} {kind : ParserKind} {h : Handler}

theorem ofConfig_of_inProcess (runs : c.parser.inProcess = true) :
    ofConfig t r c cwd mode verbose w = (ofHandler c.parser r).mapError .run := by
  rw [ofConfig]
  split
  · rfl
  · rfl
  all_goals
    next own =>
      rw [own] at runs
      cases runs

theorem ofConfig_of_foreign (foreign : c.parser.inProcess = false) :
    ofConfig t r c cwd mode verbose w = ofConfig t r' c cwd mode verbose w := by
  rw [ofConfig, ofConfig]
  split
  iterate 2
    next own =>
      rw [own] at foreign
      cases foreign
  all_goals rfl

theorem ofHandler_eq_call : ofHandler kind r = .ok (.call h) ↔ r.handler? kind = some h := by
  rw [ofHandler]
  cases r.handler? kind <;> simp

theorem ofHandler_eq_notFound :
    (∃ err, ofHandler kind r = .error err ∧ err.kind = "ParserNotFound") ↔ r.handler? kind = none := by
  rw [ofHandler]
  cases r.handler? kind with
  | some h => simp
  | none => simp [RunError.kind]

open Registry in
/-- Whatever was registered and removed: only kinds that run in process have handlers; the plan of a kind calls the
handler that the last step on it registered, of the steps that took effect, and is not found if there is none;
a handler is refused, without a change, just if its kind does not run in process or has another; one that
is registered again changes nothing; and steps on other kinds do not matter. -/
theorem registrations_law (steps : List Step) (kind : ParserKind) :
    (after [] steps).InProcess ∧
    (∀ h, ofHandler kind (after [] steps) = .ok (.call h) ↔
      lastStep? [] kind steps = some (.register kind h)) ∧
    ((∃ err, ofHandler kind (after [] steps) = .error err ∧ err.kind = "ParserNotFound") ↔
      ∀ h, lastStep? [] kind steps ≠ some (.register kind h)) ∧
    (∀ h, (∃ f, (after [] steps).register kind h = .error f) ↔ kind.inProcess = false ∨
      ∃ held, lastStep? [] kind steps = some (.register kind held) ∧ held.identity ≠ h.identity) ∧
    (∀ h f, (after [] steps).register kind h = .error f →
      after [] (steps ++ [.register kind h]) = after [] steps) ∧
    (∀ h, lastStep? [] kind steps = some (.register kind h) →
      ∃ r, (after [] steps).register kind h = .ok r ∧ r.Perm (after [] steps) ∧
        ∀ other, r.handler? other = (after [] steps).handler? other) ∧
    ofHandler kind (after [] steps) =
      ofHandler kind (after [] (steps.filter fun step => step.kind = kind)) ∧
    ∀ t c cwd mode verbose w, c.parser = kind →
      (kind.inProcess = true → ofConfig t (after [] steps) c cwd mode verbose w =
        (ofHandler kind (after [] steps)).mapError .run) ∧
      (kind.inProcess = false → ofConfig t (after [] steps) c cwd mode verbose w =
        ofConfig t [] c cwd mode verbose w) := by
  have only : (after [] steps).InProcess := inProcess_nil.after steps
  refine ⟨only, fun h => ?_, ?_, fun h => ?_, fun h f refused => ?_, fun h last => ?_, ?_,
    fun t c cwd mode verbose w own => ?_⟩
  · rw [ofHandler_eq_call, handler?_after_empty]
  · rw [ofHandler_eq_notFound, Option.eq_none_iff_forall_ne_some]
    simp only [ne_eq, handler?_after_empty]
  · simp only [register_eq_error_iff, handler?_after_empty]
  · rw [after, List.foldl_append]
    exact next_of_refused refused
  · have held := handler?_after_empty.2 last
    rcases register_cases (after [] steps) kind h with ⟨foreign, -⟩ | ⟨-, ⟨other, found, different⟩, -⟩ | ⟨-, -, done⟩
    · have runs : kind.inProcess = true := only _ (mem_of_handler? held)
      rw [runs] at foreign
      cases foreign
    · rw [held] at found
      cases found
      exact absurd rfl different
    · refine ⟨_, done, (single_nil.after steps).perm_register held, fun other => ?_⟩
      have same := handler?_next_register_self held other
      rwa [next, apply, done] at same
  · rw [ofHandler, ofHandler, handler?_after_own rfl]
  · subst own
    exact ⟨ofConfig_of_inProcess, ofConfig_of_foreign⟩

end Plan

end ParserHost
