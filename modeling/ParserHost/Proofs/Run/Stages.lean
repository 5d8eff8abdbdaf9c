import ParserHost.Proofs.Run.Exchange
import ParserHost.Run.Engine

/-!
# The stages of a run

A run makes its request, asks the parser and checks the response. Either all of this goes well
(`Replied`) or one stage stops the run (`Stopped`); which of the two it is, and with what, is settled
by the engine, the task and the file tree (`replied_or_stopped`, `Replied.unique`, `Stopped.unique`).
-/

namespace ParserHost

inductive Task where
  | parse
  | create (component : Component) (destination : Path) (details : Discovery.Details)

def Task.mode : Task → Mode
  | .parse => .parse
  | .create .. => .create

def Response.mode : Response → Mode
  | .parse _ => .parse
  | .create _ => .create

namespace Engine
open Invocation (Ends)

def answer (e : Engine) : Task → Act Outcome
  | .parse => e.parse
  | .create component destination details => e.create component destination details

def request (e : Engine) (t : FileTree) : Task → Except Failure Request
  | .parse =>
    (Discovery.parseRequest t e.config e.settings.cwd e.settings.verbose).map .parse
  | .create component destination details =>
    ((Discovery.createRequest t e.config component destination details
      e.settings.verbose).mapError .fault).map .create

/-- Every stage went well: the parser answered with a response that fits, and its process wrote the
given messages to standard error. -/
inductive Replied (e : Engine) (task : Task) (t : FileTree) : Response → List Message → Prop
  | intro {request v r ms} (asked : e.request t task = .ok request)
      (ended : Ends e.context request t (.ok v) ms) (fits : validate request.mode v = .ok r) :
      Replied e task t r ms

/-- A stage failed, after the parser's process wrote the given messages to standard error. -/
inductive Stopped (e : Engine) (task : Task) (t : FileTree) : Failure → List Message → Prop
  | unasked {f} (refused : e.request t task = .error f) : Stopped e task t f []
  | unanswered {request f ms} (asked : e.request t task = .ok request)
      (ended : Ends e.context request t (.error f) ms) : Stopped e task t f ms
  | unfit {request v err ms} (asked : e.request t task = .ok request)
      (ended : Ends e.context request t (.ok v) ms)
      (misfit : validate request.mode v = .error err) : Stopped e task t (.run err) ms

def Raises (e : Engine) (task : Task) (t : FileTree) (err : RunError) : Prop :=
  ∃ ms, Stopped e task t (.run err) ms

def stages (e : Engine) : Task → Act Response
  | .parse => do
    let request ← e.parseRequest
    e.execute (.parse request)
  | .create component destination details => do
    let request ← Act.read fun t =>
      (Discovery.createRequest t e.config component destination details
        e.settings.verbose).mapError .fault
    e.execute (.create request)

def settle (e : Engine) (task : Task) : Except RunError Response × List Message → Act Outcome
  | (.error err, messages) => pure (.failed err messages)
  | (.ok r, messages) =>
    match task with
    | .parse => do
      let outcome := Outcome.classify r messages
      if outcome.succeeded then
        let documents ← e.finalize outcome.documents
        return { outcome with documents := documents }
      else return outcome
    | .create .. => pure (.classify r messages)

theorem answer_eq (e : Engine) (task : Task) :
    e.answer task = Act.attempt (e.stages task) >>= e.settle task := by
  cases task <;>
    · refine congrArg (Act.attempt _ >>= ·) ?_
      funext ⟨result, messages⟩
      cases result <;> rfl

/-! ## Requests -/

variable {e : Engine} {task : Task} {t : FileTree}

theorem parseRequest_of_ok {r : ParseRequest}
    (found : Discovery.parseRequest t e.config e.settings.cwd e.settings.verbose = .ok r) :
    ∃ journal, messagesOf journal = [] ∧ e.parseRequest t = ⟨.ok r, t, journal⟩ := by
  unfold parseRequest
  rw [Act.bind_of_ok (a := r) (by rw [Act.read_apply, found])]
  by_cases many : Discovery.largeThreshold < r.paths.length
  · rw [if_pos many]
    exact ⟨_, rfl, rfl⟩
  · rw [if_neg many]
    exact ⟨_, rfl, rfl⟩

/-- Making a request leaves the tree alone and has no messages. -/
theorem stages_of_request {request : Request} (asked : e.request t task = .ok request) :
    ∃ journal, messagesOf journal = [] ∧ e.stages task t =
      ⟨(e.execute request t).result, (e.execute request t).tree,
        journal ++ (e.execute request t).journal⟩ := by
  cases task with
  | parse =>
    obtain ⟨r, found, rfl⟩ := map_eq_ok.1 asked
    obtain ⟨journal, silent, made⟩ := parseRequest_of_ok found
    exact ⟨journal, silent, Act.bind_of_ok made⟩
  | create component destination details =>
    obtain ⟨r, found, rfl⟩ := map_eq_ok.1 asked
    refine ⟨[], rfl, Act.bind_of_ok ?_⟩
    rw [Act.read_apply, found]

theorem stages_of_refused {f : Failure} (refused : e.request t task = .error f) :
    e.stages task t = ⟨.error f, t, []⟩ := by
  cases task with
  | parse =>
    have found := map_eq_error.1 refused
    refine Act.bind_error ?_
    exact Act.bind_error (by rw [Act.read_apply, found])
  | create component destination details =>
    have found := map_eq_error.1 refused
    exact Act.bind_error (by rw [Act.read_apply, found])

/-! ## Responses -/

def Gives {α : Type} (d : Done α) (result : Except Failure α) (ms : List Message) : Prop :=
  d.result = result ∧ messagesOf d.journal = ms

theorem run_of_ends {request : Request} {v : Json} {ms : List Message}
    (ended : Ends e.context request t (.ok v) ms) :
    ∃ found u journal, Invocation.run e.context request t = ⟨.ok found, u, journal⟩ ∧
      found.payload = v ∧ messagesOf journal = ms := by
  have came := Invocation.summary_of_ends ended
  cases ran : Invocation.run e.context request t with
  | mk result u journal =>
    rw [ran, Invocation.summary, Prod.mk.injEq] at came
    obtain ⟨found, rfl, payload⟩ := map_eq_ok.1 came.1
    exact ⟨found, u, journal, rfl, payload, came.2⟩

theorem execute_of_fits {request : Request} {v : Json} {ms : List Message} {r : Response}
    (ended : Ends e.context request t (.ok v) ms) (fits : validate request.mode v = .ok r) :
    Gives (e.execute request t) (.ok r.dedupe) (ms ++ r.messages) := by
  obtain ⟨found, u, journal, ran, rfl, rfl⟩ := run_of_ends ended
  unfold execute
  rw [Act.bind_of_ok ran, fits, Act.bind_of_ok (Act.refuse_ok r u),
    Act.bind_of_ok (Act.notes_apply _ u)]
  simp [Gives]

theorem execute_of_misfit {request : Request} {v : Json} {ms : List Message} {err : RunError}
    (ended : Ends e.context request t (.ok v) ms) (misfit : validate request.mode v = .error err) :
    Gives (e.execute request t) (.error (.run err)) ms := by
  obtain ⟨found, u, journal, ran, rfl, rfl⟩ := run_of_ends ended
  unfold execute
  rw [Act.bind_of_ok ran, misfit, Act.bind_error (Act.refuse_error err u)]
  simp [Gives]

theorem execute_of_failed {request : Request} {f : Failure} {ms : List Message}
    (ended : Ends e.context request t (.error f) ms) :
    Gives (e.execute request t) (.error f) ms := by
  have came := Invocation.summary_of_ends ended
  cases ran : Invocation.run e.context request t with
  | mk result u journal =>
    rw [ran, Invocation.summary, Prod.mk.injEq] at came
    have failed := map_eq_error.1 came.1
    subst failed
    unfold execute
    rw [Act.bind_error ran]
    exact ⟨rfl, came.2⟩

theorem stages_of_replied {r : Response} {ms : List Message} (replied : Replied e task t r ms) :
    Gives (e.stages task t) (.ok r.dedupe) (ms ++ r.messages) := by
  obtain ⟨asked, ended, fits⟩ := replied
  obtain ⟨journal, silent, eq⟩ := stages_of_request asked
  obtain ⟨result, messages⟩ := execute_of_fits ended fits
  rw [eq]
  exact ⟨result, by simp [silent, messages]⟩

theorem stages_of_stopped {f : Failure} {ms : List Message} (stopped : Stopped e task t f ms) :
    Gives (e.stages task t) (.error f) ms := by
  cases stopped with
  | unasked refused =>
    rw [stages_of_refused refused]
    exact ⟨rfl, rfl⟩
  | unanswered asked ended =>
    obtain ⟨journal, silent, eq⟩ := stages_of_request asked
    obtain ⟨result, messages⟩ := execute_of_failed ended
    rw [eq]
    exact ⟨result, by simp [silent, messages]⟩
  | unfit asked ended misfit =>
    obtain ⟨journal, silent, eq⟩ := stages_of_request asked
    obtain ⟨result, messages⟩ := execute_of_misfit ended misfit
    rw [eq]
    exact ⟨result, by simp [silent, messages]⟩

theorem replied_or_stopped (e : Engine) (task : Task) (t : FileTree) :
    (∃ r ms, Replied e task t r ms) ∨ ∃ f ms, Stopped e task t f ms := by
  cases asked : e.request t task with
  | error f => exact .inr ⟨f, [], .unasked asked⟩
  | ok request =>
    obtain ⟨result, ms, ended⟩ := Invocation.ends_run e.context request t
    cases result with
    | error f => exact .inr ⟨f, ms, .unanswered asked ended⟩
    | ok v =>
      cases checked : validate request.mode v with
      | error err => exact .inr ⟨.run err, ms, .unfit asked ended checked⟩
      | ok r => exact .inl ⟨r, ms, .intro asked ended checked⟩

theorem Replied.unique {r r' : Response} {ms ms' : List Message}
    (replied : Replied e task t r ms) (replied' : Replied e task t r' ms') : r = r' ∧ ms = ms' := by
  obtain ⟨asked, ended, fits⟩ := replied
  obtain ⟨asked', ended', fits'⟩ := replied'
  cases asked.symm.trans asked'
  obtain ⟨sameValue, sameMessages⟩ := ended.unique ended'
  cases sameValue
  exact ⟨Except.ok.inj (fits.symm.trans fits'), sameMessages⟩

theorem Stopped.unique {f f' : Failure} {ms ms' : List Message}
    (stopped : Stopped e task t f ms) (stopped' : Stopped e task t f' ms') : f = f' ∧ ms = ms' := by
  obtain ⟨result, messages⟩ := stages_of_stopped stopped
  obtain ⟨result', messages'⟩ := stages_of_stopped stopped'
  exact ⟨Except.error.inj (result.symm.trans result'), messages.symm.trans messages'⟩

theorem Replied.not_stopped {r : Response} {ms : List Message} (replied : Replied e task t r ms)
    (f : Failure) (ms' : List Message) : ¬ Stopped e task t f ms' := by
  intro stopped
  have result := (stages_of_replied replied).1
  rw [(stages_of_stopped stopped).1] at result
  cases result

/-! ## Kinds of responses -/

theorem mode_request {request : Request} (asked : e.request t task = .ok request) :
    request.mode = task.mode := by
  cases task <;>
    · obtain ⟨r, -, rfl⟩ := map_eq_ok.1 asked
      rfl

theorem validate_eq_ok {mode : Mode} {v : Json} {r : Response} :
    validate mode v = .ok r ↔ Response.check mode v = .ok r := by
  unfold validate
  cases Response.check mode v <;> simp [Schema.Checked.toExcept]

theorem mode_of_check {mode : Mode} {v : Json} {r : Response}
    (fits : Response.check mode v = .ok r) : r.mode = mode := by
  cases mode with
  | parse =>
    simp only [Response.check] at fits
    cases checked : ParseResponse.check v <;> simp [checked, Schema.Checked.map] at fits
    rw [← fits]
    rfl
  | create =>
    simp only [Response.check] at fits
    cases checked : CreateResponse.check v <;> simp [checked, Schema.Checked.map] at fits
    rw [← fits]
    rfl

theorem Replied.mode {r : Response} {ms : List Message} (replied : Replied e task t r ms) :
    r.mode = task.mode := by
  obtain ⟨asked, ended, fits⟩ := replied
  rw [mode_of_check (validate_eq_ok.1 fits), mode_request asked]

end Engine

end ParserHost
