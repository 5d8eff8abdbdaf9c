import ParserHost.Proofs.Run.Termination

/-!
# The launches of a run

A run depends on the system that starts processes only through the launches in its journal
(`Act.Asks`), and there is at most one of them; none at all if the run ends in a failure of the
configuration (`at_most_one_launch`).
-/

namespace ParserHost

/-! ## Launches in a journal -/

def Event.launch? : Event → Option (List String)
  | launched words => some words
  | _ => none

def launchesOf (journal : List Event) : List (List String) :=
  journal.filterMap Event.launch?

@[simp] theorem launchesOf_append (a b : List Event) :
    launchesOf (a ++ b) = launchesOf a ++ launchesOf b := by
  simp [launchesOf]

@[simp] theorem launchesOf_launched (words : List String) (rest : List Event) :
    launchesOf (.launched words :: rest) = words :: launchesOf rest :=
  List.filterMap_cons_some rfl

@[simp] theorem launchesOf_map_message (ms : List Message) :
    launchesOf (ms.map .message) = [] := by
  simp [launchesOf, Event.launch?]

namespace Act

variable {α β : Type}

def Silent (x : Act α) : Prop :=
  ∀ t, launchesOf (x t).journal = []

section
variable {x : Act α} {f : α → Act β} {t : FileTree}

theorem launchesOf_bind : launchesOf ((x >>= f) t).journal = launchesOf (x t).journal ++
    match (x t).result with
    | .error _ => []
    | .ok a => launchesOf (f a (x t).tree).journal := by
  cases ended : x t with
  | mk result u journal =>
    cases result with
    | error e => rw [bind_error ended, List.append_nil]
    | ok a => rw [journal_bind_ok ended, launchesOf_append]

theorem launchesOf_bind_silent (silent : ∀ a, Silent (f a)) :
    launchesOf ((x >>= f) t).journal = launchesOf (x t).journal := by
  rw [launchesOf_bind]
  split
  · exact List.append_nil _
  · rw [silent, List.append_nil]

theorem Silent.bind (first : Silent x) (second : ∀ a, Silent (f a)) : Silent (x >>= f) := by
  intro t
  rw [launchesOf_bind_silent second, first]

theorem silent_pure (a : α) : Silent (Pure.pure a) := fun _ => rfl

theorem silent_read (r : FileTree → Except Failure α) : Silent (read r) := fun _ => rfl

theorem silent_lift (r : Except Failure α) : Silent (lift r) := fun _ => rfl

theorem silent_change (g : FileTree → Except Fault α × FileTree) : Silent (change g) := fun _ => rfl

theorem silent_log (level : Level) (text : String) : Silent (log level text) := fun _ => rfl

theorem silent_messages (ms : List Message) : Silent (notes (ms.map .message)) :=
  fun _ => launchesOf_map_message ms

theorem journal_attempt (x : Act α) (t : FileTree) : (attempt x t).journal = (x t).journal := by
  unfold attempt
  split <;> simp_all

end

/-! ## What a step asks the system for -/

/-- A step records what it asks the system to start, and depends on nothing else that the system
would answer. -/
structure Asks (x : Launcher → Act α) (l : Launcher) (t : FileTree)
    (asked : List (Launch × FileTree)) : Prop where
  recorded : launchesOf (x l t).journal = asked.map fun q => q.1.words
  settled : ∀ other : Launcher, (∀ q ∈ asked, other q.1 q.2 = l q.1 q.2) → x other t = x l t

def AtMost (n : Nat) (x : Launcher → Act α) : Prop :=
  ∀ l t, ∃ asked, asked.length ≤ n ∧ Asks x l t asked

variable {x : Launcher → Act α} {f : Launcher → α → Act β} {m n : Nat}

theorem atMost_zero {x : Act α} (silent : Silent x) : AtMost 0 fun _ => x :=
  fun _ t => ⟨[], Nat.le_refl 0, silent t, fun _ _ => rfl⟩

theorem AtMost.mono (most : AtMost m x) (le : m ≤ n) : AtMost n x := by
  intro l t
  obtain ⟨asked, few, asks⟩ := most l t
  exact ⟨asked, Nat.le_trans few le, asks⟩

theorem AtMost.bind (first : AtMost m x) (second : ∀ a, AtMost n fun l => f l a) :
    AtMost (m + n) fun l => x l >>= f l := by
  intro l t
  obtain ⟨asked, few, recorded, settled⟩ := first l t
  cases ended : x l t with
  | mk result u journal =>
    rw [ended] at recorded settled
    cases result with
    | error e =>
      refine ⟨asked, Nat.le_add_right_of_le few, ?_, fun other same => ?_⟩
      · rw [bind_error ended]
        exact recorded
      · rw [bind_error ended, bind_error (settled other same)]
    | ok a =>
      obtain ⟨more, few', recorded', settled'⟩ := second a l u
      refine ⟨asked ++ more, ?_, ?_, fun other same => ?_⟩
      · rw [List.length_append]
        exact Nat.add_le_add few few'
      · rw [journal_bind_ok ended, launchesOf_append, List.map_append, recorded']
        exact congrArg (· ++ _) recorded
      · have before : x other t = ⟨.ok a, u, journal⟩ :=
          settled other fun q member => same q (List.mem_append_left _ member)
        have after : f other a u = f l a u :=
          settled' other fun q member => same q (List.mem_append_right _ member)
        rw [bind_of_ok ended, bind_of_ok before, after]

theorem AtMost.attempt (most : AtMost n x) : AtMost n fun l => attempt (x l) := by
  intro l t
  obtain ⟨asked, few, recorded, settled⟩ := most l t
  refine ⟨asked, few, (congrArg launchesOf (journal_attempt _ t)).trans recorded, ?_⟩
  intro other same
  simp only [Act.attempt, settled other same]

theorem AtMost.afterwards (most : AtMost n x) (g : FileTree → FileTree) :
    AtMost n fun l => (x l).afterwards g := by
  intro l t
  obtain ⟨asked, few, recorded, settled⟩ := most l t
  refine ⟨asked, few, recorded, fun other same => ?_⟩
  simp only [Act.afterwards, settled other same]

end Act

namespace Invocation

open Act

variable {c : Context} {request : Request} {t t₁ : FileTree} {w : Workspace} {plan : Plan}

theorem launches_stream_of_resolved {named words : List String} {input : Option String}
    (resolved : Executable.resolve t c.host (some c.cwd) named = .ok words) :
    launchesOf (stream c named input t).journal = [words] := by
  cases started : Executable.start c.host (launch c words input) t with
  | mk result u =>
    cases result with
    | error f => rw [stream_of_notStarted resolved started]; rfl
    | ok ended => rw [stream_of_ended resolved started]; simp

theorem start_congr {l other : Launcher} {asked : Launch}
    (same : other asked t = l asked t) :
    Executable.start (c.launching other).host asked t =
      Executable.start (c.launching l).host asked t := by
  simp only [Executable.start, Context.launching, same]

theorem stream_congr {l other : Launcher} {named words : List String} {input : Option String}
    (resolved : Executable.resolve t c.host (some c.cwd) named = .ok words)
    (same : other (launch c words input) t = l (launch c words input) t) :
    stream (c.launching other) named input t = stream (c.launching l) named input t := by
  have resolved' : ∀ l, Executable.resolve t (c.launching l).host (some c.cwd) named = .ok words :=
    fun _ => (resolve_launching named).trans resolved
  have started := start_congr (c := c) same
  cases ran : Executable.start (c.launching l).host (launch c words input) t with
  | mk result u =>
    rw [ran] at started
    cases result with
    | error f =>
      exact (stream_of_notStarted (resolved' other) started).trans
        (stream_of_notStarted (resolved' l) ran).symm
    | ok ended =>
      exact (stream_of_ended (resolved' other) started).trans
        (stream_of_ended (resolved' l) ran).symm

theorem atMost_stream (words : List String) (input : Option String) :
    AtMost 1 fun l => stream (c.launching l) words input := by
  intro l t
  cases resolved : Executable.resolve t c.host (some c.cwd) words with
  | error f =>
    have refused : ∀ l, stream (c.launching l) words input t =
        ⟨.error (startFailure (words.headD "") f), t, []⟩ :=
      fun l => stream_of_notFound ((resolve_launching words).trans resolved)
    refine ⟨[], Nat.zero_le 1, ?_, fun other _ => ?_⟩
    · rw [refused]
      rfl
    · rw [refused, refused]
  | ok found =>
    refine ⟨[(launch c found input, t)], Nat.le_refl 1, ?_, fun other same => ?_⟩
    · exact launches_stream_of_resolved ((resolve_launching words).trans resolved)
    · exact stream_congr resolved (same _ (.head _))

theorem silent_deliver (transport : Transport) (text : String) : Silent (deliver w transport text) := by
  cases transport with
  | pipes => exact silent_pure _
  | files => exact (silent_change _).bind fun _ => silent_pure _

theorem silent_collectOutput (s : Streamed) : Silent (collectOutput c s) :=
  (silent_lift _).bind fun _ => silent_pure _

theorem silent_collectModules (mode : Mode) (directory : Path) (s : Streamed) :
    Silent (collectModules c mode directory s) :=
  (silent_read _).bind fun _ => (silent_log _ _).bind fun _ => silent_pure _

theorem silent_conclude (s : Streamed) : Silent (conclude c w plan request s) := by
  have modules : Silent (Act.lift (w.outputDir.mapError .fault) >>= fun directory =>
      collectModules c request.mode directory s) :=
    (silent_lift _).bind fun _ => silent_collectModules _ _ s
  refine (silent_lift _).bind fun _ => ?_
  cases plan.transport with
  | pipes =>
    cases s.inputUnread with
    | false => exact silent_collectOutput s
    | true => exact (silent_log _ _).bind fun _ => silent_collectOutput s
  | files =>
    cases s.inputUnread with
    | false => exact modules
    | true => exact (silent_log _ _).bind fun _ => modules

theorem silent_call (h : Handler) : Silent (call c h request) := by
  unfold call
  cases request.payload with
  | error x => exact fun _ => rfl
  | ok payload =>
    refine Silent.bind (fun _ => rfl) fun _ => ?_
    cases h.answer payload c.cwd <;> exact fun _ => rfl

theorem atMost_runCommand : AtMost 1 fun l => runCommand (c.launching l) w plan request := by
  have write : AtMost 0 fun _ => Act.lift (request.serialized.mapError fun x => .fault (.unwritten x)) :=
    atMost_zero (silent_lift _)
  have before (text : String) : AtMost 0 fun _ => deliver w plan.transport text :=
    atMost_zero (silent_deliver _ _)
  have after : ∀ s, AtMost 0 fun _ => conclude c w plan request s :=
    fun s => atMost_zero (silent_conclude s)
  exact write.bind fun text => (before text).bind fun input => (atMost_stream plan.words input).bind after

theorem atMost_proceed : ∀ plan, AtMost 1 fun l => proceed (c.launching l) w request plan
  | .call h => (atMost_zero (silent_call h)).mono (Nat.zero_le 1)
  | .fixed _ _ => atMost_runCommand
  | .custom _ _ => atMost_runCommand

theorem atMost_inside : AtMost 1 fun l => inside (c.launching l) request w := by
  have read : AtMost 0 fun _ => Act.read fun t =>
      Plan.ofConfig t c.handlers c.config c.cwd request.mode c.verbose w :=
    atMost_zero (silent_read _)
  have said : ∀ level text, AtMost 0 fun _ => Act.log level text :=
    fun level text => atMost_zero (silent_log level text)
  unfold inside
  refine read.bind (n := 1) fun plan => ?_
  have go : AtMost 1 fun l => Act.log .debug s!"Running parser: {plan.describe}" >>= fun _ =>
      proceed (c.launching l) w request plan := (said _ _).bind fun _ => atMost_proceed plan
  cases plan with
  | call h => exact go
  | fixed words transport => exact go
  | custom words notice => exact (said .info notice).bind fun _ => go

def entering (w : Workspace) (t : FileTree) : Except Fault Workspace × FileTree :=
  match w.enter t with
  | .ok (w, t) => (.ok w, t)
  | .error half => (.error half.fault, half.tree)

theorem atMost_run : AtMost 1 fun l => run (c.launching l) request := by
  have enter : AtMost 0 fun _ => Act.change (entering ⟨c.host.scratch, none⟩) :=
    atMost_zero (silent_change _)
  exact enter.bind fun w => atMost_inside.afterwards fun t => (w.leave t).2

/-! ## Invocations without a launch -/

theorem launches_of_noWorkspace {half : Workspace.HalfMade}
    (refused : (Workspace.mk c.host.scratch none).enter t = .error half) :
    launchesOf (run c request t).journal = [] := by
  unfold run
  rw [bind_error (change_of_error (e := half.fault) (u := half.tree) (by rw [refused]))]
  rfl

theorem launches_of_entered (entered : (Workspace.mk c.host.scratch none).enter t = .ok (w, t₁)) :
    launchesOf (run c request t).journal = launchesOf (inside c request w t₁).journal := by
  unfold run
  rw [journal_bind_ok (change_of_ok (a := w) (u := t₁) (by rw [entered])), List.nil_append]
  rfl

theorem launches_of_refused {f : Failure}
    (entered : (Workspace.mk c.host.scratch none).enter t = .ok (w, t₁))
    (refused : Plan.ofConfig t₁ c.handlers c.config c.cwd request.mode c.verbose w = .error f) :
    launchesOf (run c request t).journal = [] := by
  rw [launches_of_entered entered, inside, bind_error (by rw [read_apply, refused])]
  rfl

theorem launches_of_call {h : Handler} (planned : Planned c request t w t₁ (.call h)) :
    launchesOf (run c request t).journal = [] := by
  rw [launches_of_entered planned.entered, inside,
    journal_bind_ok (a := .call h) (by rw [read_apply, planned.planned])]
  exact ((silent_log _ _).bind fun _ => silent_call h) t₁

/-! ## Failures after a launch -/

theorem kind_of_startFailure {program : String} {f : Fault} {err : RunError}
    (failed : startFailure program f = .run err) : err.kind ∈ ["ParserNotFound", "SpawnError"] := by
  unfold startFailure at failed
  split at failed
  · cases failed
    simp [RunError.kind]
  · split at failed
    · cases failed
      simp [RunError.kind]
    · cases failed
      simp [RunError.kind]
  · cases failed

def lateKinds : List String :=
  ["ProcessAborted", "MalformedModuleOutput", "MalformedResponse"]

theorem kind_of_sum {mode : Mode} {directory : Path} {files : List String} {err : RunError}
    (refused : Modules.sum t mode directory files = .error (.run err)) :
    err.kind ∈ lateKinds := by
  induction files with
  | nil => cases refused
  | cons name rest ih =>
    rcases bind_eq_error.1 refused with first | ⟨p, -, refused⟩
    · rcases Modules.parts_eq_error first with ⟨reason, same⟩ | ⟨limit, same⟩
      · cases same
        simp [RunError.kind, lateKinds]
      · cases same
    · rcases bind_eq_error.1 refused with more | ⟨ps, -, refused⟩
      · exact ih more
      · cases refused

theorem kind_of_gather {mode : Mode} {directory : Path} {s : Streamed} {err : RunError}
    (refused : gather c mode directory s t = .error (.run err)) : err.kind ∈ lateKinds := by
  rcases bind_eq_error.1 refused with unlisted | ⟨names, -, refused⟩
  · obtain ⟨e, -, same⟩ := mapError_eq_error.1 unlisted
    cases same
  · split at refused
    · cases refused
      simp [RunError.kind, lateKinds]
    · rcases bind_eq_error.1 refused with unlisted | ⟨found, -, refused⟩
      · obtain ⟨e, -, same⟩ := mapError_eq_error.1 unlisted
        cases same
      · rcases bind_eq_error.1 refused with summed | ⟨p, -, refused⟩
        · exact kind_of_sum summed
        · cases refused

theorem kind_of_decode {output : String} {status : Int} {hint : Option String} {err : RunError}
    (refused : decode output status hint = .error (.run err)) : err.kind ∈ lateKinds := by
  simp only [decode] at refused
  split at refused
  · cases refused
    simp [RunError.kind, lateKinds]
  · split at refused
    · cases refused
    · cases refused
    · cases refused
      simp [RunError.kind, lateKinds]

theorem kind_of_response {x : Child} {mode : Mode} {err : RunError}
    (failed : x.response c mode = .error (.run err)) : err.kind ∈ lateKinds := by
  simp only [Child.response, finished] at failed
  split at failed
  · next aborted =>
    split at aborted
    · cases aborted
      cases failed
      simp [RunError.kind, lateKinds]
    · cases aborted
  · split at failed
    · exact kind_of_decode failed
    · split at failed
      · cases failed
      · exact kind_of_gather (map_eq_error.1 failed)

/-- An invocation that ends in a failure of the configuration has not started anything. -/
theorem launches_of_ends {err : RunError} {ms : List Message}
    (ends : Ends c request t (.error (.run err)) ms) (config : err.kind = "ConfigError") :
    launchesOf (run c request t).journal = [] := by
  generalize result : Except.error (Failure.run err) = r at ends
  cases ends with
  | noWorkspace refused => cases result
  | noPlan entered refused => exact launches_of_refused entered refused
  | called planned => exact launches_of_call planned
  | unwritten planned command excess => cases result
  | undelivered planned transport serialized refused => cases result
  | notFound delivered refused =>
    have kind := kind_of_startFailure (Except.error.inj result).symm
    rw [config] at kind
    exact absurd kind (by decide)
  | notStarted delivered resolved refused =>
    have kind := kind_of_startFailure (Except.error.inj result).symm
    rw [config] at kind
    exact absurd kind (by decide)
  | ran ran =>
    have kind := kind_of_response result.symm
    rw [config] at kind
    exact absurd kind (by decide)

end Invocation

/-! ## Launches of an engine -/

namespace Engine

open Act Invocation

variable {e : Engine} {task : Task} {t : FileTree} {request : Request}

theorem silent_parseRequest (e : Engine) : Silent e.parseRequest := by
  refine (silent_read _).bind fun request => ?_
  split
  · exact (silent_log _ _).bind fun _ => silent_pure _
  · exact silent_pure _

theorem silent_finalize (e : Engine) (documents : List Document) : Silent (e.finalize documents) := by
  have publish : Silent (e.publish documents) :=
    Silent.bind (fun _ => rfl) fun _ => (silent_change _).bind fun _ => silent_read _
  unfold Engine.publish stamp at publish
  unfold finalize
  generalize e.label = label at publish ⊢
  cases label with
  | none => exact publish
  | some text => exact (silent_log _ _).bind fun _ => publish

theorem silent_settle (e : Engine) (task : Task) :
    ∀ found : Except RunError Response × List Message, Silent (e.settle task found)
  | (.error err, messages) => silent_pure _
  | (.ok r, messages) => by
    cases task with
    | create component destination details => exact silent_pure _
    | parse =>
      simp only [settle]
      split
      · exact (silent_finalize e _).bind fun _ => silent_pure _
      · exact silent_pure _

theorem silent_checked (request : Request) (found : Invocation) : Silent (do
    let response ← Act.refuse (validate request.mode found.payload)
    Act.notes (response.messages.map .message)
    Pure.pure response.dedupe) :=
  (silent_lift _).bind fun _ => (silent_messages _).bind fun _ => silent_pure _

theorem atMost_execute : AtMost 1 fun l => (e.launching l).execute request := by
  have after := fun found => atMost_zero (silent_checked request found)
  exact (atMost_run (c := e.context)).bind after

theorem atMost_stages : AtMost 1 fun l => (e.launching l).stages task := by
  cases task with
  | parse =>
    have asked : AtMost 0 fun _ => e.parseRequest := atMost_zero (silent_parseRequest e)
    exact asked.bind fun request => atMost_execute
  | create component destination details =>
    have asked : AtMost 0 fun _ => Act.read fun t =>
        (Discovery.createRequest t e.config component destination details
          e.settings.verbose).mapError .fault := atMost_zero (silent_read _)
    exact asked.bind fun request => atMost_execute

theorem atMost_answer : AtMost 1 fun l => (e.launching l).answer task := by
  have settled : ∀ found, AtMost 0 fun _ => e.settle task found :=
    fun found => atMost_zero (silent_settle e task found)
  have whole : (fun l => (e.launching l).answer task) =
      fun l => attempt ((e.launching l).stages task) >>= e.settle task :=
    funext fun l => answer_eq (e.launching l) task
  rw [whole]
  exact atMost_stages.attempt.bind settled

def launches (e : Engine) (task : Task) (t : FileTree) : List (List String) :=
  launchesOf (e.answer task t).journal

theorem launches_eq_stages : e.launches task t = launchesOf (e.stages task t).journal := by
  rw [launches, answer_eq, launchesOf_bind_silent (silent_settle e task), journal_attempt]

theorem launches_of_request (asked : e.request t task = .ok request) :
    e.launches task t = launchesOf (Invocation.run e.context request t).journal := by
  have executed : launchesOf (e.execute request t).journal =
      launchesOf (Invocation.run e.context request t).journal :=
    launchesOf_bind_silent (silent_checked request)
  rw [launches_eq_stages, ← executed]
  cases task with
  | parse =>
    obtain ⟨r, found, rfl⟩ := map_eq_ok.1 asked
    obtain ⟨journal, -, made⟩ := parseRequest_of_ok found
    have quiet : launchesOf journal = [] := by
      simpa [made] using silent_parseRequest e t
    rw [stages, journal_bind_ok made, launchesOf_append, quiet, List.nil_append]
  | create component destination details =>
    obtain ⟨r, found, rfl⟩ := map_eq_ok.1 asked
    have made : Act.read (fun t => (Discovery.createRequest t e.config component destination details
        e.settings.verbose).mapError .fault) t = ⟨.ok r, t, []⟩ := by rw [read_apply, found]
    rw [stages, journal_bind_ok made, List.nil_append]

theorem launches_of_unasked {f : Failure} (refused : e.request t task = .error f) :
    e.launches task t = [] := by
  rw [launches_eq_stages, stages_of_refused refused]
  rfl

/-! ## Failures of the configuration -/

theorem kind_of_validate {mode : Mode} {v : Json} {err : RunError}
    (misfit : validate mode v = .error err) : err.kind ≠ "ConfigError" := by
  unfold validate at misfit
  split at misfit
  · cases misfit
  · cases misfit
    simp [RunError.kind]

/-- A run that ends in a failure of the configuration has not started anything. -/
theorem launches_of_configError {o : Outcome} (returned : (e.answer task t).result = .ok o)
    (failed : o.errorKind = some "ConfigError") : e.launches task t = [] := by
  have stopped : ∃ err ms, Stopped e task t (.run err) ms ∧ err.kind = "ConfigError" := by
    cases concluded_of_returned returned with
    | stopped stopped => exact ⟨_, _, stopped, Option.some.inj failed⟩
    | reported replied errors =>
      exact absurd failed (by simp [Outcome.errorKind, Outcome.failed, RunError.kind])
    | published replied clean published => cases failed
  obtain ⟨err, ms, stopped, kind⟩ := stopped
  cases stopped with
  | unasked refused => exact launches_of_unasked refused
  | unfit asked ended misfit => exact absurd kind (kind_of_validate misfit)
  | @unanswered request _ _ asked ended =>
    rw [launches_of_request asked]
    exact launches_of_ends ended kind

/-! ## Runs without a plan -/

theorem kind_of_globs {c : Config} {err : RunError} (refused : Globs.ofConfig c = .error err) :
    c.parser = .custom ∧ err.kind = "ConfigError" := by
  unfold Globs.ofConfig at refused
  split at refused
  · cases refused
  · next none =>
    cases refused
    refine ⟨?_, rfl⟩
    cases parser : c.parser with
    | custom => rfl
    | react | html | swift | compose | unitTest => simp [parser, Globs.defaultIncluded] at none

theorem globs_of_request {err : RunError} (refused : e.request t task = .error (.run err)) :
    Globs.ofConfig e.config = .error err := by
  cases task with
  | parse =>
    have failed := map_eq_error.1 refused
    rcases bind_eq_error.1 failed with globs | ⟨patterns, -, failed⟩
    · obtain ⟨err', globs, same⟩ := mapError_eq_error.1 globs
      cases same
      exact globs
    · rcases bind_eq_error.1 failed with found | ⟨files, -, failed⟩
      · obtain ⟨f, -, same⟩ := mapError_eq_error.1 found
        cases same
      · rcases bind_eq_error.1 failed with deep | ⟨config, -, failed⟩
        · obtain ⟨x, -, same⟩ := mapError_eq_error.1 deep
          cases same
        · cases failed
  | create component destination details =>
    obtain ⟨f, -, same⟩ := mapError_eq_error.1 (map_eq_error.1 refused)
    cases same

/-- A run that gets no plan starts nothing; what it returns is the failure of its patterns or of its
plan, without messages. -/
theorem unplanned {kind : String}
    (patterns : ∀ err, Globs.ofConfig e.config = .error err → err.kind = kind)
    (refused : ∀ request w t₁, (Workspace.mk e.host.scratch none).enter t = .ok (w, t₁) →
      ∃ f, Plan.ofConfig t₁ e.handlers e.config e.settings.cwd request e.settings.verbose w =
        .error f ∧ ∀ err, f = .run err → err.kind = kind) :
    e.launches task t = [] ∧ ∀ o, (e.answer task t).result = .ok o →
      o.errorKind = some kind ∧ o.messages = [] := by
  have stopped_by : ∀ f, Stopped e task t f [] → (∀ err, f = .run err → err.kind = kind) →
      ∀ o, (e.answer task t).result = .ok o → o.errorKind = some kind ∧ o.messages = [] := by
    intro f stopped kinds o returned
    cases f with
    | fault f =>
      rw [(answer_of_fault stopped).1] at returned
      cases returned
    | run err =>
      rw [(answer_of_stopped stopped).1] at returned
      cases returned
      exact ⟨congrArg some (kinds err rfl), rfl⟩
  cases asked : e.request t task with
  | error f =>
    refine ⟨launches_of_unasked asked, stopped_by f (.unasked asked) ?_⟩
    rintro err rfl
    exact patterns err (globs_of_request asked)
  | ok request =>
    rw [launches_of_request asked]
    cases entered : (Workspace.mk e.host.scratch none).enter t with
    | error half =>
      refine ⟨launches_of_noWorkspace entered, stopped_by (.fault half.fault) ?_ ?_⟩
      · exact .unanswered asked (.noWorkspace entered)
      · nofun
    | ok active =>
      obtain ⟨w, t₁⟩ := active
      obtain ⟨f, planned, kinds⟩ := refused request.mode w t₁ entered
      exact ⟨launches_of_refused entered planned,
        stopped_by f (.unanswered asked (.noPlan entered planned)) kinds⟩

def Unusable (command : Option String) : Prop :=
  Text.trim (command.getD "") = "" ∨ ∃ u, Words.split (Text.trim (command.getD "")) = .error u

theorem ofCommand_of_unusable {command : Option String} (unusable : Unusable command) :
    ∃ text, Plan.ofCommand command = .error (.configuration text) := by
  unfold Plan.ofCommand
  rcases unusable with blank | ⟨u, unsplit⟩
  · rw [blank]
    exact ⟨_, rfl⟩
  · by_cases blank : (Text.trim (command.getD "")).isEmpty = true
    · rw [if_pos blank]
      exact ⟨_, rfl⟩
    · rw [if_neg blank, unsplit]
      exact ⟨_, rfl⟩

theorem wrapper_of_missing {cwd : Path} {configured : Option String}
    (missing : t.isFile (Toolchain.expectedWrapper t cwd configured) = false) :
    ∃ f, Toolchain.wrapper t cwd configured = .error f ∧
      ∀ err, f = .run err → err.kind = "ParserNotFound" := by
  simp only [Toolchain.wrapper, missing]
  split
  · exact ⟨_, rfl, nofun⟩
  · refine ⟨_, rfl, ?_⟩
    rintro err same
    cases same
    rfl

theorem answer_of_noPatterns (custom : e.config.parser = .custom)
    (none : e.config.included.getD [] = []) :
    e.answer .parse t = ⟨.ok (.failed (.configuration
      "`include` globs must be specified in the config file for custom parsers") []), t, []⟩ := by
  have unconfigured : Globs.configured? e.config.included = Option.none := by
    cases given : e.config.included with
    | none => rfl
    | some patterns =>
      obtain rfl : patterns = [] := by simpa [given] using none
      rfl
  have refused : e.request t .parse = .error (.run (.configuration
      "`include` globs must be specified in the config file for custom parsers")) := by
    simp only [request, Discovery.parseRequest, Globs.ofConfig, unconfigured, custom]
    rfl
  rw [answer_eq, bind_of_ok (attempt_of_run (stages_of_refused refused))]
  rfl

/-- A run depends on the system that starts processes through one launch at most, the one that it
records, so nothing is tried again. It starts nothing if it ends in a failure of the configuration;
so it is for a custom parser without patterns, where the failure is all that there is, for one without
a usable command, and, with another failure, for a Gradle project whose wrapper is no file. -/
theorem at_most_one_launch (e : Engine) (task : Task) (t : FileTree) :
    (∃ asked : List (Launch × FileTree), asked.length ≤ 1 ∧
      e.launches task t = asked.map (fun q => q.1.words) ∧
      ∀ launcher : Launcher, (∀ q ∈ asked, launcher q.1 q.2 = e.host.launch q.1 q.2) →
        (e.launching launcher).answer task t = e.answer task t) ∧
    (∀ o, (e.answer task t).result = .ok o → o.errorKind = some "ConfigError" →
      e.launches task t = []) ∧
    (e.config.parser = .custom → e.config.included.getD [] = [] →
      e.answer .parse t = ⟨.ok (.failed (.configuration
        "`include` globs must be specified in the config file for custom parsers") []), t, []⟩) ∧
    (e.config.parser = .custom → Unusable e.config.parserCommand →
      e.launches task t = [] ∧ ∀ o, (e.answer task t).result = .ok o →
        o.errorKind = some "ConfigError" ∧ o.messages = []) ∧
    (e.config.parser = .compose →
      (∀ w t₁, (Workspace.mk e.host.scratch none).enter t = .ok (w, t₁) →
        t₁.isFile (Toolchain.expectedWrapper t₁ e.settings.cwd e.config.gradleWrapperPath) = false) →
      e.launches task t = [] ∧ ∀ o, (e.answer task t).result = .ok o →
        o.errorKind = some "ParserNotFound" ∧ o.messages = []) := by
  refine ⟨?_, fun o => launches_of_configError, answer_of_noPatterns, ?_, ?_⟩
  · have most : AtMost 1 fun l => (e.launching l).answer task := atMost_answer
    obtain ⟨asked, few, recorded, settled⟩ := most e.host.launch t
    exact ⟨asked, few, recorded, settled⟩
  · intro custom unusable
    refine unplanned (fun err refused => (kind_of_globs refused).2) fun mode w t₁ _ => ?_
    obtain ⟨text, planned⟩ := ofCommand_of_unusable unusable
    refine ⟨.run (.configuration text), ?_, ?_⟩
    · rw [Plan.ofConfig, custom, planned]
      rfl
    · rintro err same
      cases same
      rfl
  · intro compose missing
    refine unplanned ?_ fun mode w t₁ entered => ?_
    · intro err refused
      rw [(kind_of_globs refused).1] at compose
      cases compose
    · obtain ⟨f, unfound, kinds⟩ := wrapper_of_missing (missing w t₁ entered)
      refine ⟨f, ?_, kinds⟩
      rw [Plan.ofConfig, compose, Plan.ofGradle, unfound]
      rfl

def configured (kind : ParserKind) (included : Option (List String)) (command : Option String) :
    Engine :=
  { writing "" "" with
    config := ⟨kind, command, included, none, none, none, none, none, none, none, none, []⟩ }

theorem at_most_one_launch_of_unready :
    ((configured .custom none (some "/bin/parser")).answer .parse bare).journal = [] ∧
      (configured .custom (some ["*.kt"]) (some " \t")).launches .parse bare = [] ∧
      (configured .compose none none).launches .parse bare = [] := by
  have patterns := (at_most_one_launch (configured .custom none (some "/bin/parser")) .parse bare).2.2.1
  have command := (at_most_one_launch (configured .custom (some ["*.kt"]) (some " \t")) .parse
    bare).2.2.2.1
  have wrapper := (at_most_one_launch (configured .compose none none) .parse bare).2.2.2.2
  have entered : ((Workspace.mk (Path.absolute ["tmp"]) none).enter bare).toOption.map
      (fun active => active.2.isFile (Toolchain.expectedWrapper active.2 (Path.absolute ["home"]) none))
        = some false := by
    decide +kernel
  refine ⟨?_, (command rfl (.inl (by decide +kernel))).1, (wrapper rfl fun w t₁ active => ?_).1⟩
  · rw [patterns rfl rfl]
  · have active' : (Workspace.mk (Path.absolute ["tmp"]) none).enter bare = .ok (w, t₁) := active
    rw [active'] at entered
    exact Option.some.inj entered

end Engine

end ParserHost
