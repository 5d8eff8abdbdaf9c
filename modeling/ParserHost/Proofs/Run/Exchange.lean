import ParserHost.Proofs.Run.Sequence
import ParserHost.Run.Invocation

/-!
# How an invocation ends

`Ends` says by which stage an invocation ends, what its response or failure is, and which messages
it took up on the way; `ends_iff` says that this is what `Invocation.run` does. Only a child process
that ran to its end (`Ran`) leaves messages, and it leaves all of them, whatever comes of its
response.
-/

namespace ParserHost.Invocation

/-! ## Stages -/

structure Planned (c : Context) (request : Request) (t : FileTree) (w : Workspace)
    (t₁ : FileTree) (plan : Plan) : Prop where
  entered : (Workspace.mk c.host.scratch none).enter t = .ok (w, t₁)
  planned : Plan.ofConfig t₁ c.handlers c.config c.cwd request.mode c.verbose w = .ok plan

inductive Delivered (c : Context) (request : Request) (t : FileTree) :
    Workspace → Plan → Option String → FileTree → Prop
  | piped {w t₁ plan text} (planned : Planned c request t w t₁ plan) (command : plan.kind ≠ .inProcess)
      (transport : plan.transport = .pipes) (serialized : request.serialized = .ok text) :
      Delivered c request t w plan (some text) t₁
  | filed {w t₁ t₂ plan text} (planned : Planned c request t w t₁ plan)
      (transport : plan.transport = .files) (serialized : request.serialized = .ok text)
      (written : w.writeRequest (text.toList.map Char.toNat) t₁ = (.ok (), t₂)) :
      Delivered c request t w plan none t₂

structure Child where
  workspace : Workspace
  plan : Plan
  words : List String
  ended : Ended
  tree : FileTree

def Child.streamed (x : Child) : Streamed := .ofEnded x.words x.ended

def Child.heard (x : Child) : List Message :=
  ((streamLines x.ended.errors).filter fun line => !Text.allBlank line).map Message.ofLine

def launch (c : Context) (words : List String) (input : Option String) : Launch :=
  ⟨words, some c.cwd, c.host.environment, input, true, c.timeout⟩

inductive Ran (c : Context) (request : Request) (t : FileTree) : Child → Prop
  | ended {w plan input t₂ words ended t₃} (delivered : Delivered c request t w plan input t₂)
      (resolved : Executable.resolve t₂ c.host (some c.cwd) plan.words = .ok words)
      (started : Executable.start c.host (launch c words input) t₂ = (.ok ended, t₃)) :
      Ran c request t ⟨w, plan, words, ended, t₃⟩

/-! ## Responses -/

def response (c : Context) : Answer → Except Failure Json
  | .response v => .ok v
  | .refused e => .error (.run e)
  | .failed f => .error (.run (.parserFailed c.config.parser.text f))

/-- What comes of asking a handler, which never sees a request that has no payload. -/
def answered (c : Context) (h : Handler) (request : Request) : Except Failure Json :=
  match request.payload with
  | .error x => response c (.failed ⟨"ValueError", x.text⟩)
  | .ok payload => response c (h.answer payload c.cwd)

def Child.response (x : Child) (c : Context) (mode : Mode) : Except Failure Json :=
  match finished c x.streamed with
  | .error e => .error (.run e)
  | .ok () =>
    match x.plan.transport with
    | .pipes => decode x.streamed.output x.ended.status (suggestion c x.streamed)
    | .files =>
      match x.workspace.outputDir with
      | .error f => .error (.fault f)
      | .ok directory => (gather c mode directory x.streamed x.tree).map Modules.Aggregate.payload

/-- The ends of an invocation, with the messages that it took up. -/
inductive Ends (c : Context) (request : Request) (t : FileTree) :
    Except Failure Json → List Message → Prop
  | noWorkspace {half} (refused : (Workspace.mk c.host.scratch none).enter t = .error half) :
      Ends c request t (.error (.fault half.fault)) []
  | noPlan {w t₁ e} (entered : (Workspace.mk c.host.scratch none).enter t = .ok (w, t₁))
      (refused : Plan.ofConfig t₁ c.handlers c.config c.cwd request.mode c.verbose w = .error e) :
      Ends c request t (.error e) []
  | called {w t₁ h} (planned : Planned c request t w t₁ (.call h)) :
      Ends c request t (answered c h request) []
  | unwritten {w t₁ plan x} (planned : Planned c request t w t₁ plan) (command : plan.kind ≠ .inProcess)
      (excess : request.serialized = .error x) :
      Ends c request t (.error (.fault (.unwritten x))) []
  | undelivered {w t₁ t₂ plan text f} (planned : Planned c request t w t₁ plan)
      (transport : plan.transport = .files) (serialized : request.serialized = .ok text)
      (refused : w.writeRequest (text.toList.map Char.toNat) t₁ = (.error f, t₂)) :
      Ends c request t (.error (.fault f)) []
  | notFound {w plan input t₂ f} (delivered : Delivered c request t w plan input t₂)
      (refused : Executable.resolve t₂ c.host (some c.cwd) plan.words = .error f) :
      Ends c request t (.error (startFailure (plan.words.headD "") f)) []
  | notStarted {w plan input t₂ words f t₃} (delivered : Delivered c request t w plan input t₂)
      (resolved : Executable.resolve t₂ c.host (some c.cwd) plan.words = .ok words)
      (refused : Executable.start c.host (launch c words input) t₂ = (.error f, t₃)) :
      Ends c request t (.error (startFailure (plan.words.headD "") f)) []
  | ran {x} (ran : Ran c request t x) :
      Ends c request t (x.response c request.mode) x.heard

variable {c : Context} {request : Request} {t t₁ t₂ : FileTree} {w : Workspace} {plan : Plan}

/-! ## What the stages come to -/

def summary (d : Done Invocation) : Except Failure Json × List Message :=
  (d.result.map Invocation.payload, messagesOf d.journal)

theorem summary_run (entered : (Workspace.mk c.host.scratch none).enter t = .ok (w, t₁)) :
    summary (run c request t) = summary (inside c request w t₁) := by
  unfold run
  rw [Act.bind_of_ok (Act.change_of_ok (a := w) (u := t₁) (by rw [entered]))]
  rfl

theorem summary_inside
    (planned : Plan.ofConfig t₁ c.handlers c.config c.cwd request.mode c.verbose w = .ok plan) :
    summary (inside c request w t₁) = summary (proceed c w request plan t₁) := by
  unfold inside
  rw [Act.bind_of_ok (a := plan) (by rw [Act.read_apply, planned])]
  cases plan <;> rfl

theorem summary_call (h : Handler) :
    summary (call c h request t) = (answered c h request, []) := by
  unfold call answered
  cases request.payload with
  | error x => rfl
  | ok payload =>
    dsimp only
    rw [Act.bind_of_ok (Act.note_apply _ _)]
    cases answer : h.answer payload c.cwd <;> rfl

theorem eq_call_of_kind (kind : plan.kind = .inProcess) : ∃ h, plan = .call h := by
  cases plan with
  | call h => exact ⟨h, rfl⟩
  | fixed words transport => cases kind
  | custom words notice => cases kind

theorem kind_ne_of_files (transport : plan.transport = .files) : plan.kind ≠ .inProcess := by
  intro kind
  obtain ⟨h, rfl⟩ := eq_call_of_kind kind
  cases transport

theorem planned_of_delivered {input : Option String}
    (delivered : Delivered c request t w plan input t₂) :
    plan.kind ≠ .inProcess ∧ ∃ t₁, Planned c request t w t₁ plan := by
  cases delivered with
  | piped planned command => exact ⟨command, _, planned⟩
  | filed planned transport => exact ⟨kind_ne_of_files transport, _, planned⟩

theorem proceed_of_ne (command : plan.kind ≠ .inProcess) :
    proceed c w request plan = runCommand c w plan request := by
  cases plan with
  | call h => exact absurd rfl command
  | fixed words transport => rfl
  | custom words notice => rfl

theorem deliver_of_written {text : String}
    (written : w.writeRequest (text.toList.map Char.toNat) t₁ = (.ok (), t₂)) :
    deliver w .files text t₁ = ⟨.ok none, t₂, []⟩ := by
  simp only [deliver]
  rw [Act.bind_of_ok (Act.change_of_ok written)]
  rfl

theorem deliver_of_refused {text : String} {f : Fault}
    (refused : w.writeRequest (text.toList.map Char.toNat) t₁ = (.error f, t₂)) :
    deliver w .files text t₁ = ⟨.error (.fault f), t₂, []⟩ := by
  simp only [deliver]
  rw [Act.bind_error (Act.change_of_error refused)]

theorem runCommand_of_serialized {text : String} (serialized : request.serialized = .ok text) :
    runCommand c w plan request t =
      (deliver w plan.transport text >>= fun input =>
        stream c plan.words input >>= conclude c w plan request) t := by
  unfold runCommand
  rw [Act.bind_of_ok (a := text) (u := t) (by rw [serialized]; rfl)]
  rfl

theorem runCommand_of_excess {x : Json.Excess} (excess : request.serialized = .error x) :
    runCommand c w plan request t = ⟨.error (.fault (.unwritten x)), t, []⟩ := by
  unfold runCommand
  rw [Act.bind_error (e := .fault (.unwritten x)) (by rw [excess]; rfl)]

theorem stream_of_notFound {words : List String} {input : Option String} {f : Fault}
    (refused : Executable.resolve t c.host (some c.cwd) words = .error f) :
    stream c words input t = ⟨.error (startFailure (words.headD "") f), t, []⟩ := by
  simp only [stream, refused]

theorem stream_of_notStarted {named words : List String} {input : Option String} {f : Fault}
    (resolved : Executable.resolve t c.host (some c.cwd) named = .ok words)
    (refused : Executable.start c.host (launch c words input) t = (.error f, t₁)) :
    stream c named input t =
      ⟨.error (startFailure (named.headD "") f), t₁, [.launched words]⟩ := by
  rw [launch] at refused
  simp only [stream, resolved, Streamed.start, Option.getD_none, refused]

theorem stream_of_ended {named words : List String} {input : Option String} {ended : Ended}
    (resolved : Executable.resolve t c.host (some c.cwd) named = .ok words)
    (started : Executable.start c.host (launch c words input) t = (.ok ended, t₁)) :
    stream c named input t =
      ⟨.ok (.ofEnded words ended), t₁,
        .launched words :: (messages (Streamed.ofEnded words ended).errorLines).map .message⟩ := by
  rw [launch] at started
  simp only [stream, resolved, Streamed.start, Option.getD_none, started]

theorem summary_collectModules {mode : Mode} {directory : Path} {s : Streamed} :
    summary (collectModules c mode directory s t) =
      ((gather c mode directory s t).map Modules.Aggregate.payload, []) := by
  unfold collectModules
  cases found : gather c mode directory s t with
  | error e => rw [Act.bind_error (by rw [Act.read_apply, found])]; rfl
  | ok a => rw [Act.bind_of_ok (by rw [Act.read_apply, found])]; rfl

theorem summary_collectOutput {s : Streamed} :
    summary (collectOutput c s t) = (decode s.output s.status (suggestion c s), []) := by
  unfold collectOutput
  cases decoded : decode s.output s.status (suggestion c s) with
  | error e => rw [Act.bind_error (Act.lift_apply _ _)]; rfl
  | ok v => rw [Act.bind_of_ok (Act.lift_apply _ _)]; rfl

theorem summary_conclude (x : Child) :
    summary (conclude c x.workspace x.plan request x.streamed x.tree) =
      (x.response c request.mode, []) := by
  unfold conclude Child.response
  cases ended : finished c x.streamed with
  | error e => rw [Act.bind_error (Act.refuse_error _ _)]; rfl
  | ok _ =>
    rw [Act.bind_of_ok (Act.refuse_ok _ _)]
    have quiet : ∀ rest : Act Invocation,
        summary ((do
          if x.streamed.inputUnread then
            Act.log .debug "Parser closed its standard input before reading the whole request"
          rest) x.tree) = summary (rest x.tree) := by
      intro rest
      cases x.streamed.inputUnread <;> rfl
    refine (quiet _).trans ?_
    cases transport : x.plan.transport with
    | pipes => exact summary_collectOutput
    | files =>
      cases outputDir : x.workspace.outputDir with
      | error f => simp only [mapError_error]; rw [Act.bind_error (Act.lift_apply _ _)]; rfl
      | ok directory =>
        simp only [mapError_ok]
        rw [Act.bind_of_ok (Act.lift_apply _ _)]
        exact summary_collectModules

/-! ## The whole of an invocation -/

theorem summary_command (command : plan.kind ≠ .inProcess) (planned : Planned c request t w t₁ plan) :
    summary (run c request t) = summary (runCommand c w plan request t₁) := by
  rw [summary_run planned.entered, summary_inside planned.planned, proceed_of_ne command]

theorem summary_of_delivered {input : Option String}
    (delivered : Delivered c request t w plan input t₂) :
    summary (run c request t) =
      summary ((stream c plan.words input >>= conclude c w plan request) t₂) := by
  cases delivered with
  | piped planned command transport serialized =>
    rw [summary_command command planned, runCommand_of_serialized serialized, transport]
    rfl
  | filed planned transport serialized written =>
    rw [summary_command (kind_ne_of_files transport) planned, runCommand_of_serialized serialized,
      transport, Act.bind_of_ok (deliver_of_written written)]
    rfl

theorem summary_of_ends {r : Except Failure Json} {ms : List Message}
    (ends : Ends c request t r ms) : summary (run c request t) = (r, ms) := by
  cases ends with
  | noWorkspace refused =>
    unfold run
    rw [Act.bind_error (Act.change_of_error (by rw [refused]))]
    rfl
  | noPlan entered refused =>
    rw [summary_run entered]
    unfold inside
    rw [Act.bind_error (by rw [Act.read_apply, refused])]
    rfl
  | called planned =>
    rw [summary_run planned.entered, summary_inside planned.planned]
    exact summary_call _
  | unwritten planned command excess =>
    rw [summary_command command planned, runCommand_of_excess excess]
    rfl
  | undelivered planned transport serialized refused =>
    rw [summary_command (kind_ne_of_files transport) planned, runCommand_of_serialized serialized,
      transport, Act.bind_error (deliver_of_refused refused)]
    rfl
  | notFound delivered refused =>
    rw [summary_of_delivered delivered, Act.bind_error (stream_of_notFound refused)]
    rfl
  | notStarted delivered resolved refused =>
    rw [summary_of_delivered delivered, Act.bind_error (stream_of_notStarted resolved refused)]
    rfl
  | ran ran =>
    cases ran with
    | @ended w plan _ _ words ended u delivered resolved started =>
      rw [summary_of_delivered delivered, Act.bind_of_ok (stream_of_ended resolved started)]
      have rest : summary (conclude c w plan request (.ofEnded words ended) u) = _ :=
        summary_conclude (⟨w, plan, words, ended, u⟩ : Child)
      simp only [summary, Prod.mk.injEq] at rest ⊢
      exact ⟨rest.1, by simp [rest.2]; rfl⟩

theorem ends_of_delivered {input : Option String}
    (delivered : Delivered c request t w plan input t₂) : ∃ r ms, Ends c request t r ms := by
  cases resolved : Executable.resolve t₂ c.host (some c.cwd) plan.words with
  | error f => exact ⟨_, _, .notFound delivered resolved⟩
  | ok words =>
    cases started : Executable.start c.host (launch c words input) t₂ with
    | mk result t₃ => cases result with
      | error f => exact ⟨_, _, .notStarted delivered resolved started⟩
      | ok ended => exact ⟨_, _, .ran (.ended delivered resolved started)⟩

theorem ends_run (c : Context) (request : Request) (t : FileTree) :
    ∃ r ms, Ends c request t r ms := by
  cases entered : (Workspace.mk c.host.scratch none).enter t with
  | error f => exact ⟨_, _, .noWorkspace entered⟩
  | ok active =>
    obtain ⟨w, t₁⟩ := active
    cases plannedAs :
        Plan.ofConfig t₁ c.handlers c.config c.cwd request.mode c.verbose w with
    | error e => exact ⟨_, _, .noPlan entered plannedAs⟩
    | ok plan =>
      have planned : Planned c request t w t₁ plan := ⟨entered, plannedAs⟩
      by_cases kind : plan.kind = .inProcess
      · obtain ⟨h, rfl⟩ := eq_call_of_kind kind
        exact ⟨_, _, .called planned⟩
      · cases serialized : request.serialized with
        | error x => exact ⟨_, _, .unwritten planned kind serialized⟩
        | ok text =>
          cases transport : plan.transport with
          | pipes => exact ends_of_delivered (.piped planned kind transport serialized)
          | files =>
            cases written : w.writeRequest (text.toList.map Char.toNat) t₁ with
            | mk result t₂ => cases result with
              | error f => exact ⟨_, _, .undelivered planned transport serialized written⟩
              | ok _ => exact ends_of_delivered (.filed planned transport serialized written)

theorem ends_iff {r : Except Failure Json} {ms : List Message} :
    Ends c request t r ms ↔ summary (run c request t) = (r, ms) := by
  refine ⟨summary_of_ends, fun found => ?_⟩
  obtain ⟨r', ms', ends⟩ := ends_run c request t
  obtain ⟨rfl, rfl⟩ := Prod.mk.inj ((summary_of_ends ends).symm.trans found)
  exact ends

theorem result_eq_error_iff {f : Failure} :
    (run c request t).result = .error f ↔ ∃ ms, Ends c request t (.error f) ms := by
  constructor
  · intro failed
    refine ⟨messagesOf (run c request t).journal, ends_iff.2 ?_⟩
    rw [summary, failed]
    rfl
  · rintro ⟨ms, ends⟩
    have whole := ends_iff.1 ends
    rw [summary, Prod.mk.injEq, map_eq_error] at whole
    exact whole.1

theorem Ends.unique {r r' : Except Failure Json} {ms ms' : List Message}
    (ends : Ends c request t r ms) (ends' : Ends c request t r' ms') : r = r' ∧ ms = ms' := by
  have same : (r, ms) = (r', ms') := (summary_of_ends ends).symm.trans (summary_of_ends ends')
  exact Prod.mk.inj same

end ParserHost.Invocation
