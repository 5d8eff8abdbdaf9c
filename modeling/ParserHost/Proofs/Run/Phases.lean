import ParserHost.Proofs.Launch.Workspaces
import ParserHost.Proofs.Run.Exchange

/-!
# An invocation in phases

What an invocation does to the file tree, one step at a time (`next`), so that others may come in between.
Left alone it leaves the tree that `run` leaves (`steps_run`).
-/

namespace ParserHost

/-! ## Trees after two steps -/

namespace Act

variable {α β : Type} {x : Act α} {f : α → Act β} {t : FileTree}

theorem tree_bind : ((x >>= f) t).tree =
    match (x t).result with
    | .error _ => (x t).tree
    | .ok a => (f a (x t).tree).tree := by
  cases ended : x t with
  | mk result u journal =>
    cases result with
    | error e => rw [bind_error ended]
    | ok a => rw [bind_of_ok ended]

def Still (x : Act α) : Prop :=
  ∀ t, (x t).tree = t

theorem Still.bind (first : Still x) (second : ∀ a, Still (f a)) : Still (x >>= f) := by
  intro t
  rw [tree_bind, first]
  split
  · rfl
  · exact second _ t

theorem still_pure (a : α) : Still (Pure.pure a) := fun _ => rfl

theorem still_read (r : FileTree → Except Failure α) : Still (read r) := fun _ => rfl

theorem still_lift (r : Except Failure α) : Still (lift r) := fun _ => rfl

theorem still_log (level : Level) (text : String) : Still (log level text) := fun _ => rfl

end Act

namespace Invocation

open Act

variable {c : Context} {request : Request} {t : FileTree} {w : Workspace} {plan : Plan}

/-! ## Stages that only look -/

theorem still_collectOutput (s : Streamed) : Still (collectOutput c s) :=
  (still_lift _).bind fun _ => still_pure _

theorem still_collectModules (mode : Mode) (directory : Path) (s : Streamed) :
    Still (collectModules c mode directory s) :=
  (still_read _).bind fun _ => (still_log _ _).bind fun _ => still_pure _

theorem still_conclude (s : Streamed) : Still (conclude c w plan request s) := by
  have modules : Still (Act.lift (w.outputDir.mapError .fault) >>= fun directory =>
      collectModules c request.mode directory s) :=
    (still_lift _).bind fun _ => still_collectModules _ _ s
  refine (still_lift _).bind fun _ => ?_
  cases plan.transport with
  | pipes =>
    cases s.inputUnread with
    | false => exact still_collectOutput s
    | true => exact (still_log _ _).bind fun _ => still_collectOutput s
  | files =>
    cases s.inputUnread with
    | false => exact modules
    | true => exact (still_log _ _).bind fun _ => modules

theorem still_call (h : Handler) : Still (call c h request) := by
  unfold call
  cases request.payload with
  | error x => exact fun _ => rfl
  | ok payload =>
    refine Still.bind (fun _ => rfl) fun _ => ?_
    cases h.answer payload c.cwd <;> exact fun _ => rfl

/-! ## Phases -/

inductive Phase where
  | waiting
  | entered (w : Workspace)
  | planned (w : Workspace) (plan : Plan)
  | delivered (w : Workspace) (plan : Plan) (input : Option String)
  | leaving (w : Workspace)
  /-- It is over, and something stayed in the place of its workspace. -/
  | abandoned (w : Workspace)
  | ended

def Phase.over (w : Workspace) (t : FileTree) : Phase :=
  if w.remains t then .abandoned w else .ended

def next (c : Context) (request : Request) : Phase → FileTree → Phase × FileTree
  | .waiting, t =>
    match (Workspace.mk c.host.scratch none).enter t with
    | .error half => (.over half.workspace half.tree, half.tree)
    | .ok (w, t) => (.entered w, t)
  | .entered w, t =>
    match Plan.ofConfig t c.handlers c.config c.cwd request.mode c.verbose w with
    | .error _ => (.leaving w, t)
    | .ok plan => if plan.kind = .inProcess then (.leaving w, t) else (.planned w plan, t)
  | .planned w plan, t =>
    match request.serialized with
    | .error _ => (.leaving w, t)
    | .ok text =>
      match deliver w plan.transport text t with
      | ⟨.error _, t, _⟩ => (.leaving w, t)
      | ⟨.ok input, t, _⟩ => (.delivered w plan input, t)
  | .delivered w plan input, t => (.leaving w, (stream c plan.words input t).tree)
  | .leaving w, t => (.over w (w.leave t).2, (w.leave t).2)
  | .abandoned w, t => (.abandoned w, t)
  | .ended, t => (.ended, t)

def steps (c : Context) (request : Request) : Nat → Phase × FileTree → Phase × FileTree
  | 0, s => s
  | n + 1, s => steps c request n (next c request s.1 s.2)

/-! ## Left alone -/

theorem tree_runCommand {text : String} (serialized : request.serialized = .ok text) :
    (runCommand c w plan request t).tree =
      match deliver w plan.transport text t with
      | ⟨.error _, u, _⟩ => u
      | ⟨.ok input, u, _⟩ => (stream c plan.words input u).tree := by
  rw [runCommand_of_serialized serialized, tree_bind]
  cases deliver w plan.transport text t with
  | mk result u journal =>
    cases result with
    | error e => rfl
    | ok input =>
      dsimp only
      rw [tree_bind]
      split
      · rfl
      · exact still_conclude _ _

theorem tree_inside_of_planned
    (planned : Plan.ofConfig t c.handlers c.config c.cwd request.mode c.verbose w = .ok plan) :
    (inside c request w t).tree = (proceed c w request plan t).tree := by
  unfold inside
  rw [bind_of_ok (a := plan) (by rw [read_apply, planned])]
  cases plan <;> rfl

theorem tree_inside_of_refused {e : Failure}
    (refused : Plan.ofConfig t c.handlers c.config c.cwd request.mode c.verbose w = .error e) :
    (inside c request w t).tree = t := by
  unfold inside
  rw [bind_error (by rw [read_apply, refused])]

theorem tree_run_of_entered {u : FileTree}
    (entered : (Workspace.mk c.host.scratch none).enter t = .ok (w, u)) :
    (run c request t).tree = (w.leave (inside c request w u).tree).2 := by
  unfold run
  rw [bind_of_ok (change_of_ok (a := w) (u := u) (by rw [entered]))]
  rfl

theorem tree_run_of_refused {half : Workspace.HalfMade}
    (refused : (Workspace.mk c.host.scratch none).enter t = .error half) :
    (run c request t).tree = half.tree := by
  unfold run
  rw [bind_error (change_of_error (e := half.fault) (u := half.tree) (by rw [refused]))]

theorem tree_of_delivered {input : Option String} {u : FileTree}
    (delivered : Delivered c request t w plan input u) :
    (run c request t).tree = (w.leave (stream c plan.words input u).tree).2 := by
  cases delivered with
  | piped planned command transport serialized =>
    rw [tree_run_of_entered planned.entered, tree_inside_of_planned planned.planned,
      proceed_of_ne command, tree_runCommand serialized, transport]
    rfl
  | filed planned transport serialized written =>
    rw [tree_run_of_entered planned.entered, tree_inside_of_planned planned.planned,
      proceed_of_ne (kind_ne_of_files transport), tree_runCommand serialized, transport,
      deliver_of_written written]

def Child.left (x : Child) : FileTree := (x.workspace.leave x.tree).2

theorem tree_of_ran {x : Child} (ran : Ran c request t x) : (run c request t).tree = x.left := by
  cases ran with
  | ended delivered resolved started =>
    rw [tree_of_delivered delivered, stream_of_ended resolved started, Child.left]

theorem steps_over (n : Nat) : steps c request n (.over w t, t) = (.over w t, t) := by
  have still : next c request (.over w t) t = (.over w t, t) := by
    unfold Phase.over
    split <;> rfl
  induction n with
  | zero => rfl
  | succ n ih => rw [steps, still, ih]

theorem steps_leaving (n : Nat) :
    steps c request (n + 1) (.leaving w, t) = (.over w (w.leave t).2, (w.leave t).2) :=
  steps_over n

theorem steps_planned (command : plan.kind ≠ .inProcess) :
    steps c request 3 (.planned w plan, t) =
      steps c request 1 (.leaving w, (proceed c w request plan t).tree) := by
  rw [proceed_of_ne command, steps_leaving]
  cases serialized : request.serialized with
  | error x =>
    rw [runCommand_of_excess serialized, steps, next, serialized]
    exact steps_leaving 1
  | ok text =>
    rw [tree_runCommand serialized, steps, next, serialized]
    dsimp only
    cases deliver w plan.transport text t with
    | mk result u journal =>
      cases result with
      | error e => exact steps_leaving 1
      | ok input => exact steps_leaving 0

theorem steps_entered :
    steps c request 4 (.entered w, t) = steps c request 1 (.leaving w, (inside c request w t).tree) := by
  cases planned : Plan.ofConfig t c.handlers c.config c.cwd request.mode c.verbose w with
  | error e =>
    rw [tree_inside_of_refused planned, steps, next, planned]
    exact (steps_leaving 2).trans (steps_leaving 0).symm
  | ok plan =>
    rw [tree_inside_of_planned planned, steps, next, planned]
    dsimp only
    by_cases kind : plan.kind = .inProcess
    · obtain ⟨h, rfl⟩ := eq_call_of_kind kind
      have still : (proceed c w request (.call h) t).tree = t := still_call h t
      rw [if_pos kind, still]
      exact (steps_leaving 2).trans (steps_leaving 0).symm
    · rw [if_neg kind]
      exact steps_planned kind

/-- An invocation that is left alone is soon over, and leaves the tree of a run. -/
theorem steps_run :
    ∃ w, steps c request 5 (.waiting, t) = (.over w (run c request t).tree, (run c request t).tree) := by
  cases entered : (Workspace.mk c.host.scratch none).enter t with
  | error half =>
    refine ⟨half.workspace, ?_⟩
    rw [tree_run_of_refused entered, steps, next, entered]
    exact steps_over 4
  | ok active =>
    obtain ⟨w, u⟩ := active
    refine ⟨w, ?_⟩
    rw [tree_run_of_entered entered, steps, next, entered]
    exact steps_entered.trans (steps_leaving 0)

end Invocation
end ParserHost
