import ParserHost.Proofs.Launch.Workspaces
import ParserHost.Proofs.Run.Aggregation
import ParserHost.Proofs.Run.Conclusion
import ParserHost.Proofs.Run.Decoding
import ParserHost.Proofs.Run.Phases

/-!
# How a child ended

Two runs of one engine may differ in how their children end (`Engine.launching`). A child that was killed
or ran out of time fails its run. For any other, what it wrote decides, and its exit status has a part in
that only where there is nothing to take up (`exit_status_law`).
-/

namespace ParserHost

/-! ## Modules that two trees share -/

namespace Modules

variable {t u : FileTree} {mode : Mode} {directory : Path}

structure Shared (t u : FileTree) (directory : Path) : Prop where
  listing : names u directory = names t directory
  contents : ∀ found, names t directory = .ok found → ∀ name ∈ found,
    u.read (directory.child name) = t.read (directory.child name)

theorem aggregate_of_shared (shared : Shared t u directory) :
    aggregate u directory mode = aggregate t directory mode := by
  cases listed : names t directory with
  | error e => rw [aggregate, aggregate, shared.listing, listed]; rfl
  | ok found =>
    rw [aggregate_of_names listed, aggregate_of_names (shared.listing.trans listed),
      sum_congr fun name member => parts_of_read (shared.contents found listed name member)]

end Modules

namespace Invocation

variable {c : Context} {request : Request} {t t₁ t₂ : FileTree} {w : Workspace} {plan : Plan}
  {launcher : Launcher} {x y : Child} {mode : Mode} {directory : Path}

/-! ## Another launcher -/

def Context.launching (c : Context) (launcher : Launcher) : Context :=
  { c with host := { c.host with launch := launcher } }

theorem Planned.unique {w' : Workspace} {u₁ : FileTree} {plan' : Plan}
    (planned : Planned c request t w t₁ plan) (planned' : Planned c request t w' u₁ plan') :
    w' = w ∧ u₁ = t₁ ∧ plan' = plan := by
  cases planned.entered.symm.trans planned'.entered
  exact ⟨rfl, rfl, (Except.ok.inj (planned.planned.symm.trans planned'.planned)).symm⟩

theorem Delivered.unique {w' : Workspace} {u₂ : FileTree} {plan' : Plan} {input input' : Option String}
    (delivered : Delivered c request t w plan input t₂)
    (delivered' : Delivered c request t w' plan' input' u₂) :
    w' = w ∧ plan' = plan ∧ input' = input ∧ u₂ = t₂ := by
  cases delivered with
  | piped planned command transport serialized =>
    cases delivered' with
    | piped planned' command' transport' serialized' =>
      obtain ⟨rfl, rfl, rfl⟩ := planned.unique planned'
      cases serialized.symm.trans serialized'
      exact ⟨rfl, rfl, rfl, rfl⟩
    | filed planned' transport' =>
      obtain ⟨-, -, rfl⟩ := planned.unique planned'
      cases transport.symm.trans transport'
  | filed planned transport serialized written =>
    cases delivered' with
    | piped planned' command' transport' =>
      obtain ⟨-, -, rfl⟩ := planned.unique planned'
      cases transport.symm.trans transport'
    | filed planned' transport' serialized' written' =>
      obtain ⟨rfl, rfl, rfl⟩ := planned.unique planned'
      cases serialized.symm.trans serialized'
      cases written.symm.trans written'
      exact ⟨rfl, rfl, rfl, rfl⟩

theorem Delivered.launching {input : Option String} (delivered : Delivered c request t w plan input t₂)
    (launcher : Launcher) : Delivered (c.launching launcher) request t w plan input t₂ := by
  cases delivered with
  | piped planned command transport serialized =>
    exact .piped ⟨planned.entered, planned.planned⟩ command transport serialized
  | filed planned transport serialized written =>
    exact .filed ⟨planned.entered, planned.planned⟩ transport serialized written

theorem resolve_launching (words : List String) :
    Executable.resolve t (c.launching launcher).host (some c.cwd) words =
      Executable.resolve t c.host (some c.cwd) words := by
  cases words <;> rfl

theorem same_command (ran : Ran c request t x) (again : Ran (c.launching launcher) request t y) :
    y.workspace = x.workspace ∧ y.plan = x.plan ∧ y.words = x.words := by
  cases ran with
  | ended delivered resolved started =>
    cases again with
    | ended delivered' resolved' started' =>
      obtain ⟨rfl, rfl, rfl, rfl⟩ := delivered.unique (delivered'.launching c.host.launch)
      have resolved' := (resolve_launching _).symm.trans resolved'
      exact ⟨rfl, rfl, Except.ok.inj (resolved'.symm.trans resolved)⟩

/-- A child may end in any way and leave any tree. -/
theorem ran_again (ran : Ran c request t x) (ended : Ended) (left : FileTree) :
    Ran (c.launching fun _ _ => (.ok ended, left)) request t { x with ended := ended, tree := left } := by
  cases ran with
  | ended delivered resolved started =>
    refine .ended (delivered.launching _) ((resolve_launching _).trans resolved) ?_
    unfold Executable.start at started ⊢
    split at started
    · cases started
    · next allowed =>
      have allowed' : Executable.refusal?
          (launch (c.launching fun _ _ => (.ok ended, left)) _ _) = none := allowed
      rw [allowed']
      rfl

/-! ## What a child is taken for -/

def Child.Aborted (x : Child) : Prop :=
  x.ended.timedOut = true ∨ x.ended.status < 0

theorem finished_of_aborted (aborted : x.Aborted) :
    finished c x.streamed = .error (.aborted (x.words.headD "")
      (terminationText x.ended.timedOut x.ended.status c.timeout)) := by
  have cut : (x.ended.timedOut || decide (x.ended.status < 0)) = true := by
    simpa [Child.Aborted] using aborted
  exact if_pos cut

theorem finished_of_not_aborted (whole : ¬ x.Aborted) : finished c x.streamed = .ok () := by
  have cut : ¬ (x.ended.timedOut || decide (x.ended.status < 0)) = true := by
    simpa [Child.Aborted] using whole
  exact if_neg cut

theorem response_of_aborted (aborted : x.Aborted) :
    x.response c mode = .error (.run (.aborted (x.words.headD "")
      (terminationText x.ended.timedOut x.ended.status c.timeout))) := by
  rw [Child.response, finished_of_aborted aborted]

theorem response_of_pipes (whole : ¬ x.Aborted) (pipes : x.plan.transport = .pipes) :
    x.response c mode = decode x.streamed.output x.ended.status (suggestion c x.streamed) := by
  rw [Child.response, finished_of_not_aborted whole]
  simp only [pipes]

theorem response_of_files (whole : ¬ x.Aborted) (files : x.plan.transport = .files)
    (outputDir : x.workspace.outputDir = .ok directory) :
    x.response c mode =
      (gather c mode directory x.streamed x.tree).map Modules.Aggregate.payload := by
  rw [Child.response, finished_of_not_aborted whole]
  simp only [files, outputDir]

theorem gather_of_modules {s : Streamed} (modules : Modules.names t directory ≠ .ok []) :
    gather c mode directory s t = Modules.aggregate t directory mode := by
  cases listed : Modules.names t directory with
  | error e => rw [gather, Modules.aggregate, listed]; rfl
  | ok found =>
    have some : found.isEmpty = false := by
      cases found with
      | nil => exact absurd listed modules
      | cons name rest => rfl
    simp only [gather, listed, mapError_ok, Bind.bind, Except.bind, some, Bool.and_false,
      Bool.false_eq_true, if_false]

theorem gather_of_none {s : Streamed} (none : Modules.names t directory = .ok []) :
    gather c mode directory s t =
      if s.status = 0 then .ok ⟨Modules.payload mode ⟨[], []⟩, []⟩
      else .error (.run (.malformedResponse "no module responses were written" (some s.status)
        (suggestion c s))) := by
  simp only [gather, Modules.aggregate, none, mapError_ok, Bind.bind, Except.bind, List.isEmpty_nil,
    Bool.and_true, bne_iff_ne, ne_eq, ite_not]
  rfl

/-- What a second child has in common with a first one where only the way they ended differs: its
standard error, and the response on the channel of their plan. -/
structure Child.Alike (x y : Child) : Prop where
  errors : y.streamed.errorLines = x.streamed.errorLines
  output : x.plan.transport = .pipes → y.streamed.output = x.streamed.output
  modules : x.plan.transport = .files → ∀ directory, x.workspace.outputDir = .ok directory →
    Modules.Shared x.tree y.tree directory

theorem heard_of_alike (alike : x.Alike y) : y.heard = x.heard :=
  congrArg messages alike.errors

end Invocation

namespace Engine
open Invocation

variable {e : Engine} {task : Task} {request : Request} {t : FileTree} {x : Child} {launcher : Launcher}
  {r : Except Failure Json} {ms : List Message}

/-! ## Outcomes -/

def launching (e : Engine) (launcher : Launcher) : Engine :=
  { e with host := { e.host with launch := launcher } }

theorem tree_stages (asked : e.request t task = .ok request) :
    (e.stages task t).tree = (Invocation.run e.context request t).tree := by
  obtain ⟨journal, -, eq⟩ := stages_of_request asked
  rw [eq, execute, Act.tree_bind]
  split
  · rfl
  · rw [Act.tree_bind]
    split <;> rfl

theorem same_outcome (asked : e.request t task = .ok request) (ends : Ends e.context request t r ms)
    (again : Ends (e.launching launcher).context request t r ms)
    (left : (Invocation.run (e.launching launcher).context request t).tree =
      (Invocation.run e.context request t).tree) :
    ((e.launching launcher).answer task t).result = (e.answer task t).result ∧
      (e.launching launcher).messages task t = e.messages task t := by
  have asked' : (e.launching launcher).request t task = .ok request := asked
  cases r with
  | error f =>
    have stopped : Stopped e task t f ms := .unanswered asked ends
    have stopped' : Stopped (e.launching launcher) task t f ms := .unanswered asked' again
    refine ⟨?_, (messages_of_stopped stopped').trans (messages_of_stopped stopped).symm⟩
    cases f with
    | run err => rw [(answer_of_stopped stopped).1, (answer_of_stopped stopped').1]
    | fault f => rw [(answer_of_fault stopped).1, (answer_of_fault stopped').1]
  | ok v =>
    cases checked : validate request.mode v with
    | error err =>
      have stopped : Stopped e task t (.run err) ms := .unfit asked ends checked
      have stopped' : Stopped (e.launching launcher) task t (.run err) ms := .unfit asked' again checked
      refine ⟨?_, (messages_of_stopped stopped').trans (messages_of_stopped stopped).symm⟩
      rw [(answer_of_stopped stopped).1, (answer_of_stopped stopped').1]
    | ok reply =>
      have replied : Replied e task t reply ms := .intro asked ends checked
      have replied' : Replied (e.launching launcher) task t reply ms := .intro asked' again checked
      refine ⟨?_, (messages_of_replied replied').trans (messages_of_replied replied).symm⟩
      rw [result_of_replied replied, result_of_replied replied', tree_stages asked, tree_stages asked',
        left]
      rfl

/-- How a child ended, and whether it read all of its input, makes no difference: what the run takes up
comes from any other end of the child as well, and so does the outcome if all else in the tree is as it
was. -/
def Indifferent (e : Engine) (task : Task) (request : Request) (t : FileTree) (x : Child) : Prop :=
  ∀ launcher y, Ran (e.launching launcher).context request t y → ¬ y.Aborted → x.Alike y →
    (∃ r, Ends e.context request t r x.heard ∧
      Ends (e.launching launcher).context request t r x.heard) ∧
    (y.left = x.left →
      ((e.launching launcher).answer task t).result = (e.answer task t).result ∧
        (e.launching launcher).messages task t = e.messages task t)

theorem indifferent_of_response (asked : e.request t task = .ok request)
    (ran : Ran e.context request t x)
    (same : ∀ launcher y, Ran (e.launching launcher).context request t y → ¬ y.Aborted → x.Alike y →
      y.response (e.launching launcher).context request.mode = x.response e.context request.mode) :
    Indifferent e task request t x := by
  intro launcher y again whole alike
  have ends : Ends e.context request t (x.response e.context request.mode) x.heard := .ran ran
  have ends' : Ends (e.launching launcher).context request t (x.response e.context request.mode)
      x.heard := by
    rw [← same launcher y again whole alike, ← heard_of_alike alike]
    exact .ran again
  refine ⟨⟨_, ends, ends'⟩, fun left => same_outcome asked ends ends' ?_⟩
  rw [tree_of_ran ran, tree_of_ran again, left]

theorem indifferent_of_read {v : Json} (asked : e.request t task = .ok request)
    (ran : Ran e.context request t x) (whole : ¬ x.Aborted) (pipes : x.plan.transport = .pipes)
    (read : Json.read (Text.trim x.streamed.output) = .ok v) : Indifferent e task request t x := by
  refine indifferent_of_response asked ran fun launcher y again whole' alike => ?_
  obtain ⟨-, plan, -⟩ := same_command (c := e.context) ran again
  rw [response_of_pipes whole pipes, response_of_pipes whole' (plan ▸ pipes), alike.output pipes,
    decode_of_read read, decode_of_read read]

theorem indifferent_of_modules {directory : Path} (asked : e.request t task = .ok request)
    (ran : Ran e.context request t x) (whole : ¬ x.Aborted) (files : x.plan.transport = .files)
    (outputDir : x.workspace.outputDir = .ok directory)
    (modules : Modules.names x.tree directory ≠ .ok []) : Indifferent e task request t x := by
  refine indifferent_of_response asked ran fun launcher y again whole' alike => ?_
  obtain ⟨workspace, plan, -⟩ := same_command (c := e.context) ran again
  have shared := alike.modules files directory outputDir
  have modules' : Modules.names y.tree directory ≠ .ok [] := by rwa [shared.listing]
  rw [response_of_files whole files outputDir, gather_of_modules modules,
    response_of_files whole' (plan ▸ files) (workspace ▸ outputDir), gather_of_modules modules',
    Modules.aggregate_of_shared shared]

/-! ## All ends of a child -/

def Unanswered (e : Engine) (request : Request) (t : FileTree) (x : Child) : Prop :=
  ∃ err, Ends e.context request t (.error (.run err)) x.heard ∧ err.kind = "MalformedResponse" ∧
    (Mentions err.message x.ended.status ↔ x.ended.status ≠ 0)

theorem unanswered_of_response {reason : String} {hint : Option String}
    (ran : Ran e.context request t x) (without : 'P' ∉ reason.toList)
    (response : x.response e.context request.mode =
      .error (.run (.malformedResponse reason (some x.ended.status) hint))) :
    Unanswered e request t x := by
  have ends : Ends e.context request t (x.response e.context request.mode) x.heard := .ran ran
  rw [response] at ends
  exact ⟨_, ends, rfl, RunError.mentions_malformed without⟩

theorem ends_of_oversized (ran : Ran e.context request t x) (whole : ¬ x.Aborted)
    (pipes : x.plan.transport = .pipes) (oversized : Json.Oversized (Text.trim x.streamed.output)) :
    ∃ limit, Ends e.context request t (.error (.fault (.beyond limit))) x.heard := by
  obtain ⟨limit, left, beyond⟩ := oversized
  refine ⟨limit, ?_⟩
  rw [← decode_of_beyond beyond, ← response_of_pipes whole pipes]
  exact .ran ran

theorem unanswered_of_malformed {f : Json.Fault} (ran : Ran e.context request t x) (whole : ¬ x.Aborted)
    (pipes : x.plan.transport = .pipes) (malformed : Json.read (Text.trim x.streamed.output) = .error f)
    (inside : ¬ Json.Oversized (Text.trim x.streamed.output)) : Unanswered e request t x := by
  have regular : ∀ limit, f.expected ≠ .within limit := by
    obtain ⟨expected, left⟩ := f
    rintro limit rfl
    exact inside ⟨limit, left, malformed⟩
  obtain ⟨reason, without, decoded⟩ := decode_of_malformed malformed regular
  exact unanswered_of_response ran without ((response_of_pipes whole pipes).trans (decoded _ _))

theorem ends_of_none {directory : Path} (ran : Ran e.context request t x) (whole : ¬ x.Aborted)
    (files : x.plan.transport = .files) (outputDir : x.workspace.outputDir = .ok directory)
    (none : Modules.names x.tree directory = .ok []) :
    (x.ended.status = 0 → Ends e.context request t (.ok (Modules.payload request.mode ⟨[], []⟩)) x.heard) ∧
      (x.ended.status ≠ 0 → Unanswered e request t x) := by
  have ends : Ends e.context request t (x.response e.context request.mode) x.heard := .ran ran
  have response : x.response e.context request.mode = _ := response_of_files whole files outputDir
  have status : x.streamed.status = x.ended.status := rfl
  rw [gather_of_none none, status] at response
  refine ⟨fun zero => ?_, fun nonzero => ?_⟩
  · rw [response, if_pos zero] at ends
    exact ends
  · rw [if_neg nonzero] at response
    exact unanswered_of_response ran (by decide) response

/-- The ends of a child. If it ran out of time or was killed, the run fails, whatever was written. If
not, a response that can be decoded is taken up as it is, and so are the modules if there are any: then
how the child ended makes no difference. With nothing on standard output that is JSON the failure names
the exit status unless it is 0, except that a text beyond a limit of the reader is a fault; and with no
module it is the exit status that tells an empty response from a failure. -/
theorem exit_status_law (asked : e.request t task = .ok request) (ran : Ran e.context request t x) :
    (x.Aborted → ∃ reason,
      Ends e.context request t (.error (.run (.aborted (x.words.headD "") reason))) x.heard) ∧
    (¬ x.Aborted → x.plan.transport = .pipes →
      (∀ v, Json.read (Text.trim x.streamed.output) = .ok v →
        Ends e.context request t (.ok v) x.heard ∧ Indifferent e task request t x) ∧
      ∀ f, Json.read (Text.trim x.streamed.output) = .error f →
        (¬ Json.Oversized (Text.trim x.streamed.output) → Unanswered e request t x) ∧
        (Json.Oversized (Text.trim x.streamed.output) →
          ∃ limit, Ends e.context request t (.error (.fault (.beyond limit))) x.heard)) ∧
    (¬ x.Aborted → x.plan.transport = .files → ∃ directory, x.workspace.outputDir = .ok directory ∧
      (Modules.names x.tree directory ≠ .ok [] →
        Ends e.context request t
          ((Modules.aggregate x.tree directory request.mode).map Modules.Aggregate.payload) x.heard ∧
        Indifferent e task request t x) ∧
      (Modules.names x.tree directory = .ok [] →
        (x.ended.status = 0 →
          Ends e.context request t (.ok (Modules.payload request.mode ⟨[], []⟩)) x.heard) ∧
        (x.ended.status ≠ 0 → Unanswered e request t x))) := by
  have ends : Ends e.context request t (x.response e.context request.mode) x.heard := .ran ran
  refine ⟨fun aborted => ?_, fun whole pipes => ⟨fun v read => ⟨?_, ?_⟩, fun f malformed => ⟨?_, ?_⟩⟩,
    fun whole files => ?_⟩
  · rw [response_of_aborted aborted] at ends
    exact ⟨_, ends⟩
  · rwa [response_of_pipes whole pipes, decode_of_read read] at ends
  · exact indifferent_of_read asked ran whole pipes read
  · exact unanswered_of_malformed ran whole pipes malformed
  · exact ends_of_oversized ran whole pipes
  · obtain ⟨directory, outputDir⟩ := outputDir_of_ran ran
    refine ⟨directory, outputDir, fun modules => ⟨?_, ?_⟩, ends_of_none ran whole files outputDir⟩
    · rwa [response_of_files whole files outputDir, gather_of_modules modules] at ends
    · exact indifferent_of_modules asked ran whole files outputDir modules

def warningText : String :=
  "\x7b\"docs\": [], \"messages\": [\x7b\"level\": \"WARN\", \"message\": \"partial\"\x7d]\x7d"

def warning : Engine :=
  writing warningText "at work\n"

def warningChild : Child where
  workspace := ⟨Path.absolute ["tmp"], some (Path.absolute ["tmp", "run-0"])⟩
  plan := .custom ["/bin/parser"] "Using custom parser command: /bin/parser"
  words := ["/bin/parser"]
  ended := ⟨0, Text.Utf8.encode warningText, Text.Utf8.encode "at work\n", false, false⟩
  tree := Workspace.opened bare ["tmp", "run-0"]

theorem ran_warning {request : Request} {text : String} (serialized : request.serialized = .ok text) :
    Ran warning.context request bare warningChild := by
  have planned : Planned warning.context request bare warningChild.workspace warningChild.tree
      warningChild.plan := ⟨rfl, rfl⟩
  exact .ended (.piped planned (by decide) rfl serialized) rfl rfl

theorem exit_status_law_of_warning :
    ∃ request v, warning.request bare .parse = .ok request ∧ ¬ warningChild.Aborted ∧
      Ends warning.context request bare (.ok v) warningChild.heard ∧
      ((warning.launching fun _ _ => (.ok { warningChild.ended with status := 1, inputUnread := true },
        warningChild.tree)).answer .parse bare).result = (warning.answer .parse bare).result := by
  have decoded : (Json.read (Text.trim warningChild.streamed.output)).toOption.isSome = true := by
    decide +kernel
  obtain ⟨request, text, asked, serialized⟩ := asked_writing warningText "at work\n"
  obtain ⟨v, decoded⟩ := Option.isSome_iff_exists.1 decoded
  have ran := ran_warning serialized
  have whole : ¬ warningChild.Aborted := by rintro (late | killed) <;> contradiction
  obtain ⟨ends, indifferent⟩ :=
    ((exit_status_law asked ran).2.1 whole rfl).1 v (toOption_eq_some.1 decoded)
  refine ⟨request, v, asked, whole, ends, ?_⟩
  have again := ran_again ran
    { warningChild.ended with status := 1, inputUnread := true } warningChild.tree
  refine ((indifferent _ _ again ?_ ⟨rfl, fun _ => rfl, nofun⟩).2 rfl).1
  rintro (late | killed) <;> contradiction

end Engine
end ParserHost
