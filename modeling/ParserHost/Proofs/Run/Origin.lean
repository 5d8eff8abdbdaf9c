import ParserHost.Proofs.Exchange.Parts
import ParserHost.Proofs.Exchange.Requests
import ParserHost.Proofs.Launch.Plans
import ParserHost.Proofs.Run.Stages

/-!
# Where a response comes from

A response that fits comes from the handler of a parser, from the standard output of its process, or
from the files of its modules, according to the kind of the parser (`Origin`, `origin_of_replied`).
-/

namespace ParserHost

/-! ## Answers -/

namespace Invocation

variable {c : Context} {request : Request} {t : FileTree}

theorem eq_response_of_ok {a : Answer} {v : Json} (answered : response c a = .ok v) :
    a = .response v := by
  cases a with
  | response w => cases answered; rfl
  | refused err => cases answered
  | failed f => cases answered

theorem eq_response_of_answered {h : Handler} {v : Json} (answered : answered c h request = .ok v) :
    h.answer request.toJson c.cwd = .response v := by
  unfold Invocation.answered at answered
  cases payload : request.payload with
  | error x =>
    rw [payload] at answered
    cases answered
  | ok p =>
    rw [Request.payload_eq, Json.payload_eq_ok_iff] at payload
    rw [payload.2]
    rw [Request.payload_eq, Json.payload_of_shallow payload.1, payload.2] at answered
    exact eq_response_of_ok answered

theorem read_of_decode {output : String} {status : Int} {hint : Option String} {v : Json}
    (decoded : decode output status hint = .ok v) : Json.read (Text.trim output) = .ok v := by
  simp only [decode] at decoded
  split at decoded
  · cases decoded
  · split at decoded
    · cases decoded
      assumption
    · cases decoded
    · cases decoded

theorem aggregate_of_gather {mode : Mode} {directory : Path} {s : Streamed}
    {a : Modules.Aggregate} (gathered : gather c mode directory s t = .ok a) :
    Modules.aggregate t directory mode = .ok a := by
  simp only [gather, bind_eq_ok] at gathered
  obtain ⟨names, -, gathered⟩ := gathered
  split at gathered
  · cases gathered
  · exact gathered

theorem Child.response_ok {x : Child} {mode : Mode} {v : Json}
    (answered : x.response c mode = .ok v) :
    (x.plan.transport = .pipes ∧ Json.read (Text.trim (streamText x.ended.output)) = .ok v) ∨
      (x.plan.transport = .files ∧ ∃ directory files p, x.workspace.outputDir = .ok directory ∧
        Modules.names x.tree directory = .ok files ∧
        Modules.sum x.tree mode directory files = .ok p ∧ v = Modules.payload mode p) := by
  unfold Child.response at answered
  cases ended : finished c x.streamed with
  | error err => rw [ended] at answered; cases answered
  | ok _ =>
    rw [ended] at answered
    cases transport : x.plan.transport with
    | pipes =>
      simp only [transport] at answered
      exact .inl ⟨rfl, read_of_decode answered⟩
    | files =>
      simp only [transport] at answered
      cases output : x.workspace.outputDir with
      | error f => rw [output] at answered; cases answered
      | ok directory =>
        rw [output] at answered
        obtain ⟨a, gathered, rfl⟩ := map_eq_ok.1 answered
        have aggregated := aggregate_of_gather gathered
        simp only [Modules.aggregate, bind_eq_ok, mapError_eq_ok] at aggregated
        obtain ⟨files, listed, p, summed, same⟩ := aggregated
        cases same
        exact .inr ⟨rfl, directory, files, p, rfl, listed, summed, rfl⟩

theorem ends_ok {v : Json} {ms : List Message} (ended : Ends c request t (.ok v) ms) :
    (∃ w t₁ h, Planned c request t w t₁ (.call h) ∧
        h.answer request.toJson c.cwd = .response v ∧ ms = []) ∨
      ∃ x, Ran c request t x ∧ x.response c request.mode = .ok v ∧ ms = x.heard := by
  generalize result : Except.ok v = r at ended
  cases ended with
  | noWorkspace refused => cases result
  | noPlan entered refused => cases result
  | called planned => exact .inl ⟨_, _, _, planned, eq_response_of_answered result.symm, rfl⟩
  | unwritten planned command excess => cases result
  | undelivered planned transport serialized refused => cases result
  | notFound delivered refused => cases result
  | notStarted delivered resolved refused => cases result
  | ran ran => exact .inr ⟨_, ran, rfl, rfl⟩

end Invocation

/-! ## Origins -/

namespace Engine
open Invocation Modules

variable {e : Engine} {task : Task} {t : FileTree}

inductive Origin (e : Engine) (request : Request) (t : FileTree) :
    Response → List Message → Prop
  | handler {w t₁ h v r} (kind : e.config.parser.inProcess = true)
      (planned : Planned e.context request t w t₁ (.call h))
      (answered : h.answer request.toJson e.settings.cwd = .response v)
      (fits : Response.check request.mode v = .ok r) : Origin e request t r []
  | output {x v r} (kind : e.config.parser.inProcess = false ∧ e.config.parser ≠ .compose)
      (ran : Ran e.context request t x)
      (written : Json.read (Text.trim (streamText x.ended.output)) = .ok v)
      (fits : Response.check request.mode v = .ok r) : Origin e request t r x.heard
  | modules {x directory files rs} (kind : e.config.parser = .compose)
      (ran : Ran e.context request t x) (output : x.workspace.outputDir = .ok directory)
      (listed : Listed x.tree directory files)
      (each : List.Forall₂ (Holds x.tree request.mode directory) files rs) :
      Origin e request t (concat request.mode rs) x.heard

/-- The kinds of parsers whose processes answer through pipes, and that with files of modules. -/
theorem kind_of_ran {request : Request} {x : Child} (ran : Ran e.context request t x) :
    e.config.parser.inProcess = false ∧
      (x.plan.transport = .files ↔ e.config.parser = .compose) := by
  cases ran with
  | ended delivered resolved started =>
    obtain ⟨command, t₁, planned⟩ := planned_of_delivered delivered
    rcases Plan.ofConfig_ok planned.planned with
      ⟨-, h, rfl⟩ | ⟨compose, -, -, transport⟩ | ⟨external, other, -, -, transport⟩
    · exact absurd rfl command
    · change e.config.parser = .compose at compose
      rw [compose]
      exact ⟨rfl, fun _ => rfl, fun _ => transport⟩
    · refine ⟨external, fun files => ?_, fun compose => absurd compose other⟩
      rw [transport] at files
      cases files

theorem kind_of_called {request : Request} {w : Workspace} {u : FileTree} {h : Handler}
    (planned : Planned e.context request t w u (.call h)) :
    e.config.parser.inProcess = true := by
  rcases Plan.ofConfig_ok planned.planned with
    ⟨internal, -⟩ | ⟨-, -, other, -⟩ | ⟨-, -, -, other, -⟩
  · exact internal
  · exact absurd rfl other
  · exact absurd rfl other

theorem origin_of_replied {r : Response} {ms : List Message} (replied : Replied e task t r ms) :
    ∃ request, e.request t task = .ok request ∧ Origin e request t r ms := by
  obtain ⟨asked, ended, fits⟩ := replied
  rw [validate_eq_ok] at fits
  refine ⟨_, asked, ?_⟩
  rcases ends_ok ended with ⟨w, t₁, h, planned, answered, rfl⟩ | ⟨x, ran, answered, rfl⟩
  · exact .handler (kind_of_called planned) planned answered fits
  · obtain ⟨external, files_iff⟩ := kind_of_ran ran
    rcases x.response_ok answered with
      ⟨transport, written⟩ | ⟨transport, directory, files, p, output, listed, summed, rfl⟩
    · refine .output ⟨external, fun compose => ?_⟩ ran written fits
      rw [files_iff.2 compose] at transport
      cases transport
    · obtain ⟨rs, each, rfl⟩ := check_sum summed fits
      exact .modules (files_iff.1 transport) ran output (listed_of_names listed) each

end Engine

end ParserHost
