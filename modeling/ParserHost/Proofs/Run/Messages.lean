import ParserHost.Proofs.Run.Conclusion
import ParserHost.Proofs.Run.Origin

/-!
# The messages of a run

A run takes up what its parser's process writes to standard error, line by line, and then the messages
of the response (`messages_in_order`). Both parts are complete on every way through a run: the first
does not depend on what comes of the process, and the second is there exactly when the response fits.
-/

namespace ParserHost

/-! ## Standard error -/

namespace Invocation

variable {c : Context} {request : Request} {t : FileTree} {r : Except Failure Json}
  {ms : List Message}

theorem heard_of_ran {x : Child} (ends : Ends c request t r ms) (ran : Ran c request t x) :
    ms = x.heard :=
  (ends.unique (.ran ran)).2

theorem heard_of_not_ran (ends : Ends c request t r ms) (quiet : ∀ x, ¬ Ran c request t x) :
    ms = [] := by
  cases ends with
  | noWorkspace refused => rfl
  | noPlan entered refused => rfl
  | called planned => rfl
  | unwritten planned command excess => rfl
  | undelivered planned transport serialized refused => rfl
  | notFound delivered refused => rfl
  | notStarted delivered resolved refused => rfl
  | ran ran => exact absurd ran (quiet _)

end Invocation

namespace Engine
open Invocation Modules

variable {e : Engine} {task : Task} {t : FileTree}

/-- What the parser's process writes to standard error: a message for each line that is not blank,
in order. A run without a process has none. -/
inductive Heard (e : Engine) (task : Task) (t : FileTree) : List Message → Prop
  | child {request x} (asked : e.request t task = .ok request)
      (ran : Ran e.context request t x) :
      Heard e task t
        (((streamLines x.ended.errors).filter fun line => !Text.allBlank line).map Message.ofLine)
  | nothing (quiet : ∀ request x, e.request t task = .ok request →
      ¬ Ran e.context request t x) : Heard e task t []

inductive Told (e : Engine) (task : Task) (t : FileTree) : List Message → Prop
  | response {r ms} (replied : Replied e task t r ms) : Told e task t r.messages
  | nothing (silent : ∀ r ms, ¬ Replied e task t r ms) : Told e task t []

theorem heard_of_ends {request : Request} {r : Except Failure Json} {ms : List Message}
    (asked : e.request t task = .ok request) (ends : Ends e.context request t r ms) :
    Heard e task t ms := by
  by_cases ran : ∃ x, Ran e.context request t x
  · obtain ⟨x, ran⟩ := ran
    rw [heard_of_ran ends ran]
    exact .child asked ran
  · rw [heard_of_not_ran ends (not_exists.1 ran)]
    refine .nothing fun request' x asked' ran' => ran ⟨x, ?_⟩
    cases asked.symm.trans asked'
    exact ran'

theorem heard_of_replied {r : Response} {ms : List Message} (replied : Replied e task t r ms) :
    Heard e task t ms := by
  obtain ⟨asked, ended, -⟩ := replied
  exact heard_of_ends asked ended

theorem heard_of_stopped {f : Failure} {ms : List Message} (stopped : Stopped e task t f ms) :
    Heard e task t ms := by
  cases stopped with
  | unasked refused =>
    refine .nothing fun request x asked ran => ?_
    rw [refused] at asked
    cases asked
  | unanswered asked ended => exact heard_of_ends asked ended
  | unfit asked ended misfit => exact heard_of_ends asked ended

theorem Heard.eq_nil {heard : List Message} (parts : Heard e task t heard)
    (kind : e.config.parser.inProcess = true) : heard = [] := by
  cases parts with
  | child asked ran =>
    have external := (kind_of_ran ran).1
    rw [kind] at external
    cases external
  | nothing quiet => rfl

theorem told_by_modules {r : Response} {ms : List Message} (replied : Replied e task t r ms)
    (kind : e.config.parser = .compose) :
    ∃ request x directory files rs, e.request t task = .ok request ∧
      Ran e.context request t x ∧ x.workspace.outputDir = .ok directory ∧
      Listed x.tree directory files ∧
      List.Forall₂ (Holds x.tree request.mode directory) files rs ∧
      r.messages = rs.flatMap Response.messages := by
  obtain ⟨request, asked, origin⟩ := origin_of_replied replied
  cases origin with
  | handler internal planned answered fits => rw [kind] at internal; cases internal
  | output other ran written fits => exact absurd kind other.2
  | modules compose ran output listed each =>
    exact ⟨_, _, _, _, _, asked, ran, output, listed, each, messages_concat _⟩

theorem failure_of_replied {r : Response} {ms : List Message} (replied : Replied e task t r ms)
    (errors : ∃ m ∈ ms ++ r.messages, m.level = .error) :
    ∃ o, (e.answer task t).result = .ok o ∧ o.status = .failure := by
  rw [result_of_replied replied]
  exact ⟨_, (settle_of_errors (filter_isError_ne_nil.2 errors)).1, rfl⟩

/-! ## Both channels -/

/-- The messages of a run, which are those that its reporter gets and those of its outcome, are what
the parser's process writes to standard error followed by what the response tells. -/
theorem messages_in_order (e : Engine) (task : Task) (t : FileTree) :
    ∃ heard told, Heard e task t heard ∧ Told e task t told ∧
      messagesOf (e.answer task t).journal = heard ++ told ∧
      (∀ o, (e.answer task t).result = .ok o → o.messages = heard ++ told) ∧
      (e.config.parser.inProcess = true → heard = []) ∧
      (∀ r ms, Replied e task t r ms → e.config.parser = .compose →
        ∃ request x directory files rs, e.request t task = .ok request ∧
          Ran e.context request t x ∧ x.workspace.outputDir = .ok directory ∧
          Listed x.tree directory files ∧
          List.Forall₂ (Holds x.tree request.mode directory) files rs ∧
          told = rs.flatMap Response.messages) ∧
      ((∃ r ms, Replied e task t r ms) → (∃ m ∈ heard ++ told, m.level = .error) →
        ∃ o, (e.answer task t).result = .ok o ∧ o.status = .failure) := by
  have reported {all : List Message} (taken : e.messages task t = all) (o : Outcome)
      (returned : (e.answer task t).result = .ok o) : o.messages = all :=
    (messages_of_concluded (concluded_of_returned returned)).trans taken
  rcases replied_or_stopped e task t with ⟨r, ms, replied⟩ | ⟨f, ms, stopped⟩
  · have taken := messages_of_replied replied
    have heard := heard_of_replied replied
    refine ⟨ms, r.messages, heard, .response replied, taken, reported taken, heard.eq_nil, ?_, ?_⟩
    · intro r' ms' replied' kind
      obtain ⟨rfl, rfl⟩ := replied.unique replied'
      exact told_by_modules replied kind
    · exact fun _ errors => failure_of_replied replied errors
  · have silent : ∀ r ms', ¬ Replied e task t r ms' :=
      fun r ms' replied => replied.not_stopped _ _ stopped
    have taken : e.messages task t = ms ++ [] := by
      rw [messages_of_stopped stopped, List.append_nil]
    have heard := heard_of_stopped stopped
    refine ⟨ms, [], heard, .nothing silent, taken, reported taken, heard.eq_nil, ?_, ?_⟩
    · exact fun r ms' replied => absurd replied (silent r ms')
    · rintro ⟨r, ms', replied⟩
      exact absurd replied (silent r ms')

-- A blank line is no message, and what the response tells comes last.
example : (messagesOf ((writing
    "\x7b\"docs\": [], \"messages\": [\x7b\"level\": \"INFO\", \"message\": \"done\"\x7d]\x7d"
    "at work\n \nstill\n").answer .parse bare).journal).map Message.text =
      ["at work", "still", "done"] := by
  decide +kernel

end Engine

end ParserHost
