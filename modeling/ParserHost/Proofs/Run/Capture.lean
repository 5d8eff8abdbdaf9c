import ParserHost.Proofs.Run.Delivery
import ParserHost.Proofs.Run.Origin
import ParserHost.Proofs.Run.Termination
import ParserHost.Proofs.Text.Lines

/-!
# Standard error

What a process writes to standard error is kept line by line and shown to a reader (`shownInOrder`). No text
is lost but the end of the last line, and a mark is in the text only if it is in one of the lines, so the
hint for old Java does not depend on where lines end (`capture_law`).
-/

namespace ParserHost

/-! ## Readers of lines -/

namespace Streamed

variable {σ ε : Type} {reader : σ → String → Except ε σ} {start final : σ} {seen lines : List String} {e : ε}

def watched (reader : σ → String → Except ε σ) (state : σ × List String) (line : String) :
    Except (ε × List String) (σ × List String) :=
  match reader state.1 line with
  | .ok next => .ok (next, state.2 ++ [line])
  | .error e => .error (e, state.2 ++ [line])

theorem watched_of_ok (read : lines.foldlM reader start = .ok final) :
    lines.foldlM (watched reader) (start, seen) = .ok (final, seen ++ lines) := by
  induction lines generalizing start seen with
  | nil =>
    cases read
    rw [List.append_nil]
    rfl
  | cons line rest ih =>
    rw [List.foldlM_cons] at read ⊢
    obtain ⟨next, first, later⟩ := bind_eq_ok.1 read
    have shown : watched reader (start, seen) line = .ok (next, seen ++ [line]) := by rw [watched, first]
    rw [shown, List.append_cons seen line rest]
    exact ih later

theorem watched_of_error (failed : lines.foldlM reader start = .error e) :
    ∃ before line, before ++ [line] <+: lines ∧
      (∃ state, before.foldlM reader start = .ok state ∧ reader state line = .error e) ∧
      lines.foldlM (watched reader) (start, seen) = .error (e, seen ++ (before ++ [line])) := by
  induction lines generalizing start seen with
  | nil => cases failed
  | cons line rest ih =>
    rw [List.foldlM_cons] at failed
    cases first : reader start line with
    | error e' =>
      rw [first] at failed
      cases failed
      have shown : watched reader (start, seen) line = .error (e, seen ++ [line]) := by rw [watched, first]
      refine ⟨[], line, List.prefix_append [line] rest, ⟨start, rfl, first⟩, ?_⟩
      rw [List.foldlM_cons, shown]
      rfl
    | ok next =>
      rw [first] at failed
      have shown : watched reader (start, seen) line = .ok (next, seen ++ [line]) := by rw [watched, first]
      obtain ⟨before, last, front, ⟨state, read, refused⟩, later⟩ := @ih _ (seen ++ [line]) failed
      refine ⟨line :: before, last, List.cons_prefix_cons.2 ⟨rfl, front⟩, ⟨state, ?_, refused⟩, ?_⟩
      · rw [List.foldlM_cons, first]
        exact read
      · rw [List.foldlM_cons, shown, List.cons_append, List.append_cons seen line (before ++ [last])]
        exact later

def ShownInOrder (s : Streamed) : Prop :=
  ∀ (σ ε : Type) (reader : σ → String → Except ε σ) (start : σ),
    (∀ final, s.feed reader start = .ok final →
      s.feed (watched reader) (start, []) = .ok (final, s.errorLines)) ∧
    ∀ e, s.feed reader start = .error e → ∃ before line, before ++ [line] <+: s.errorLines ∧
      (∃ state, before.foldlM reader start = .ok state ∧ reader state line = .error e) ∧
      s.feed (watched reader) (start, []) = .error (e, before ++ [line])

theorem shownInOrder (s : Streamed) : s.ShownInOrder :=
  fun _ _ _ _ => ⟨fun _ read => watched_of_ok read, fun _ failed => watched_of_error failed⟩

end Streamed

/-! ## The hint for old Java -/

namespace Invocation

variable {c : Context} {request : Request} {t : FileTree} {x : Child} {directory : Path} {s : Streamed}

def Complains (lines : List String) : Prop :=
  ∃ line ∈ lines, Text.contains Toolchain.oldJavaMark line = true

theorem contains_mark_iff :
    Text.contains Toolchain.oldJavaMark s.errors = true ↔ Complains s.errorLines := by
  have newline : "\n".toList = ['\n'] := rfl
  have free : '\n' ∉ Toolchain.oldJavaMark.toList := by decide +kernel
  rw [Streamed.errors, Text.contains_join newline free (by decide +kernel), List.any_eq_true]
  rfl

theorem suggestion_eq_some_iff {hint : String} : suggestion c s = some hint ↔
    hint = Toolchain.oldJavaHint ∧ s.status ≠ 0 ∧ c.config.parser = .compose ∧ Complains s.errorLines := by
  rw [suggestion, Toolchain.suggestion, ← contains_mark_iff]
  by_cases zero : s.status = 0
  · simp [zero]
  · by_cases compose : c.config.parser = .compose
    · cases found : Text.contains Toolchain.oldJavaMark s.errors <;> simp [zero, compose, eq_comm]
    · simp [zero, compose]

end Invocation

namespace Engine
open Invocation

variable {e : Engine} {request : Request} {t : FileTree} {x : Child} {directory : Path}

theorem result_without_modules (ran : Ran e.context request t x) (compose : e.config.parser = .compose)
    (whole : ¬ x.Aborted) (failed : x.ended.status ≠ 0) (outputDir : x.workspace.outputDir = .ok directory)
    (none : Modules.names x.tree directory = .ok []) :
    (Invocation.run e.context request t).result =
      .error (.run (.malformedResponse "no module responses were written" (some x.ended.status)
        (suggestion e.context x.streamed))) := by
  have ends : Ends e.context request t (x.response e.context request.mode) x.heard := .ran ran
  have files := (kind_of_ran ran).2.2 compose
  have failed' : x.streamed.status ≠ 0 := failed
  rw [response_of_files whole files outputDir, gather_of_none none, if_neg failed'] at ends
  exact result_eq_error_iff.2 ⟨_, ends⟩

/-- The lines of standard error have no line ends; joined by LF they are the text with all line ends made LF,
less an LF at its end; a reader is shown just these lines; and when a parser that runs through Gradle fails
without a module, the hint for old Java is given just if one of the lines asks for it. -/
theorem capture_law (words : List String) (ended : Ended) :
    (∀ line ∈ (Streamed.ofEnded words ended).errorLines, '\r' ∉ line.toList ∧ '\n' ∉ line.toList) ∧
    Text.MakesEndsLF Text.unifyNewlines ∧
    (Streamed.ofEnded words ended).errors =
      Text.dropSuffix "\n" (Text.unifyNewlines (Text.Utf8.decodeReplacing ended.errors)) ∧
    (Streamed.ofEnded words ended).ShownInOrder ∧
    ∀ (e : Engine) request t x directory, Ran e.context request t x → x.ended = ended →
      e.config.parser = .compose → ¬ x.Aborted → ended.status ≠ 0 →
      x.workspace.outputDir = .ok directory → Modules.names x.tree directory = .ok [] →
      ∃ hint, (Invocation.run e.context request t).result =
          .error (.run (.malformedResponse "no module responses were written" (some ended.status) hint)) ∧
        (hint = some Toolchain.oldJavaHint ↔ Complains (Streamed.ofEnded words ended).errorLines) ∧
        (hint = none ↔ ¬ Complains (Streamed.ofEnded words ended).errorLines) := by
  refine ⟨fun line member => ?_, Text.makesEndsLF_unifyNewlines, Text.join_terminated _, Streamed.shownInOrder _, ?_⟩
  · have inner := Text.notEnd_of_terminated member
    exact ⟨fun ends => absurd (inner _ ends) (by decide), fun ends => absurd (inner _ ends) (by decide)⟩
  · rintro e request t x directory ran rfl compose whole failed outputDir none
    refine ⟨_, result_without_modules ran compose whole failed outputDir none, ?_, ?_⟩
    · exact ⟨fun given => (suggestion_eq_some_iff.1 given).2.2.2,
        fun complains => suggestion_eq_some_iff.2 ⟨rfl, failed, compose, complains⟩⟩
    · rw [Option.eq_none_iff_forall_ne_some]
      exact ⟨fun never complains => never _ (suggestion_eq_some_iff.2 ⟨rfl, failed, compose, complains⟩),
        fun quiet _ given => quiet (suggestion_eq_some_iff.1 given).2.2.2⟩

def complaint : String :=
  "FAILED\r\n" ++ Toolchain.oldJavaMark ++ "\r> Try again\n"

def outdated : Ended :=
  ⟨1, [], Text.Utf8.encode complaint, false, false⟩

def outdatedGradle : Engine where
  host := ⟨Path.absolute ["home"], [], Path.absolute ["tmp"], fun _ _ => (.ok outdated, wrapped)⟩
  handlers := []
  config := ⟨.compose, none, none, none, none, none, none, none, none, none, none, []⟩
  settings := ⟨Path.absolute ["home"], false, none, none, none, "1", false⟩
  lookUp _ _ t := (.ok none, t)

theorem capture_law_of_outdated :
    (Invocation.run outdatedGradle.context (.parse ⟨[], [], false⟩) wrapped).result =
      .error (.run (.malformedResponse "no module responses were written" (some 1)
        (some Toolchain.oldJavaHint))) := by
  have entered : (Workspace.mk outdatedGradle.context.host.scratch none).enter wrapped =
      .ok (⟨Path.absolute ["tmp"], some (Path.absolute ["tmp", "run-0"])⟩,
        Workspace.opened wrapped ["tmp", "run-0"]) := rfl
  have planned : Planned outdatedGradle.context (.parse ⟨[], [], false⟩) wrapped _ _ _ := ⟨entered, rfl⟩
  have serialized : (Request.parse ⟨[], [], false⟩).serialized =
      .ok (Json.compact (ParseRequest.toJson ⟨[], [], false⟩)) := rfl
  have delivered := Delivered.filed planned rfl serialized rfl
  have ran := Ran.ended delivered rfl rfl
  obtain ⟨-, -, -, -, hinted⟩ := capture_law [] outdated
  have whole (w : Workspace) (plan : Plan) (words : List String) (left : FileTree) :
      ¬ Child.Aborted ⟨w, plan, words, outdated, left⟩ := by rintro (late | killed) <;> contradiction
  obtain ⟨hint, result, given, -⟩ := hinted _ _ _ _ _ ran rfl rfl (whole _ _ _ _) nofun rfl
    (by decide +kernel)
  have complains : Complains (Streamed.ofEnded [] outdated).errorLines := by
    refine ⟨Toolchain.oldJavaMark, ?_, Text.contains_iff.2 List.infix_rfl⟩
    have text : Text.Utf8.decodeReplacing (Text.Utf8.encode complaint) = complaint :=
      Text.Utf8.decodeReplacing_encode complaint
    rw [Streamed.ofEnded, outdated, streamLines, text]
    decide +kernel
  rw [result, given.2 complains]
  rfl

end Engine

end ParserHost
