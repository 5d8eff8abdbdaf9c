import ParserHost.Proofs.Run.Delivery
import ParserHost.Proofs.Run.Launches
import ParserHost.Proofs.Run.Termination

/-!
# Parsers that do not start

A command that has its request can fail to start in four ways (`Unstarted`), and no failure of a process that
did start is taken for one of them. A parser counts as not found if its name leads nowhere or the system
answers that something is missing; any other answer is a refusal to start it (`start_failures`).
-/

namespace ParserHost.Invocation
open Executable (Leads Missing Overlong)

variable {c : Context} {request : Request} {t t₂ : FileTree} {w : Workspace} {plan : Plan}
  {input : Option String} {head program : String} {arguments : List String} {e : SystemError}

/-! ## Ways not to start -/

def Rejected (c : Context) (words : List String) (input : Option String) (t : FileTree)
    (e : SystemError) : Prop :=
  Executable.refusal? (launch c words input) = none ∧
    ∃ u, c.host.launch (launch c words input) t = (.error e, u)

/-- Why a command does not start; `t` is the tree when its request has been delivered. -/
inductive Unstarted (c : Context) (input : Option String) (t : FileTree) (head : String)
    (arguments : List String) : Fault → Prop where
  | missing {text : String} (missing : Missing t c.host (some c.cwd) head) :
      Unstarted c input t head arguments (.executableNotFound text)
  | overlong {e : SystemError} (overlong : Overlong t c.host (some c.cwd) head e) :
      Unstarted c input t head arguments (.system e)
  | rejected {program : String} {e : SystemError} (leads : Leads t c.host (some c.cwd) head program)
      (rejected : Rejected c (program :: arguments) input t e) :
      Unstarted c input t head arguments (.system e)
  /-- The system is not even asked. -/
  | unasked {program : String} {f : Fault} (leads : Leads t c.host (some c.cwd) head program)
      (refused : Executable.refusal? (launch c (program :: arguments) input) = some f) :
      Unstarted c input t head arguments f

theorem unstarted_of_start {words : List String} {f : Fault} {u : FileTree}
    (resolved : Executable.resolve t c.host (some c.cwd) (head :: arguments) = .ok words)
    (failed : Executable.start c.host (launch c words input) t = (.error f, u)) :
    Unstarted c input t head arguments f := by
  obtain ⟨program, leads, rfl⟩ := Executable.resolve_eq_ok_iff.1 resolved
  unfold Executable.start at failed
  split at failed
  · next f' refused =>
    cases failed
    exact .unasked leads refused
  · next asked =>
    split at failed
    · cases failed
    · next e' u' answered =>
      cases failed
      exact .rejected leads ⟨asked, _, answered⟩

theorem start_of_rejected {words : List String} (rejected : Rejected c words input t e) :
    ∃ u, Executable.start c.host (launch c words input) t = (.error (.system e), u) := by
  obtain ⟨asked, u, answered⟩ := rejected
  refine ⟨u, ?_⟩
  unfold Executable.start
  rw [asked]
  dsimp only
  rw [answered]

theorem start_of_refusal {l : Launch} {h : Host} {f : Fault} (refused : Executable.refusal? l = some f) :
    Executable.start h l t = (.error f, t) := by
  unfold Executable.start
  rw [refused]

theorem unstarted_of_resolve {f : Fault}
    (refused : Executable.resolve t c.host (some c.cwd) (head :: arguments) = .error f) :
    Unstarted c input t head arguments f := by
  obtain ⟨text, rfl, missing⟩ | ⟨e, rfl, overlong⟩ := Executable.resolve_eq_error refused
  · exact .missing missing
  · exact .overlong overlong

section Delivered

variable (delivered : Delivered c request t w plan input t₂) (words : plan.words = head :: arguments)
include delivered words

theorem unstarted_or_ran {f : Failure} (failed : (run c request t).result = .error f) :
    (∃ u, Unstarted c input t₂ head arguments u ∧ f = startFailure head u) ∨
      ∃ x, Ran c request t x ∧ x.response c request.mode = .error f := by
  have program : plan.words.headD "" = head := by rw [words]; rfl
  obtain ⟨ms, ends⟩ := result_eq_error_iff.1 failed
  cases resolved : Executable.resolve t₂ c.host (some c.cwd) plan.words with
  | error u =>
    obtain ⟨same, -⟩ := ends.unique (.notFound delivered resolved)
    rw [program] at same
    rw [words] at resolved
    exact .inl ⟨u, unstarted_of_resolve resolved, Except.error.inj same⟩
  | ok found =>
    cases started : Executable.start c.host (launch c found input) t₂ with
    | mk result t₃ =>
      cases result with
      | error u =>
        obtain ⟨same, -⟩ := ends.unique (.notStarted delivered resolved started)
        rw [program] at same
        rw [words] at resolved
        exact .inl ⟨u, unstarted_of_start resolved started, Except.error.inj same⟩
      | ok ended =>
        have ran : Ran c request t _ := .ended delivered resolved started
        obtain ⟨same, -⟩ := ends.unique (.ran ran)
        exact .inr ⟨_, ran, same.symm⟩

theorem result_of_unstarted {u : Fault} (unstarted : Unstarted c input t₂ head arguments u) :
    (run c request t).result = .error (startFailure head u) := by
  have program : plan.words.headD "" = head := by rw [words]; rfl
  have notFound {f : Fault}
      (refused : Executable.resolve t₂ c.host (some c.cwd) (head :: arguments) = .error f) :
      (run c request t).result = .error (startFailure head f) := by
    rw [← words] at refused
    have ends := Ends.notFound delivered refused
    rw [program] at ends
    exact result_eq_error_iff.2 ⟨_, ends⟩
  have notStarted {found : String} {f : Fault} {t₃ : FileTree}
      (leads : Leads t₂ c.host (some c.cwd) head found)
      (refused : Executable.start c.host (launch c (found :: arguments) input) t₂ = (.error f, t₃)) :
      (run c request t).result = .error (startFailure head f) := by
    have resolved := Executable.resolve_of_leads arguments leads
    rw [← words] at resolved
    have ends := Ends.notStarted delivered resolved refused
    rw [program] at ends
    exact result_eq_error_iff.2 ⟨_, ends⟩
  cases unstarted with
  | missing missing =>
    -- the text of the fault is not part of the failure
    obtain ⟨text, refused⟩ := Executable.resolve_of_missing arguments missing
    have failed := notFound refused
    exact failed
  | overlong overlong => exact notFound (Executable.resolve_of_overlong arguments overlong)
  | rejected leads rejected =>
    obtain ⟨u, refused⟩ := start_of_rejected rejected
    exact notStarted leads refused
  | unasked leads refused => exact notStarted leads (start_of_refusal refused)

end Delivered

/-! ## What they are taken for -/

theorem startFailure_eq_notFound_iff {f : Fault} {named : String} {hint : Option String} :
    startFailure program f = .run (.parserNotFound named hint) ↔ named = program ∧ hint = none ∧
      ((∃ text, f = .executableNotFound text) ∨ ∃ e, f = .system e ∧ e.errno = .noEntry) := by
  cases f with
  | executableNotFound text => simp [startFailure, eq_comm]
  | system e =>
    rcases eq_or_ne e.errno .noEntry with gone | other
    · simp [startFailure, gone, eq_comm]
    · simp [startFailure, other, other.symm, eq_comm]
  | _ => simp [startFailure]

theorem startFailure_eq_spawn_iff {f : Fault} {named : String} {cause : SystemReport} :
    startFailure program f = .run (.spawn named cause) ↔
      named = program ∧ ∃ e, f = .system e ∧ e.errno ≠ .noEntry ∧ cause = e.report := by
  cases f with
  | system e =>
    rcases eq_or_ne e.errno .noEntry with gone | other
    · simp [startFailure, gone, eq_comm]
    · simp [startFailure, other, other.symm, eq_comm]
  | _ => simp [startFailure]

theorem errno_of_overlong {h : Host} {cwd : Option Path} (overlong : Overlong t h cwd head e) :
    e.errno ≠ .noEntry := by
  cases overlong with
  | below => exact nofun

section Law

variable (delivered : Delivered c request t w plan input t₂) (words : plan.words = head :: arguments)
include delivered words

theorem notFound_iff {named : String} {hint : Option String} :
    (run c request t).result = .error (.run (.parserNotFound named hint)) ↔
      named = head ∧ hint = none ∧ (Missing t₂ c.host (some c.cwd) head ∨
        ∃ program e, Leads t₂ c.host (some c.cwd) head program ∧
          Rejected c (program :: arguments) input t₂ e ∧ e.errno = .noEntry) := by
  constructor
  · intro failed
    obtain ⟨u, unstarted, same⟩ | ⟨x, ran, same⟩ := unstarted_or_ran delivered words failed
    · obtain ⟨rfl, rfl, cause⟩ := startFailure_eq_notFound_iff.1 same.symm
      refine ⟨rfl, rfl, ?_⟩
      -- an answer of the system tells by its number alone
      cases unstarted with
      | missing missing => exact .inl missing
      | overlong overlong =>
        obtain ⟨text, other⟩ | ⟨e, same, gone⟩ := cause
        · cases other
        · cases same
          exact absurd gone (errno_of_overlong overlong)
      | @rejected program e leads rejected =>
        obtain ⟨text, other⟩ | ⟨e, same, gone⟩ := cause
        · cases other
        · cases same
          exact .inr ⟨program, e, leads, rejected, gone⟩
      | unasked leads refused =>
        rw [startFailure_of_refusal refused] at same
        cases same
    · exact absurd (kind_of_response same) (by simp [RunError.kind, lateKinds])
  · rintro ⟨rfl, rfl, missing | ⟨program, e, leads, rejected, gone⟩⟩
    · have unstarted : Unstarted c input t₂ named arguments (.executableNotFound "") := .missing missing
      exact result_of_unstarted delivered words unstarted
    · rw [result_of_unstarted delivered words (.rejected leads rejected), startFailure, if_pos gone]

theorem spawn_iff {named : String} {cause : SystemReport} :
    (run c request t).result = .error (.run (.spawn named cause)) ↔
      named = head ∧ ∃ e, cause = e.report ∧ (Overlong t₂ c.host (some c.cwd) head e ∨
        ∃ program, Leads t₂ c.host (some c.cwd) head program ∧
          Rejected c (program :: arguments) input t₂ e ∧ e.errno ≠ .noEntry) := by
  constructor
  · intro failed
    obtain ⟨u, unstarted, same⟩ | ⟨x, ran, same⟩ := unstarted_or_ran delivered words failed
    · obtain ⟨rfl, e, rfl, other, rfl⟩ := startFailure_eq_spawn_iff.1 same.symm
      refine ⟨rfl, e, rfl, ?_⟩
      cases unstarted with
      | overlong overlong => exact .inl overlong
      | @rejected program e leads rejected => exact .inr ⟨program, leads, rejected, other⟩
      | unasked leads refused =>
        rw [startFailure_of_refusal refused] at same
        cases same
    · exact absurd (kind_of_response same) (by simp [RunError.kind, lateKinds])
  · rintro ⟨rfl, e, rfl, overlong | ⟨program, leads, rejected, other⟩⟩
    · rw [result_of_unstarted delivered words (.overlong overlong), startFailure,
        if_neg (errno_of_overlong overlong)]
    · rw [result_of_unstarted delivered words (.rejected leads rejected), startFailure, if_neg other]

theorem fault_of_unasked {u : Fault} (leads : Leads t₂ c.host (some c.cwd) head program)
    (refused : Executable.refusal? (launch c (program :: arguments) input) = some u) :
    (run c request t).result = .error (.fault u) := by
  rw [result_of_unstarted delivered words (.unasked leads refused), startFailure_of_refusal refused]

end Law

/-- Why a command that has its request does not start. The parser is not found exactly if its name leads
nowhere, or the system is asked to start it and answers that an entry is missing, be it another one than
the program. It cannot be started exactly if the system gives any other answer, or the name is too long to
be looked up. A command that the system cannot even be asked for is a fault. -/
theorem start_failures (delivered : Delivered c request t w plan input t₂) :
    ∃ head arguments, plan.words = head :: arguments ∧
      (∀ named hint, (run c request t).result = .error (.run (.parserNotFound named hint)) ↔
        named = head ∧ hint = none ∧ (Missing t₂ c.host (some c.cwd) head ∨
          ∃ program e, Leads t₂ c.host (some c.cwd) head program ∧
            Rejected c (program :: arguments) input t₂ e ∧ e.errno.code = Errno.noEntry.code)) ∧
      (∀ named cause, (run c request t).result = .error (.run (.spawn named cause)) ↔
        named = head ∧ ∃ e, cause = e.report ∧ (Overlong t₂ c.host (some c.cwd) head e ∨
          ∃ program, Leads t₂ c.host (some c.cwd) head program ∧
            Rejected c (program :: arguments) input t₂ e ∧ e.errno.code ≠ Errno.noEntry.code)) ∧
      ∀ program u, Leads t₂ c.host (some c.cwd) head program →
        Executable.refusal? (launch c (program :: arguments) input) = some u →
          (run c request t).result = .error (.fault u) := by
  obtain ⟨command, t₁, planned⟩ := planned_of_delivered delivered
  obtain ⟨head, arguments, words⟩ :=
    List.exists_cons_of_ne_nil (Plan.words_ne_nil planned.planned command)
  refine ⟨head, arguments, words, fun named hint => ?_, fun named cause => ?_,
    fun program u => fault_of_unasked delivered words⟩
  · simp only [Errno.code_eq_noEntry_iff]
    exact notFound_iff delivered words
  · simp only [ne_eq, Errno.code_eq_noEntry_iff]
    exact spawn_iff delivered words

def calling (answer : Except SystemError Ended) : Context where
  host := ⟨Path.absolute ["home"], [], Path.absolute ["tmp"], fun _ t => (answer, t)⟩
  handlers := []
  config := ⟨.custom, some "bin/parser", none, none, none, none, none, none, none, none, none, []⟩
  cwd := Path.absolute ["home"]
  verbose := false
  timeout := none

def scripted : FileTree :=
  ⟨[(["home"], .directory), (["tmp"], .directory), (["home", "bin"], .directory),
    (["home", "bin", "parser"], .file (Text.Utf8.encode "#!/opt/interpreter\n") true)]⟩

def script : Plan := .custom ["bin/parser"] "Using custom parser command: bin/parser"

def workspace : Workspace := ⟨Path.absolute ["tmp"], some (Path.absolute ["tmp", "run-0"])⟩

theorem ofConfig_calling (answer : Except SystemError Ended) {cwd : Path} {handlers : Registry} {mode : Mode}
    {verbose : Bool} : Plan.ofConfig t handlers (calling answer).config cwd mode verbose w = .ok script := by
  have custom : (calling answer).config.parser = .custom := rfl
  have command : (calling answer).config.parserCommand = some "bin/parser" := rfl
  have read : Plan.ofCommand (some "bin/parser") = .ok script := rfl
  rw [Plan.ofConfig, custom]
  dsimp only
  rw [command, read, mapError_ok]

theorem serialized_assorted : assorted.serialized = .ok (Json.compact assorted.toJson) :=
  Request.serialized_of_shallow portable_assorted shallow_assorted

theorem entered_calling (answer : Except SystemError Ended) (rooted : t.Rooted)
    (base : t.stat (Path.absolute ["tmp"]) = .ok (["tmp"], .directory))
    (empty : Workspace.namesIn t (Path.absolute ["tmp"]) = []) :
    (Workspace.mk (calling answer).host.scratch none).enter t =
      .ok (workspace, Workspace.opened t ["tmp", "run-0"]) := by
  have named : "run-0" = Workspace.freshName (Workspace.namesIn t (Path.absolute ["tmp"])) := by
    rw [empty]
    decide +kernel
  have free : t.node? (["tmp"] ++ ["run-0"]) = none := by
    by_contra there
    have listed := (Workspace.mem_namesIn base).2 there
    rw [empty] at listed
    cases listed
  have opens : Workspace.Opens t (Path.absolute ["tmp"]) ["tmp"] "run-0" :=
    ⟨rooted, base, ⟨by decide, by decide, by decide, by decide⟩, free⟩
  have root : Workspace.isTooLong ((Path.absolute ["tmp"]).child "run-0") = false := by decide +kernel
  have output : Workspace.isTooLong
      (((Path.absolute ["tmp"]).child "run-0").child Workspace.outputDirName) = false := by decide +kernel
  exact (Workspace.enter_eq_ok rooted).2 ⟨["tmp"], "run-0", named, opens, root, output, rfl, rfl⟩

theorem delivered_calling (answer : Except SystemError Ended) :
    Delivered (calling answer) assorted Engine.bare workspace script (some (Json.compact assorted.toJson))
        (Workspace.opened Engine.bare ["tmp", "run-0"]) ∧
      Delivered (calling answer) assorted scripted workspace script (some (Json.compact assorted.toJson))
        (Workspace.opened scripted ["tmp", "run-0"]) := by
  have bare : Engine.bare.Rooted := FileTree.rooted_of_nodes (by decide)
  have rooted : scripted.Rooted := FileTree.rooted_of_nodes (by decide)
  exact ⟨.piped ⟨entered_calling answer bare rfl rfl, ofConfig_calling answer⟩ nofun rfl serialized_assorted,
    .piped ⟨entered_calling answer rooted rfl rfl, ofConfig_calling answer⟩ nofun rfl serialized_assorted⟩

theorem leads_scripted (answer : Except SystemError Ended) :
    Leads (Workspace.opened scripted ["tmp", "run-0"]) (calling answer).host
      (some (Path.absolute ["home"])) "bin/parser" "/home/bin/parser" :=
  .below rfl (by decide) rfl

theorem missing_bare (answer : Except SystemError Ended) :
    Missing (Workspace.opened Engine.bare ["tmp", "run-0"]) (calling answer).host
      (some (Path.absolute ["home"])) "bin/parser" :=
  .below rfl (by decide) rfl rfl

theorem rejected_calling (e : SystemError) (input : Option String) (t : FileTree) :
    Rejected (calling (.error e)) ["/home/bin/parser"] input t e :=
  ⟨rfl, t, rfl⟩

theorem start_failures_of_script :
    (∃ w plan input t₂, Delivered (calling (.error ⟨.permission, "/home/bin/parser"⟩)) assorted scripted w
        plan input t₂) ∧
      (run (calling (.error ⟨.permission, "/home/bin/parser"⟩)) assorted scripted).result =
        .error (.run (.spawn "bin/parser" (.numbered 13 "Permission denied" "/home/bin/parser"))) ∧
      ∀ answer, (run (calling answer) assorted Engine.bare).result =
        .error (.run (.parserNotFound "bin/parser" none)) := by
  have denied := (delivered_calling (.error ⟨.permission, "/home/bin/parser"⟩)).2
  refine ⟨⟨_, _, _, _, denied⟩, ?_, fun answer => ?_⟩
  · obtain ⟨head, arguments, words, -, spawn, -⟩ := start_failures denied
    cases words
    exact (spawn _ _).2 ⟨rfl, _, rfl, .inr ⟨_, leads_scripted _, rejected_calling _ _ _, by decide⟩⟩
  · obtain ⟨head, arguments, words, notFound, -⟩ := start_failures (delivered_calling answer).1
    cases words
    exact (notFound _ _).2 ⟨rfl, rfl, .inl (missing_bare answer)⟩

/-- A script that is there, and may be run, counts as not found, because the program that it names to run it
is missing. -/
theorem script_without_interpreter :
    scripted.read (Path.absolute ["home", "bin", "parser"]) = .ok (Text.Utf8.encode "#!/opt/interpreter\n") ∧
      Executable.isProgram scripted (calling (.error ⟨.noEntry, "/home/bin/parser"⟩)).host
        "/home/bin/parser" = true ∧
      (run (calling (.error ⟨.noEntry, "/home/bin/parser"⟩)) assorted scripted).result =
        .error (.run (.parserNotFound "bin/parser" none)) := by
  refine ⟨rfl, rfl, ?_⟩
  have delivered := (delivered_calling (.error ⟨.noEntry, "/home/bin/parser"⟩)).2
  exact (notFound_iff delivered rfl).2
    ⟨rfl, rfl, .inr ⟨_, _, leads_scripted _, rejected_calling _ _ _, rfl⟩⟩

end ParserHost.Invocation
