import ParserHost.Proofs.Launch.Executables
import ParserHost.Proofs.Run.Conclusion
import ParserHost.Proofs.Run.Origin

/-!
# Where faults come from

For each part of a run, the inputs on which it ends in a fault: the search for files
(`parseRequest_fault_iff`), the invocation (`ends_fault_iff`) and the publishing of documents
(`finalize_fault_iff`).
-/

namespace ParserHost

theorem mapM_eq_error {α β ε : Type} {f : α → Except ε β} {as : List α} :
    (∃ err, as.mapM f = .error err) ↔ ∃ a ∈ as, ∃ err, f a = .error err := by
  induction as with
  | nil => simp [Pure.pure, Except.pure]
  | cons a as ih =>
    rw [List.mapM_cons]
    cases first : f a with
    | error err =>
      refine ⟨fun _ => ⟨a, List.mem_cons_self, err, first⟩, fun _ => ⟨err, rfl⟩⟩
    | ok b =>
      constructor
      · rintro ⟨err, failed⟩
        rcases bind_eq_error.1 failed with failed | ⟨b', -, failed⟩
        · cases failed
        · rcases bind_eq_error.1 failed with failed | ⟨bs, -, failed⟩
          · obtain ⟨a', member, found⟩ := ih.1 ⟨err, failed⟩
            exact ⟨a', List.mem_cons_of_mem _ member, found⟩
          · cases failed
      · rintro ⟨a', member, err, failed⟩
        rcases List.mem_cons.1 member with rfl | member
        · rw [first] at failed
          cases failed
        · obtain ⟨err, failed⟩ := ih.2 ⟨a', member, err, failed⟩
          exact ⟨err, bind_eq_error.2 (.inr ⟨b, rfl, bind_eq_error.2 (.inl failed)⟩)⟩

/-! ## The search for files -/

namespace Glob

theorem stepOf_fault_iff {part : String} :
    (∃ r, stepOf part = .error r) ↔ part ≠ "**" ∧ Text.contains "**" part = true := by
  unfold stepOf
  by_cases whole : part = "**"
  · simp [whole]
  · by_cases inside : Text.contains "**" part = true
    · simp [whole, inside]
    · by_cases wild : isWild part.toList = true
      · simp [whole, inside, wild]
      · simp [whole, inside, wild]

/-- A pattern is refused if it is absolute, has no parts, or has two stars beside something else. -/
theorem steps_fault_iff {pattern : String} :
    (∃ r, steps pattern = .error r) ↔
      (Path.parse pattern).isAbsolute = true ∨ (Path.parse pattern).parts = [] ∨
        ∃ part ∈ (Path.parse pattern).parts, part ≠ "**" ∧ Text.contains "**" part = true := by
  simp only [← stepOf_fault_iff, ← mapM_eq_error]
  by_cases absolute : (Path.parse pattern).isAbsolute = true
  · simp only [steps, absolute, if_true, true_or, iff_true]
    exact ⟨_, rfl⟩
  · by_cases none : (Path.parse pattern).parts = []
    · simp only [steps, absolute, none, List.isEmpty_nil, if_true, Bool.false_eq_true, if_false,
        true_or, or_true, iff_true]
      exact ⟨_, rfl⟩
    · have some : (Path.parse pattern).parts.isEmpty = false := by simpa using none
      simp only [steps, absolute, none, some, if_false, Bool.false_eq_true, false_or]
      cases parsed : (Path.parse pattern).parts.mapM stepOf with
      | error r => exact ⟨fun _ => ⟨r, rfl⟩, fun _ => ⟨r, rfl⟩⟩
      | ok parts =>
        constructor
        · rintro ⟨r, failed⟩
          cases failed
        · rintro ⟨r, failed⟩
          cases failed

end Glob

namespace Discovery

variable {t : FileTree} {base root : Path} {pattern : String} {included excluded : List String}

inductive Stuck (t : FileTree) (base : Path) (pattern : String) : Prop
  | absolute (starts : (Path.parse pattern).isAbsolute = true)
  | noParts (empty : (Path.parse pattern).parts = [])
  | starsInPart {part} (member : part ∈ (Path.parse pattern).parts) (other : part ≠ "**")
      (stars : Text.contains "**" part = true)
  | unanswered {steps err} (parsed : Glob.steps pattern = .ok steps)
      (obstacle : Glob.obstacle? t base steps = some err)

theorem wanted_fault_iff :
    (∃ f, wanted t base excluded pattern = .error f) ↔ Stuck t base pattern := by
  unfold wanted
  cases parsed : Glob.steps pattern with
  | error r =>
    refine ⟨fun _ => ?_, fun _ => ⟨_, rfl⟩⟩
    rcases Glob.steps_fault_iff.1 ⟨r, parsed⟩ with starts | empty | ⟨part, member, other, stars⟩
    · exact .absolute starts
    · exact .noParts empty
    · exact .starsInPart member other stars
  | ok steps =>
    have accepted : ¬ ∃ r, Glob.steps pattern = .error r := by simp [parsed]
    rw [Glob.steps_fault_iff] at accepted
    dsimp only
    constructor
    · rintro ⟨f, failed⟩
      cases obstacle : Glob.obstacle? t base steps with
      | none => rw [obstacle] at failed; cases failed
      | some err => exact .unanswered parsed obstacle
    · intro stuck
      cases stuck with
      | absolute starts => exact absurd (.inl starts) accepted
      | noParts empty => exact absurd (.inr (.inl empty)) accepted
      | starsInPart member other stars =>
        exact absurd (.inr (.inr ⟨_, member, other, stars⟩)) accepted
      | unanswered parsed' obstacle =>
        cases parsed.symm.trans parsed'
        rw [obstacle]
        exact ⟨_, rfl⟩

theorem filesBelow_fault_iff :
    (∃ f, filesBelow t base included excluded = .error f) ↔
      ∃ p ∈ expanded included, Stuck t base p := by
  have searched : (∃ f, (expanded included).mapM
      (wanted t base (excluded.flatMap Glob.expand)) = .error f) ↔ _ := mapM_eq_error
  simp only [wanted_fault_iff] at searched
  rw [← searched, filesBelow]
  cases (expanded included).mapM (wanted t base (excluded.flatMap Glob.expand)) with
  | error f => exact ⟨fun _ => ⟨f, rfl⟩, fun _ => ⟨f, rfl⟩⟩
  | ok found =>
    constructor
    · rintro ⟨f, failed⟩
      cases failed
    · rintro ⟨f, failed⟩
      cases failed

/-- The search of a configuration below a directory does not come to its end, or what it finds is not asked
for, since the configuration is too deep to be sent. -/
inductive Unsearchable (t : FileTree) (c : Config) (root : Path) : Prop
  | directory {included excluded u} (globs : Globs.ofConfig c = .ok (included, excluded))
      (unresolved : t.resolve root = .error u)
  | pattern {included excluded base p} (globs : Globs.ofConfig c = .ok (included, excluded))
      (resolved : t.resolve root = .ok base) (member : p ∈ expanded included)
      (stuck : Stuck t base p)
  | config {included excluded x} (globs : Globs.ofConfig c = .ok (included, excluded))
      (deep : c.toRequest = .error x)

theorem files_fault_iff :
    (∃ f, files t root included excluded = .error f) ↔
      (∃ u, t.resolve root = .error u) ∨
        ∃ base, t.resolve root = .ok base ∧ ∃ p ∈ expanded included, Stuck t base p := by
  unfold files
  cases resolved : t.resolve root with
  | error u => exact ⟨fun _ => .inl ⟨u, rfl⟩, fun _ => ⟨_, rfl⟩⟩
  | ok base =>
    dsimp only
    rw [filesBelow_fault_iff]
    constructor
    · exact fun stuck => .inr ⟨base, rfl, stuck⟩
    · rintro (⟨u, failed⟩ | ⟨base', same, stuck⟩)
      · cases failed
      · cases same
        exact stuck

theorem parseRequest_fault_iff {c : Config} {verbose : Bool} :
    (∃ f, parseRequest t c root verbose = .error (.fault f)) ↔ Unsearchable t c root := by
  constructor
  · rintro ⟨f, failed⟩
    simp only [parseRequest] at failed
    rcases bind_eq_error.1 failed with failed | ⟨⟨included, excluded⟩, globs, failed⟩
    · obtain ⟨err, -, other⟩ := mapError_eq_error.1 failed
      cases other
    · rw [mapError_eq_ok] at globs
      rcases bind_eq_error.1 failed with failed | ⟨found, -, failed⟩
      · obtain ⟨f', failed', -⟩ := mapError_eq_error.1 failed
        rcases files_fault_iff.1 ⟨f', failed'⟩ with
          ⟨u, unresolved⟩ | ⟨base, resolved, p, member, stuck⟩
        · exact .directory globs unresolved
        · exact .pattern globs resolved member stuck
      · rcases bind_eq_error.1 failed with failed | ⟨config, -, failed⟩
        · obtain ⟨x, deep, -⟩ := mapError_eq_error.1 failed
          exact .config globs deep
        · cases failed
  · intro unsearchable
    have refused : ∃ included excluded, Globs.ofConfig c = .ok (included, excluded) ∧
        ((∃ f, files t root included excluded = .error f) ∨ ∃ x, c.toRequest = .error x) := by
      cases unsearchable with
      | directory globs unresolved =>
        exact ⟨_, _, globs, .inl (files_fault_iff.2 (.inl ⟨_, unresolved⟩))⟩
      | pattern globs resolved member stuck =>
        exact ⟨_, _, globs, .inl (files_fault_iff.2 (.inr ⟨_, resolved, _, member, stuck⟩))⟩
      | config globs deep => exact ⟨_, _, globs, .inr ⟨_, deep⟩⟩
    obtain ⟨included, excluded, globs, obstacle⟩ := refused
    have searched (f : Fault) (failed : files t root included excluded = .error f) :
        parseRequest t c root verbose = .error (.fault f) :=
      bind_eq_error.2 (.inr ⟨(included, excluded), mapError_eq_ok.2 globs,
        bind_eq_error.2 (.inl (mapError_eq_error.2 ⟨f, failed, rfl⟩))⟩)
    cases found : files t root included excluded with
    | error f => exact ⟨f, searched f found⟩
    | ok paths =>
      rcases obstacle with ⟨f, failed⟩ | ⟨x, deep⟩
      · exact ⟨f, searched f failed⟩
      · refine ⟨.unwritten x, bind_eq_error.2 (.inr ⟨(included, excluded), mapError_eq_ok.2 globs,
          bind_eq_error.2 (.inr ⟨paths, mapError_eq_ok.2 found, ?_⟩)⟩)⟩
        exact bind_eq_error.2 (.inl (mapError_eq_error.2 ⟨x, deep, rfl⟩))

end Discovery

/-! ## Responses of processes -/

def Json.Oversized (text : String) : Prop :=
  ∃ limit left, Json.read text = .error ⟨.within limit, left⟩

namespace Modules

variable {t : FileTree} {mode : Mode} {directory file : Path}

def Oversized (t : FileTree) (file : Path) : Prop :=
  ∃ bytes text, t.read file = .ok bytes ∧ Text.Utf8.decode bytes = .ok text ∧
    Json.Oversized (Text.unifyNewlines text)

theorem ofText_fault_iff {text : String} :
    (∃ f, ofText file text = .error (.fault f)) ↔ Json.Oversized text := by
  unfold ofText Json.Oversized
  constructor
  · rintro ⟨f, failed⟩
    split at failed
    · next limit left beyond => exact ⟨limit, left, beyond⟩
    · cases failed
    · cases failed
    · cases failed
  · rintro ⟨limit, left, beyond⟩
    rw [beyond]
    exact ⟨_, rfl⟩

theorem load_fault_iff : (∃ f, load t file = .error (.fault f)) ↔ Oversized t file := by
  unfold load Oversized
  cases read : t.read file with
  | error err => simp
  | ok bytes =>
    cases decoded : Text.Utf8.decode bytes with
    | error f => simp [decoded]
    | ok text =>
      dsimp only
      rw [decoded]
      dsimp only
      rw [ofText_fault_iff]
      constructor
      · exact fun beyond => ⟨bytes, text, rfl, decoded, beyond⟩
      · rintro ⟨bytes', text', same, decoded', beyond⟩
        cases same
        cases decoded.symm.trans decoded'
        exact beyond

theorem items_not_fault {key : String} {fields : Json.Entries} (f : Fault) :
    items file key fields ≠ .error (.fault f) := by
  intro failed
  unfold items at failed
  split at failed <;> cases failed

theorem parts_fault_iff : (∃ f, parts t mode file = .error (.fault f)) ↔ Oversized t file := by
  rw [← load_fault_iff]
  constructor
  · rintro ⟨f, failed⟩
    rcases bind_eq_error.1 failed with failed | ⟨fields, -, failed⟩
    · exact ⟨f, failed⟩
    · rcases bind_eq_error.1 failed with failed | ⟨results, -, failed⟩
      · exact absurd failed (items_not_fault f)
      · rcases bind_eq_error.1 failed with failed | ⟨messages, -, failed⟩
        · exact absurd failed (items_not_fault f)
        · cases failed
  · rintro ⟨f, failed⟩
    exact ⟨f, bind_eq_error.2 (.inl failed)⟩

def FirstOversized (t : FileTree) (mode : Mode) (directory : Path) (files : List String) : Prop :=
  ∃ before name after, files = before ++ name :: after ∧
    (∀ n ∈ before, ∃ p, parts t mode (directory.child n) = .ok p) ∧
    Oversized t (directory.child name)

theorem sum_fault_iff {files : List String} :
    (∃ f, sum t mode directory files = .error (.fault f)) ↔
      FirstOversized t mode directory files := by
  induction files with
  | nil =>
    constructor
    · rintro ⟨f, failed⟩
      cases failed
    · rintro ⟨before, name, after, split, -⟩
      cases before <;> cases split
  | cons name rest ih =>
    constructor
    · rintro ⟨f, failed⟩
      rcases bind_eq_error.1 failed with failed | ⟨p, first, failed⟩
      · exact ⟨[], name, rest, rfl, by simp, parts_fault_iff.1 ⟨f, failed⟩⟩
      · rcases bind_eq_error.1 failed with failed | ⟨more, -, failed⟩
        · obtain ⟨before, name', after, rfl, taken, beyond⟩ := ih.1 ⟨f, failed⟩
          refine ⟨name :: before, name', after, rfl, ?_, beyond⟩
          intro n member
          rcases List.mem_cons.1 member with rfl | member
          · exact ⟨p, first⟩
          · exact taken n member
        · cases failed
    · rintro ⟨before, name', after, split, taken, beyond⟩
      cases before with
      | nil =>
        cases split
        obtain ⟨f, failed⟩ := parts_fault_iff.2 beyond
        exact ⟨f, bind_eq_error.2 (.inl failed)⟩
      | cons first before =>
        cases split
        obtain ⟨p, loaded⟩ := taken name List.mem_cons_self
        obtain ⟨f, failed⟩ := ih.2 ⟨before, name', after, rfl,
          fun n member => taken n (List.mem_cons_of_mem _ member), beyond⟩
        exact ⟨f, bind_eq_error.2 (.inr ⟨p, loaded, bind_eq_error.2 (.inl failed)⟩)⟩

end Modules

namespace Invocation
open Modules (names FirstOversized)

variable {c : Context} {request : Request} {t u : FileTree} {mode : Mode} {directory : Path}

theorem decode_fault_iff {output : String} {status : Int} {hint : Option String} :
    (∃ f, decode output status hint = .error (.fault f)) ↔ Json.Oversized (Text.trim output) := by
  unfold decode Json.Oversized
  by_cases empty : (Text.trim output).isEmpty = true
  · have nothing : Text.trim output = "" := by simpa using empty
    have missing : Json.read "" = .error ⟨.value, 0⟩ := rfl
    simp [nothing, missing]
  · simp only [empty, Bool.false_eq_true, if_false]
    constructor
    · rintro ⟨f, failed⟩
      split at failed
      · cases failed
      · next limit left beyond => exact ⟨limit, left, beyond⟩
      · cases failed
    · rintro ⟨limit, left, beyond⟩
      rw [beyond]
      exact ⟨_, rfl⟩

theorem gather_fault_iff {s : Streamed} :
    (∃ f, gather c mode directory s t = .error (.fault f)) ↔
      (∃ err, names t directory = .error err) ∨
        ∃ files, names t directory = .ok files ∧ FirstOversized t mode directory files := by
  unfold gather Modules.aggregate
  cases listed : names t directory with
  | error err => exact ⟨fun _ => .inl ⟨err, rfl⟩, fun _ => ⟨.system err, rfl⟩⟩
  | ok files =>
    constructor
    · rintro ⟨f, failed⟩
      rcases bind_eq_error.1 failed with failed | ⟨found, same, failed⟩
      · cases failed
      · split at failed
        · cases failed
        · rcases bind_eq_error.1 failed with failed | ⟨found', same', failed⟩
          · cases failed
          · cases same'
            rcases bind_eq_error.1 failed with failed | ⟨p, -, failed⟩
            · exact .inr ⟨files, rfl, Modules.sum_fault_iff.1 ⟨f, failed⟩⟩
            · cases failed
    · rintro (⟨err, failed⟩ | ⟨files', same, beyond⟩)
      · cases failed
      · cases same
        obtain ⟨f, failed⟩ := Modules.sum_fault_iff.2 beyond
        have some : files.isEmpty = false := by
          obtain ⟨before, name, after, rfl, -⟩ := beyond
          cases before <;> rfl
        refine ⟨f, bind_eq_error.2 (.inr ⟨files, rfl, ?_⟩)⟩
        rw [some, Bool.and_false, if_neg Bool.false_ne_true]
        exact bind_eq_error.2 (.inr ⟨files, rfl, bind_eq_error.2 (.inl failed)⟩)

theorem finished_eq_ok {s : Streamed} :
    finished c s = .ok () ↔ s.timedOut = false ∧ 0 ≤ s.status := by
  unfold finished Streamed.killed
  cases s.timedOut <;> simp

inductive Child.Unreadable (x : Child) (mode : Mode) : Prop
  | output (inTime : x.ended.timedOut = false) (exited : 0 ≤ x.ended.status)
      (transport : x.plan.transport = .pipes)
      (beyond : Json.Oversized (Text.trim (streamText x.ended.output)))
  | listing {directory err} (inTime : x.ended.timedOut = false) (exited : 0 ≤ x.ended.status)
      (transport : x.plan.transport = .files) (output : x.workspace.outputDir = .ok directory)
      (unlisted : names x.tree directory = .error err)
  | module {directory files} (inTime : x.ended.timedOut = false) (exited : 0 ≤ x.ended.status)
      (transport : x.plan.transport = .files) (output : x.workspace.outputDir = .ok directory)
      (listed : names x.tree directory = .ok files)
      (beyond : FirstOversized x.tree mode directory files)

theorem Child.response_fault_iff {x : Child} (output : x.workspace.outputDir = .ok directory) :
    (∃ f, x.response c mode = .error (.fault f)) ↔ x.Unreadable mode := by
  unfold Child.response
  cases ended : finished c x.streamed with
  | error err =>
    have stopped : ¬ (x.ended.timedOut = false ∧ 0 ≤ x.ended.status) := by
      intro good
      rw [finished_eq_ok.2 good] at ended
      cases ended
    constructor
    · rintro ⟨f, failed⟩
      cases failed
    · intro unreadable
      cases unreadable with
      | output inTime exited => exact absurd ⟨inTime, exited⟩ stopped
      | listing inTime exited => exact absurd ⟨inTime, exited⟩ stopped
      | module inTime exited => exact absurd ⟨inTime, exited⟩ stopped
  | ok _ =>
    obtain ⟨inTime, exited⟩ : x.ended.timedOut = false ∧ 0 ≤ x.ended.status :=
      finished_eq_ok.1 ended
    dsimp only
    cases transport : x.plan.transport with
    | pipes =>
      dsimp only
      rw [decode_fault_iff]
      constructor
      · exact fun beyond => .output inTime exited transport beyond
      · intro unreadable
        cases unreadable with
        | output _ _ _ beyond => exact beyond
        | listing _ _ other => rw [transport] at other; cases other
        | module _ _ other => rw [transport] at other; cases other
    | files =>
      simp only [output, map_eq_error]
      rw [gather_fault_iff]
      constructor
      · rintro (⟨err, unlisted⟩ | ⟨files, listed, beyond⟩)
        · exact .listing inTime exited transport output unlisted
        · exact .module inTime exited transport output listed beyond
      · intro unreadable
        cases unreadable with
        | output _ _ other => rw [transport] at other; cases other
        | listing _ _ _ output' unlisted =>
          cases output.symm.trans output'
          exact .inl ⟨_, unlisted⟩
        | module _ _ _ output' listed beyond =>
          cases output.symm.trans output'
          exact .inr ⟨_, listed, beyond⟩

/-! ## Invocations -/

theorem active_of_enter {base : Path} {w : Workspace}
    (entered : (Workspace.mk base none).enter t = .ok (w, u)) : ∃ root, w.root = some root := by
  simp only [Workspace.enter, Workspace.enterAs] at entered
  split at entered
  · cases entered
  · split at entered
    · cases entered
    · cases entered
      exact ⟨_, rfl⟩

theorem paths_of_active {w : Workspace} {root : Path} (active : w.root = some root) :
    (∃ file, w.requestFile = .ok file) ∧ ∃ directory, w.outputDir = .ok directory := by
  simp [Workspace.requestFile, Workspace.outputDir, Workspace.activeRoot, active, Except.map]

theorem outputDir_of_ran {x : Child} (ran : Ran c request t x) :
    ∃ directory, x.workspace.outputDir = .ok directory := by
  cases ran with
  | ended delivered resolved started =>
    obtain ⟨-, t₁, planned⟩ := planned_of_delivered delivered
    obtain ⟨root, active⟩ := active_of_enter planned.entered
    exact (paths_of_active active).2

/-- Only a parser with a wrapper has a plan that fails in a way the run does not take. -/
theorem ofConfig_fault_iff {w : Workspace} {root : Path} (active : w.root = some root) :
    (∃ f, Plan.ofConfig t c.handlers c.config c.cwd mode c.verbose w = .error (.fault f)) ↔
      c.config.parser = .compose ∧
        ∃ f, Toolchain.wrapper t c.cwd c.config.gradleWrapperPath = .error (.fault f) := by
  unfold Plan.ofConfig
  cases c.config.parser with
  | react | html | custom => simp [mapError_eq_error]
  | swift | unitTest => simp
  | compose =>
    obtain ⟨⟨file, requestFile⟩, ⟨directory, outputDir⟩⟩ := paths_of_active active
    simp only [Plan.ofGradle, requestFile, outputDir, true_and]
    cases Toolchain.wrapper t c.cwd c.config.gradleWrapperPath with
    | error f => simp [Bind.bind, Except.bind]
    | ok wrapper =>
      constructor
      · rintro ⟨f, failed⟩
        cases failed
      · rintro ⟨f, failed⟩
        cases failed

theorem startFailure_of_resolve {h : Host} {cwd : Option Path} {words : List String} {f : Fault}
    (given : words ≠ []) (refused : Executable.resolve t h cwd words = .error f) (program : String)
    (g : Fault) : startFailure program f ≠ .fault g := by
  cases words with
  | nil => exact absurd rfl given
  | cons head arguments =>
    obtain ⟨text, rfl, -⟩ | ⟨err, rfl, -⟩ := Executable.resolve_eq_error refused
    · simp [startFailure]
    · rw [startFailure]
      split <;> simp

theorem startFailure_of_refusal {l : Launch} {f : Fault} (refused : Executable.refusal? l = some f)
    (program : String) : startFailure program f = .fault f := by
  unfold Executable.refusal? at refused
  split at refused
  · cases refused
    rfl
  · split at refused
    · cases refused
      rfl
    · cases refused

theorem start_fault_iff {h : Host} {l : Launch} {program : String} :
    (∃ f g v, Executable.start h l t = (.error f, v) ∧ startFailure program f = .fault g) ↔
      ∃ f, Executable.refusal? l = some f := by
  unfold Executable.start
  constructor
  · rintro ⟨f, g, v, failed, kept⟩
    split at failed
    · next f' refused => exact ⟨f', refused⟩
    · split at failed
      · cases failed
      · cases failed
        rw [startFailure] at kept
        split at kept <;> cases kept
  · rintro ⟨f, refused⟩
    rw [refused]
    exact ⟨f, f, t, rfl, startFailure_of_refusal refused program⟩

theorem answered_ne_fault {h : Handler} (f : Fault) : answered c h request ≠ .error (.fault f) := by
  unfold answered
  cases request.payload with
  | error x => nofun
  | ok payload =>
    dsimp only
    cases h.answer payload c.cwd with
    | response v => exact nofun
    | refused e => exact fun failed => nomatch Except.error.inj failed
    | failed x => exact fun failed => nomatch Except.error.inj failed

inductive Derailed (c : Context) (request : Request) (t : FileTree) : Prop
  | workspace {half} (refused : (Workspace.mk c.host.scratch none).enter t = .error half)
  | wrapper {w t₁ f} (entered : (Workspace.mk c.host.scratch none).enter t = .ok (w, t₁))
      (kind : c.config.parser = .compose)
      (lost : Toolchain.wrapper t₁ c.cwd c.config.gradleWrapperPath = .error (.fault f))
  | unwritten {w t₁ plan x} (planned : Planned c request t w t₁ plan) (command : plan.kind ≠ .inProcess)
      (excess : request.serialized = .error x)
  | undelivered {w t₁ t₂ plan text f} (planned : Planned c request t w t₁ plan)
      (transport : plan.transport = .files) (serialized : request.serialized = .ok text)
      (refused : w.writeRequest (text.toList.map Char.toNat) t₁ = (.error f, t₂))
  | launch {w plan input t₂ words f} (delivered : Delivered c request t w plan input t₂)
      (resolved : Executable.resolve t₂ c.host (some c.cwd) plan.words = .ok words)
      (refused : Executable.refusal? (launch c words input) = some f)
  | response {x} (ran : Ran c request t x) (unreadable : x.Unreadable request.mode)

theorem ends_fault_iff :
    (∃ f ms, Ends c request t (.error (.fault f)) ms) ↔ Derailed c request t := by
  constructor
  · rintro ⟨f, ms, ends⟩
    generalize result : Except.error (Failure.fault f) = r at ends
    cases ends with
    | noWorkspace refused => exact .workspace refused
    | noPlan entered refused =>
      cases result
      obtain ⟨root, active⟩ := active_of_enter entered
      obtain ⟨kind, f', lost⟩ := (ofConfig_fault_iff active).1 ⟨f, refused⟩
      exact .wrapper entered kind lost
    | called planned => exact absurd result.symm (answered_ne_fault f)
    | unwritten planned command excess => exact .unwritten planned command excess
    | undelivered planned transport serialized refused =>
      exact .undelivered planned transport serialized refused
    | notFound delivered refused =>
      obtain ⟨command, t₁, planned⟩ := planned_of_delivered delivered
      have given := Plan.words_ne_nil planned.planned command
      exact absurd (Except.error.inj result).symm (startFailure_of_resolve given refused _ f)
    | notStarted delivered resolved refused =>
      obtain ⟨f', failed⟩ :=
        start_fault_iff.1 ⟨_, f, _, refused, (Except.error.inj result).symm⟩
      exact .launch delivered resolved failed
    | ran ran =>
      obtain ⟨directory, output⟩ := outputDir_of_ran ran
      exact .response ran ((Child.response_fault_iff output).1 ⟨f, result.symm⟩)
  · intro derailed
    cases derailed with
    | workspace refused => exact ⟨_, _, .noWorkspace refused⟩
    | wrapper entered kind lost =>
      obtain ⟨root, active⟩ := active_of_enter entered
      obtain ⟨f, refused⟩ := (ofConfig_fault_iff active).2 ⟨kind, _, lost⟩
      exact ⟨_, _, .noPlan entered refused⟩
    | unwritten planned command excess => exact ⟨_, _, .unwritten planned command excess⟩
    | undelivered planned transport serialized refused =>
      exact ⟨_, _, .undelivered planned transport serialized refused⟩
    | launch delivered resolved refused =>
      obtain ⟨f, g, v, failed, kept⟩ := start_fault_iff.2 ⟨_, refused⟩
      have ends := Ends.notStarted delivered resolved failed
      rw [kept] at ends
      exact ⟨_, _, ends⟩
    | response ran unreadable =>
      obtain ⟨directory, output⟩ := outputDir_of_ran ran
      obtain ⟨f, failed⟩ := (Child.response_fault_iff output).2 unreadable
      have ends := Ends.ran ran
      rw [failed] at ends
      exact ⟨_, _, ends⟩

end Invocation

/-! ## Publishing -/

namespace Repository

variable {t : FileTree} {r : Repository} {file : Path}

/-- A remote on Azure whose address for SSH does not name organisation, project and repository. -/
structure ShortRemote (remote : String) : Prop where
  ssh : Text.startsWith "git@" (Text.trim remote) = true
  short : (Text.splitOn '/' (Text.trim remote)).length < 3
  azure : Text.contains "dev.azure.com" (normalizeUrl (Text.trim remote)) = true
  other : ∀ host ∈ ["github.com", "gitlab.com", "bitbucket.org"],
    Text.contains host (normalizeUrl (Text.trim remote)) = false

inductive Unlinkable (t : FileTree) (r : Repository) (file : Path) : Prop
  | file {l} (loop : t.resolve file = .error (.loop l))
  | root {p l} (resolved : t.resolve file = .ok p) (loop : t.resolve r.root = .error (.loop l))
  | remote {p} (inside : relative? t file r.root = .ok (some p)) (short : ShortRemote r.remoteUrl)

theorem relative_fault_iff :
    (∃ f, relative? t file r.root = .error f) ↔
      (∃ l, t.resolve file = .error (.loop l)) ∨
        ∃ p l, t.resolve file = .ok p ∧ t.resolve r.root = .error (.loop l) := by
  unfold relative?
  cases resolved : t.resolve file with
  | error u => cases u with
    | nul => simp
    | loop l => exact ⟨fun _ => .inl ⟨l, rfl⟩, fun _ => ⟨_, rfl⟩⟩
  | ok p => cases resolved' : t.resolve r.root with
    | error u => cases u with
      | nul => simp
      | loop l => exact ⟨fun _ => .inr ⟨p, l, rfl, rfl⟩, fun _ => ⟨_, rfl⟩⟩
    | ok root => simp

theorem azureUrl_fault_iff {raw relative branch : String} :
    (∃ f, azureUrl raw relative branch = .error f) ↔
      Text.startsWith "git@" raw = true ∧ (Text.splitOn '/' raw).length < 3 := by
  unfold azureUrl sshMark
  rw [← List.length_reverse]
  by_cases ssh : Text.startsWith "git@" raw = true
  · rw [if_pos ssh]
    rcases (Text.splitOn '/' raw).reverse with _ | ⟨a, _ | ⟨b, _ | ⟨c, more⟩⟩⟩ <;> simp [ssh]
  · rw [if_neg ssh]
    simp [ssh]

theorem hostUrl_fault_iff {remote relative branch : String} :
    (∃ f, hostUrl remote relative branch = .error f) ↔ ShortRemote remote := by
  unfold hostUrl
  constructor
  · rintro ⟨f, failed⟩
    dsimp only at failed
    split at failed
    · cases failed
    · next github =>
      split at failed
      · cases failed
      · next gitlab =>
        split at failed
        · cases failed
        · next bitbucket =>
          split at failed
          · next azure =>
            obtain ⟨ssh, short⟩ := azureUrl_fault_iff.1 ⟨f, failed⟩
            exact ⟨ssh, short, azure, by simp [github, gitlab, bitbucket]⟩
          · cases failed
  · rintro ⟨ssh, short, azure, other⟩
    simp only [List.mem_cons, List.not_mem_nil, or_false, forall_eq_or_imp, forall_eq] at other
    simp only [other, azure, Bool.false_eq_true, if_false, if_true]
    exact azureUrl_fault_iff.2 ⟨ssh, short⟩

theorem fileUrl_fault_iff : (∃ f, r.fileUrl t file = .error f) ↔ Unlinkable t r file := by
  unfold fileUrl
  cases placed : relative? t file r.root with
  | error f =>
    refine ⟨fun _ => ?_, fun _ => ⟨f, rfl⟩⟩
    rcases relative_fault_iff.1 ⟨f, placed⟩ with ⟨l, loop⟩ | ⟨p, l, resolved, loop⟩
    · exact .file loop
    · exact .root resolved loop
  | ok inside =>
    have found : ¬ ∃ f, relative? t file r.root = .error f := by simp [placed]
    rw [relative_fault_iff] at found
    have unlinkable : Unlinkable t r file ↔ (∃ p, inside = some p) ∧ ShortRemote r.remoteUrl := by
      constructor
      · intro unlinkable
        cases unlinkable with
        | file loop => exact absurd (.inl ⟨_, loop⟩) found
        | root resolved loop => exact absurd (.inr ⟨_, _, resolved, loop⟩) found
        | remote below short =>
          rw [placed] at below
          exact ⟨⟨_, Except.ok.inj below⟩, short⟩
      · rintro ⟨⟨p, rfl⟩, short⟩
        exact .remote placed short
    rw [unlinkable]
    cases inside with
    | none => simp
    | some p => simp [hostUrl_fault_iff]

end Repository

namespace Publication

variable {t : FileTree} {s : Stamp}

structure Unpublishable (t : FileTree) (s : Stamp) (d : Document) (r : Repository) : Prop where
  known : s.repository = some r
  given : d.source ≠ ""
  notWeb : isWebUrl d.source = false
  unlinkable : r.Unlinkable t (s.cwd.join (Path.parse d.source))

theorem stampOne_fault_iff {d : Document} :
    (∃ f, stampOne t s d = .error f) ↔ ∃ r, Unpublishable t s d r := by
  simp only [stampOne, map_eq_error, resolveSource]
  cases known : s.repository with
  | none =>
    constructor
    · rintro ⟨f, failed⟩
      cases failed
    · rintro ⟨r, here, -⟩
      rw [known] at here
      cases here
  | some r =>
    by_cases plain : d.source.isEmpty || isWebUrl d.source
    · simp only [plain, if_true]
      constructor
      · rintro ⟨f, failed⟩
        cases failed
      · rintro ⟨r', -, given, notWeb, -⟩
        simp [notWeb, given] at plain
    · simp only [plain, Bool.false_eq_true, if_false, Repository.fileUrl_fault_iff]
      simp only [Bool.or_eq_true, not_or, Bool.not_eq_true, String.isEmpty_eq_false_iff] at plain
      constructor
      · exact fun unlinkable => ⟨r, known, plain.1, plain.2, unlinkable⟩
      · rintro ⟨r', here, -, -, unlinkable⟩
        cases known.symm.trans here
        exact unlinkable

theorem finalize_fault_iff {documents : List Document} :
    (∃ f, finalize t s documents = .error f) ↔
      ∃ d ∈ documents, ∃ r, Unpublishable t s d r := by
  simp only [← stampOne_fault_iff]
  induction documents with
  | nil => simp [finalize]
  | cons d rest ih =>
    rw [finalize, List.exists_mem_cons_iff, ← ih]
    cases stamped : stampOne t s d with
    | error f => simp
    | ok d' => simp [map_eq_error]

end Publication

end ParserHost
