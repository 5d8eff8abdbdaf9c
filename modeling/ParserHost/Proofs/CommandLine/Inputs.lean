import ParserHost.Proofs.CommandLine.Parse
import ParserHost.Proofs.Config.Loading

/-!
# The files that a command reads

A configuration, like a component, that is of no use is refused with a line for the user, unless its bytes are
no text or the text goes beyond a limit of the reader (`loaded`, `componentRead`). Both commands look at these
files before they have an engine, so what they end with then does not depend on what could be launched
(`inputs_law`).
-/

namespace ParserHost

open FileTree (HoldsText Garbled)

/-! ## Settings and components -/

namespace Settings

theorem timeoutFrom_eq_error {raw : Option String} {e : RunError} (refused : timeoutFrom raw = .error e) :
    ∃ text, e = .configuration text := by
  unfold timeoutFrom at refused
  split at refused
  · cases refused
  · split at refused
    · cases refused
    · split at refused
      · cases refused
      · cases refused
        exact ⟨_, rfl⟩

theorem ofValues_eq_error {cwd : Path} {raw : Option String} {e : Json.Entries} {f : Failure}
    (refused : ofValues cwd raw e = .error f) :
    (∃ text, f = .run (.configuration text)) ∨ ∃ vs, f = .fault (.invalid vs) := by
  unfold ofValues at refused
  dsimp only at refused
  split at refused
  · next err wrong =>
    cases refused
    split at wrong
    · cases wrong
    · obtain ⟨text, rfl⟩ := timeoutFrom_eq_error wrong
      exact .inl ⟨text, rfl⟩
  · obtain ⟨vs, -, rfl⟩ := mapError_eq_error.1 refused
    exact .inr ⟨vs, rfl⟩

end Settings

def Host.launching (h : Host) (launch : Launcher) : Host :=
  { h with launch }

namespace CommandLine
open Command

section Component

variable {h : Host} {t : FileTree} {file : Path} {f : Failure}

inductive ComponentRead (h : Host) (t : FileTree) (file : Path) : Except Refusal Component → Prop where
  | usable {text : String} {component : Component} (holds : HoldsText t (h.absolute file) text)
      (fits : component? text = .ok component) : ComponentRead h t file (.ok component)
  | refused (text : String) : ComponentRead h t file (.error (.said text 1))
  | garbled {u : Text.Utf8.Fault} (garbled : Garbled t (h.absolute file) u) :
      ComponentRead h t file (.error (.escaped (.fault (.notUnicode u))))

theorem componentRead (clean : FileTree.hasNul file = false) :
    ComponentRead h t file (loadComponent h t file) := by
  unfold loadComponent
  rw [clean, if_neg Bool.false_ne_true]
  cases there : t.read (h.absolute file) with
  | error e => exact .refused _
  | ok bytes =>
    dsimp only
    cases decoded : Text.Utf8.decode bytes with
    | error u => exact .garbled ⟨bytes, there, decoded⟩
    | ok content =>
      dsimp only
      cases fits : component? (Text.unifyNewlines content) with
      | ok component => exact .usable ⟨bytes, content, there, decoded, rfl⟩ fits
      | error n => exact .refused _

theorem loadComponent_eq_ok_iff {component : Component} (clean : FileTree.hasNul file = false) :
    loadComponent h t file = .ok component ↔
      ∃ text, HoldsText t (h.absolute file) text ∧ component? text = .ok component := by
  constructor
  · intro taken
    have ended := componentRead (h := h) (t := t) clean
    rw [taken] at ended
    cases ended with
    | usable holds fits => exact ⟨_, holds, fits⟩
  · rintro ⟨_, ⟨bytes, content, there, decoded, rfl⟩, fits⟩
    unfold loadComponent
    rw [clean, if_neg Bool.false_ne_true, there]
    dsimp only
    rw [decoded]
    dsimp only
    rw [fits]

theorem loadComponent_escaped_iff (clean : FileTree.hasNul file = false) :
    loadComponent h t file = .error (.escaped f) ↔
      ∃ u, f = .fault (.notUnicode u) ∧ Garbled t (h.absolute file) u := by
  constructor
  · intro failed
    have ended := componentRead (h := h) (t := t) clean
    rw [failed] at ended
    cases ended with
    | garbled garbled => exact ⟨_, rfl, garbled⟩
  · rintro ⟨u, rfl, bytes, there, decoded⟩
    unfold loadComponent
    rw [clean, if_neg Bool.false_ne_true, there]
    dsimp only
    rw [decoded]

theorem loadComponent_said {text : String} {code : Int} (clean : FileTree.hasNul file = false)
    (refused : loadComponent h t file = .error (.said text code)) : code = 1 := by
  have ended := componentRead (h := h) (t := t) clean
  rw [refused] at ended
  cases ended with
  | refused text => rfl

end Component

theorem settings_refused {h : Host} {project : Path} {verbose emoji : Bool} {timeout : Option Json}
    {label : Option String} {r : Refusal}
    (refused : settings h project verbose emoji timeout label = .error r) :
    ∃ text code, r = .said text code ∧ code ≠ 0 := by
  unfold settings at refused
  dsimp only at refused
  split at refused
  · cases refused
  · cases refused
    exact ⟨_, 2, rfl, by decide⟩
  · next f other failed =>
    cases refused
    obtain ⟨text, rfl⟩ | ⟨vs, rfl⟩ := Settings.ofValues_eq_error failed
    · exact ⟨text, 1, rfl, by decide⟩
    · exact absurd rfl (other vs)

/-! ## Commands -/

variable {α β : Type} {h : Host} {c : Common} {s : Screen} {t : FileTree} {r : Refusal}
  {arguments : List String} {project file : Path} {config : Config} {before : String}

def Refusal.halt (c : Common) (s : Screen) : Refusal → EStateM.Result Stop Screen α
  | .said text code =>
    .error (.exit code) { s with errors := s.errors ++ Console.lineText (.level .error) text c.emoji }
  | .escaped f => .error (.escaped f) s

theorem need_ok {found : FileTree → Except Refusal α} {x : α} (there : found s.tree = .ok x) :
    need c found s = .ok x s := by
  unfold need
  rw [get_bind, there]
  rfl

theorem need_error {found : FileTree → Except Refusal α} (refused : found s.tree = .error r) :
    need c found s = r.halt c s := by
  unfold need
  rw [get_bind, refused]
  cases r <;> rfl

theorem bind_halt {m : Command α} {f : α → Command β} {s' : Screen} (halted : m s = r.halt c s') :
    (m >>= f) s = r.halt c s' := by
  cases r <;> exact bind_stopped halted

def Wish.common? : Wish → Option Common
  | .parse a => some a.common
  | .create a => some a.common
  | _ => none

structure Opens (h : Host) (arguments : List String) (t : FileTree) (c : Common)
    (project file : Path) : Prop where
  asked : (Wish.ofArguments arguments).common? = some c
  directory : projectDirectory h t (c.directory.map Path.parse) = .ok project
  configured : configFile h t project (c.config.map Path.parse) = .ok file

theorem isFile_of_configFile {h : Host} {given : Option Path}
    (configured : configFile h t project given = .ok file) : t.isFile file = true := by
  unfold configFile at configured
  split at configured
  · split at configured
    · next p found =>
      cases configured
      unfold Config.find? at found
      dsimp only at found
      split at found
      · next there =>
        cases found
        exact there
      · cases found
    · cases configured
  · split at configured
    · cases configured
    · split at configured
      · cases configured
      · split at configured
        · next there =>
          cases configured
          exact there
        · cases configured

theorem Opens.clean (opens : Opens h arguments t c project file) :
    FileTree.hasNul file = false := by
  have there := isFile_of_configFile opens.configured
  rw [FileTree.isFile, Bool.and_eq_true, Bool.not_eq_true'] at there
  exact there.1

def opening (h : Host) (c : Common) : Command (Path × Config) := do
  let project ← need c fun t => projectDirectory h t (c.directory.map Path.parse)
  let file ← need c fun t => configFile h t project (c.config.map Path.parse)
  debug c s!"Loading project config config={file.text}"
  let config ← need c fun t => loadConfig t file
  return (project, config)

def supplied (h : Host) (a : CreateArguments) :
    Command ((Path × Config) × Settings × Component) := do
  let c := a.common
  let opened ← opening h c
  let settings ← need c fun _ => settings h opened.1 c.verbose c.emoji none none
  let component ← need c fun t => loadComponent h t (Path.parse a.component)
  return (opened, settings, component)

def announced (c : Common) (file : Path) : String :=
  if c.verbose then
    Console.printed (Console.highlighted s!"Loading project config config={file.text}").plain
  else ""

theorem debug_announced (c : Common) (t : FileTree) (file : Path) :
    debug c s!"Loading project config config={file.text}" ⟨t, "", ""⟩ =
      .ok () ⟨t, "", announced c file⟩ := by
  unfold debug announced
  split
  · change EStateM.Result.ok () (Screen.mk t "" ("" ++ _)) = _
    rw [String.empty_append]
  · rfl

theorem parse_opening (h : Host) (a : ParseArguments) :
    ∃ rest, Command.parse h a = opening h a.common >>= rest := by
  refine ⟨fun (project, config) => do
    let settings ← need a.common fun _ =>
      settings h project a.common.verbose a.common.emoji (a.timeout.map .float) a.label
    debug a.common s!"Parsing project dir={project.text} parser={config.parser.text}"
    conclude h a (engine h config settings), ?_⟩
  simp only [parse_eq, prepare, opening, bind_assoc, pure_bind]

theorem create_supplied (h : Host) (a : CreateArguments) :
    ∃ rest, Command.create h a = supplied h a >>= rest := by
  refine ⟨fun ((project, config), settings, component) => do
    let c := a.common
    let destination ← need c fun t =>
      (resolved h t ((a.outDir.map Path.parse).getD project)).mapError fun f => .escaped (.fault f)
    let outcome ← perform settings
      ((engine h config settings).create component destination ⟨a.outFile, none, none, none⟩)
    demandSuccess c outcome
    outcome.createdFiles.forM fun f => say f.filePath
    let n := outcome.createdFiles.length
    if n = 0 then Command.line c (.level .warn) "Parser did not create any files"
    else Command.line c .success s!"Created {n} file(s) for {component.name}", ?_⟩
  simp only [supplied, opening, bind_assoc, pure_bind]
  rfl

theorem opening_eq (opens : Opens h arguments t c project file) :
    opening h c ⟨t, "", ""⟩ =
      (need c fun t => loadConfig t file : Command Config).bind (fun config => pure (project, config))
        ⟨t, "", announced c file⟩ := by
  unfold opening
  rw [bind_ok (need_ok opens.directory), bind_ok (need_ok opens.configured),
    bind_ok (debug_announced c t file)]
  rfl

theorem opening_ok (opens : Opens h arguments t c project file)
    (taken : Config.load t file = .ok config) :
    opening h c ⟨t, "", ""⟩ = .ok (project, config) ⟨t, "", announced c file⟩ := by
  have there : loadConfig t file = .ok config := by rw [loadConfig, taken]; rfl
  rw [opening_eq opens]
  exact bind_ok (need_ok there)

theorem opening_error {f : Failure} (opens : Opens h arguments t c project file)
    (failed : Config.load t file = .error f) :
    opening h c ⟨t, "", ""⟩ = (Refusal.ofFailure f).halt c ⟨t, "", announced c file⟩ := by
  have missing : loadConfig t file = .error (.ofFailure f) := by rw [loadConfig, failed]; rfl
  rw [opening_eq opens]
  exact bind_halt (need_error missing)

theorem Opens.launching (opens : Opens h arguments t c project file) (launch : Launcher) :
    Opens (h.launching launch) arguments t c project file :=
  ⟨opens.asked, opens.directory, opens.configured⟩

/-- Whatever could be launched, a command ends with a line for the user and a status that is not zero, and
no file is changed. -/
def Refuses (h : Host) (arguments : List String) (t : FileTree) (c : Common) (before : String) :
    Prop :=
  ∃ text code, code ≠ 0 ∧ ∀ launch, run (h.launching launch) arguments t =
    ⟨code, "", before ++ Console.lineText (.level .error) text c.emoji, none, t⟩

/-- Whatever could be launched, a command has no answer to a fault. -/
def Breaks (h : Host) (arguments : List String) (t : FileTree) (before : String) (f : Fault) :
    Prop :=
  ∀ launch, run (h.launching launch) arguments t = ⟨1, "", before, some f, t⟩

def Refusal.finished (c : Common) (before : String) (t : FileTree) : Refusal → Finished
  | .said text code =>
    ⟨code, "", before ++ Console.lineText (.level .error) text c.emoji, none, t⟩
  | .escaped f => ⟨1, "", before, some f, t⟩

theorem finish_halt {m : Command Unit} (halted : m ⟨t, "", ""⟩ = r.halt c ⟨t, "", before⟩) :
    finish m t = r.finished c before t := by
  unfold finish
  rw [halted]
  cases r <;> rfl

theorem run_of_parse {a : ParseArguments} (wish : Wish.ofArguments arguments = .parse a) :
    run h arguments t = finish (Command.parse h a) t := by
  unfold run
  rw [wish]

theorem run_of_create {a : CreateArguments} (wish : Wish.ofArguments arguments = .create a) :
    run h arguments t = finish (Command.create h a) t := by
  unfold run
  rw [wish]

theorem run_of_supplied {a : CreateArguments} (wish : Wish.ofArguments arguments = .create a)
    (halted : supplied h a ⟨t, "", ""⟩ = r.halt a.common ⟨t, "", before⟩) :
    run h arguments t = r.finished a.common before t := by
  obtain ⟨rest, same⟩ := create_supplied h a
  rw [run_of_create wish, same]
  exact finish_halt (bind_halt halted)

theorem run_of_opening (opens : Opens h arguments t c project file)
    (halted : opening h c ⟨t, "", ""⟩ = r.halt c ⟨t, "", before⟩) :
    run h arguments t = r.finished c before t := by
  have asked := opens.asked
  cases wish : Wish.ofArguments arguments with
  | parse a =>
    -- what comes after the opening is never reached
    rw [wish] at asked
    cases asked
    obtain ⟨rest, same⟩ := parse_opening h a
    rw [run_of_parse wish, same]
    exact finish_halt (bind_halt halted)
  | create a =>
    rw [wish] at asked
    cases asked
    exact run_of_supplied wish (bind_halt halted)
  | version | help | misuse =>
    rw [wish] at asked
    cases asked

theorem run_of_config {f : Failure} (opens : Opens h arguments t c project file)
    (failed : Config.load t file = .error f) :
    run h arguments t = (Refusal.ofFailure f).finished c (announced c file) t :=
  run_of_opening opens (opening_error opens failed)

section Create

variable {a : CreateArguments} {st : Settings}

theorem run_of_settings (wish : Wish.ofArguments arguments = .create a)
    (opens : Opens h arguments t a.common project file)
    (taken : Config.load t file = .ok config)
    (refused : settings h project a.common.verbose a.common.emoji none none = .error r) :
    run h arguments t = r.finished a.common (announced a.common file) t := by
  refine run_of_supplied wish ?_
  unfold supplied
  rw [bind_ok (opening_ok opens taken)]
  exact bind_halt (need_error refused)

theorem run_of_component (wish : Wish.ofArguments arguments = .create a)
    (opens : Opens h arguments t a.common project file)
    (taken : Config.load t file = .ok config)
    (settled : settings h project a.common.verbose a.common.emoji none none = .ok st)
    (refused : loadComponent h t (Path.parse a.component) = .error r) :
    run h arguments t = r.finished a.common (announced a.common file) t := by
  refine run_of_supplied wish ?_
  unfold supplied
  rw [bind_ok (opening_ok opens taken), bind_ok (need_ok settled)]
  exact bind_halt (need_error refused)

end Create

theorem refuses_or_breaks_config (opens : Opens h arguments t c project file) :
    (∀ f, Config.Illegible t file f → Breaks h arguments t (announced c file) f) ∧
      ((∀ f, ¬ Config.Illegible t file f) → (∀ config, ¬ Config.Usable t file config) →
        Refuses h arguments t c (announced c file)) := by
  refine ⟨fun f illegible launch => ?_, fun legible useless => ?_⟩
  · exact run_of_config (opens.launching launch)
      (Config.load_of_illegible opens.clean illegible)
  · have ended := Config.loaded (t := t) opens.clean
    cases loaded : Config.load t file with
    | ok config =>
      rw [loaded] at ended
      cases ended with
      | usable usable => exact absurd usable (useless config)
    | error f =>
      rw [loaded] at ended
      cases ended with
      | illegible illegible => exact absurd illegible (legible _)
      | refused text =>
        exact ⟨text, 1, by decide, fun launch =>
          run_of_config (opens.launching launch) loaded⟩

section Create

variable {a : CreateArguments}

theorem refuses_of_settings (wish : Wish.ofArguments arguments = .create a)
    (opens : Opens h arguments t a.common project file) (usable : Config.Usable t file config)
    (refused : ∀ st, settings h project a.common.verbose a.common.emoji none none ≠ .ok st) :
    Refuses h arguments t a.common (announced a.common file) := by
  have taken := Config.load_of_usable opens.clean usable
  cases settled : settings h project a.common.verbose a.common.emoji none none with
  | ok st => exact absurd settled (refused st)
  | error r =>
    obtain ⟨text, code, rfl, other⟩ := settings_refused settled
    exact ⟨text, code, other, fun launch =>
      run_of_settings wish (opens.launching launch) taken settled⟩

theorem breaks_of_component {st : Settings} {u : Text.Utf8.Fault}
    (wish : Wish.ofArguments arguments = .create a)
    (opens : Opens h arguments t a.common project file) (usable : Config.Usable t file config)
    (settled : settings h project a.common.verbose a.common.emoji none none = .ok st)
    (clean : FileTree.hasNul (Path.parse a.component) = false)
    (garbled : Garbled t (h.absolute (Path.parse a.component)) u) :
    Breaks h arguments t (announced a.common file) (.notUnicode u) := fun launch =>
  run_of_component wish (opens.launching launch) (Config.load_of_usable opens.clean usable)
    settled ((loadComponent_escaped_iff clean).2 ⟨u, rfl, garbled⟩)

theorem refuses_of_component (wish : Wish.ofArguments arguments = .create a)
    (opens : Opens h arguments t a.common project file) (usable : Config.Usable t file config)
    (clean : FileTree.hasNul (Path.parse a.component) = false)
    (legible : ∀ u, ¬ Garbled t (h.absolute (Path.parse a.component)) u)
    (useless : ∀ component, loadComponent h t (Path.parse a.component) ≠ .ok component) :
    Refuses h arguments t a.common (announced a.common file) := by
  cases settled : settings h project a.common.verbose a.common.emoji none none with
  | error r =>
    refine refuses_of_settings wish opens usable fun st same => ?_
    cases settled.symm.trans same
  | ok st =>
    have ended := componentRead (h := h) (t := t) clean
    cases read : loadComponent h t (Path.parse a.component) with
    | ok component => exact absurd read (useless component)
    | error r =>
      rw [read] at ended
      cases ended with
      | garbled garbled => exact absurd garbled (legible _)
      | refused text =>
        exact ⟨text, 1, by decide, fun launch =>
          run_of_component wish (opens.launching launch)
            (Config.load_of_usable opens.clean usable) settled read⟩

end Create

/-- The files that a command reads. A configuration or a component is taken up, or refused with a line for
the user, and only the bytes of the file tell that it is neither: they are no text, or the text of a
configuration goes beyond a limit of the reader. A command that finds a file of no use ends with that line
and a status that is not zero, or with that fault, whatever could have been launched. -/
theorem inputs_law (h : Host) (t : FileTree) :
    (∀ file, FileTree.hasNul file = false →
      (∀ config, Config.load t file = .ok config ↔ Config.Usable t file config) ∧
      (∀ e, Config.load t file = .error (.run e) → ∃ text, e = .configuration text) ∧
      (∀ f, Config.load t file = .error (.fault f) ↔ Config.Illegible t file f) ∧
      ∀ limit, Config.Illegible t file (.beyond limit) →
        ∃ text, HoldsText t file text ∧ Json.Exceeds Json.lenient.depth text.toList limit) ∧
    (∀ file, FileTree.hasNul file = false →
      (∀ component, loadComponent h t file = .ok component ↔
        ∃ text, HoldsText t (h.absolute file) text ∧ component? text = .ok component) ∧
      (∀ text code, loadComponent h t file = .error (.said text code) → code = 1) ∧
      ∀ f, loadComponent h t file = .error (.escaped f) ↔
        ∃ u, f = .fault (.notUnicode u) ∧ Garbled t (h.absolute file) u) ∧
    ∀ arguments c project file, Opens h arguments t c project file →
      (∀ f, Config.Illegible t file f → Breaks h arguments t (announced c file) f) ∧
      ((∀ f, ¬ Config.Illegible t file f) → (∀ config, ¬ Config.Usable t file config) →
        Refuses h arguments t c (announced c file)) ∧
      ∀ a config, Wish.ofArguments arguments = .create a → Config.Usable t file config →
        FileTree.hasNul (Path.parse a.component) = false →
          (∀ st u, settings h project c.verbose c.emoji none none = .ok st →
            Garbled t (h.absolute (Path.parse a.component)) u →
              Breaks h arguments t (announced c file) (.notUnicode u)) ∧
          ((∀ st, settings h project c.verbose c.emoji none none ≠ .ok st) →
            Refuses h arguments t c (announced c file)) ∧
          ((∀ u, ¬ Garbled t (h.absolute (Path.parse a.component)) u) →
            (∀ component, loadComponent h t (Path.parse a.component) ≠ .ok component) →
              Refuses h arguments t c (announced c file)) := by
  refine ⟨fun file clean => ⟨fun _ => Config.load_eq_ok_iff clean, fun _ => Config.load_eq_run clean,
      fun _ => Config.load_eq_fault_iff clean, fun _ => Config.Illegible.exceeds⟩,
    fun file clean => ⟨fun _ => loadComponent_eq_ok_iff clean, fun _ _ => loadComponent_said clean,
      fun _ => loadComponent_escaped_iff clean⟩,
    fun arguments c project file opens => ?_⟩
  obtain ⟨breaks, refuses⟩ := refuses_or_breaks_config opens
  refine ⟨breaks, refuses, fun a config wish usable clean => ?_⟩
  obtain rfl : a.common = c := by
    have asked := opens.asked
    rw [wish] at asked
    exact Option.some.inj asked
  exact ⟨fun st u settled => breaks_of_component wish opens usable settled clean,
    refuses_of_settings wish opens usable, refuses_of_component wish opens usable clean⟩

def bystander : Host :=
  ⟨Path.absolute ["home"], [], Path.absolute ["tmp"], fun _ t => (.error ⟨.noEntry, ""⟩, t)⟩

def furnished (config component : Text.Utf8.Bytes) : FileTree :=
  ⟨[(["home"], .directory), (["home", Config.defaultFileName], .file config false),
    (["home", "button.json"], .file component false)]⟩

def configured : Path := Path.absolute ["home", Config.defaultFileName]

def reactConfig : Text.Utf8.Bytes :=
  Text.Utf8.encode "\x7b\"parser\": \"react\"\x7d"

def plain : Common := ⟨none, none, false, true⟩

theorem opens_furnished {config component : Text.Utf8.Bytes} (arguments : List String)
    (asked : (Wish.ofArguments arguments).common? = some plain) :
    Opens bystander arguments (furnished config component) plain (Path.absolute ["home"]) configured :=
  ⟨asked, rfl, rfl⟩

theorem decode_mangled : Text.Utf8.decode [0xff] = .error ⟨0, [0xff], .badStart⟩ := by decide +kernel

theorem usable_react (component : Text.Utf8.Bytes)
    (taken : (Config.load (furnished reactConfig component) configured).toOption.isSome = true) :
    ∃ config, Config.Usable (furnished reactConfig component) configured config := by
  obtain ⟨config, taken⟩ := Option.isSome_iff_exists.1 taken
  exact ⟨config, (Config.load_eq_ok_iff (by decide)).1 (toOption_eq_some.1 taken)⟩

def declines {α : Type} : Except Refusal α → Bool
  | .error (.said _ _) => true
  | _ => false

theorem inputs_law_of_furnished :
    (Opens bystander ["parse"] (furnished (Text.Utf8.encode "[]") []) plain (Path.absolute ["home"])
        configured ∧
      Refuses bystander ["parse"] (furnished (Text.Utf8.encode "[]") []) plain "") ∧
    (Opens bystander ["create", "button.json"] (furnished reactConfig [0x7b]) plain (Path.absolute ["home"])
        configured ∧
      Refuses bystander ["create", "button.json"] (furnished reactConfig [0x7b]) plain "") ∧
    Breaks bystander ["create", "button.json"] (furnished reactConfig [0xff]) ""
      (.notUnicode ⟨0, [0xff], .badStart⟩) := by
  have wish : Wish.ofArguments ["create", "button.json"] =
      .create ⟨plain, "button.json", none, none⟩ := by decide +kernel
  have asked : (Wish.ofArguments ["create", "button.json"]).common? = some plain := by rw [wish]; rfl
  have settled : (settings bystander (Path.absolute ["home"]) false true none none).toOption.isSome =
      true := by decide +kernel
  obtain ⟨st, settled⟩ := Option.isSome_iff_exists.1 settled
  refine ⟨⟨opens_furnished _ (by decide +kernel), ?_⟩, ⟨opens_furnished _ asked, ?_⟩, ?_⟩
  · obtain ⟨configs, -, commands⟩ := inputs_law bystander (furnished (Text.Utf8.encode "[]") [])
    obtain ⟨taken, -, faults, -⟩ := configs configured (by decide)
    obtain ⟨-, refuses, -⟩ := commands ["parse"] plain (Path.absolute ["home"]) configured
      (opens_furnished _ (by decide +kernel))
    have useless : declines (loadConfig (furnished (Text.Utf8.encode "[]") []) configured) = true := by
      decide +kernel
    refine refuses (fun f illegible => ?_) fun config usable => ?_
    · rw [loadConfig, (faults f).2 illegible] at useless
      cases useless
    · rw [loadConfig, (taken config).2 usable] at useless
      cases useless
  · obtain ⟨-, components, commands⟩ := inputs_law bystander (furnished reactConfig [0x7b])
    obtain ⟨-, -, create⟩ := commands _ _ _ _ (opens_furnished _ asked)
    obtain ⟨config, usable⟩ := usable_react [0x7b] (by decide +kernel)
    obtain ⟨-, -, refuses⟩ := create _ config wish usable (by decide)
    have useless : declines (loadComponent bystander (furnished reactConfig [0x7b])
        (Path.parse "button.json")) = true := by decide +kernel
    refine refuses (fun u garbled => ?_) fun component taken => ?_
    · obtain ⟨-, -, escapes⟩ := components (Path.parse "button.json") (by decide)
      rw [(escapes _).2 ⟨u, rfl, garbled⟩] at useless
      cases useless
    · rw [taken] at useless
      cases useless
  · obtain ⟨-, -, commands⟩ := inputs_law bystander (furnished reactConfig [0xff])
    obtain ⟨-, -, create⟩ := commands _ _ _ _ (opens_furnished _ asked)
    obtain ⟨config, usable⟩ := usable_react [0xff] (by decide +kernel)
    exact (create _ config wish usable (by decide)).1 st _ (toOption_eq_some.1 settled)
      ⟨[0xff], rfl, decode_mangled⟩

/-- A byte that starts no character escapes from both: reading the configuration does not refuse it, and the
command has no line for it. -/
theorem byte_escapes :
    Config.load (furnished [0xff] []) configured =
        .error (.fault (.notUnicode ⟨0, [0xff], .badStart⟩)) ∧
      (run bystander ["parse"] (furnished [0xff] [])).escaped =
        some (.fault (.notUnicode ⟨0, [0xff], .badStart⟩)) ∧
      (run bystander ["parse"] (furnished [0xff] [])).errors = "" :=
  ⟨Config.load_of_illegible (by decide) (.garbled ⟨[0xff], rfl, decode_mangled⟩), by decide +kernel,
    by decide +kernel⟩

end CommandLine

end ParserHost
