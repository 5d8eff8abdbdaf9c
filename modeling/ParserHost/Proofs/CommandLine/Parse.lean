import ParserHost.CommandLine.Command
import ParserHost.Proofs.Config.Loading
import ParserHost.Proofs.Files.Writing
import ParserHost.Proofs.Json.Payload
import ParserHost.Proofs.Json.Printed
import ParserHost.Proofs.Json.RoundTrip
import ParserHost.Proofs.Run.Published
import ParserHost.Proofs.Run.Undecoded
import ParserHost.Proofs.Run.Termination
import ParserHost.Proofs.Text.Utf8

/-!
# The command that parses

The command goes by three stretches: up to its engine it looks at the tree and writes to standard error only
(`hushed_prepare`), the engine runs, and what comes after that ends in one of six ways (`ending`). So the
status tells whether the run succeeded with documents that can be written, those that are shown or filed
read back as the payloads that the engine published, and standard output has nothing else
(`parse_publishes`).
-/

namespace ParserHost.CommandLine

open Command

variable {α β : Type} {a : ParseArguments} {s : Screen} {t u : FileTree} {e : Engine}
  {o : Outcome} {h : Host} {file : Path} {text : String}

/-! ## Single steps -/

theorem bind_ok {c : Command α} {f : α → Command β} {x : α} {s' : Screen} (done : c s = .ok x s') :
    (c >>= f) s = f x s' := by
  change EStateM.bind c f s = _
  rw [EStateM.bind, done]

theorem bind_stopped {c : Command α} {f : α → Command β} {stop : Stop} {s' : Screen}
    (stopped : c s = .error stop s') : (c >>= f) s = .error stop s' := by
  change EStateM.bind c f s = _
  rw [EStateM.bind, stopped]

theorem get_bind (f : Screen → Command β) (s : Screen) : ((get : Command Screen) >>= f) s = f s s := rfl

/-- A command looks at the tree and writes to standard error only; it goes on exactly where there is
something to go on with. -/
def Hushed (c : Command α) (found : FileTree → Option α) : Prop :=
  ∀ s, ∃ errors,
    (∃ x, found s.tree = some x ∧ c s = .ok x { s with errors }) ∨
      (found s.tree = none ∧ ∃ stop, c s = .error stop { s with errors })

theorem hushed_pure (x : α) : Hushed (pure x) fun _ => some x :=
  fun s => ⟨s.errors, .inl ⟨x, rfl, rfl⟩⟩

theorem Hushed.bind {c : Command α} {f : α → Command β} {found : FileTree → Option α}
    {further : α → FileTree → Option β} (first : Hushed c found) (second : ∀ x, Hushed (f x) (further x)) :
    Hushed (c >>= f) fun t => (found t).bind fun x => further x t := by
  intro s
  obtain ⟨errors, ⟨x, there, done⟩ | ⟨missing, stop, stopped⟩⟩ := first s
  · -- the tree is the same for the second command
    obtain ⟨errors', second⟩ := second x { s with errors }
    refine ⟨errors', ?_⟩
    rw [bind_ok done]
    simp only [there, Option.bind_some]
    exact second
  · refine ⟨errors, .inr ⟨?_, stop, bind_stopped stopped⟩⟩
    simp only [missing, Option.bind_none]

theorem hushed_debug (c : Common) (text : String) : Hushed (debug c text) fun _ => some () := by
  intro s
  unfold debug
  split
  · exact ⟨_, .inl ⟨(), rfl, rfl⟩⟩
  · exact ⟨s.errors, .inl ⟨(), rfl, rfl⟩⟩

theorem hushed_need (c : Common) (found : FileTree → Except Refusal α) :
    Hushed (need c found) fun t => (found t).toOption := by
  intro s
  unfold need
  rw [get_bind]
  cases there : found s.tree with
  | ok x => exact ⟨s.errors, .inl ⟨x, congrArg Except.toOption there, rfl⟩⟩
  | error r =>
    have missing := congrArg Except.toOption there
    cases r with
    | said text code => exact ⟨_, .inr ⟨missing, _, rfl⟩⟩
    | escaped f => exact ⟨s.errors, .inr ⟨missing, _, rfl⟩⟩

theorem perform_apply (settings : Settings) (act : Act α) (s : Screen) :
    perform settings act s =
      (match (act s.tree).result with
        | .ok x => pure x
        | .error f => throw (.escaped f) : Command α)
      ⟨(act s.tree).tree, s.output,
        s.errors ++ Reporter.print ⟨settings.verbose, settings.useEmoji⟩ (act s.tree).journal⟩ := rfl

theorem perform_ok {act : Act α} {x : α} (settings : Settings) (done : (act s.tree).result = .ok x) :
    ∃ errors, perform settings act s = .ok x ⟨(act s.tree).tree, s.output, errors⟩ := by
  rw [perform_apply, done]
  exact ⟨_, rfl⟩

theorem perform_error {act : Act α} {f : Failure} (settings : Settings)
    (failed : (act s.tree).result = .error f) :
    ∃ errors, perform settings act s = .error (.escaped f) ⟨(act s.tree).tree, s.output, errors⟩ := by
  rw [perform_apply, failed]
  exact ⟨_, rfl⟩

/-! ## Writing -/

structure Wrote (h : Host) (file : Path) (text : String) (t u : FileTree) : Prop where
  clean : FileTree.hasNul file = false
  made : ∃ t₁, t.makeDirectories h.directory file.root file.parent.parts.reverse = .ok t₁ ∧
    t₁.write (h.absolute file) (Text.Utf8.encode text) = .ok u

theorem Wrote.read (wrote : Wrote h file text t u) :
    u.read (h.absolute file) = .ok (Text.Utf8.encode text) := by
  obtain ⟨t₁, -, written⟩ := wrote.made
  exact FileTree.read_of_write written

theorem write_eq (h : Host) (file : Path) (text : String) (s : Screen) :
    Command.write h file text s =
      if FileTree.hasNul file then .error (.escaped Fault.embeddedNul) s
      else
        match s.tree.makeDirectories h.directory file.root file.parent.parts.reverse with
        | .error e => .error (.escaped (Fault.system e)) s
        | .ok t =>
          match t.write (h.absolute file) (Text.Utf8.encode text) with
          | .ok u => .ok () ⟨u, s.output, s.errors⟩
          | .error e => .error (.escaped (Fault.system ⟨e, file.text⟩)) ⟨t, s.output, s.errors⟩ := by
  unfold Command.write
  rw [get_bind]
  cases FileTree.hasNul file with
  | true => rfl
  | false =>
    cases s.tree.makeDirectories h.directory file.root file.parent.parts.reverse with
    | error e => rfl
    | ok t =>
      simp only [Bool.false_eq_true, if_false]
      cases t.write (h.absolute file) (Text.Utf8.encode text) <;> rfl

theorem write_ok (wrote : Wrote h file text s.tree u) :
    Command.write h file text s = .ok () ⟨u, s.output, s.errors⟩ := by
  obtain ⟨t₁, made, written⟩ := wrote.made
  rw [write_eq, wrote.clean, if_neg Bool.false_ne_true, made]
  dsimp only
  rw [written]

def Writable (h : Host) (file : Path) (t : FileTree) : Prop :=
  ∃ u, Wrote h file "" t u

theorem wrote_of_writable (writable : Writable h file t) (text : String) : ∃ u, Wrote h file text t u := by
  obtain ⟨u, clean, t₁, made, written⟩ := writable
  obtain ⟨u', written'⟩ := FileTree.write_of_write written (Text.Utf8.encode text)
  exact ⟨u', clean, t₁, made, written'⟩

/-- Whatever comes of writing a file, standard output is not written to. -/
theorem write_or (h : Host) (file : Path) (text : String) (s : Screen) :
    (∃ u, Wrote h file text s.tree u) ∨ ¬ Writable h file s.tree ∧
      ∃ f u, Command.write h file text s = .error (.escaped f) ⟨u, s.output, s.errors⟩ := by
  by_cases writable : Writable h file s.tree
  · exact .inl (wrote_of_writable writable text)
  · refine .inr ⟨writable, ?_⟩
    rw [write_eq]
    cases clean : FileTree.hasNul file with
    | true => exact ⟨_, _, rfl⟩
    | false =>
      rw [if_neg Bool.false_ne_true]
      cases made : s.tree.makeDirectories h.directory file.root file.parent.parts.reverse with
      | error e => exact ⟨_, _, rfl⟩
      | ok t =>
        dsimp only
        cases written : t.write (h.absolute file) (Text.Utf8.encode text) with
        | error e => exact ⟨_, _, rfl⟩
        | ok u =>
          obtain ⟨u', written'⟩ := FileTree.write_of_write written (Text.Utf8.encode "")
          exact absurd ⟨u', clean, t, made, written'⟩ writable

/-! ## After the engine -/

def payloads (o : Outcome) : Json :=
  .arr (o.documents.map Document.toJson)

def freeForm (o : Outcome) : List Json.Entries :=
  o.documents.map Document.templateData

theorem mapM_payload_of_shallow {ds : List Document} (shallow : Json.Shallow (ds.map Document.templateData)) :
    ds.mapM Document.payload = .ok (ds.map Document.toJson) := by
  induction ds with
  | nil => rfl
  | cons d ds ih =>
    obtain ⟨first, others⟩ := List.forall_mem_cons.1 shallow
    have alone : Json.Shallow [d.templateData] := by simpa [Json.Shallow] using first
    rw [List.mapM_cons, Document.payload, Json.payload_of_shallow alone, ih others]
    rfl

theorem mapM_payload_of_deep {ds : List Document} (deep : ¬ Json.Shallow (ds.map Document.templateData)) :
    ds.mapM Document.payload = .error .levels := by
  induction ds with
  | nil => exact absurd nofun deep
  | cons d ds ih =>
    rw [List.mapM_cons, Document.payload]
    by_cases alone : Json.Shallow [d.templateData]
    · have others : ¬ Json.Shallow (ds.map Document.templateData) := fun others =>
        deep (List.forall_mem_cons.2 ⟨alone _ (.head _), others⟩)
      rw [Json.payload_of_shallow alone, ih others]
      rfl
    · rw [Json.payload_of_deep alone]
      rfl

theorem rendered_of_shallow (readable : (payloads o).Readable Json.lenient.depth)
    (shallow : Json.Shallow (freeForm o)) : rendered o.documents = .ok (Json.indented (payloads o)) := by
  rw [rendered, mapM_payload_of_shallow shallow]
  exact if_pos (Json.writable_of_readable readable)

theorem rendered_of_deep (deep : ¬ Json.Shallow (freeForm o)) : rendered o.documents = .error .levels := by
  rw [rendered, mapM_payload_of_deep deep]
  rfl

theorem eq_indented_of_rendered (written : rendered o.documents = .ok text) :
    text = Json.indented (payloads o) := by
  by_cases shallow : Json.Shallow (freeForm o)
  · rw [rendered, mapM_payload_of_shallow shallow] at written
    change Json.written Json.indented (payloads o) = .ok text at written
    unfold Json.written at written
    split at written
    · exact (Except.ok.inj written).symm
    · cases written
  · cases (rendered_of_deep shallow).symm.trans written

theorem demandSuccess_of_succeeded (c : Common) (s : Screen) (succeeded : o.succeeded = true) :
    demandSuccess c o s = .ok () s := by
  unfold demandSuccess
  rw [succeeded]
  rfl

theorem demandSuccess_of_failed (c : Common) (s : Screen) (failed : o.succeeded = false) :
    ∃ errors, demandSuccess c o s = .error (.exit 1) { s with errors } := by
  have code : o.exitCode = 1 := by
    rw [Outcome.exitCode, failed]
    rfl
  unfold demandSuccess
  rw [failed, code]
  cases o.error with
  | none => exact ⟨_, rfl⟩
  | some err => cases err <;> exact ⟨_, rfl⟩

theorem publish_of_excess {x : Json.Excess} (excess : rendered o.documents = .error x) (s : Screen) :
    publish h a o.documents s = .error (.escaped (.fault (.unwritten x))) s := by
  unfold publish
  rw [excess]
  rfl

theorem publish_of_none (none : a.outfile = none) (written : rendered o.documents = .ok text) (s : Screen) :
    publish h a o.documents s = .ok () { s with output := s.output ++ text ++ "\n" } := by
  unfold publish
  rw [none, written]
  rfl

theorem publish_of_some {name : String} (given : a.outfile = some name)
    (written : rendered o.documents = .ok text)
    (wrote : Wrote h (Path.parse name) (text ++ "\n") s.tree u) :
    ∃ errors, publish h a o.documents s = .ok () ⟨u, s.output, errors⟩ := by
  unfold publish
  rw [given, written]
  exact ⟨_, bind_ok (write_ok wrote)⟩

theorem publish_of_refused {name : String} {f : Failure} (given : a.outfile = some name)
    (written : rendered o.documents = .ok text)
    (refused : Command.write h (Path.parse name) (text ++ "\n") s =
      .error (.escaped f) ⟨u, s.output, s.errors⟩) :
    publish h a o.documents s = .error (.escaped f) ⟨u, s.output, s.errors⟩ := by
  unfold publish
  rw [given, written]
  exact bind_stopped refused

/-! ## Before the engine -/

def engine? (h : Host) (a : ParseArguments) (t : FileTree) : Option Engine := do
  let project ← (projectDirectory h t (a.common.directory.map Path.parse)).toOption
  let file ← (configFile h t project (a.common.config.map Path.parse)).toOption
  let config ← (loadConfig t file).toOption
  let settings ← (settings h project a.common.verbose a.common.emoji (a.timeout.map .float)
    a.label).toOption
  return engine h config settings

theorem engine?_of_ok {project file : Path} {config : Config} {st : Settings}
    (directory : projectDirectory h t (a.common.directory.map Path.parse) = .ok project)
    (configured : configFile h t project (a.common.config.map Path.parse) = .ok file)
    (loaded : loadConfig t file = .ok config)
    (settled : settings h project a.common.verbose a.common.emoji (a.timeout.map .float) a.label = .ok st) :
    engine? h a t = some (engine h config st) := by
  unfold engine?
  rw [directory]
  change (configFile h t project (a.common.config.map Path.parse)).toOption >>= _ = _
  rw [configured]
  change (loadConfig t file).toOption >>= _ = _
  rw [loaded]
  change (settings h project a.common.verbose a.common.emoji (a.timeout.map .float) a.label).toOption >>= _ = _
  rw [settled]
  rfl

def prepare (h : Host) (a : ParseArguments) : Command Engine := do
  let c := a.common
  let project ← need c fun t => projectDirectory h t (c.directory.map Path.parse)
  let file ← need c fun t => configFile h t project (c.config.map Path.parse)
  debug c s!"Loading project config config={file.text}"
  let config ← need c fun t => loadConfig t file
  let settings ← need c fun _ =>
    settings h project c.verbose c.emoji (a.timeout.map .float) a.label
  debug c s!"Parsing project dir={project.text} parser={config.parser.text}"
  return engine h config settings

def announce (c : Common) (o : Outcome) : Command Unit := do
  let n := o.documents.length
  let summary := s!"Parsed {n} document{plural n}"
  let warnings := o.warnings.length
  if warnings = 0 then Command.line c .success summary
  else Command.line c (.level .warn) s!"{summary} with {warnings} warning(s)"

def conclude (h : Host) (a : ParseArguments) (e : Engine) : Command Unit := do
  let o ← perform e.settings e.parse
  demandSuccess a.common o
  publish h a o.documents
  announce a.common o

theorem parse_eq (h : Host) (a : ParseArguments) :
    Command.parse h a = prepare h a >>= conclude h a := by
  simp only [prepare, bind_assoc, pure_bind]
  rfl

theorem hushed_prepare (h : Host) (a : ParseArguments) : Hushed (prepare h a) (engine? h a) :=
  (hushed_need _ _).bind fun _ => (hushed_need _ _).bind fun _ => (hushed_debug _ _).bind fun _ =>
    (hushed_need _ _).bind fun _ => (hushed_need _ _).bind fun _ => (hushed_debug _ _).bind fun _ =>
      hushed_pure _

theorem announce_apply (c : Common) (o : Outcome) (s : Screen) :
    ∃ errors, announce c o s = .ok () { s with errors } := by
  unfold announce
  split <;> exact ⟨_, rfl⟩

inductive Ending (h : Host) (a : ParseArguments) (e : Engine) (s : Screen) :
    EStateM.Result Stop Screen Unit → Prop where
  | broken {f : Failure} {errors : String} (result : (e.parse s.tree).result = .error f) :
      Ending h a e s (.error (.escaped f) ⟨(e.parse s.tree).tree, s.output, errors⟩)
  | failed {o : Outcome} {errors : String} (result : (e.parse s.tree).result = .ok o)
      (failed : o.succeeded = false) :
      Ending h a e s (.error (.exit 1) ⟨(e.parse s.tree).tree, s.output, errors⟩)
  | unwritten {o : Outcome} {x : Json.Excess} {errors : String} (result : (e.parse s.tree).result = .ok o)
      (succeeded : o.succeeded = true) (excess : rendered o.documents = .error x) :
      Ending h a e s (.error (.escaped (.fault (.unwritten x))) ⟨(e.parse s.tree).tree, s.output, errors⟩)
  | shown {o : Outcome} {text errors : String} (result : (e.parse s.tree).result = .ok o)
      (succeeded : o.succeeded = true) (written : rendered o.documents = .ok text)
      (output : a.outfile = none) :
      Ending h a e s (.ok () ⟨(e.parse s.tree).tree, s.output ++ text ++ "\n", errors⟩)
  | filed {o : Outcome} {text name errors : String} {u : FileTree}
      (result : (e.parse s.tree).result = .ok o) (succeeded : o.succeeded = true)
      (written : rendered o.documents = .ok text) (output : a.outfile = some name)
      (wrote : Wrote h (Path.parse name) (text ++ "\n") (e.parse s.tree).tree u) :
      Ending h a e s (.ok () ⟨u, s.output, errors⟩)
  | refused {name errors : String} {f : Failure} {u : FileTree} (output : a.outfile = some name)
      (unwritable : ¬ Writable h (Path.parse name) (e.parse s.tree).tree) :
      Ending h a e s (.error (.escaped f) ⟨u, s.output, errors⟩)

theorem ending (h : Host) (a : ParseArguments) (e : Engine) (s : Screen) :
    Ending h a e s (conclude h a e s) := by
  unfold conclude
  cases result : (e.parse s.tree).result with
  | error f =>
    obtain ⟨errors, performed⟩ := perform_error e.settings result
    rw [bind_stopped performed]
    exact .broken result
  | ok o =>
    obtain ⟨errors, performed⟩ := perform_ok e.settings result
    rw [bind_ok performed]
    cases succeeded : o.succeeded with
    | false =>
      obtain ⟨errors, demanded⟩ := demandSuccess_of_failed a.common _ succeeded
      rw [bind_stopped demanded]
      exact .failed result succeeded
    | true =>
      rw [bind_ok (demandSuccess_of_succeeded a.common _ succeeded)]
      cases written : rendered o.documents with
      | error x =>
        rw [bind_stopped (publish_of_excess written _)]
        exact .unwritten result succeeded written
      | ok text =>
        cases output : a.outfile with
        | none =>
          rw [bind_ok (publish_of_none output written _)]
          obtain ⟨errors, announced⟩ := announce_apply a.common o _
          rw [announced]
          exact .shown result succeeded written output
        | some name =>
          obtain ⟨u, wrote⟩ | ⟨unwritable, f, u, refused⟩ :=
            write_or h (Path.parse name) (text ++ "\n") ⟨(e.parse s.tree).tree, s.output, errors⟩
          · obtain ⟨errors, published⟩ := publish_of_some output written wrote
            obtain ⟨errors, announced⟩ := announce_apply a.common o ⟨u, s.output, errors⟩
            rw [bind_ok published, announced]
            exact .filed result succeeded written output wrote
          · rw [bind_stopped (publish_of_refused output written refused)]
            exact .refused output unwritable

/-! ## Whole runs -/

theorem ending_of_engine (there : engine? h a t = some e) :
    ∃ errors, Ending h a e ⟨t, "", errors⟩ (Command.parse h a ⟨t, "", ""⟩) := by
  obtain ⟨errors, ⟨x, found, done⟩ | ⟨missing, -⟩⟩ := hushed_prepare h a ⟨t, "", ""⟩
  · cases there.symm.trans found
    rw [parse_eq, bind_ok done]
    exact ⟨errors, ending h a e _⟩
  · cases there.symm.trans missing

theorem stopped_of_missing (missing : engine? h a t = none) :
    ∃ stop errors, Command.parse h a ⟨t, "", ""⟩ = .error stop ⟨t, "", errors⟩ := by
  obtain ⟨errors, ⟨x, found, -⟩ | ⟨-, stop, stopped⟩⟩ := hushed_prepare h a ⟨t, "", ""⟩
  · cases missing.symm.trans found
  · rw [parse_eq, bind_stopped stopped]
    exact ⟨stop, errors, rfl⟩

/-- What a run of the command comes to, given the outcome of its engine and the tree that the engine
left. -/
structure Contract (h : Host) (a : ParseArguments) (o : Outcome) (left : FileTree) (done : Finished) :
    Prop where
  status : done.exitCode = 0 ↔ o.succeeded = true ∧ Json.Shallow (freeForm o)
  escaped : ∀ f, done.escaped = some f ↔
    (o.succeeded = true ∧ ¬ Json.Shallow (freeForm o)) ∧ f = .fault (.unwritten .levels)
  shown : done.exitCode = 0 → a.outfile = none → Json.read done.output = .ok (payloads o)
  filed : done.exitCode = 0 → ∀ name, a.outfile = some name →
    done.output = "" ∧ ∃ bytes text, done.tree.read (h.absolute (Path.parse name)) = .ok bytes ∧
      Text.Utf8.decode bytes = .ok text ∧ Json.read text = .ok (payloads o)
  failed : done.exitCode ≠ 0 → done.output = "" ∧ done.tree = left

theorem handlers_of_engine (there : engine? h a t = some e) : e.handlers = [] := by
  obtain ⟨_, -, there⟩ := Option.bind_eq_some_iff.1 there
  obtain ⟨_, -, there⟩ := Option.bind_eq_some_iff.1 there
  obtain ⟨_, -, there⟩ := Option.bind_eq_some_iff.1 there
  obtain ⟨_, -, there⟩ := Option.bind_eq_some_iff.1 there
  rw [← Option.some.inj there]
  rfl

theorem readable_payloads (none : e.handlers = []) (returned : (e.parse t).result = .ok o)
    (succeeded : o.succeeded = true) : (payloads o).Readable Json.lenient.depth := by
  refine Engine.readable_of_returned none returned fun failure => ?_
  rw [Outcome.succeeded, failure] at succeeded
  cases succeeded

/-- Documents are written unless they are too deep, and what is written is read as their payloads. -/
theorem read_of_rendered (readable : (payloads o).Readable Json.lenient.depth)
    (written : rendered o.documents = .ok text) :
    Json.Shallow (freeForm o) ∧ Json.read (text ++ "\n") = .ok (payloads o) := by
  constructor
  · by_contra deep
    cases (rendered_of_deep deep).symm.trans written
  · rw [eq_indented_of_rendered written]
    exact Json.read_indented readable (Json.layout_newline 0)

theorem contract_of_engine (there : engine? h a t = some e) (returned : (e.parse t).result = .ok o)
    (writable : ∀ name, a.outfile = some name → Writable h (Path.parse name) (e.parse t).tree) :
    Contract h a o (e.parse t).tree (finish (Command.parse h a) t) := by
  have readable := readable_payloads (handlers_of_engine there) returned
  obtain ⟨errors, ended⟩ := ending_of_engine there
  unfold finish
  generalize Command.parse h a ⟨t, "", ""⟩ = r at ended
  cases ended with
  | broken result => cases returned.symm.trans result
  | failed result failed =>
    cases returned.symm.trans result
    exact ⟨by simp [failed], by simp [failed], nofun, nofun, fun _ => ⟨rfl, rfl⟩⟩
  | @unwritten _ x _ result succeeded excess =>
    cases returned.symm.trans result
    have deep : ¬ Json.Shallow (freeForm o) := by
      intro shallow
      cases (rendered_of_shallow (readable succeeded) shallow).symm.trans excess
    cases (rendered_of_deep deep).symm.trans excess
    refine ⟨by simp [deep], fun f => ?_, nofun, nofun, fun _ => ⟨rfl, rfl⟩⟩
    simp [succeeded, deep, eq_comm]
  | shown result succeeded written output =>
    cases returned.symm.trans result
    obtain ⟨shallow, read⟩ := read_of_rendered (readable succeeded) written
    refine ⟨by simp [succeeded, shallow], by simp [shallow], fun _ _ => ?_, fun _ name given => ?_,
      fun failed => ?_⟩
    · dsimp only
      rw [String.empty_append]
      exact read
    · cases output.symm.trans given
    · exact absurd rfl failed
  | filed result succeeded written output wrote =>
    cases returned.symm.trans result
    obtain ⟨shallow, read⟩ := read_of_rendered (readable succeeded) written
    refine ⟨by simp [succeeded, shallow], by simp [shallow], fun _ missing => ?_, fun _ name given => ?_,
      fun failed => ?_⟩
    · cases output.symm.trans missing
    · cases output.symm.trans given
      exact ⟨rfl, _, _, wrote.read, Text.Utf8.decode_encode _, read⟩
    · exact absurd rfl failed
  | refused output unwritable => exact absurd (writable _ output) unwritable

/-- Standard output has the documents of an outcome that succeeded, or nothing at all. -/
theorem output_of_parse (h : Host) (a : ParseArguments) (t : FileTree) :
    (finish (Command.parse h a) t).output = "" ∨
      ∃ e o, engine? h a t = some e ∧ (e.parse t).result = .ok o ∧ o.succeeded = true ∧
        a.outfile = none ∧
          (finish (Command.parse h a) t).output = Json.indented (payloads o) ++ "\n" := by
  cases there : engine? h a t with
  | none =>
    obtain ⟨stop, errors, stopped⟩ := stopped_of_missing there
    refine .inl ?_
    unfold finish
    rw [stopped]
    cases stop <;> rfl
  | some e =>
    obtain ⟨errors, ended⟩ := ending_of_engine there
    unfold finish
    generalize Command.parse h a ⟨t, "", ""⟩ = r at ended
    cases ended with
    | shown result succeeded written output =>
      refine .inr ⟨e, _, rfl, result, succeeded, output, ?_⟩
      dsimp only
      rw [String.empty_append, eq_indented_of_rendered written]
    | broken | failed | unwritten | filed | refused => exact .inl rfl

def found (data : Json.Entries) : Document :=
  ⟨"1:2", "café", "raw", "", data, none, none, "", .unknown, none, none⟩

def answer (data : Json.Entries) : ParseResponse :=
  ⟨[found data], []⟩

def finder (data : Json.Entries) : Host where
  directory := Path.absolute ["home"]
  environment := [("PATH", "")]
  scratch := Path.absolute ["tmp"]
  launch _ t := (.ok ⟨0, Text.Utf8.encode (Json.compact (answer data).toJson), [], false, false⟩, t)

def wanted : Json.Entries :=
  [("parser", .str "custom"), ("parserCommand", .str "/bin/parser"), ("include", .arr [.str "*.x"])]

def configuration : Config :=
  ⟨.custom, some "/bin/parser", some ["*.x"], none, none, none, none, none, none, none, none, []⟩

def project : FileTree :=
  ⟨[(["home"], .directory), (["tmp"], .directory),
    (["home", Config.defaultFileName], .file (Text.Utf8.encode (Json.compact (.obj wanted))) false)]⟩

def asking (outfile : Option String) : ParseArguments :=
  ⟨⟨none, none, false, true⟩, outfile, none, none⟩

def finding (data : Json.Entries) : Engine :=
  engine (finder data) configuration
    ⟨Path.absolute ["home"], false, none, none, none, Settings.version, true⟩

def child (data : Json.Entries) : Invocation.Child where
  workspace := ⟨Path.absolute ["tmp"], some (Path.absolute ["tmp", "run-0"])⟩
  plan := .custom ["/bin/parser"] "Using custom parser command: /bin/parser"
  words := ["/bin/parser"]
  ended := ⟨0, Text.Utf8.encode (Json.compact (answer data).toJson), [], false, false⟩
  tree := Workspace.opened project ["tmp", "run-0"]

theorem load_project :
    Config.load project (Path.absolute ["home", Config.defaultFileName]) = .ok configuration := by
  have readable : (Json.obj wanted).Readable Json.lenient.depth :=
    ⟨by decide, by decide, trivial, trivial, ⟨by decide, trivial, trivial⟩, trivial⟩
  refine Config.load_of_usable rfl ⟨_, wanted, ⟨_, _, rfl, Text.Utf8.decode_encode _, ?_⟩,
    Json.read_compact readable, rfl⟩
  exact Json.unifyNewlines_compact _

theorem engine_finder (data : Json.Entries) (outfile : Option String) :
    engine? (finder data) (asking outfile) project = some (finding data) := by
  have directory : projectDirectory (finder data) project none = .ok (Path.absolute ["home"]) := rfl
  have configured : configFile (finder data) project (Path.absolute ["home"]) none =
    .ok (Path.absolute ["home", Config.defaultFileName]) := rfl
  have settled : settings (finder data) (Path.absolute ["home"]) false true none none =
    .ok (finding data).settings := rfl
  exact engine?_of_ok directory configured (congrArg _ load_project) settled

theorem ran_child (data : Json.Entries) : ∃ request, (finding data).request project .parse = .ok request ∧
    request.mode = .parse ∧ Invocation.Ran (finding data).context request project (child data) := by
  have made : ((Discovery.parseRequest project configuration (Path.absolute ["home"]) false).toOption.bind
      fun r => (Request.parse r).serialized.toOption).isSome = true := by
    decide +kernel
  obtain ⟨text, made⟩ := Option.isSome_iff_exists.1 made
  obtain ⟨r, asked, serialized⟩ := Option.bind_eq_some_iff.1 made
  have entered : (Workspace.mk (Path.absolute ["tmp"]) none).enter project =
      .ok ((child data).workspace, (child data).tree) := rfl
  have command : Plan.ofCommand (some "/bin/parser") = .ok (child data).plan := rfl
  have planned : Plan.ofConfig (child data).tree [] configuration (Path.absolute ["home"]) .parse false
      (child data).workspace = .ok (child data).plan := congrArg (Except.mapError Failure.run) command
  have delivered : Invocation.Delivered (finding data).context (.parse r) project (child data).workspace
      (child data).plan (some text) (child data).tree :=
    .piped ⟨entered, planned⟩ nofun rfl (toOption_eq_some.1 serialized)
  have found := toOption_eq_some.1 asked
  exact ⟨.parse r, map_eq_ok.2 ⟨r, found, rfl⟩, rfl, .ended delivered rfl rfl⟩

theorem readable_answer {data : Json.Entries} (portable : (Json.obj data).Portable)
    (fits : (Json.obj data).nesting ≤ 900) : (answer data).toJson.Readable Json.lenient.depth := by
  have names : ["docs", "messages"].Nodup := by decide
  have readable : (found data).toJson.Readable 901 :=
    Document.readable_toJson ⟨Json.readable_of_portable portable fits, short_unknownLine, nofun⟩ (by decide)
  exact ⟨by decide, names, ⟨by decide, readable.mono (by decide), trivial⟩, ⟨by decide, trivial⟩, trivial⟩

theorem response_child {data : Json.Entries} (portable : (Json.obj data).Portable)
    (fits : (Json.obj data).nesting ≤ 900) :
    (child data).response (finding data).context .parse = .ok (answer data).toJson := by
  have whole : (child data).streamed.output = Json.compact (answer data).toJson := by
    dsimp only [Invocation.Child.streamed, Streamed.ofEnded, streamText, child]
    rw [Text.Utf8.decodeReplacing_encode, Json.unifyNewlines_compact]
  have trimmed : Text.trim (Json.compact (answer data).toJson) = Json.compact (answer data).toJson :=
    Json.trim_compact_obj _ _
  rw [Invocation.response_of_pipes (by rintro (late | killed) <;> contradiction) rfl,
    Invocation.decode_eq_ok, whole, trimmed]
  exact Json.read_compact (readable_answer portable fits)

theorem heard_child (data : Json.Entries) : (child data).heard = [] := by
  have silent : streamLines [] = [] := by decide +kernel
  change ((streamLines []).filter _).map _ = _
  rw [silent]
  rfl

theorem replied_finding {data : Json.Entries} (portable : (Json.obj data).Portable)
    (fits : (Json.obj data).nesting ≤ 900) :
    Engine.Replied (finding data) .parse project (.parse (answer data).finite) [] := by
  obtain ⟨request, asked, mode, ran⟩ := ran_child data
  have ends := Invocation.Ends.ran ran
  rw [mode, response_child portable fits, heard_child] at ends
  refine .intro asked ends ?_
  rw [mode, Engine.validate_eq_ok]
  unfold Response.check
  exact map_eq_checked.2 ⟨_, ParseResponse.check_toJson (answer data), rfl⟩

theorem outcome_of_finder {data : Json.Entries} (portable : (Json.obj data).Portable)
    (fits : (Json.obj data).nesting ≤ 900) :
    ∃ o, ((finding data).parse project).result = .ok o ∧ ((finding data).parse project).tree = project ∧
      o.succeeded = true ∧ freeForm o = [Json.finiteEntries data] ∧
      o.documents.map Document.label = ["café"] := by
  obtain ⟨request, asked, -, ran⟩ := ran_child data
  have left : ((finding data).stages .parse project).tree = project := by
    rw [Engine.tree_stages asked, Invocation.tree_of_ran ran]
    rfl
  obtain ⟨journal, -, eq⟩ := Engine.answer_of_replied (replied_finding portable fits)
  rw [left] at eq
  have result := congrArg Done.result eq
  have tree := congrArg Done.tree eq
  exact ⟨_, result, tree, rfl, rfl, rfl⟩

theorem writable_project (data : Json.Entries) :
    Writable (finder data) (Path.parse "out/docs.json") project := by
  have made : (((project.makeDirectories (Path.absolute ["home"]) .relative ["out"]).toOption.bind
      fun t => (t.write (Path.absolute ["home", "out", "docs.json"]) []).toOption).isSome) = true := by
    decide +kernel
  obtain ⟨u, made⟩ := Option.isSome_iff_exists.1 made
  obtain ⟨t, made, written⟩ := Option.bind_eq_some_iff.1 made
  exact ⟨u, by decide +kernel, t, toOption_eq_some.1 made, toOption_eq_some.1 written⟩

end ParserHost.CommandLine
