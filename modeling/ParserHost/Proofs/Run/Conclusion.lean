import ParserHost.Proofs.Run.Stages

/-!
# How a run concludes

A run concludes with a failure when a stage stopped it or when the parser reported errors, and
otherwise with results that are published (`Concluded`, `concluded_of_returned`). From this,
`all_or_nothing`: an outcome has either results or an error, never both.
-/

namespace ParserHost.Engine

variable {e : Engine} {task : Task} {t u : FileTree}

/-! ## Publishing -/

def stamp (e : Engine) (repository : Option Repository) : Publication.Stamp :=
  ⟨e.settings.cwd, e.settings.cliVersion, repository, e.config.substitutions.getD [], e.label⟩

/-- What `finalize` does apart from saying which label it uses. -/
def publish (e : Engine) (documents : List Document) : Act (List Document) := do
  Act.note (.lookedUp e.settings.cwd e.settings.repositoryUrl)
  let repository ← Act.change (e.lookUp e.settings.cwd e.settings.repositoryUrl)
  Act.read fun t => (Publication.finalize t (e.stamp repository) documents).mapError .fault

theorem finalize_apply (e : Engine) (documents : List Document) (t : FileTree) :
    Gives (e.finalize documents t) (e.publish documents t).result
      (messagesOf (e.publish documents t).journal) := by
  unfold finalize publish stamp
  cases e.label with
  | none => exact ⟨rfl, rfl⟩
  | some text => exact ⟨rfl, rfl⟩

theorem finalize_of_found {repository : Option Repository} {documents : List Document}
    (found : e.lookUp e.settings.cwd e.settings.repositoryUrl t = (.ok repository, u)) :
    Gives (e.finalize documents t)
      ((Publication.finalize u (e.stamp repository) documents).mapError .fault) [] := by
  obtain ⟨result, messages⟩ := finalize_apply e documents t
  rw [publish, Act.bind_of_ok (Act.note_apply _ t), Act.bind_of_ok (Act.change_of_ok found)]
    at result messages
  exact ⟨result, messages⟩

theorem finalize_of_lost {f : Fault} {documents : List Document}
    (lost : e.lookUp e.settings.cwd e.settings.repositoryUrl t = (.error f, u)) :
    Gives (e.finalize documents t) (.error (.fault f)) [] := by
  obtain ⟨result, messages⟩ := finalize_apply e documents t
  rw [publish, Act.bind_of_ok (Act.note_apply _ t), Act.bind_error (Act.change_of_error lost)]
    at result messages
  exact ⟨result, messages⟩

inductive Published (e : Engine) (t : FileTree) : Task → Response → List Document → Prop
  | created {component destination details r} :
      Published e t (.create component destination details) r []
  | parsed {r repository u documents}
      (found : e.lookUp e.settings.cwd e.settings.repositoryUrl (e.stages .parse t).tree =
        (.ok repository, u))
      (stamped : Publication.finalize u (e.stamp repository) (Document.dedupe r.documents) =
        .ok documents) :
      Published e t .parse r documents

theorem Published.eq_nil {r : Response} {documents : List Document}
    (published : Published e t task r documents) (mode : task.mode = .create) : documents = [] := by
  cases published with
  | created => rfl
  | parsed found stamped => cases mode

/-! ## Conclusions -/

def status (messages : List Message) : OutcomeStatus :=
  if messages.any Message.isWarning then .successWithWarnings else .success

inductive Concluded (e : Engine) (task : Task) (t : FileTree) : Outcome → Prop
  | stopped {err ms} (stopped : Stopped e task t (.run err) ms) :
      Concluded e task t (.failed err ms)
  | reported {r ms} (replied : Replied e task t r ms)
      (errors : (ms ++ r.messages).filter Message.isError ≠ []) :
      Concluded e task t
        (.failed (.reported ((ms ++ r.messages).filter Message.isError)) (ms ++ r.messages))
  | published {r ms documents} (replied : Replied e task t r ms)
      (clean : (ms ++ r.messages).filter Message.isError = [])
      (published : Published e t task r documents) :
      Concluded e task t
        ⟨status (ms ++ r.messages), documents, r.createdFiles, ms ++ r.messages, none⟩

theorem answer_of_stopped {err : RunError} {ms : List Message}
    (stopped : Stopped e task t (.run err) ms) :
    Gives (e.answer task t) (.ok (.failed err ms)) ms := by
  obtain ⟨result, messages⟩ := stages_of_stopped stopped
  cases stages : e.stages task t with
  | mk found u journal =>
    rw [stages] at result messages
    dsimp only at result messages
    subst result
    rw [answer_eq, Act.bind_of_ok (Act.attempt_of_run stages), messages]
    exact ⟨rfl, by simpa [settle] using messages⟩

theorem answer_of_fault {f : Fault} {ms : List Message}
    (stopped : Stopped e task t (.fault f) ms) :
    Gives (e.answer task t) (.error (.fault f)) ms := by
  obtain ⟨result, messages⟩ := stages_of_stopped stopped
  cases stages : e.stages task t with
  | mk found u journal =>
    rw [stages] at result messages
    dsimp only at result messages
    subst result
    rw [answer_eq, Act.bind_error (Act.attempt_of_fault stages)]
    exact ⟨rfl, messages⟩

theorem answer_of_replied {r : Response} {ms : List Message} (replied : Replied e task t r ms) :
    ∃ journal, messagesOf journal = ms ++ r.messages ∧
      e.answer task t =
        ⟨(e.settle task (.ok r.dedupe, ms ++ r.messages) (e.stages task t).tree).result,
          (e.settle task (.ok r.dedupe, ms ++ r.messages) (e.stages task t).tree).tree,
          journal ++
            (e.settle task (.ok r.dedupe, ms ++ r.messages) (e.stages task t).tree).journal⟩ := by
  obtain ⟨result, messages⟩ := stages_of_replied replied
  cases stages : e.stages task t with
  | mk found u journal =>
    rw [stages] at result messages
    dsimp only at result messages
    subst result
    refine ⟨journal, messages, ?_⟩
    rw [answer_eq, Act.bind_of_ok (Act.attempt_of_ok stages), messages]

theorem result_of_replied {r : Response} {ms : List Message} (replied : Replied e task t r ms) :
    (e.answer task t).result =
      (e.settle task (.ok r.dedupe, ms ++ r.messages) (e.stages task t).tree).result := by
  obtain ⟨journal, -, eq⟩ := answer_of_replied replied
  rw [eq]

theorem classify_of_errors {r : Response} {ms : List Message}
    (errors : ms.filter Message.isError ≠ []) :
    Outcome.classify r ms = .failed (.reported (ms.filter Message.isError)) ms := by
  simp [Outcome.classify, errors]

theorem classify_of_clean {r : Response} {ms : List Message}
    (clean : ms.filter Message.isError = []) :
    Outcome.classify r ms = ⟨status ms, r.documents, r.createdFiles, ms, none⟩ := by
  simp [Outcome.classify, clean, status]

theorem status_eq_warnings {ms : List Message} :
    status ms = .successWithWarnings ↔ ∃ m ∈ ms, m.level = .warn := by
  unfold status
  cases warned : ms.any Message.isWarning <;> simpa [Message.isWarning] using warned

theorem status_eq_success {ms : List Message} :
    status ms = .success ↔ ∀ m ∈ ms, m.level ≠ .warn := by
  unfold status
  cases warned : ms.any Message.isWarning <;> simpa [Message.isWarning] using warned

theorem status_ne_failure (ms : List Message) : status ms ≠ .failure := by
  unfold status
  cases ms.any Message.isWarning <;> simp

theorem settle_of_errors {r : Response} {ms : List Message}
    (errors : ms.filter Message.isError ≠ []) :
    Gives (e.settle task (.ok r, ms) t)
      (.ok (.failed (.reported (ms.filter Message.isError)) ms)) [] := by
  cases task with
  | parse =>
    simp only [settle, classify_of_errors errors]
    exact ⟨rfl, rfl⟩
  | create component destination details =>
    simp only [settle, classify_of_errors errors]
    exact ⟨rfl, rfl⟩

theorem settle_parse_of_clean {r : Response} {ms : List Message}
    (clean : ms.filter Message.isError = []) :
    Gives (e.settle .parse (.ok r, ms) t)
      ((e.finalize r.documents t).result.map fun documents =>
        ⟨status ms, documents, r.createdFiles, ms, none⟩)
      (messagesOf (e.finalize r.documents t).journal) := by
  have good : Outcome.succeeded ⟨status ms, r.documents, r.createdFiles, ms, none⟩ = true := by
    simp [Outcome.succeeded, status_ne_failure]
  simp only [settle, classify_of_clean clean, good, if_true]
  cases finalized : e.finalize r.documents t with
  | mk result u journal => cases result with
    | error f =>
      rw [Act.bind_error finalized]
      exact ⟨rfl, rfl⟩
    | ok documents =>
      rw [Act.bind_of_ok finalized]
      exact ⟨rfl, by simp⟩

theorem documents_dedupe (r : Response) : r.dedupe.documents = Document.dedupe r.documents := by
  cases r <;> rfl

theorem createdFiles_dedupe (r : Response) : r.dedupe.createdFiles = r.createdFiles := by
  cases r <;> rfl

/-! ## Returned outcomes -/

theorem concluded_of_replied {r : Response} {ms : List Message} {o : Outcome}
    (replied : Replied e task t r ms) (returned : (e.answer task t).result = .ok o) :
    Concluded e task t o := by
  rw [result_of_replied replied] at returned
  by_cases errors : (ms ++ r.messages).filter Message.isError = []
  · cases task with
    | parse =>
      rw [(settle_parse_of_clean errors).1, createdFiles_dedupe, documents_dedupe] at returned
      obtain ⟨documents, finalized, rfl⟩ := map_eq_ok.1 returned
      refine .published replied errors ?_
      cases found : e.lookUp e.settings.cwd e.settings.repositoryUrl (e.stages .parse t).tree with
      | mk repository u => cases repository with
        | error f =>
          rw [(finalize_of_lost found).1] at finalized
          cases finalized
        | ok repository =>
          rw [(finalize_of_found found).1, mapError_eq_ok] at finalized
          exact .parsed found finalized
    | create component destination details =>
      rw [settle, classify_of_clean errors, createdFiles_dedupe, documents_dedupe] at returned
      cases returned
      have mode := replied.mode
      cases r with
      | parse r => cases mode
      | create r => exact .published replied errors .created
  · rw [(settle_of_errors errors).1] at returned
    cases returned
    exact .reported replied errors

theorem concluded_of_returned {o : Outcome} (returned : (e.answer task t).result = .ok o) :
    Concluded e task t o := by
  rcases replied_or_stopped e task t with ⟨r, ms, replied⟩ | ⟨f, ms, stopped⟩
  · exact concluded_of_replied replied returned
  · cases f with
    | fault f =>
      rw [(answer_of_fault stopped).1] at returned
      cases returned
    | run err =>
      rw [(answer_of_stopped stopped).1] at returned
      cases returned
      exact .stopped stopped

/-! ## Messages -/

def messages (e : Engine) (task : Task) (t : FileTree) : List Message :=
  messagesOf (e.answer task t).journal

theorem finalize_silent (e : Engine) (documents : List Document) (t : FileTree) :
    messagesOf (e.finalize documents t).journal = [] := by
  cases found : e.lookUp e.settings.cwd e.settings.repositoryUrl t with
  | mk repository u => cases repository with
    | error f => exact (finalize_of_lost found).2
    | ok repository => exact (finalize_of_found found).2

theorem settle_silent (r : Response) (ms : List Message) (t : FileTree) :
    messagesOf (e.settle task (.ok r, ms) t).journal = [] := by
  by_cases errors : ms.filter Message.isError = []
  · cases task with
    | parse => rw [(settle_parse_of_clean errors).2, finalize_silent]
    | create component destination details => rfl
  · exact (settle_of_errors errors).2

theorem messages_of_replied {r : Response} {ms : List Message} (replied : Replied e task t r ms) :
    e.messages task t = ms ++ r.messages := by
  obtain ⟨journal, taken, eq⟩ := answer_of_replied replied
  rw [messages, eq, messagesOf_append, taken, settle_silent, List.append_nil]

theorem messages_of_stopped {f : Failure} {ms : List Message} (stopped : Stopped e task t f ms) :
    e.messages task t = ms := by
  cases f with
  | fault f => exact (answer_of_fault stopped).2
  | run err => exact (answer_of_stopped stopped).2

theorem messages_of_concluded {o : Outcome} (concluded : Concluded e task t o) :
    o.messages = e.messages task t := by
  cases concluded with
  | stopped stopped => exact (messages_of_stopped stopped).symm
  | reported replied errors => exact (messages_of_replied replied).symm
  | published replied clean published => exact (messages_of_replied replied).symm

/-! ## All or nothing -/

def writing (output errors : String) : Engine where
  host := ⟨Path.absolute ["home"], [], Path.absolute ["tmp"], fun _ t =>
    (.ok ⟨0, Text.Utf8.encode output, Text.Utf8.encode errors, false, false⟩, t)⟩
  handlers := []
  config := ⟨.custom, some "/bin/parser", some ["*.kt"], none, none, none, none, none, none, none,
    none, []⟩
  settings := ⟨Path.absolute ["home"], false, none, none, none, "1", false⟩
  lookUp _ _ t := (.ok none, t)

def bare : FileTree :=
  ⟨[(["home"], .directory), (["tmp"], .directory)]⟩

theorem asked_writing (output errors : String) : ∃ request text,
    (writing output errors).request bare .parse = .ok request ∧ request.serialized = .ok text := by
  have made : (((writing "" "").request bare .parse).toOption.bind fun r =>
      r.serialized.toOption).isSome = true := by
    decide +kernel
  obtain ⟨text, made⟩ := Option.isSome_iff_exists.1 made
  obtain ⟨request, asked, serialized⟩ := Option.bind_eq_some_iff.1 made
  exact ⟨request, text, toOption_eq_some.1 asked, toOption_eq_some.1 serialized⟩

theorem Replied.not_raises {r : Response} {ms : List Message} (replied : Replied e task t r ms)
    (err : RunError) : ¬ Raises e task t err := by
  rintro ⟨ms', stopped⟩
  exact replied.not_stopped _ _ stopped

theorem filter_isError_eq_nil {ms : List Message} :
    ms.filter Message.isError = [] ↔ ∀ m ∈ ms, m.level ≠ .error := by
  simp [List.filter_eq_nil_iff, Message.isError]

theorem filter_isError_ne_nil {ms : List Message} :
    ms.filter Message.isError ≠ [] ↔ ∃ m ∈ ms, m.level = .error := by
  rw [ne_eq, filter_isError_eq_nil]
  simp

theorem failure_iff_of_concluded {o : Outcome} (concluded : Concluded e task t o) :
    o.status = .failure ↔
      (∃ err, Raises e task t err) ∨ ∃ m ∈ e.messages task t, m.level = .error := by
  rw [← filter_isError_ne_nil]
  cases concluded with
  | stopped stopped => exact ⟨fun _ => .inl ⟨_, _, stopped⟩, fun _ => rfl⟩
  | reported replied errors =>
    rw [messages_of_replied replied]
    exact ⟨fun _ => .inr errors, fun _ => rfl⟩
  | @published r ms documents replied clean published =>
    rw [messages_of_replied replied]
    refine ⟨fun failed => absurd failed (status_ne_failure _), ?_⟩
    rintro (⟨err, raised⟩ | errors)
    · exact absurd raised (replied.not_raises err)
    · exact absurd clean errors

theorem failure_of_concluded {o : Outcome} (concluded : Concluded e task t o)
    (failed : o.status = .failure) :
    o.documents = [] ∧ o.createdFiles = [] ∧
      ((∃ err, Raises e task t err ∧ o.error = some err) ∨
        (∀ err, ¬ Raises e task t err) ∧
          o.error = some (.reported ((e.messages task t).filter Message.isError))) := by
  cases concluded with
  | stopped stopped => exact ⟨rfl, rfl, .inl ⟨_, ⟨_, stopped⟩, rfl⟩⟩
  | reported replied errors =>
    rw [messages_of_replied replied]
    exact ⟨rfl, rfl, .inr ⟨replied.not_raises, rfl⟩⟩
  | published replied clean published => exact absurd failed (status_ne_failure _)

theorem success_of_concluded {o : Outcome} (concluded : Concluded e task t o)
    (succeeded : o.status ≠ .failure) :
    o.error = none ∧ o.status = status (e.messages task t) ∧
      ∃ r ms, Replied e task t r ms ∧ o.createdFiles = r.createdFiles ∧
        Published e t task r o.documents := by
  cases concluded with
  | stopped stopped => exact absurd rfl succeeded
  | reported replied errors => exact absurd rfl succeeded
  | published replied clean published =>
    rw [messages_of_replied replied]
    exact ⟨rfl, rfl, _, _, replied, rfl, published⟩

/-- A run that returns is all or nothing. It fails exactly when a stage failed or an error is among
its messages; then it has no results, and its error is the failure of the stage, or else the texts of
the errors with a notice. Otherwise it has no error, warnings decide its status, and its results are
those of its task alone. -/
theorem all_or_nothing {o : Outcome} (returned : (e.answer task t).result = .ok o) :
    (o.status = .failure ↔
      (∃ err, Raises e task t err) ∨ ∃ m ∈ e.messages task t, m.level = .error) ∧
    (o.status = .failure →
      o.documents = [] ∧ o.createdFiles = [] ∧
      ((∃ err, Raises e task t err ∧
          o.errorText = some err.message ∧ o.errorKind = some err.kind) ∨
        (∀ err, ¬ Raises e task t err) ∧
          o.errorText = some (Text.join "\n"
            (((e.messages task t).filter fun m => m.level = .error).map Message.text ++
              ["Errors encountered calling parser, exiting"])) ∧
          o.errorKind = some "ParserReportedError")) ∧
    (o.status ≠ .failure →
      o.errorText = none ∧ o.errorKind = none ∧
      (o.status = .successWithWarnings ↔ ∃ m ∈ e.messages task t, m.level = .warn) ∧
      (o.status = .success ↔ ∀ m ∈ e.messages task t, m.level ≠ .warn) ∧
      (task.mode = .parse → o.createdFiles = []) ∧
      (task.mode = .create → o.documents = [] ∧
        ∃ r ms, Replied e task t (.create r) ms ∧ o.createdFiles = r.createdFiles)) := by
  have concluded := concluded_of_returned returned
  refine ⟨failure_iff_of_concluded concluded, fun failed => ?_, fun succeeded => ?_⟩
  · obtain ⟨documents, createdFiles, ⟨err, raised, error⟩ | ⟨quiet, error⟩⟩ :=
      failure_of_concluded concluded failed
    · refine ⟨documents, createdFiles, .inl ⟨err, raised, ?_, ?_⟩⟩
      · rw [Outcome.errorText, error, Option.map_some]
      · rw [Outcome.errorKind, error, Option.map_some]
    · refine ⟨documents, createdFiles, .inr ⟨quiet, ?_, ?_⟩⟩
      · rw [Outcome.errorText, error]
        rfl
      · rw [Outcome.errorKind, error]
        rfl
  · obtain ⟨error, status, r, ms, replied, createdFiles, published⟩ :=
      success_of_concluded concluded succeeded
    refine ⟨?_, ?_, ?_, ?_, ?_, ?_⟩
    · rw [Outcome.errorText, error, Option.map_none]
    · rw [Outcome.errorKind, error, Option.map_none]
    · rw [status, status_eq_warnings]
    · rw [status, status_eq_success]
    · intro mode
      have answered := replied.mode.trans mode
      cases r with
      | parse r => exact createdFiles
      | create r => cases answered
    · intro mode
      have answered := replied.mode.trans mode
      cases r with
      | parse r => cases answered
      | create r =>
        exact ⟨published.eq_nil mode, r, ms, replied, createdFiles⟩

theorem all_or_nothing_of_reported :
    ∃ o, ((writing "\x7b\"docs\": [], \"messages\": [\x7b\"level\": \"ERROR\", \"message\": \"odd\"\x7d]\x7d"
        "at work\n").answer .parse bare).result = .ok o ∧
      o.status = .failure ∧ o.documents = [] ∧ o.createdFiles = [] := by
  have computed : ((((writing
      "\x7b\"docs\": [], \"messages\": [\x7b\"level\": \"ERROR\", \"message\": \"odd\"\x7d]\x7d"
      "at work\n").answer .parse bare).result.toOption).map Outcome.status) = some .failure := by
    decide +kernel
  obtain ⟨o, found, failed⟩ := Option.map_eq_some_iff.1 computed
  have returned := toOption_eq_some.1 found
  have law := (all_or_nothing returned).2.1 failed
  exact ⟨o, returned, failed, law.1, law.2.1⟩

end ParserHost.Engine
