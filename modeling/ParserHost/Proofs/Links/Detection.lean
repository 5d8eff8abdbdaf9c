import ParserHost.Links.Repository

/-!
# Detected repositories

A detection asks at most three questions (`Inquired`), and its result is settled by what was asked and answered,
whoever answers (`inquired`). What is detected has the URL that was given or, if none was, that of the remote; a
missing program leaves nothing but a URL that was given, which may be the empty one (`detection_law`).
-/

namespace ParserHost

/-! ## Texts that count as given -/

def Unset (given : Option String) : Prop :=
  given = none ∨ given = some ""

namespace RunError

variable {given : Option String} {text : String}

theorem given?_eq_some_iff : given? given = some text ↔ given = some text ∧ text ≠ "" := by
  simp [given?, Option.filter_eq_some_iff]

theorem given?_eq_none_iff : given? given = none ↔ Unset given := by
  cases given <;> simp [given?, Unset, Option.filter_eq_none_iff]

end RunError

end ParserHost

namespace ParserHost.Repository

variable {σ : Type} {directory : Path} {given : Option String} {url : String} {r : Repository} {f : Fault}
  {found : Except Fault (Option Repository)}

/-! ## Questions and answers -/

/-- A runner of questions, whose answers may depend on all that it was asked before. -/
abbrev Runner (σ : Type) :=
  Question → Path → StateM σ (Except Fault String)

structure Asked where
  question : Question
  directory : Path
  answer : Except Fault String

variable {ask : Runner σ} {log : List Asked}

def recorded (ask : Runner σ) : Runner (σ × List Asked) :=
  fun question directory (s, log) =>
    let (answer, next) := ask question directory s
    (answer, next, log ++ [⟨question, directory, answer⟩])

def inquiry (ask : Runner σ) (directory : Path) (given : Option String) (s : σ) : List Asked :=
  (detect (recorded ask) directory given (s, [])).2.2

def Answered (log : List Asked) (question : Question) (text : String) : Prop :=
  ∃ asked ∈ log, asked.question = question ∧ asked.answer = .ok text

def Failed (log : List Asked) (f : Fault) : Prop :=
  ∃ asked ∈ log, asked.answer = .error f

def Missing (log : List Asked) : Prop :=
  ∃ f, Failed log f ∧ isNotFound f = true

@[simp] theorem answered_cons {asked : Asked} {question : Question} {text : String} :
    Answered (asked :: log) question text ↔
      asked.question = question ∧ asked.answer = .ok text ∨ Answered log question text := by
  simp [Answered]

@[simp] theorem not_answered_nil {question : Question} {text : String} : ¬ Answered [] question text := by
  simp [Answered]

@[simp] theorem failed_cons {asked : Asked} :
    Failed (asked :: log) f ↔ asked.answer = .error f ∨ Failed log f := by
  simp [Failed]

@[simp] theorem not_failed_nil : ¬ Failed [] f := by
  simp [Failed]

/-! ## The course of a detection -/

def rootOf (directory : Path) (top : String) : Path :=
  if top.isEmpty then directory else Path.parse top

inductive Known (directory : Path) (given : Option String) (url : String) : List Asked → Prop
  | given (set : given = some url) (named : url ≠ "") : Known directory given url []
  | asked (unset : Unset given) (named : url ≠ "") :
      Known directory given url [⟨.remote, directory, .ok url⟩]

inductive Inquired (directory : Path) (given : Option String) :
    List Asked → Except Fault (Option Repository) → Prop
  | unanswered {f : Fault} (unset : Unset given) :
      Inquired directory given [⟨.remote, directory, .error f⟩] (unasked directory given f)
  | nowhere (unset : Unset given) : Inquired directory given [⟨.remote, directory, .ok ""⟩] (.ok none)
  | rootless {url : String} {log : List Asked} {f : Fault} (known : Known directory given url log) :
      Inquired directory given (log ++ [⟨.topLevel, directory, .error f⟩]) (unasked directory given f)
  | branchless {url top : String} {log : List Asked} {f : Fault} (known : Known directory given url log) :
      Inquired directory given
        (log ++ [⟨.topLevel, directory, .ok top⟩, ⟨.branches, rootOf directory top, .error f⟩])
        (unasked directory given f)
  | described {url top listing : String} {log : List Asked} (known : Known directory given url log) :
      Inquired directory given
        (log ++ [⟨.topLevel, directory, .ok top⟩, ⟨.branches, rootOf directory top, .ok listing⟩])
        (.ok (some ⟨url, rootOf directory top, branchOf listing⟩))

theorem bind_apply {α β : Type} (x : StateM σ α) (next : α → StateM σ β) (s : σ) :
    (x >>= next) s = next (x s).1 (x s).2 := rfl

theorem recorded_of_answer {question : Question} {s next : σ} {answer : Except Fault String}
    (answered : ask question directory s = (answer, next)) :
    recorded ask question directory (s, log) = (answer, next, log ++ [⟨question, directory, answer⟩]) := by
  simp only [recorded, answered]

theorem inquired_of_known (ask : Runner σ) (known : Known directory given url log) (s : σ) :
    Inquired directory given (describe (recorded ask) directory given url (s, log)).2.2
      (describe ask directory given url s).1 := by
  unfold describe
  rcases top : ask .topLevel directory s with ⟨f | top', next⟩
  · rw [bind_apply, bind_apply, recorded_of_answer top, top]
    exact .rootless known
  · rw [bind_apply, bind_apply, recorded_of_answer top, top]
    change Inquired directory given ((recorded ask .branches (rootOf directory top') >>= _) _).2.2
      ((ask .branches (rootOf directory top') >>= _) _).1
    rcases listed : ask .branches (rootOf directory top') next with ⟨f | listing, last⟩
    · rw [bind_apply, bind_apply, recorded_of_answer listed, listed, List.append_assoc]
      exact .branchless known
    · rw [bind_apply, bind_apply, recorded_of_answer listed, listed, List.append_assoc]
      exact .described known

theorem inquired (ask : Runner σ) (directory : Path) (given : Option String) (s : σ) :
    Inquired directory given (inquiry ask directory given s) (detect ask directory given s).1 := by
  unfold inquiry detect
  cases set : given.filter fun url => !url.isEmpty with
  | some url =>
    obtain ⟨same, named⟩ := RunError.given?_eq_some_iff.1 set
    exact inquired_of_known ask (.given same named) s
  | none =>
    have unset := RunError.given?_eq_none_iff.1 set
    rcases answered : ask .remote directory s with ⟨f | url, next⟩
    · dsimp only
      rw [bind_apply, bind_apply, recorded_of_answer answered, answered]
      exact .unanswered unset
    · dsimp only
      rw [bind_apply, bind_apply, recorded_of_answer answered, answered]
      dsimp only
      by_cases named : url = ""
      · subst named
        exact .nowhere unset
      · have named' : url.isEmpty = false := by simpa using named
        rw [named']
        exact inquired_of_known ask (.asked unset named) next

/-! ## The law of detection -/

theorem unasked_eq_error {f' : Fault} :
    unasked directory given f = .error f' ↔ f = f' ∧ isNotFound f' = false := by
  unfold unasked
  constructor
  · intro ended
    cases missing : isNotFound f with
    | true => simp [missing] at ended
    | false =>
      obtain rfl : f = f' := by simpa [missing] using ended
      exact ⟨rfl, missing⟩
  · rintro ⟨rfl, other⟩
    simp [other]

theorem unasked_eq_none : unasked directory given f = .ok none ↔ isNotFound f = true ∧ given = none := by
  unfold unasked
  cases isNotFound f <;> simp

theorem unasked_eq_some :
    unasked directory given f = .ok (some r) ↔
      isNotFound f = true ∧ ∃ url, given = some url ∧ r = ⟨url, directory, fallbackBranch⟩ := by
  unfold unasked
  cases isNotFound f <;> cases given <;> simp [eq_comm]

theorem Inquired.error_iff (course : Inquired directory given log found) :
    found = .error f ↔ Failed log f ∧ isNotFound f = false := by
  cases course with
  | unanswered | nowhere => simp [unasked_eq_error]
  | rootless known | branchless known | described known => cases known <;> simp [unasked_eq_error]

theorem Inquired.none_iff (course : Inquired directory given log found) :
    found = .ok none ↔ Unset given ∧ Answered log .remote "" ∨ given = none ∧ Missing log := by
  cases course with
  | unanswered unset => simp [unasked_eq_none, Missing, and_comm]
  | nowhere unset => simp [unset]
  | rootless known | branchless known | described known =>
    cases known with
    | given set named => simp [unasked_eq_none, Missing, set, Unset, named]
    | asked unset named => simp [unasked_eq_none, Missing, named, and_comm]

/-- What is detected is described in full or, where a program is missing, no more than what was given. -/
theorem Inquired.some_cases (course : Inquired directory given log found) (detected : found = .ok (some r)) :
    (Missing log ∧ (∀ listing, ¬ Answered log .branches listing) ∧
      ∃ url, given = some url ∧ r = ⟨url, directory, fallbackBranch⟩) ∨
    ∃ url top listing asked, Known directory given url asked ∧
      log = asked ++ [⟨.topLevel, directory, .ok top⟩, ⟨.branches, rootOf directory top, .ok listing⟩] ∧
      r = ⟨url, rootOf directory top, branchOf listing⟩ := by
  cases course with
  | unanswered unset =>
    obtain ⟨missing, url⟩ := unasked_eq_some.1 detected
    exact .inl ⟨⟨_, by simp, missing⟩, by simp, url⟩
  | nowhere unset => cases detected
  | rootless known | branchless known =>
    obtain ⟨missing, url⟩ := unasked_eq_some.1 detected
    cases known <;> exact .inl ⟨⟨_, by simp, missing⟩, by simp, url⟩
  | described known =>
    cases detected
    exact .inr ⟨_, _, _, _, known, rfl, rfl⟩

theorem Inquired.remoteUrl (course : Inquired directory given log found) (detected : found = .ok (some r)) :
    (r.remoteUrl = "" ↔ given = some "" ∧ Missing log) ∧
    (∀ url, given = some url → url ≠ "" → r.remoteUrl = url) ∧
    (Unset given → r.remoteUrl ≠ "" → Answered log .remote r.remoteUrl) := by
  rcases course.some_cases detected with
    ⟨missing, -, url, rfl, rfl⟩ | ⟨url, top, listing, asked, known, rfl, rfl⟩
  · refine ⟨by simp [missing], by simp, fun unset named => absurd ?_ named⟩
    simpa [Unset] using unset
  · cases known with
    | given set named => simp [set, named, Unset, Missing]
    | asked unset named =>
      refine ⟨by simp [named, Missing], fun other set named' => ?_, fun _ _ => by simp⟩
      rcases unset with unset | unset
      · cases unset.symm.trans set
      · exact absurd (Option.some.inj (set.symm.trans unset)) named'

theorem branchOf_eq_main_iff {listing : String} :
    branchOf listing = mainBranch ↔ ∃ line ∈ Text.splitLines listing, Text.trim line = "origin/main" := by
  have different : ¬ fallbackBranch = mainBranch := by decide
  have sought : "origin/" ++ mainBranch = "origin/main" := by decide
  simp [branchOf, sought, different]

theorem Inquired.branch (course : Inquired directory given log found) (detected : found = .ok (some r)) :
    r.defaultBranch = mainBranch ↔ ∃ listing, Answered log .branches listing ∧
      ∃ line ∈ Text.splitLines listing, Text.trim line = "origin/main" := by
  rcases course.some_cases detected with
    ⟨-, unlisted, url, -, rfl⟩ | ⟨url, top, listing, asked, known, rfl, rfl⟩
  · have different : ¬ fallbackBranch = mainBranch := by decide
    simp [unlisted, different]
  · rw [branchOf_eq_main_iff]
    cases known <;> simp

theorem Inquired.sublist_questions (course : Inquired directory given log found) :
    (log.map Asked.question).Sublist [.remote, .topLevel, .branches] := by
  cases course with
  | unanswered | nowhere => exact List.singleton_sublist.2 (.head _)
  | rootless known | branchless known | described known =>
    cases known <;> simp only [List.map_append, List.map_cons, List.map_nil] <;> decide

/-- A detection fails where a program fails for another reason than that it is missing. Nothing is detected if
there is no URL, neither given nor as the answer for the remote, and also if none is given and a program is
missing. What is detected has the URL that was given or else the one that was answered; but where an empty URL
is given and a program is missing, it has the empty URL. Its branch is the main one exactly if a line of the
listing says so. Each question is asked once at most. -/
theorem detection_law (ask : Runner σ) (directory : Path) (given : Option String) (s : σ) :
    (∀ f, (detect ask directory given s).1 = .error f ↔
      Failed (inquiry ask directory given s) f ∧ isNotFound f = false) ∧
    ((detect ask directory given s).1 = .ok none ↔
      Unset given ∧ Answered (inquiry ask directory given s) .remote "" ∨
        given = none ∧ Missing (inquiry ask directory given s)) ∧
    (∀ r, (detect ask directory given s).1 = .ok (some r) →
      (r.remoteUrl = "" ↔ given = some "" ∧ Missing (inquiry ask directory given s)) ∧
      (∀ url, given = some url → url ≠ "" → r.remoteUrl = url) ∧
      (Unset given → r.remoteUrl ≠ "" → Answered (inquiry ask directory given s) .remote r.remoteUrl) ∧
      (r.defaultBranch = mainBranch ↔ ∃ listing, Answered (inquiry ask directory given s) .branches listing ∧
        ∃ line ∈ Text.splitLines listing, Text.trim line = "origin/main")) ∧
    ((inquiry ask directory given s).map Asked.question).Sublist [.remote, .topLevel, .branches] := by
  have course := inquired ask directory given s
  refine ⟨fun f => course.error_iff, course.none_iff, fun r detected => ?_, course.sublist_questions⟩
  obtain ⟨empty, given, answered⟩ := course.remoteUrl detected
  exact ⟨empty, given, answered, course.branch detected⟩

def missingProgram : Runner Unit :=
  fun _ _ s => (.error (.executableNotFound "git"), s)

/-- No URL is given and no program can tell one, but a repository is detected: the URL that is not given is
empty, not absent. -/
theorem remote_invented :
    (detect missingProgram (.absolute ["repo"]) (some "") ()).1 =
      .ok (some ⟨"", .absolute ["repo"], fallbackBranch⟩) ∧
    (detect missingProgram (.absolute ["repo"]) none ()).1 = .ok none ∧
    Missing (inquiry missingProgram (.absolute ["repo"]) (some "") ()) :=
  ⟨rfl, rfl, .executableNotFound "git", ⟨_, .head _, rfl⟩, rfl⟩

end ParserHost.Repository
