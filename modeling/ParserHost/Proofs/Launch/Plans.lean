import ParserHost.Launch.Plan
import ParserHost.Proofs.Run.Sequence
import ParserHost.Proofs.Text.Trimming

/-!
# Plans

The kind of a parser decides how it is asked (`ofConfig_ok`), and a command that is planned has at
least one word (`words_ne_nil`): what is left of a command line after trimming starts with a character
that belongs to a word.
-/

namespace ParserHost

/-! ## Words of a command line -/

namespace Words

theorem isBlank_of_isGap {c : Char} (gap : isGap c = true) : Text.isBlank c = true := by
  simp only [isGap, Bool.or_eq_true, decide_eq_true_eq] at gap
  rcases gap with ((rfl | rfl) | rfl) | rfl <;> rfl

theorem ne_nil_of_begun {inside : Inside} {acc cs : List Char} {ws : List (List Char)}
    (begun : inside ≠ .gap) (scanned : scan inside acc cs = .ok ws) : ws ≠ [] := by
  induction cs generalizing inside acc ws with
  | nil =>
    cases inside with
    | gap => exact absurd rfl begun
    | word =>
      cases scanned
      exact List.cons_ne_nil _ _
    | single | double | escape | doubleEscape => cases scanned
  | cons c rest ih =>
    cases inside with
    | gap => exact absurd rfl begun
    | word =>
      rw [scan] at scanned
      split at scanned
      · obtain ⟨more, -, rfl⟩ := map_eq_ok.1 scanned
        exact List.cons_ne_nil _ _
      · repeat' split at scanned
        all_goals exact ih (by simp) scanned
    | single | double | doubleEscape =>
      rw [scan] at scanned
      repeat' split at scanned
      all_goals exact ih (by simp) scanned
    | escape =>
      rw [scan] at scanned
      exact ih (by simp) scanned

theorem ne_nil_of_scan {c : Char} {rest : List Char} {ws : List (List Char)}
    (starts : isGap c = false) (scanned : scan .gap [] (c :: rest) = .ok ws) : ws ≠ [] := by
  rw [scan, starts] at scanned
  repeat' split at scanned
  · contradiction
  all_goals exact ne_nil_of_begun (by simp) scanned

theorem split_trim_ne_nil {raw : String} {ws : List String}
    (given : (Text.trim raw).isEmpty = false) (words : split (Text.trim raw) = .ok ws) :
    ws ≠ [] := by
  obtain ⟨scanned, eq, rfl⟩ := map_eq_ok.1 words
  rw [Text.trim, String.toList_ofList] at eq
  cases trimmed : Text.trimBy Text.isBlank raw.toList with
  | nil => simp [Text.trim, trimmed] at given
  | cons c rest =>
    rw [trimmed] at eq
    have starts : isGap c = false := by
      rw [Bool.eq_false_iff]
      intro gap
      have blank := Text.head_trimBy trimmed
      rw [isBlank_of_isGap gap] at blank
      cases blank
    simpa using ne_nil_of_scan starts eq

end Words

/-! ## Plans -/

namespace Plan

variable {t : FileTree} {handlers : Registry} {c : Config} {cwd : Path} {mode : Mode}
  {verbose : Bool} {w : Workspace} {plan : Plan}

theorem eq_call_of_handler {kind : ParserKind} (made : ofHandler kind handlers = .ok plan) :
    ∃ h, plan = .call h := by
  unfold ofHandler at made
  cases found : handlers.handler? kind with
  | none => rw [found] at made; cases made
  | some h =>
    rw [found] at made
    cases made
    exact ⟨h, rfl⟩

theorem eq_custom_of_command {command : Option String} (made : ofCommand command = .ok plan) :
    ∃ words notice, words ≠ [] ∧ plan = .custom words notice := by
  simp only [ofCommand] at made
  split at made
  · cases made
  · next given =>
    split at made
    · next words split =>
      cases made
      exact ⟨_, _, Words.split_trim_ne_nil (by simpa using given) split, rfl⟩
    · cases made

theorem eq_fixed_of_gradle (made : ofGradle t c cwd mode verbose w = .ok plan) :
    ∃ words, words ≠ [] ∧ plan = .fixed words .files := by
  simp only [ofGradle, bind_eq_ok] at made
  obtain ⟨wrapper, -, requestFile, -, outputDir, -, made⟩ := made
  cases made
  exact ⟨_, List.cons_ne_nil _ _, rfl⟩

/-- The kind of a parser decides how its plan asks it. -/
theorem ofConfig_ok (made : ofConfig t handlers c cwd mode verbose w = .ok plan) :
    (c.parser.inProcess = true ∧ ∃ h, plan = .call h) ∨
      (c.parser = .compose ∧ plan.words ≠ [] ∧ plan.kind ≠ .inProcess ∧
        plan.transport = .files) ∨
      (c.parser.inProcess = false ∧ c.parser ≠ .compose ∧ plan.words ≠ [] ∧
        plan.kind ≠ .inProcess ∧ plan.transport = .pipes) := by
  unfold ofConfig at made
  cases kind : c.parser with
  | react | html =>
    simp only [kind, mapError_eq_ok] at made
    exact .inl ⟨rfl, eq_call_of_handler made⟩
  | swift | unitTest =>
    simp only [kind] at made
    cases made
    exact .inr (.inr ⟨rfl, by simp, List.cons_ne_nil _ _, by simp [Plan.kind], rfl⟩)
  | compose =>
    simp only [kind] at made
    obtain ⟨words, given, rfl⟩ := eq_fixed_of_gradle made
    exact .inr (.inl ⟨rfl, given, by simp [Plan.kind], rfl⟩)
  | custom =>
    simp only [kind, mapError_eq_ok] at made
    obtain ⟨words, notice, given, rfl⟩ := eq_custom_of_command made
    exact .inr (.inr ⟨rfl, by simp, given, by simp [Plan.kind], rfl⟩)

/-- The handler that a plan calls is the one of its parser. -/
theorem handler?_of_call {h : Handler} (made : ofConfig t handlers c cwd mode verbose w = .ok (.call h)) :
    handlers.handler? c.parser = some h := by
  unfold ofConfig at made
  cases kind : c.parser with
  | react | html =>
    simp only [kind, mapError_eq_ok, ofHandler] at made
    split at made
    · next found =>
      cases made
      exact found
    · cases made
  | swift | unitTest =>
    simp only [kind] at made
    cases made
  | compose =>
    simp only [kind] at made
    obtain ⟨words, -, same⟩ := eq_fixed_of_gradle made
    cases same
  | custom =>
    simp only [kind, mapError_eq_ok] at made
    obtain ⟨words, notice, -, same⟩ := eq_custom_of_command made
    cases same

theorem words_ne_nil (made : ofConfig t handlers c cwd mode verbose w = .ok plan)
    (command : plan.kind ≠ .inProcess) : plan.words ≠ [] := by
  rcases ofConfig_ok made with ⟨-, h, rfl⟩ | ⟨-, given, -, -⟩ | ⟨-, -, given, -, -⟩
  · exact absurd rfl command
  · exact given
  · exact given

end Plan

end ParserHost
