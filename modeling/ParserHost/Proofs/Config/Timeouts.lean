import ParserHost.CommandLine.Inputs
import ParserHost.Proofs.Config.PassThrough

/-!
# Timeouts that settings come with

A timeout is given or comes from the environment (`Offered`), and whatever else settings are made from has no part
in it (`ofValues_timeout_iff`). From the environment it is more than zero or there is none; what is given has only to
be not at most zero, so it may be no number (`accepted_timeouts`).
-/

namespace ParserHost

/-! ## Texts that name no number -/

namespace Literal

variable {cs : List Char} {s : String}

def NamesNaN (cs : List Char) : Prop :=
  lower (sign cs).2 = ['n', 'a', 'n']

/-- A text that is read as no number: its name with white space around it, or else with single underscores in it. -/
def ReadsNaN (s : String) : Prop :=
  NamesNaN (Text.trimBy Text.isWhite s.toList) ∨
    plainFloat? (Text.trimBy Text.isWhite s.toList) = none ∧
      ∃ cs, Underscores.single.drop s.toList = some cs ∧ NamesNaN cs

theorem ofUnits_ne_nan (negative : Bool) (num den : Nat) : Double.ofUnits negative num den ≠ .nan := by
  unfold Double.ofUnits
  dsimp only
  split <;> nofun

theorem ofDecimal_ne_nan (negative : Bool) (digits : Nat) (exponent : Int) :
    Double.ofDecimal negative digits exponent ≠ .nan := by
  unfold Double.ofDecimal
  dsimp only
  split
  · nofun
  · split
    · nofun
    · split
      · nofun
      · split <;> exact ofUnits_ne_nan _ _ _

/-- Digits, a point and an exponent never stand for no number; only its name does. -/
theorem plainFloat?_eq_nan_iff : plainFloat? cs = some .nan ↔ NamesNaN cs := by
  unfold plainFloat? NamesNaN
  dsimp only
  split
  · next infinite =>
    simp only [Bool.or_eq_true, decide_eq_true_eq] at infinite
    rcases infinite with word | word <;> simp [word]
  · split
    · next word => simp [word]
    · next other =>
      refine iff_of_false (fun read => ?_) other
      -- with digits behind a point, and without
      split at read
      all_goals
        split at read
        · cases read
        · obtain ⟨exponent, -, none⟩ := Option.map_eq_some_iff.1 read
          exact ofDecimal_ne_nan _ _ _ none

theorem asciiFloat?_eq_nan_iff : asciiFloat? s = some .nan ↔ ReadsNaN s := by
  unfold asciiFloat? ReadsNaN
  split
  · next x read => rw [read, ← plainFloat?_eq_nan_iff, read]; simp
  · next unread =>
    rw [← plainFloat?_eq_nan_iff, unread, Option.bind_eq_some_iff]
    simp [plainFloat?_eq_nan_iff]

end Literal

/-! ## Entries that are left out -/

namespace Json

theorem get?_erase {key other : String} (differ : other ≠ key) (e : Entries) :
    get? other (erase key e) = get? other e := by
  induction e with
  | nil => rfl
  | cons m rest ih =>
    obtain ⟨k, v⟩ := m
    rw [erase] at ih ⊢
    by_cases same : k = key
    · rw [List.filter_cons_of_neg (by simp [same]), ih, get?, if_neg (same ▸ differ.symm)]
    · rw [List.filter_cons_of_pos (by simp [same]), get?, get?, ih]

theorem get?_erase_self (key : String) (e : Entries) : get? key (erase key e) = none := by
  rw [get?_eq_none_iff]
  simp [keys, erase]

end Json

open Schema

namespace Settings

variable {cwd : Path} {raw : Option String} {e : Json.Entries} {s : Settings} {v : Json} {t default : Option Double}

/-! ## What is offered -/

inductive Offered : Option String → Option Json → Option Double → Prop
  | unset : Offered none none none
  | blank {text : String} (blank : Text.allBlank text = true) : Offered (some text) none none
  | dropped {text : String} {x : Double} (filled : Text.allBlank text = false)
      (read : Literal.anyFloat? text = some x) (other : x.positive = false) : Offered (some text) none none
  | fromVariable {text : String} {x : Double} (filled : Text.allBlank text = false)
      (read : Literal.anyFloat? text = some x) (positive : x.positive = true) : Offered (some text) none (some x)
  | null (raw : Option String) : Offered raw (some .null) none
  | given {v : Json} {x : Double} (raw : Option String) (read : number v = .ok x) (positive : x.positive = true) :
      Offered raw (some v) (some x)
  | notNumber {v : Json} (raw : Option String) (read : number v = .ok .nan) : Offered raw (some v) (some .nan)

def StandsForNaN (v : Json) : Prop :=
  v = .float .nan ∨ ∃ text, v = .str text ∧ Literal.ReadsNaN text

theorem ofInt_ne_nan (n : Int) : Double.ofInt n ≠ .nan :=
  Literal.ofUnits_ne_nan _ _ _

theorem number_eq_nan_iff : number v = .ok .nan ↔ StandsForNaN v := by
  unfold StandsForNaN
  cases v with
  | str text =>
    rw [number]
    simp only [reduceCtorEq, false_or, Json.str.injEq, exists_eq_left', ← Literal.asciiFloat?_eq_nan_iff]
    cases Literal.asciiFloat? text <;> simp [Checked.fail]
  | int n =>
    rw [number]
    split <;> simp [ofInt_ne_nan, Checked.fail]
  | bool b => simp [number, ofInt_ne_nan]
  | float x => simp [number]
  | null | broken | arr | obj => simp [number, Checked.fail]

theorem nonPositive_eq_false_iff {x : Double} : x.nonPositive = false ↔ x.positive = true ∨ x = .nan := by
  cases x <;> simp [Double.nonPositive, Double.positive]

theorem offered_given_iff : Offered raw (some v) t ↔ seconds v = .ok t := by
  constructor
  · intro offered
    unfold seconds
    cases offered with
    | null => rfl
    | given _ read positive =>
      have kept := nonPositive_eq_false_iff.2 (.inl positive)
      have some : v ≠ .null := by rintro rfl; cases read
      rw [Config.nullable_eq_ok.2 (.inr ⟨some, _, read, rfl⟩)]
      simp [kept]
    | notNumber _ read =>
      have some : v ≠ .null := by rintro rfl; cases read
      rw [Config.nullable_eq_ok.2 (.inr ⟨some, _, read, rfl⟩)]
      rfl
  · intro fits
    unfold seconds at fits
    split at fits
    · next x read =>
      split at fits
      · cases fits
      · next kept =>
        cases fits
        obtain ⟨-, absurd⟩ | ⟨-, y, number, same⟩ := Config.nullable_eq_ok.1 read
        · cases absurd
        · cases same
          rcases nonPositive_eq_false_iff.1 (by simpa using kept) with positive | rfl
          · exact .given raw number positive
          · exact .notNumber raw number
    · next refused =>
      obtain ⟨rfl, rfl⟩ | ⟨-, y, -, rfl⟩ := Config.nullable_eq_ok.1 fits
      · exact .null raw
      · exact absurd fits (refused y)

theorem offered_variable_iff : Offered raw none t ↔ timeoutFrom raw = .ok t := by
  constructor
  · intro offered
    cases offered with
    | unset => rfl
    | blank blank => simp [timeoutFrom, blank]
    | dropped filled read other => simp [timeoutFrom, filled, read, other]
    | fromVariable filled read positive => simp [timeoutFrom, filled, read, positive]
  · intro found
    unfold timeoutFrom at found
    split at found
    · cases found
      exact .unset
    · split at found
      · next blank =>
        cases found
        exact .blank blank
      · next filled =>
        rw [Bool.not_eq_true] at filled
        split at found
        · next x read =>
          cases found
          split
          · next positive => exact .fromVariable filled read positive
          · next other => exact .dropped filled read (by simpa using other)
        · cases found

/-! ## What settings are made from -/

structure Accepted (cwd : Path) (timeout : Option Double) (e : Json.Entries) (s : Settings) : Prop where
  cwd : withDefault e (word "cwd") cwd path = .ok s.cwd
  verbose : withDefault e (word "verbose") false boolean = .ok s.verbose
  timeout : withDefault e (word "timeout") timeout seconds = .ok s.timeout
  repositoryUrl : Schema.optional e (word "repository_url") string = .ok s.repositoryUrl
  label : Schema.optional e (word "label") string = .ok s.label
  cliVersion : withDefault e (word "cli_version") version string = .ok s.cliVersion
  useEmoji : withDefault e (word "use_emoji") true boolean = .ok s.useEmoji

theorem fields_eq_ok_iff : fields cwd t e = .ok s ↔ Accepted cwd t e s := by
  constructor
  · intro accepted
    simp only [fields, seq_eq_ok_iff, fmap_eq_ok_iff] at accepted
    obtain ⟨_, _, ⟨_, _, ⟨_, _, ⟨_, _, ⟨_, _, ⟨_, _, ⟨_, cwd, rfl⟩, verbose, rfl⟩, timeout, rfl⟩,
      repositoryUrl, rfl⟩, label, rfl⟩, cliVersion, rfl⟩, useEmoji, rfl⟩ := accepted
    exact ⟨cwd, verbose, timeout, repositoryUrl, label, cliVersion, useEmoji⟩
  · intro a
    exact seq_eq_ok (seq_eq_ok (seq_eq_ok (seq_eq_ok (seq_eq_ok (seq_eq_ok (fmap_eq_ok a.cwd) a.verbose)
      a.timeout) a.repositoryUrl) a.label) a.cliVersion) a.useEmoji

section
variable {α : Type} {check : Json → Checked α} {a default : α} {key : String}

theorem withDefault_erase (differ : key ≠ "timeout") :
    withDefault (Json.erase "timeout" e) (word key) default check = withDefault e (word key) default check := by
  rw [withDefault, withDefault, find?_word, find?_word, Json.get?_erase differ]

theorem withDefault_of_none (missing : Json.get? key e = none) :
    withDefault e (word key) default check = .ok default := by
  rw [withDefault, find?_word, missing]
  rfl

theorem withDefault_of_some (given : Json.get? key e = some v) :
    withDefault e (word key) default check = .ok a ↔ check v = .ok a := by
  rw [withDefault, find?_word, given]
  exact below_eq_ok

end

theorem timeout_erased (e : Json.Entries) :
    withDefault (Json.erase "timeout" e) (word "timeout") none seconds = .ok none :=
  withDefault_of_none (Json.get?_erase_self "timeout" e)

/-- The timeout is accepted apart from everything else. -/
theorem accepted_iff : Accepted cwd t e s ↔ Accepted cwd none (Json.erase "timeout" e) { s with timeout := none } ∧
    withDefault e (word "timeout") t seconds = .ok s.timeout := by
  constructor
  · intro a
    exact ⟨⟨(withDefault_erase (by decide)).trans a.cwd, (withDefault_erase (by decide)).trans a.verbose,
      timeout_erased e, (withDefault_erase (by decide)).trans a.repositoryUrl,
      (withDefault_erase (by decide)).trans a.label, (withDefault_erase (by decide)).trans a.cliVersion,
      (withDefault_erase (by decide)).trans a.useEmoji⟩, a.timeout⟩
  · rintro ⟨a, timeout⟩
    exact ⟨(withDefault_erase (by decide)).symm.trans a.cwd, (withDefault_erase (by decide)).symm.trans a.verbose,
      timeout, (withDefault_erase (by decide)).symm.trans a.repositoryUrl,
      (withDefault_erase (by decide)).symm.trans a.label, (withDefault_erase (by decide)).symm.trans a.cliVersion,
      (withDefault_erase (by decide)).symm.trans a.useEmoji⟩

theorem fits_fields_iff : (∃ s, fields cwd default e = .ok s ∧ s.timeout = t) ↔
    (∃ s, fields cwd none (Json.erase "timeout" e) = .ok s) ∧
      withDefault e (word "timeout") default seconds = .ok t := by
  constructor
  · rintro ⟨s, made, rfl⟩
    obtain ⟨others, timeout⟩ := accepted_iff.1 (fields_eq_ok_iff.1 made)
    exact ⟨⟨_, fields_eq_ok_iff.2 others⟩, timeout⟩
  · rintro ⟨⟨s, made⟩, timeout⟩
    have others := fields_eq_ok_iff.1 made
    have unset : s.timeout = none := (Checked.ok.inj ((timeout_erased e).symm.trans others.timeout)).symm
    have same : { s with timeout := none } = s := by rw [← unset]
    have all : Accepted cwd default e { s with timeout := t } := accepted_iff.2 ⟨by rwa [same], timeout⟩
    exact ⟨_, fields_eq_ok_iff.2 all, rfl⟩

/-- The timeout where the values have none; the environment is looked at only then. -/
def fallback (raw : Option String) : Option Json → Except RunError (Option Double)
  | some _ => .ok none
  | none => timeoutFrom raw

theorem ofValues_eq : ofValues cwd raw e =
    ((fallback raw (Json.get? "timeout" e)).mapError Failure.run).bind fun default =>
      (fields cwd default e).toExcept.mapError fun vs => .fault (.invalid vs) := by
  unfold ofValues
  cases Json.get? "timeout" e with
  | some v => rfl
  | none =>
    rw [fallback]
    cases timeoutFrom raw <;> rfl

theorem ofValues_eq_ok_iff : ofValues cwd raw e = .ok s ↔
    ∃ default, fallback raw (Json.get? "timeout" e) = .ok default ∧ fields cwd default e = .ok s := by
  rw [ofValues_eq]
  cases fallback raw (Json.get? "timeout" e) with
  | error err => simp [Except.mapError, Except.bind]
  | ok default =>
    simp only [Except.mapError, Except.bind, Except.ok.injEq, exists_eq_left']
    cases fields cwd default e <;> simp [Checked.toExcept]

theorem ofValues_timeout_iff : (∃ s, ofValues cwd raw e = .ok s ∧ s.timeout = t) ↔
    (∃ s, ofValues cwd none (Json.erase "timeout" e) = .ok s) ∧ Offered raw (Json.get? "timeout" e) t := by
  have others : (∃ s, ofValues cwd none (Json.erase "timeout" e) = .ok s) ↔
      ∃ s, fields cwd none (Json.erase "timeout" e) = .ok s := by
    simp [ofValues_eq_ok_iff, Json.get?_erase_self, fallback, timeoutFrom]
  rw [others]
  simp only [ofValues_eq_ok_iff]
  cases given : Json.get? "timeout" e with
  | some v =>
    have read : withDefault e (word "timeout") none seconds = .ok t ↔ seconds v = .ok t := withDefault_of_some given
    rw [offered_given_iff, ← read, ← fits_fields_iff]
    simp [fallback]
  | none =>
    rw [offered_variable_iff]
    constructor
    · rintro ⟨s, ⟨default, found, made⟩, same⟩
      obtain ⟨rest, timeout⟩ := fits_fields_iff.1 ⟨s, made, same⟩
      rw [withDefault_of_none given, Checked.ok.injEq] at timeout
      exact ⟨rest, timeout ▸ found⟩
    · rintro ⟨rest, found⟩
      obtain ⟨s, made, same⟩ := fits_fields_iff.2 ⟨rest, withDefault_of_none given⟩
      exact ⟨s, ⟨t, found, made⟩, same⟩

end Settings

/-! ## Settings of a command -/

namespace CommandLine

variable {h : Host} {project : Path} {verbose emoji : Bool} {given : Option Json} {label : Option String}
  {s : Settings} {t : Option Double}

def optionValues (project : Path) (verbose emoji : Bool) (given : Option Json) (label : Option String) :
    Json.Entries :=
  Json.record [
    ("cwd", some (.str project.text)),
    ("verbose", some (.bool verbose)),
    ("use_emoji", some (.bool emoji)),
    ("timeout", given),
    ("label", (RunError.given? label).map .str)]

theorem settings_eq_ok_iff : settings h project verbose emoji given label = .ok s ↔
    Settings.ofValues h.directory (h.environment.lookup Settings.timeoutVariable)
      (optionValues project verbose emoji given label) = .ok s := by
  unfold settings optionValues
  dsimp only
  split
  · next made => rw [made, Except.ok.injEq, Except.ok.injEq]
  · next refused => simp [refused]
  · next refused => simp [refused]

theorem settings_timeout_iff :
    (∃ s, settings h project verbose emoji given label = .ok s ∧ s.timeout = t) ↔
      Settings.Offered (h.environment.lookup Settings.timeoutVariable) given t := by
  have others : ∃ s, Settings.ofValues h.directory none
      (Json.erase "timeout" (optionValues project verbose emoji given label)) = .ok s := by
    unfold optionValues
    cases given <;> cases RunError.given? label <;> exact ⟨_, rfl⟩
  have timeout : Json.get? "timeout" (optionValues project verbose emoji given label) = given :=
    Json.get?_record_of_mem (by simp) (by simp)
  simp only [settings_eq_ok_iff, Settings.ofValues_timeout_iff, timeout]
  exact and_iff_right others

end CommandLine

/-- What is offered for a timeout is what settings are made with, provided that all else is accepted; a command has
nothing else that could be refused. Every timeout that is offered is more than zero, or it is no number, and that
only comes from a value that is read as no number. -/
theorem Settings.accepted_timeouts (cwd : Path) (raw : Option String) (e : Json.Entries) (h : Host) (project : Path)
    (verbose emoji : Bool) (given : Option Json) (label : Option String) (t : Option Double) :
    ((∃ s, ofValues cwd raw e = .ok s ∧ s.timeout = t) ↔
        (∃ s, ofValues cwd none (Json.erase "timeout" e) = .ok s) ∧ Offered raw (Json.get? "timeout" e) t) ∧
      ((∃ s, CommandLine.settings h project verbose emoji given label = .ok s ∧ s.timeout = t) ↔
        Offered (h.environment.lookup timeoutVariable) given t) ∧
      (∀ raw given x, Offered raw given (some x) → x.positive = true ∨ x = .nan) ∧
      (∀ raw given, Offered raw given (some .nan) ↔ ∃ v, given = some v ∧ StandsForNaN v) := by
  refine ⟨ofValues_timeout_iff, CommandLine.settings_timeout_iff, fun raw given x offered => ?_,
    fun raw given => ⟨fun offered => ?_, ?_⟩⟩
  · cases offered with
    | fromVariable _ _ positive | given _ _ positive => exact .inl positive
    | notNumber => exact .inr rfl
  · cases offered with
    | fromVariable _ _ positive | given _ _ positive => cases positive
    | notNumber _ read => exact ⟨_, rfl, number_eq_nan_iff.1 read⟩
  · rintro ⟨v, rfl, stands⟩
    exact .notNumber raw (number_eq_nan_iff.2 stands)

/-- The text `nan` is taken as a timeout, and that is not more than zero. -/
theorem Settings.nan_accepted :
    ∃ s, ofValues (Path.parse "/project") none [("timeout", .str "nan")] = .ok s ∧
      s.timeout = some .nan ∧ Double.nan.positive = false :=
  ⟨_, rfl, rfl, rfl⟩

end ParserHost
