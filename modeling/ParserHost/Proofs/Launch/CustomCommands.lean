import ParserHost.Proofs.Launch.Plans

/-!
# Commands of a project's own

A joined command line neither starts nor ends with a blank, since every word does so that holds one
(`trim_join`). So a command comes through its line unchanged, whatever blanks stand around the line, and every
command that is planned is described by a line that can be split into it again (`custom_commands`).
-/

namespace ParserHost

namespace Words

variable {c : Char} {cs : List Char} {w : List Char} {words : List (List Char)}

/-! ## The ends of a joined line -/

theorem toNat_of_isAlphanum (letter : c.isAlphanum = true) :
    ('A'.toNat ≤ c.toNat ∧ c.toNat ≤ 'Z'.toNat) ∨ ('a'.toNat ≤ c.toNat ∧ c.toNat ≤ 'z'.toNat) ∨
      ('0'.toNat ≤ c.toNat ∧ c.toNat ≤ '9'.toNat) := by
  rcases Bool.or_eq_true_iff.1 letter with alpha | digit
  · rcases Bool.or_eq_true_iff.1 alpha with upper | lower
    · exact .inl (of_decide_eq_true upper)
    · exact .inr (.inl ((Bool.and_eq_true_iff.1 lower).imp of_decide_eq_true of_decide_eq_true))
  · exact .inr (.inr ((Bool.and_eq_true_iff.1 digit).imp of_decide_eq_true of_decide_eq_true))

theorem toNat_of_isSafe (safe : isSafe c = true) : 0x21 ≤ c.toNat ∧ c.toNat ≤ 0x7e := by
  rw [isSafe, Bool.or_eq_true] at safe
  rcases safe with letter | mark
  · have spans := toNat_of_isAlphanum letter
    simp only [Char.reduceToNat] at spans
    omega
  · simp only [List.contains_iff_mem, List.mem_cons, List.not_mem_nil, or_false] at mark
    rcases mark with rfl | rfl | rfl | rfl | rfl | rfl | rfl | rfl | rfl | rfl <;> decide

theorem isBlank_of_isSafe (safe : isSafe c = true) : Text.isBlank c = false := by
  obtain ⟨low, high⟩ := toNat_of_isSafe safe
  simp only [Text.isBlank, Text.isWhite, Bool.or_eq_false_iff, Bool.and_eq_false_imp, decide_eq_true_eq,
    decide_eq_false_iff_not, beq_eq_false_iff_ne]
  omega

structure Trimmed (cs : List Char) : Prop where
  nonempty : cs ≠ []
  head : ∀ c ∈ cs.head?, Text.isBlank c = false
  last : ∀ c ∈ cs.getLast?, Text.isBlank c = false

theorem trimmed_of_all (given : cs ≠ []) (clear : ∀ c ∈ cs, Text.isBlank c = false) : Trimmed cs :=
  ⟨given, fun c first => clear c (List.mem_of_mem_head? first),
    fun c final => clear c (List.mem_of_mem_getLast? final)⟩

theorem trimmed_between {front back : Char} (first : Text.isBlank front = false)
    (final : Text.isBlank back = false) (cs : List Char) : Trimmed (front :: cs ++ [back]) := by
  refine ⟨List.cons_ne_nil _ _, fun c head => ?_, fun c last => ?_⟩
  · obtain rfl : front = c := by simpa using head
    exact first
  · rw [List.getLast?_concat] at last
    obtain rfl := Option.some.inj last
    exact final

theorem trimmed_quoted (cs : List Char) : Trimmed (quoted cs) := by
  unfold quoted
  split
  · exact trimmed_between rfl rfl []
  · next given =>
    split
    · next safe =>
      rw [List.all_eq_true] at safe
      exact trimmed_of_all (by simpa using given) fun c member => isBlank_of_isSafe (safe c member)
    · exact trimmed_between rfl rfl _

theorem Trimmed.append {front back : List Char} (first : Trimmed front) (final : Trimmed back)
    (between : List Char) : Trimmed (front ++ (between ++ back)) := by
  refine ⟨List.append_ne_nil_of_left_ne_nil first.nonempty _, fun c head => first.head c ?_,
    fun c last => final.last c ?_⟩
  · rw [List.head?_append] at head
    cases begun : front.head? with
    | none => exact absurd (List.head?_eq_none_iff.1 begun) first.nonempty
    | some d => simpa [begun] using head
  · rw [← List.append_assoc, List.getLast?_append] at last
    cases ended : back.getLast? with
    | none => exact absurd (List.getLast?_eq_none_iff.1 ended) final.nonempty
    | some d => simpa [ended] using last

theorem trimmed_joinChars (given : words ≠ []) : Trimmed (joinChars words) := by
  induction words with
  | nil => exact absurd rfl given
  | cons w rest ih =>
    cases rest with
    | nil => exact trimmed_quoted w
    | cons v rest => exact (trimmed_quoted w).append (ih (List.cons_ne_nil v rest)) [' ']

theorem trim_join {words : List String} (given : words ≠ []) : Text.trim (join words) = join words := by
  have ends : Trimmed (joinChars (words.map String.toList)) := trimmed_joinChars (by simpa using given)
  refine Text.trim_of_ends ?_ ?_
  · rw [join, String.toList_ofList]
    exact ends.head
  · rw [join, String.toList_ofList]
    exact ends.last

theorem join_ne_empty {words : List String} (given : words ≠ []) : join words ≠ "" := by
  have ends : Trimmed (joinChars (words.map String.toList)) := trimmed_joinChars (by simpa using given)
  intro empty
  rw [join, ← String.toList_inj, String.toList_ofList] at empty
  exact ends.nonempty empty

end Words

/-! ## The plan of a command -/

namespace Plan

variable {c : Config} {line : String} {words : List String} {raw : Option String}

/-- There is no plan for a line that is blank or cannot be split, and this is an error of the configuration. -/
theorem ofCommand_cases (raw : Option String) :
    (∃ err, ofCommand raw = .error err ∧ err.kind = "ConfigError" ∧
      (Text.allBlank (raw.getD "") = true ∨ ∃ u, Words.split (Text.trim (raw.getD "")) = .error u)) ∨
    ∃ words notice, ofCommand raw = .ok (.custom words notice) ∧ words ≠ [] ∧
      Words.split (Text.trim (raw.getD "")) = .ok words := by
  simp only [ofCommand]
  cases given : (Text.trim (raw.getD "")).isEmpty with
  | true => exact .inl ⟨_, rfl, rfl, .inl (Text.isEmpty_trim_iff.1 given)⟩
  | false =>
    cases split : Words.split (Text.trim (raw.getD "")) with
    | error u => exact .inl ⟨_, rfl, rfl, .inr ⟨u, rfl⟩⟩
    | ok words => exact .inr ⟨words, _, rfl, Words.split_trim_ne_nil given split, rfl⟩

theorem ofCommand_of_padded (given : words ≠ []) (padded : Text.Padded (Words.join words) line) :
    ∃ notice, ofCommand (some line) = .ok (.custom words notice) := by
  have trimmed : Text.trim line = Words.join words := Text.trim_of_padded padded (Words.trim_join given)
  have split : Words.split (Text.trim line) = .ok words := by rw [trimmed, Words.split_join]
  rcases ofCommand_cases (some line) with ⟨err, -, -, blank | ⟨u, failed⟩⟩ | ⟨words', notice, made, -, split'⟩
  · rw [Option.getD_some, ← Text.isEmpty_trim_iff, trimmed, String.isEmpty_iff] at blank
    exact absurd blank (Words.join_ne_empty given)
  · cases split.symm.trans failed
  · cases split.symm.trans split'
    exact ⟨notice, made⟩

/-- The command of a project's own is the one whose words were joined to its line, whatever blanks stand around
it, and is asked through pipes. Any line at all is planned as a command with a word, whose description can be
split into it again, or is an error of the configuration, for being blank or for ending inside a quotation or
an escape. -/
theorem custom_commands {c : Config} (custom : c.parser = .custom) (t : FileTree) (handlers : Registry)
    (cwd : Path) (mode : Mode) (verbose : Bool) (w : Workspace) :
    (∀ words line, words ≠ [] → Text.Padded (Words.join words) line → c.parserCommand = some line →
      ∃ plan, ofConfig t handlers c cwd mode verbose w = .ok plan ∧ plan.kind = .customCommand ∧
        plan.words = words ∧ plan.transport = .pipes) ∧
    ((∃ err, ofConfig t handlers c cwd mode verbose w = .error (.run err) ∧ err.kind = "ConfigError" ∧
        (Text.allBlank (c.parserCommand.getD "") = true ∨
          ∃ u, Words.split (Text.trim (c.parserCommand.getD "")) = .error u)) ∨
      ∃ plan, ofConfig t handlers c cwd mode verbose w = .ok plan ∧ plan.kind = .customCommand ∧
        plan.words ≠ [] ∧ plan.transport = .pipes ∧ Words.split plan.describe = .ok plan.words) := by
  have planned : ofConfig t handlers c cwd mode verbose w = (ofCommand c.parserCommand).mapError .run := by
    rw [ofConfig, custom]
  rw [planned]
  refine ⟨fun words line given padded configured => ?_, ?_⟩
  · obtain ⟨notice, made⟩ := ofCommand_of_padded given padded
    rw [configured, made]
    exact ⟨_, rfl, rfl, rfl, rfl⟩
  · rcases ofCommand_cases c.parserCommand with ⟨err, failed, kind, cause⟩ | ⟨words, notice, made, given, -⟩
    · rw [failed]
      exact .inl ⟨err, rfl, kind, cause⟩
    · rw [made]
      exact .inr ⟨_, rfl, rfl, given, rfl, Words.split_join words⟩

def quotedCommand : Config :=
  ⟨.custom, some "\u2003'my parser' '' 'it'\"'\"'s\u00a0' --raw\n", none, none, none, none, none, none, none,
    none, none, []⟩

theorem custom_commands_of_quotedCommand :
    quotedCommand.parser = .custom ∧
    Text.Padded (Words.join ["my parser", "", "it's\u00a0", "--raw"])
      "\u2003'my parser' '' 'it'\"'\"'s\u00a0' --raw\n" ∧
    ∃ plan, ofConfig .empty [] quotedCommand (.absolute ["home"]) .parse false ⟨.absolute ["tmp"], none⟩ = .ok plan ∧
      plan.kind = .customCommand ∧ plan.words = ["my parser", "", "it's\u00a0", "--raw"] ∧
      plan.transport = .pipes := by
  have joined : Words.join ["my parser", "", "it's\u00a0", "--raw"] =
      "'my parser' '' 'it'\"'\"'s\u00a0' --raw" := by
    decide +kernel
  have padded : Text.Padded (Words.join ["my parser", "", "it's\u00a0", "--raw"])
      "\u2003'my parser' '' 'it'\"'\"'s\u00a0' --raw\n" := by
    rw [joined]
    exact .intro "\u2003" "\n" (by decide) (by decide)
  obtain ⟨plans, -⟩ := custom_commands (c := quotedCommand) rfl .empty [] (.absolute ["home"]) .parse false
    ⟨.absolute ["tmp"], none⟩
  exact ⟨rfl, padded, plans _ _ (by simp) padded rfl⟩

end Plan

end ParserHost
