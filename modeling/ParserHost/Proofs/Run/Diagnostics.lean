import ParserHost.Proofs.Exchange.Payloads
import ParserHost.Proofs.Json.Portable
import ParserHost.Proofs.Json.Printed
import ParserHost.Proofs.Launch.Plans
import ParserHost.Proofs.Launch.Workspaces
import ParserHost.Proofs.Run.Messages

/-!
# Diagnostics

What a parser's process writes to standard error is taken up line by line. A line that carries a message
is that message, however its text is spelled and whatever blanks stand around it (`ofLine_of_carries`,
`carries_of_spells`); any other line is information, word for word. So messages arrive as they were
written, whatever line ends and blank lines stand between them (`diagnostics_arrive`).
-/

namespace ParserHost

open Text (isBlank isEnd visible)

/-! ## Objects in text -/

namespace Json

variable {d : Dialect} {fuel room : Nat} {cs rest : List Char} {e : Entries} {v : Json}

theorem SpellsMembers.getLast_eq : {e : Entries} → {cs : List Char} → SpellsMembers d room e cs →
    cs.getLast? = some '\x7d'
  | _, _, .last _ => List.getLast?_concat
  | _, _, @SpellsMembers.cons _ _ _ _ _ more _ others => by
    have last := others.getLast_eq
    cases more with
    | nil => cases last
    | cons c more => simpa [List.getLast?_append] using last

/-- The text of an object stands between its brackets. -/
theorem Spells.braces (spells : Spells d room v cs) (object : v = obj e) :
    cs.head? = some '\x7b' ∧ cs.getLast? = some '\x7d' := by
  cases spells with
  | noMembers blank => exact ⟨rfl, List.getLast?_concat⟩
  | @members _ _ text members =>
    refine ⟨rfl, ?_⟩
    have last := members.getLast_eq
    cases text with
    | nil => cases last
    | cons c text => simpa using last
  | string quoted =>
    unfold stringOf at object
    split at object <;> cases object
  | null | true | false | int | float | noItems | items => cases object

theorem number_ne_obj {negative : Bool} {start : List Char} :
    number d negative start cs ≠ .ok (obj e, rest) := by
  intro read
  rw [number_eq] at read
  dsimp only at read
  repeat' split at read
  all_goals cases read

theorem brace_of_value (read : value d fuel room cs = .ok (obj e, rest)) : cs.head? = some '\x7b' := by
  cases fuel with
  | zero => cases read
  | succ fuel =>
    unfold value at read
    split at read
    · split at read
      · unfold stringOf at read
        split at read <;> cases read
      · cases read
    · dsimp only at read
      repeat' split at read
      all_goals cases read
    · rfl
    · obtain ⟨word, named, -⟩ | ⟨more, -, read⟩ | read := atom_eq_ok read
      · cases named
      · exact absurd read number_ne_obj
      · exact absurd read number_ne_obj

/-- What is read as an object starts with its bracket, unless it starts with a blank. -/
theorem brace_of_readChars (read : readChars d cs = .ok (obj e)) (head : ∀ c ∈ cs.head?, isSpace c = false) :
    cs.head? = some '\x7b' := by
  have skipped : skipSpace cs = cs := by
    cases cs with
    | nil => rfl
    | cons c cs => exact skipSpace_cons (head c rfl) cs
  unfold readChars at read
  split at read
  · cases read
  · rw [skipped] at read
    split at read
    · cases read
    · next taken =>
      split at read
      · cases read
        exact brace_of_value taken
      · cases read

end Json

/-! ## Lines -/

namespace Message

variable {line : String} {m : Message} {ms : List Message} {cs : List Char}

/-- A line carries a message: without the blanks around it, it is the text of a value that is one. -/
def Carries (line : String) (m : Message) : Prop :=
  ∃ v, Json.readStrict? (Text.trim line) = some v ∧ check v = .ok m

theorem isBlank_of_isSpace {c : Char} (space : Json.isSpace c = true) : isBlank c = true := by
  rcases Json.eq_of_isSpace space with rfl | rfl | rfl | rfl <;> rfl

theorem startsWith_of_head {s : String} {c : Char} (head : s.toList.head? = some c) :
    Text.startsWith (String.ofList [c]) s = true := by
  obtain ⟨rest, text⟩ := List.head?_eq_some_iff.1 head
  have split : s.toList = (String.ofList [c]).toList ++ rest := by
    rw [text, String.toList_ofList, List.singleton_append]
  rw [Text.startsWith, Text.dropPart?_eq_some_iff.2 split]
  rfl

theorem brace_of_carries (carries : Carries line m) :
    Text.startsWith "\x7b" (Text.trim line) = true := by
  obtain ⟨v, read, fits⟩ := carries
  have object : ∃ e, v = .obj e := by
    cases v with
    | obj e => exact ⟨e, rfl⟩
    | _ => cases fits
  obtain ⟨e, rfl⟩ := object
  refine startsWith_of_head (Json.brace_of_readChars (toOption_eq_some.1 read) fun c head => ?_)
  rw [Text.trim, String.toList_ofList] at head
  obtain ⟨rest, trimmed⟩ := List.head?_eq_some_iff.1 head
  rw [Bool.eq_false_iff]
  intro space
  have blank := Text.head_trimBy trimmed
  rw [isBlank_of_isSpace space] at blank
  cases blank

theorem ofLine_of_carries (carries : Carries line m) : ofLine line = m := by
  have brace := brace_of_carries carries
  obtain ⟨v, read, fits⟩ := carries
  unfold ofLine
  dsimp only
  rw [brace, read, Option.map_some, fits]
  rfl

theorem ofLine_of_other (other : ∀ m, ¬ Carries line m) : ofLine line = plain .info line := by
  unfold ofLine
  dsimp only
  split
  · split
    · next m read =>
      obtain ⟨v, read, fits⟩ := Option.map_eq_some_iff.1 read
      exact absurd ⟨v, read, fits⟩ (other m)
    · rfl
  · rfl

/-! ## Payloads -/

def Short (m : Message) : Prop :=
  ∀ l ∈ m.location, ∀ n ∈ l.line, Json.Short n

theorem expressible_toJson {d : Json.Dialect} {room : Nat} (short : m.Short) (deep : 2 ≤ room) :
    Json.Expressible d m.toJson room := by
  have once {fields : List (String × Option Json)} (names : (fields.map Prod.fst).Nodup) :
      (Json.keys (Json.record fields)).Nodup := names.sublist (Json.keys_record fields)
  have inner : ["file", "line"].Nodup := by decide
  have outer : ["level", "message", "type", "sourceLocation"].Nodup := by decide
  have place : ∀ l ∈ m.location, Json.Expressible d l.toJson (room - 1) := by
    refine fun l at' => ⟨by omega, once inner, Json.expressibleMembers_record ?_⟩
    simp only [List.forall_mem_cons, Option.mem_def, Option.some.injEq, forall_eq']
    refine ⟨trivial, fun v given => ?_, nofun⟩
    obtain ⟨n, line, rfl⟩ := Option.map_eq_some_iff.1 given
    exact short l at' n line
  refine ⟨by omega, once outer, Json.expressibleMembers_record ?_⟩
  simp only [List.forall_mem_cons, Option.mem_def, Option.some.injEq, forall_eq']
  refine ⟨trivial, trivial, fun v given => ?_, fun v given => ?_, nofun⟩
  · obtain ⟨type, -, rfl⟩ := Option.map_eq_some_iff.1 given
    trivial
  · obtain ⟨l, at', rfl⟩ := Option.map_eq_some_iff.1 given
    exact place l at'

theorem carries_of_spells {before text after : List Char} (blank : ∀ c ∈ before, isBlank c = true)
    (spelled : Json.Spells Json.strict Json.strict.depth m.toJson text)
    (blank' : ∀ c ∈ after, isBlank c = true) :
    Carries (String.ofList (before ++ (text ++ after))) m := by
  obtain ⟨head, last⟩ := spelled.braces rfl
  have trimmed : Text.trimBy isBlank (before ++ (text ++ after)) = text := by
    refine Text.trimBy_padded blank blank' (fun c first => ?_) (fun c final => ?_)
    · cases head.symm.trans first
      rfl
    · cases last.symm.trans final
      rfl
  have read := Json.readChars_of_spells Json.layout_nil spelled Json.layout_nil
  rw [List.nil_append, List.append_nil] at read
  refine ⟨m.toJson, ?_, m.check_toJson⟩
  rw [Text.trim, String.toList_ofList, trimmed, Json.readStrict?, String.toList_ofList, read]
  rfl

/-! ## Texts of messages -/

inductive Line : List Message → List Char → Prop
  | blank {cs : List Char} (blank : ∀ c ∈ cs, isBlank c = true) : Line [] cs
  | payload {m : Message} {before text after : List Char} (blank : ∀ c ∈ before, isBlank c = true)
    (spelled : Json.Spells Json.strict Json.strict.depth m.toJson text)
    (blank' : ∀ c ∈ after, isBlank c = true) : Line [m] (before ++ (text ++ after))
  | other {cs : List Char} (shown : cs.all isBlank = false)
    (other : ∀ m, ¬ Carries (String.ofList cs) m) : Line [plain .info (String.ofList cs)] cs

inductive Lines : List Message → List Char → Prop
  | last {ms : List Message} {cs : List Char} (line : Line ms cs)
    (whole : ∀ c ∈ cs, isEnd c = false) : Lines ms cs
  | line {ms more : List Message} {cs ending rest : List Char} (line : Line ms cs)
    (whole : ∀ c ∈ cs, isEnd c = false) (ends : ending ∈ [['\n'], ['\r'], ['\r', '\n']])
    (others : Lines more rest) : Lines (ms ++ more) (cs ++ (ending ++ rest))

def ofLines (cs : List Char) : List Message :=
  (visible cs).map fun line => ofLine (String.ofList line)

theorem ofLines_of_line (line : Line ms cs) (whole : ∀ c ∈ cs, isEnd c = false) : ofLines cs = ms := by
  rw [ofLines, Text.visible_of_line whole]
  cases line with
  | blank blank =>
    rw [if_pos (List.all_eq_true.2 blank)]
    rfl
  | @payload m before text after blank spelled blank' =>
    have shown : ¬ (before ++ (text ++ after)).all isBlank = true := by
      intro nothing
      obtain ⟨rest, rfl⟩ := List.head?_eq_some_iff.1 (spelled.braces rfl).1
      exact absurd (List.all_eq_true.1 nothing '\x7b' (by simp)) (by decide)
    rw [if_neg shown, List.map_singleton, ofLine_of_carries (carries_of_spells blank spelled blank')]
  | other shown other =>
    rw [shown, if_neg Bool.false_ne_true, List.map_singleton, ofLine_of_other other]

theorem ofLines_append {ending : List Char} (ends : ending ∈ [['\n'], ['\r'], ['\r', '\n']])
    (cs rest : List Char) : ofLines (cs ++ (ending ++ rest)) = ofLines cs ++ ofLines rest := by
  simp only [List.mem_cons, List.not_mem_nil, or_false] at ends
  rcases ends with rfl | rfl | rfl
  · rw [ofLines, List.singleton_append, Text.visible_append_end rfl, List.map_append]
    rfl
  · rw [ofLines, List.singleton_append, Text.visible_append_end rfl, List.map_append]
    rfl
  · rw [ofLines, List.cons_append, List.singleton_append, Text.visible_append_end rfl,
      Text.visible_cons_end rfl, List.map_append]
    rfl

theorem ofLines_of_lines (lines : Lines ms cs) : ofLines cs = ms := by
  induction lines with
  | last line whole => exact ofLines_of_line line whole
  | line line whole ends others ih => rw [ofLines_append ends, ofLines_of_line line whole, ih]

def written (ms : List Message) : List Char :=
  ms.flatMap fun m => Json.compactChars m.toJson ++ ['\n']

theorem lines_written (short : ∀ m ∈ ms, m.Short) : Lines ms (written ms) := by
  induction ms with
  | nil => exact .last (.blank nofun) nofun
  | cons m ms ih =>
    obtain ⟨first, others⟩ := List.forall_mem_cons.1 short
    have deep : 2 ≤ Json.strict.depth := by decide
    have spelled := Json.spells_compact (expressible_toJson (d := Json.strict) first deep)
    have line : Line [m] (Json.compactChars m.toJson) := by
      have padded : Line [m] ([] ++ (Json.compactChars m.toJson ++ [])) := .payload nofun spelled nofun
      rwa [List.nil_append, List.append_nil] at padded
    have whole : ∀ c ∈ Json.compactChars m.toJson, isEnd c = false := by
      intro c member
      have printed := (Json.printed_compactChars m.toJson c member).1
      rw [isEnd, Bool.or_eq_false_iff, decide_eq_false_iff_not, decide_eq_false_iff_not]
      constructor <;>
        · rintro rfl
          exact absurd printed (by decide)
    have all := Lines.line line whole (.head _) (ih others)
    rw [written, List.flatMap_cons, List.append_assoc]
    exact all

end Message

/-! ## Streams -/

namespace Invocation

theorem Child.heard_eq (x : Child) :
    x.heard = Message.ofLines (Text.Utf8.decodeReplacing x.ended.errors).toList := by
  rw [heard, streamLines, Text.visible_terminated, List.map_map, Message.ofLines, Function.comp_def]

end Invocation

namespace Engine
open Invocation Modules

variable {e : Engine} {task : Task} {t : FileTree} {request : Request} {x : Child}

/-- A process that ran is heard completely: its lines that are not blank are its messages, one each. Lines
that stand for messages are those messages, and every list of messages can be written so. A line means
the message it carries, or else it is information. -/
theorem diagnostics_arrive (asked : e.request t task = .ok request)
    (ran : Ran e.context request t x) :
    (∃ told, Told e task t told ∧ e.messages task t = x.heard ++ told) ∧
    (∀ ms text, Message.Lines ms text.toList → x.ended.errors = Text.Utf8.encode text →
      x.heard = ms) ∧
    (∀ ms, (∀ m ∈ ms, m.Short) → Message.Lines ms (Message.written ms)) ∧
    x.heard.length = (visible (Text.Utf8.decodeReplacing x.ended.errors).toList).length ∧
    ∀ line, (∃ m, Message.Carries line m ∧ Message.ofLine line = m) ∨
      (∀ m, ¬ Message.Carries line m) ∧ Message.ofLine line = .plain .info line := by
  refine ⟨?_, fun ms text lines wrote => ?_, fun ms => Message.lines_written, ?_, fun line => ?_⟩
  · obtain ⟨heard, told, heard', told', taken, -⟩ := messages_in_order e task t
    refine ⟨told, told', taken.trans ?_⟩
    cases heard' with
    | child asked' ran' =>
      cases asked.symm.trans asked'
      rw [(Ends.ran ran).unique (.ran ran') |>.2]
      rfl
    | nothing quiet => exact absurd ran (quiet request x asked)
  · rw [x.heard_eq, wrote, Text.Utf8.decodeReplacing_encode]
    exact Message.ofLines_of_lines lines
  · rw [x.heard_eq, Message.ofLines, List.length_map]
  · by_cases carries : ∃ m, Message.Carries line m
    · obtain ⟨m, carries⟩ := carries
      exact .inl ⟨m, carries, Message.ofLine_of_carries carries⟩
    · have other := not_exists.1 carries
      exact .inr ⟨other, Message.ofLine_of_other other⟩

def remark : Message :=
  ⟨.warn, "caf\u00e9", none, some ⟨"A.kt", some 3⟩⟩

def notice : String := "\x7bnot this"

def remarks : List Char :=
  ([' '] ++ (Json.compactChars remark.toJson ++ ['\t'])) ++
    (['\r', '\n'] ++ ([' '] ++ (['\n'] ++ notice.toList)))

theorem whole_of_any {cs : List Char} (none : cs.any isEnd = false) : ∀ c ∈ cs, isEnd c = false :=
  fun c member => Bool.eq_false_iff.2 (List.any_eq_false.1 none c member)

theorem lines_remarks : Message.Lines [remark, .plain .info notice] remarks := by
  have short : remark.Short := by
    rintro l ⟨⟩ n ⟨⟩
    rw [Json.Short]
    decide
  have deep : 2 ≤ Json.strict.depth := by decide
  have spelled := Json.spells_compact (Message.expressible_toJson (d := Json.strict) short deep)
  have other : ∀ m, ¬ Message.Carries (String.ofList notice.toList) m := by
    have unread : Json.readStrict? (Text.trim (String.ofList notice.toList)) = none := by decide +kernel
    rintro m ⟨v, read, -⟩
    rw [unread] at read
    cases read
  have first : Message.Line [remark] ([' '] ++ (Json.compactChars remark.toJson ++ ['\t'])) :=
    .payload (List.all_eq_true.1 rfl) spelled (List.all_eq_true.1 rfl)
  have nothing : Message.Line [] [' '] := .blank (List.all_eq_true.1 rfl)
  have last : Message.Line [.plain .info notice] notice.toList := by
    have line := Message.Line.other (by decide) other
    rwa [String.ofList_toList] at line
  exact .line first (whole_of_any (by decide +kernel)) (by decide)
    (.line nothing (whole_of_any rfl) (by decide) (.last last (whole_of_any (by decide))))

def remarking : Engine :=
  writing "" (String.ofList remarks)

def remarkingChild : Child where
  workspace := ⟨Path.absolute ["tmp"], some (Path.absolute ["tmp", "run-0"])⟩
  plan := .custom ["/bin/parser"] "Using custom parser command: /bin/parser"
  words := ["/bin/parser"]
  ended := ⟨0, Text.Utf8.encode "", Text.Utf8.encode (String.ofList remarks), false, false⟩
  tree := Workspace.opened bare ["tmp", "run-0"]

theorem diagnostics_arrive_of_remarks :
    ∃ request, remarking.request bare .parse = .ok request ∧
      Ran remarking.context request bare remarkingChild ∧
      Message.Lines [remark, .plain .info notice] remarks ∧
      remarkingChild.heard = [remark, .plain .info notice] := by
  obtain ⟨request, text, asked, serialized⟩ := asked_writing "" (String.ofList remarks)
  have planned : Planned remarking.context request bare remarkingChild.workspace remarkingChild.tree
      remarkingChild.plan := ⟨rfl, rfl⟩
  have ran : Ran remarking.context request bare remarkingChild :=
    .ended (.piped planned (by decide) rfl serialized) rfl rfl
  refine ⟨request, asked, ran, lines_remarks, (diagnostics_arrive asked ran).2.1 _ _ ?_ rfl⟩
  rw [String.toList_ofList]
  exact lines_remarks

end Engine

end ParserHost
