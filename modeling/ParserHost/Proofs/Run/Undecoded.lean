import ParserHost.Proofs.Json.Limits
import ParserHost.Proofs.Run.Aggregation
import ParserHost.Proofs.Run.Decoding

/-!
# Texts that are not taken up

Both decoders, that of standard output and that of a module, answer with what the text holds or refuse it
as malformed. The only other end is the fault of a text beyond a limit of the reader, and such a text shows
it: within the limit on nesting, an integer of too many digits stands in it (`decoders_law`).
-/

namespace ParserHost

namespace FileTree

def HoldsText (t : FileTree) (file : Path) (text : String) : Prop :=
  ∃ bytes content, t.read file = .ok bytes ∧ Text.Utf8.decode bytes = .ok content ∧
    Text.unifyNewlines content = text

def Garbled (t : FileTree) (file : Path) (u : Text.Utf8.Fault) : Prop :=
  ∃ bytes, t.read file = .ok bytes ∧ Text.Utf8.decode bytes = .error u

end FileTree

namespace Modules
open FileTree (HoldsText)

variable {t : FileTree} {file : Path} {f : Failure}

theorem load_eq_ok_iff {e : Json.Entries} :
    load t file = .ok e ↔ ∃ text, HoldsText t file text ∧ Json.read text = .ok (.obj e) := by
  rw [load_eq_ok]
  constructor
  · rintro ⟨bytes, content, read, decoded, parsed⟩
    exact ⟨_, ⟨bytes, content, read, decoded, rfl⟩, parsed⟩
  · rintro ⟨_, ⟨bytes, content, read, decoded, rfl⟩, parsed⟩
    exact ⟨bytes, content, read, decoded, parsed⟩

theorem load_eq_error (refused : load t file = .error f) :
    (∃ reason, f = .run (.malformedModule file reason)) ∨
      ∃ limit text, f = .fault (.beyond limit) ∧ HoldsText t file text ∧
        Json.Exceeds Json.lenient.depth text.toList limit := by
  unfold load at refused
  split at refused
  · cases refused
    exact .inl ⟨_, rfl⟩
  · next bytes read =>
    split at refused
    · cases refused
      exact .inl ⟨_, rfl⟩
    · next content decoded =>
      unfold ofText at refused
      split at refused
      · next limit left beyond =>
        cases refused
        exact .inr ⟨limit, _, rfl, ⟨bytes, content, read, decoded, rfl⟩,
          Json.exceeds_of_read beyond⟩
      · cases refused
        exact .inl ⟨_, rfl⟩
      · cases refused
      · cases refused
        exact .inl ⟨_, rfl⟩

theorem load_beyond_iff :
    (∃ limit, load t file = .error (.fault (.beyond limit))) ↔
      ∃ text, HoldsText t file text ∧ Json.Oversized text := by
  have oversized : Oversized t file ↔ ∃ text, HoldsText t file text ∧ Json.Oversized text := by
    constructor
    · rintro ⟨bytes, content, read, decoded, beyond⟩
      exact ⟨_, ⟨bytes, content, read, decoded, rfl⟩, beyond⟩
    · rintro ⟨_, ⟨bytes, content, read, decoded, rfl⟩, beyond⟩
      exact ⟨bytes, content, read, decoded, beyond⟩
  rw [← oversized, ← load_fault_iff]
  constructor
  · rintro ⟨limit, failed⟩
    exact ⟨_, failed⟩
  · rintro ⟨f, failed⟩
    rcases load_eq_error failed with ⟨reason, same⟩ | ⟨limit, text, same, -⟩
    · cases same
    · cases same
      exact ⟨limit, failed⟩

end Modules

namespace Invocation

variable {output : String} {status : Int} {hint : Option String} {f : Failure}

theorem decode_eq_ok {v : Json} :
    decode output status hint = .ok v ↔ Json.read (Text.trim output) = .ok v :=
  ⟨read_of_decode, decode_of_read⟩

theorem decode_eq_error (refused : decode output status hint = .error f) :
    (∃ reason, f = .run (.malformedResponse reason (some status) hint)) ∨
      ∃ limit, f = .fault (.beyond limit) ∧
        Json.Exceeds Json.lenient.depth (Text.trim output).toList limit := by
  unfold decode at refused
  dsimp only at refused
  split at refused
  · cases refused
    exact .inl ⟨_, rfl⟩
  · split at refused
    · cases refused
    · next limit left beyond =>
      cases refused
      exact .inr ⟨limit, rfl, Json.exceeds_of_read beyond⟩
    · cases refused
      exact .inl ⟨_, rfl⟩

theorem decode_beyond_iff :
    (∃ limit, decode output status hint = .error (.fault (.beyond limit))) ↔
      Json.Oversized (Text.trim output) := by
  rw [← decode_fault_iff]
  constructor
  · rintro ⟨limit, failed⟩
    exact ⟨_, failed⟩
  · rintro ⟨f, failed⟩
    rcases decode_eq_error failed with ⟨reason, same⟩ | ⟨limit, same, -⟩
    · cases same
    · cases same
      exact ⟨limit, failed⟩

/-- The two decoders. What a text holds is taken up, and it is refused as malformed otherwise, with the
exit status or with the name of the file, unless it goes beyond a limit of the reader. A text that does
holds an integer of too many digits, or opens too many brackets. -/
theorem decoders_law (output : String) (status : Int) (hint : Option String) (t : FileTree) (file : Path) :
    ((∀ v, decode output status hint = .ok v ↔ Json.read (Text.trim output) = .ok v) ∧
      ((∃ limit, decode output status hint = .error (.fault (.beyond limit))) ↔
        Json.Oversized (Text.trim output)) ∧
      ∀ f, decode output status hint = .error f →
        (∃ reason, f = .run (.malformedResponse reason (some status) hint)) ∨
          ∃ limit, f = .fault (.beyond limit) ∧
            Json.Exceeds Json.lenient.depth (Text.trim output).toList limit) ∧
    (∀ e, Modules.load t file = .ok e ↔
      ∃ text, FileTree.HoldsText t file text ∧ Json.read text = .ok (.obj e)) ∧
    ((∃ limit, Modules.load t file = .error (.fault (.beyond limit))) ↔
      ∃ text, FileTree.HoldsText t file text ∧ Json.Oversized text) ∧
    ∀ f, Modules.load t file = .error f →
      (∃ reason, f = .run (.malformedModule file reason)) ∨
        ∃ limit text, f = .fault (.beyond limit) ∧ FileTree.HoldsText t file text ∧
          Json.Exceeds Json.lenient.depth text.toList limit :=
  ⟨⟨fun _ => decode_eq_ok, decode_beyond_iff, fun _ => decode_eq_error⟩,
    fun _ => Modules.load_eq_ok_iff, Modules.load_beyond_iff, fun _ => Modules.load_eq_error⟩

theorem load_digitsAndLetter {n : Nat} (long : Json.digitLimit < n) :
    Modules.load (Modules.sole (digitsAndLetter n)) (.absolute ["out", "a.json"]) =
      .error (.fault (.beyond (.digits n))) := by
  have noReturn : '\r' ∉ (digitsAndLetter n).toList := by
    rw [digitsAndLetter, String.toList_ofList, List.mem_append]
    rintro (member | member)
    · cases List.eq_of_mem_replicate member
    · cases List.mem_singleton.1 member
  have stored : (Modules.sole (digitsAndLetter n)).read (.absolute ["out", "a.json"]) =
      .ok (Text.Utf8.encode (digitsAndLetter n)) := rfl
  rw [Modules.load, stored]
  dsimp only
  rw [Text.Utf8.decode_encode]
  dsimp only
  rw [Text.unifyNewlines_eq noReturn, Modules.ofText, Json.read_digitsAndLetter long]

/-- Neither decoder refuses a text that starts with an integer of too many digits, though it is no JSON:
a fault goes past both. -/
theorem long_integer_escapes :
    decode (digitsAndLetter 4301) 0 none = .error (.fault (.beyond (.digits 4301))) ∧
      Modules.load (Modules.sole (digitsAndLetter 4301)) (.absolute ["out", "a.json"]) =
        .error (.fault (.beyond (.digits 4301))) :=
  ⟨decode_digitsAndLetter (by decide), load_digitsAndLetter (by decide)⟩

end Invocation

end ParserHost
