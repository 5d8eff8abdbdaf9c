import ParserHost.Proofs.Run.Undecoded

/-!
# Configurations that are loaded

A configuration is taken up, refused as such, or illegible: its bytes are no text, or the text goes beyond a
limit of the reader (`loaded`).
-/

namespace ParserHost

open FileTree (HoldsText Garbled)

namespace Config

variable {t : FileTree} {file : Path} {c : Config} {f : Fault}

inductive Illegible (t : FileTree) (file : Path) : Fault → Prop where
  | garbled {u : Text.Utf8.Fault} (garbled : Garbled t file u) : Illegible t file (.notUnicode u)
  | beyond {text : String} {limit : Json.Limit} {left : Nat} (holds : HoldsText t file text)
      (beyond : Json.read text = .error ⟨.within limit, left⟩) : Illegible t file (.beyond limit)

def Usable (t : FileTree) (file : Path) (c : Config) : Prop :=
  ∃ text document, HoldsText t file text ∧ Json.read text = .ok (.obj document) ∧
    ofDocument document file.text = .ok c

inductive Loaded (t : FileTree) (file : Path) : Except Failure Config → Prop where
  | usable {c : Config} (usable : Usable t file c) : Loaded t file (.ok c)
  | refused (text : String) : Loaded t file (.error (.run (.configuration text)))
  | illegible {f : Fault} (illegible : Illegible t file f) : Loaded t file (.error (.fault f))

theorem ofDocument_eq_error {document : Json.Entries} {source : String} {e : RunError}
    (refused : ofDocument document source = .error e) : ∃ text, e = .configuration text := by
  unfold ofDocument at refused
  split at refused
  · split at refused
    · cases refused
      exact ⟨_, rfl⟩
    · split at refused
      · cases refused
      · cases refused
        exact ⟨_, rfl⟩
  · cases refused
    exact ⟨_, rfl⟩

theorem loaded (clean : FileTree.hasNul file = false) : Loaded t file (load t file) := by
  unfold load
  rw [clean, if_neg Bool.false_ne_true]
  cases there : t.read file with
  | error e => exact .refused _
  | ok bytes =>
    dsimp only
    cases decoded : Text.Utf8.decode bytes with
    | error u => exact .illegible (.garbled ⟨bytes, there, decoded⟩)
    | ok content =>
      have holds : HoldsText t file (Text.unifyNewlines content) :=
        ⟨bytes, content, there, decoded, rfl⟩
      dsimp only
      split
      · next limit left beyond => exact .illegible (.beyond holds beyond)
      · exact .refused _
      · next document read =>
        cases made : ofDocument document file.text with
        | ok c => exact .usable ⟨_, document, holds, read, made⟩
        | error e =>
          obtain ⟨text, rfl⟩ := ofDocument_eq_error made
          exact .refused text
      · exact .refused _

theorem load_of_usable (clean : FileTree.hasNul file = false) (usable : Usable t file c) :
    load t file = .ok c := by
  obtain ⟨_, document, ⟨bytes, content, there, decoded, rfl⟩, read, made⟩ := usable
  unfold load
  rw [clean, if_neg Bool.false_ne_true, there]
  dsimp only
  rw [decoded]
  dsimp only
  rw [read]
  dsimp only
  rw [made]
  rfl

theorem load_of_illegible (clean : FileTree.hasNul file = false) (illegible : Illegible t file f) :
    load t file = .error (.fault f) := by
  unfold load
  rw [clean, if_neg Bool.false_ne_true]
  cases illegible with
  | garbled garbled =>
    obtain ⟨bytes, there, decoded⟩ := garbled
    rw [there]
    dsimp only
    rw [decoded]
  | beyond holds beyond =>
    obtain ⟨bytes, content, there, decoded, rfl⟩ := holds
    rw [there]
    dsimp only
    rw [decoded]
    dsimp only
    rw [beyond]

theorem load_eq_ok_iff (clean : FileTree.hasNul file = false) : load t file = .ok c ↔ Usable t file c := by
  refine ⟨fun taken => ?_, load_of_usable clean⟩
  have ended := loaded (t := t) clean
  rw [taken] at ended
  cases ended with
  | usable usable => exact usable

theorem load_eq_fault_iff (clean : FileTree.hasNul file = false) :
    load t file = .error (.fault f) ↔ Illegible t file f := by
  refine ⟨fun failed => ?_, load_of_illegible clean⟩
  have ended := loaded (t := t) clean
  rw [failed] at ended
  cases ended with
  | illegible illegible => exact illegible

theorem Illegible.exceeds {limit : Json.Limit} (illegible : Illegible t file (.beyond limit)) :
    ∃ text, HoldsText t file text ∧ Json.Exceeds Json.lenient.depth text.toList limit := by
  cases illegible with
  | beyond holds beyond => exact ⟨_, holds, Json.exceeds_of_read beyond⟩

theorem load_eq_run {e : RunError} (clean : FileTree.hasNul file = false)
    (refused : load t file = .error (.run e)) : ∃ text, e = .configuration text := by
  have ended := loaded (t := t) clean
  rw [refused] at ended
  cases ended with
  | refused text => exact ⟨text, rfl⟩

end Config

end ParserHost
