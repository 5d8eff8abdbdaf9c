import Mathlib.Data.List.Basic
import ParserHost.Proofs.Console.Pairs

/-!
# What the spans of a debug line show

The spans of a line follow one another without a gap (`Tiles`), so each character of the message is under exactly
one of them (`countP_covers`). What they show, one after the other, is the message cut at its pairs, without the
characters that no line keeps (`highlighting_law`).
-/

namespace ParserHost.Console

/-! ## Spans -/

/-- Spans one behind the other that lead from one place of a line to another. -/
inductive Tiles : Nat → Nat → List Span → Prop
  | nil (n : Nat) : Tiles n n []
  | cons {s : Span} {stop : Nat} {rest : List Span} (forward : s.start ≤ s.stop) (more : Tiles s.stop stop rest) :
      Tiles s.start stop (s :: rest)

def Span.covers (s : Span) (i : Nat) : Bool :=
  s.start ≤ i && i < s.stop

def Styled.under (line : Styled) (s : Span) : List Char :=
  (line.plain.toList.drop s.start).take (s.stop - s.start)

variable {start stop : Nat} {spans : List Span} {parts : List (List Char × String)}

theorem Tiles.le (tiles : Tiles start stop spans) : start ≤ stop := by
  induction tiles with
  | nil => exact Nat.le_refl _
  | cons forward _ ih => exact Nat.le_trans forward ih

/-- Each place is under one span, and places outside are under none. -/
theorem countP_covers (tiles : Tiles start stop spans) (i : Nat) :
    spans.countP (·.covers i) = if start ≤ i ∧ i < stop then 1 else 0 := by
  induction tiles with
  | nil n =>
    have outside : ¬ (n ≤ i ∧ i < n) := by omega
    rw [if_neg outside]
    rfl
  | @cons s stop rest forward more ih =>
    have further := more.le
    rw [List.countP_cons, ih]
    simp only [Span.covers, Bool.and_eq_true, decide_eq_true_eq]
    split <;> split <;> split <;> omega

def cleaned (parts : List (List Char × String)) : List Char :=
  parts.flatMap fun (text, _) => clean text

theorem tiles_spansFrom (start : Nat) (parts : List (List Char × String)) :
    Tiles start (start + (cleaned parts).length) (spansFrom start parts) := by
  induction parts generalizing start with
  | nil => exact .nil start
  | cons part rest ih =>
    obtain ⟨text, style⟩ := part
    have more := ih (start + (clean text).length)
    rw [Nat.add_assoc, ← List.length_append] at more
    exact .cons (s := ⟨start, start + (clean text).length, style⟩) (Nat.le_add_right _ _) more

theorem under_part {line : Styled} {front shown rest : List Char} (style : String)
    (whole : line.plain.toList = front ++ (shown ++ rest)) :
    line.under ⟨front.length, front.length + shown.length, style⟩ = shown := by
  rw [Styled.under, whole, List.drop_left, Nat.add_sub_cancel_left, List.take_left]

theorem under_spansFrom {line : Styled} {front : List Char} (whole : line.plain.toList = front ++ cleaned parts) :
    (spansFrom front.length parts).map (fun s => (line.under s, s.style)) =
      parts.map fun (text, style) => (clean text, style) := by
  induction parts generalizing front with
  | nil => rfl
  | cons part rest ih =>
    obtain ⟨text, style⟩ := part
    change _ = front ++ (clean text ++ cleaned rest) at whole
    have later : (spansFrom (front ++ clean text).length rest).map _ = _ := ih (by rw [whole, List.append_assoc])
    rw [List.length_append] at later
    rw [spansFrom, List.map_cons, under_part style whole, later, List.map_cons]

/-! ## Parts of a message -/

theorem cleaned_parts (piece : Piece) : cleaned piece.parts = clean piece.text := by
  cases piece with
  | plain text => exact List.append_nil _
  | pair key v =>
    have equals : clean ['='] = ['='] := rfl
    simp only [Piece.parts, Piece.text, cleaned, List.flatMap_cons, List.flatMap_nil, List.append_nil, equals]
    rw [clean, clean, clean, List.filter_append]
    rfl

theorem clean_flatMap {α : Type} (xs : List α) (f : α → List Char) :
    clean (xs.flatMap f) = xs.flatMap fun x => clean (f x) :=
  List.filter_flatMap

theorem cleaned_pieces (cs : List Char) : cleaned ((pieces cs).flatMap Piece.parts) = clean cs := by
  calc cleaned ((pieces cs).flatMap Piece.parts)
      = (pieces cs).flatMap fun piece => cleaned piece.parts := List.flatMap_assoc
    _ = (pieces cs).flatMap fun piece => clean piece.text := by simp only [cleaned_parts]
    _ = clean cs := by rw [← clean_flatMap, text_pieces]

theorem toList_highlighted (text : String) :
    (highlighted text).plain.toList = debugMark ++ cleaned ((pieces text.toList).flatMap Piece.parts) :=
  String.toList_ofList

theorem isKeyChar_of_isDropped {c : Char} (dropped : isDropped c = true) : isKeyChar c = false := by
  have codes : ∀ n ∈ [7, 8, 11, 12, 13], isKeyChar (Char.ofNat n) = false := by decide +kernel
  rw [← Char.ofNat_toNat c]
  refine codes c.toNat ?_
  simpa [isDropped, or_assoc] using dropped

/-- A key has nothing in it that a line would not keep. -/
theorem clean_key {key : List Char} (inKey : ∀ c ∈ key, isKeyChar c = true) : clean key = key := by
  refine List.filter_eq_self.2 fun c member => ?_
  cases dropped : isDropped c with
  | false => rfl
  | true => simpa [inKey c member] using isKeyChar_of_isDropped dropped

/-! ## The line -/

def Piece.shown : Piece → List (List Char × String)
  | plain text => [(clean text, "dim")]
  | pair key v => [(key, "bold magenta"), (['='], "dim"),
      (clean v, if String.ofList key ∈ ["command", "config"] then "bold blue" else "bold green")]

theorem map_parts (piece : Piece) (keyed : ∀ key v, piece = .pair key v → clean key = key) :
    piece.parts.map (fun (text, style) => (clean text, style)) = piece.shown := by
  cases piece with
  | plain text => rfl
  | pair key v =>
    have equals : clean ['='] = ['='] := rfl
    simp [Piece.parts, Piece.shown, keyed key v rfl, equals, isResourceKey]

theorem shown_pieces (text : String) :
    (highlighted text).spans.map (fun s => ((highlighted text).under s, s.style)) =
      (pieces text.toList).flatMap Piece.shown := by
  have spans : (highlighted text).spans =
      spansFrom debugMark.length ((pieces text.toList).flatMap Piece.parts) := rfl
  rw [spans, under_spansFrom (toList_highlighted text), List.map_flatMap]
  refine List.flatMap_congr fun piece member => map_parts piece fun key v same => ?_
  exact clean_key (isKeyChar_of_scan (scan_pieces _) (same ▸ member))

theorem clean_eq (cs : List Char) : clean cs = cs.filter fun c => c.toNat ∉ [7, 8, 11, 12, 13] := by
  refine List.filter_congr fun c _ => ?_
  rw [Bool.eq_iff_iff]
  simp [isDropped, not_or, and_assoc]

theorem plain_highlighted (text : String) :
    (highlighted text).plain = "[debug] " ++ String.ofList (clean text.toList) := by
  apply String.toList_injective
  rw [toList_highlighted, cleaned_pieces, String.toList_append]
  exact congrArg (debugMark ++ ·) String.toList_ofList.symm

theorem tiles_highlighted (text : String) : Tiles 8 (highlighted text).plain.length (highlighted text).spans := by
  have stop : (highlighted text).plain.length =
      debugMark.length + (cleaned ((pieces text.toList).flatMap Piece.parts)).length := by
    rw [← String.length_toList, toList_highlighted, List.length_append]
  rw [stop]
  exact tiles_spansFrom _ _

/-- A debug line is its mark and the message, without the characters that no line keeps. Its spans lie one behind the
other over the message, so that each character of it is under exactly one. They show the one cut of the message at
its pairs: what is between pairs, and of each pair the key, the equals sign and the value. -/
theorem highlighting_law (text : String) :
    (highlighted text).plain =
        "[debug] " ++ String.ofList (text.toList.filter fun c => c.toNat ∉ [7, 8, 11, 12, 13]) ∧
      Tiles 8 (highlighted text).plain.length (highlighted text).spans ∧
      (∀ i, (highlighted text).spans.countP (·.covers i) =
        if 8 ≤ i ∧ i < (highlighted text).plain.length then 1 else 0) ∧
      ∃ ps, (∀ ps', Scan text.toList ps' ↔ ps' = ps) ∧
        (highlighted text).spans.map (fun s => ((highlighted text).under s, s.style)) = ps.flatMap Piece.shown := by
  refine ⟨?_, tiles_highlighted text, countP_covers (tiles_highlighted text), pieces text.toList,
    fun _ => scan_iff, shown_pieces text⟩
  rw [plain_highlighted, clean_eq]

end ParserHost.Console
