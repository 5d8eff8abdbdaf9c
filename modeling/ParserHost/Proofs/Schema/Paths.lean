import ParserHost.Proofs.Number.Digits
import ParserHost.Schema.Scalar

/-!
# Paths of items

The path of a violation inside an item of a list starts with the key of the list and the index of the
item (`path_item`), whatever tags are taken out behind them. So the path tells the index
(`indexed_eq_iff`), and a list that comes later only has its indices moved on (`shiftPath_itemPath`).
-/

namespace ParserHost.Schema

/-! ## Rendering -/

def Segment.suffix : Segment → String
  | .index n => "[" ++ toString n ++ "]"
  | .key name => "." ++ name

def Location.suffix : Location → String
  | [] => ""
  | s :: rest => s.suffix ++ Location.suffix rest

theorem addTo_of_begun {rendered : String} (begun : rendered ≠ "") (s : Segment) :
    s.addTo rendered = rendered ++ s.suffix := by
  cases s with
  | index n =>
    change rendered ++ "[" ++ toString n ++ "]" = rendered ++ ("[" ++ toString n ++ "]")
    rw [String.append_assoc, String.append_assoc, String.append_assoc]
  | key name =>
    have longer : rendered.isEmpty = false := by simp [begun]
    rw [Segment.addTo, longer, if_neg Bool.false_ne_true]
    change rendered ++ "." ++ name = rendered ++ ("." ++ name)
    rw [String.append_assoc]

theorem foldl_addTo {rendered : String} (begun : rendered ≠ "") (l : Location) :
    l.foldl Segment.addTo rendered = rendered ++ l.suffix := by
  induction l generalizing rendered with
  | nil => simp [Location.suffix]
  | cons s rest ih =>
    have longer : rendered ++ s.suffix ≠ "" := fun empty =>
      begun (String.append_eq_empty_iff.1 empty).1
    rw [List.foldl_cons, addTo_of_begun begun, ih longer, Location.suffix, String.append_assoc]

theorem render_key {key : String} (named : key ≠ "") (rest : Location) :
    Location.render (.key key :: rest) = key ++ rest.suffix := by
  have begun : Segment.addTo "" (.key key) = key := by simp [Segment.addTo]
  have nonempty : (key ++ rest.suffix).isEmpty = false := by
    simp [named]
  rw [Location.render, List.foldl_cons, begun, foldl_addTo named]
  simp only [nonempty, Bool.false_eq_true, if_false]

/-! ## Tags below an item -/

def Location.untagged (rest : Location) : Location :=
  let parts := rest.filter fun s => !s.isParametrisedTag
  match parts.getLast? with
  | some last => if last.isScalarTag then parts.dropLast else parts
  | none => parts

theorem withoutTags_item {key : String} (plain : isParametrisedTag key = false) (i : Int)
    (rest : Location) :
    Location.withoutTags (.key key :: .index i :: rest) =
      .key key :: .index i :: rest.untagged := by
  have keeps : (Segment.key key :: .index i :: rest).filter (fun s => !s.isParametrisedTag) =
      .key key :: .index i :: rest.filter fun s => !s.isParametrisedTag := by
    rw [List.filter_cons_of_pos (by simpa [Segment.isParametrisedTag] using plain),
      List.filter_cons_of_pos (by rfl)]
  rw [Location.withoutTags, Location.untagged, keeps]
  generalize rest.filter (fun s => !s.isParametrisedTag) = parts
  cases parts with
  | nil => simp [Segment.isScalarTag]
  | cons s more =>
    obtain ⟨last, found⟩ : ∃ last, (s :: more).getLast? = some last :=
      ⟨_, List.getLast?_eq_some_getLast (List.cons_ne_nil s more)⟩
    simp only [List.getLast?_cons_cons, found]
    by_cases scalar : last.isScalarTag = true
    · simp [scalar]
    · simp [scalar]

def indexed (key : String) (i : Nat) : String :=
  key ++ ("[" ++ toString i ++ "]")

def itemPath (key : String) (i : Nat) (rest : Location) : String :=
  indexed key i ++ rest.untagged.suffix

theorem path_item {key : String} (named : key ≠ "") (plain : isParametrisedTag key = false) (i : Nat)
    (rest : Location) :
    (Location.withoutTags (.key key :: .index i :: rest)).render = itemPath key i rest := by
  rw [withoutTags_item plain, render_key named, Location.suffix, itemPath, indexed, String.append_assoc]
  rfl

/-! ## Indices in paths -/

theorem toList_indexed (key : String) (i : Nat) (tail : String) :
    (indexed key i ++ tail).toList =
      key.toList ++ '[' :: (Nat.toDigits 10 i ++ ']' :: tail.toList) := by
  have written : (toString i).toList = Nat.toDigits 10 i := by
    rw [Nat.toString_eq_ofList_toDigits, String.toList_ofList]
  simp only [indexed, String.toList_append, written, List.append_assoc]
  rfl

theorem spanDigits_index (i : Nat) (rest : List Char) :
    Literal.spanDigits (Nat.toDigits 10 i ++ ']' :: rest) = (Nat.toDigits 10 i, ']' :: rest) := by
  refine Literal.spanDigits_append (fun c member => Literal.isDigit_of_mem_toDigits member) ?_
  rintro c more same
  cases same
  rfl

theorem indexed_eq_iff {key : String} {i j : Nat} {tail tail' : String} :
    indexed key i ++ tail = indexed key j ++ tail' ↔ i = j ∧ tail = tail' := by
  constructor
  · intro same
    have texts := congrArg String.toList same
    rw [toList_indexed, toList_indexed, List.append_cancel_left_eq, List.cons_inj_right] at texts
    have spans := congrArg Literal.spanDigits texts
    rw [spanDigits_index, spanDigits_index, Prod.mk.injEq, List.cons_inj_right] at spans
    obtain ⟨digits, tails⟩ := spans
    have numbers := congrArg Literal.natural digits
    rw [Literal.natural_toDigits, Literal.natural_toDigits] at numbers
    exact ⟨numbers, String.toList_injective tails⟩
  · rintro ⟨rfl, same⟩
    rw [same]

theorem itemPath_eq_iff {key : String} {i j : Nat} {l l' : Location} :
    itemPath key i l = itemPath key j l' ↔ i = j ∧ l.untagged.suffix = l'.untagged.suffix :=
  indexed_eq_iff

/-- The path with the index after the key moved on; any other path stays as it is. -/
def shiftPath (key : String) (by' : Nat) (path : String) : String :=
  match Text.dropPart? (key.toList ++ ['[']) path.toList with
  | none => path
  | some rest =>
    let (digits, tail) := Literal.spanDigits rest
    key ++ "[" ++ toString (Literal.natural digits + by') ++ String.ofList tail

theorem shiftPath_itemPath (key : String) (by' i : Nat) (rest : Location) :
    shiftPath key by' (itemPath key i rest) = itemPath key (i + by') rest := by
  have found : Text.dropPart? (key.toList ++ ['[']) (itemPath key i rest).toList =
      some (Nat.toDigits 10 i ++ ']' :: rest.untagged.suffix.toList) := by
    rw [Text.dropPart?_eq_some_iff, itemPath, toList_indexed, List.append_assoc]
    rfl
  rw [shiftPath, found]
  dsimp only
  rw [spanDigits_index, Literal.natural_toDigits]
  have bracket : String.ofList (']' :: rest.untagged.suffix.toList) =
      "]" ++ rest.untagged.suffix := by
    apply String.toList_injective
    rw [String.toList_ofList, String.toList_append]
    rfl
  rw [bracket, itemPath, indexed]
  simp only [String.append_assoc]

end ParserHost.Schema
