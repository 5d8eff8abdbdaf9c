/-!
Finding, cutting and replacing inside a text. Everything works on lists of characters; the versions
on `String` wrap those.

Main statements: `findPart` answers with the parts around the first occurrence
(`eq_append_of_findPart`); the pieces that `splitAt` makes hold no separator (`not_mem_of_mem_splitAt`),
and a text that begins with such a piece and a separator is cut there (`splitAt_append_cons`).
-/
namespace ParserHost.Text

def dropPart? : List Char → List Char → Option (List Char)
  | [], cs => some cs
  | _ :: _, [] => none
  | p :: ps, c :: cs => if p = c then dropPart? ps cs else none

def findPart (part : List Char) : List Char → Option (List Char × List Char)
  | [] => (dropPart? part []).map ([], ·)
  | c :: cs =>
    match dropPart? part (c :: cs) with
    | some rest => some ([], rest)
    | none => (findPart part cs).map fun (before, after) => (c :: before, after)

theorem dropPart?_eq_some_iff {part cs rest : List Char} :
    dropPart? part cs = some rest ↔ cs = part ++ rest := by
  induction part generalizing cs with
  | nil => simp [dropPart?, eq_comm]
  | cons p ps ih =>
    cases cs with
    | nil => simp [dropPart?]
    | cons c cs =>
      by_cases h : p = c
      · subst h; simp [dropPart?, ih]
      · simp [dropPart?, h, Ne.symm h]

theorem eq_append_of_findPart {part cs before after : List Char}
    (h : findPart part cs = some (before, after)) : cs = before ++ part ++ after := by
  induction cs generalizing before with
  | nil =>
    simp only [findPart, Option.map_eq_some_iff, Prod.mk.injEq] at h
    obtain ⟨rest, hrest, rfl, rfl⟩ := h
    simpa using dropPart?_eq_some_iff.1 hrest
  | cons c cs ih =>
    simp only [findPart] at h
    split at h
    · next rest hrest =>
      simp only [Option.some.injEq, Prod.mk.injEq] at h
      obtain ⟨rfl, rfl⟩ := h
      simpa using dropPart?_eq_some_iff.1 hrest
    · simp only [Option.map_eq_some_iff, Prod.mk.injEq] at h
      obtain ⟨⟨b, a⟩, hba, rfl, rfl⟩ := h
      simp [ih hba]

def contains (part s : String) : Bool :=
  (findPart part.toList s.toList).isSome

def startsWith (part s : String) : Bool :=
  (dropPart? part.toList s.toList).isSome

def endsWith (part s : String) : Bool :=
  (dropPart? part.toList.reverse s.toList.reverse).isSome

/-- Replaces the first occurrence; an empty part stands at the front. -/
def replaceFirst (part by' s : String) : String :=
  match findPart part.toList s.toList with
  | some (before, after) => String.ofList (before ++ by'.toList ++ after)
  | none => s

def dropSuffix (part s : String) : String :=
  match dropPart? part.toList.reverse s.toList.reverse with
  | some rest => String.ofList rest.reverse
  | none => s

def dropPrefix (part s : String) : String :=
  match dropPart? part.toList s.toList with
  | some rest => String.ofList rest
  | none => s

/-- The pieces between the occurrences of a character; one more than there are of it. -/
def splitAt (sep : Char) : List Char → List (List Char)
  | [] => [[]]
  | c :: cs =>
    if c = sep then [] :: splitAt sep cs
    else
      match splitAt sep cs with
      | [] => [[c]]
      | piece :: pieces => (c :: piece) :: pieces

theorem splitAt_ne_nil (sep : Char) (cs : List Char) : splitAt sep cs ≠ [] := by
  cases cs with
  | nil => simp [splitAt]
  | cons c cs =>
    simp only [splitAt]
    split
    · simp
    · split <;> simp

theorem not_mem_of_mem_splitAt {sep : Char} {cs piece : List Char} (h : piece ∈ splitAt sep cs) :
    sep ∉ piece := by
  induction cs generalizing piece with
  | nil =>
    obtain rfl : piece = [] := by simpa [splitAt] using h
    simp
  | cons c cs ih =>
    simp only [splitAt] at h
    split at h
    · rcases List.mem_cons.1 h with rfl | h
      · simp
      · exact ih h
    · next hc =>
      cases hcs : splitAt sep cs with
      | nil => exact absurd hcs (splitAt_ne_nil sep cs)
      | cons p ps =>
        rw [hcs] at h ih
        rcases List.mem_cons.1 h with rfl | h
        · simpa [Ne.symm hc] using ih (by simp)
        · exact ih (by simp [h])

theorem splitAt_of_not_mem {sep : Char} {cs : List Char} (h : sep ∉ cs) : splitAt sep cs = [cs] := by
  induction cs with
  | nil => rfl
  | cons c cs ih =>
    obtain ⟨hc, hcs⟩ := not_or.1 (mt List.mem_cons.2 h)
    simp [splitAt, Ne.symm hc, ih hcs]

theorem splitAt_append_cons {sep : Char} {piece : List Char} (h : sep ∉ piece) (rest : List Char) :
    splitAt sep (piece ++ sep :: rest) = piece :: splitAt sep rest := by
  induction piece with
  | nil => simp [splitAt]
  | cons c cs ih =>
    obtain ⟨hc, hcs⟩ := not_or.1 (mt List.mem_cons.2 h)
    simp [splitAt, Ne.symm hc, ih hcs]

def splitOn (sep : Char) (s : String) : List String :=
  (splitAt sep s.toList).map String.ofList

def join (sep : String) (parts : List String) : String :=
  String.intercalate sep parts

end ParserHost.Text
