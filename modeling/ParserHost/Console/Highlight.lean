import ParserHost.Console.Line
import ParserHost.Text.Word

/-!
Debug lines, in which every pair of a key and a value stands out. `pieces` cuts a text into pairs
and what is between them; `highlighted` lays the pieces out as one styled text.

Main statement: the pieces make up the text (`text_pieces`).
-/
namespace ParserHost.Console

inductive Piece where
  | plain (text : List Char)
  | pair (key value : List Char)
  deriving DecidableEq, Repr

def Piece.text : Piece → List Char
  | plain t => t
  | pair key value => key ++ '=' :: value

def isKeyChar (c : Char) : Bool :=
  Text.isWord c || c = '-'

/-- The text up to a closing quote on the same line, and what follows. -/
def toQuote? : List Char → Option (List Char × List Char)
  | [] => none
  | c :: rest =>
    if c = '"' then some ([c], rest)
    else if c = '\n' then none
    else (toQuote? rest).map fun (inside, after) => (c :: inside, after)

def toBlank (cs : List Char) : List Char × List Char :=
  (cs.takeWhile fun c => !Text.isBlank c, cs.dropWhile fun c => !Text.isBlank c)

/-- The value at the start of a text: a quoted text, or else all up to the next blank. -/
def value (cs : List Char) : List Char × List Char :=
  match cs with
  | '"' :: rest =>
    match toQuote? rest with
    | some (inside, after) => ('"' :: inside, after)
    | none => toBlank cs
  | cs => toBlank cs

def pair? (cs : List Char) : Option (List Char × List Char × List Char) :=
  let key := cs.takeWhile isKeyChar
  match cs.dropWhile isKeyChar with
  | '=' :: rest =>
    let v := value rest
    if key.isEmpty || v.1.isEmpty then none else some (key, v.1, v.2)
  | _ => none

/-- The text before the first pair that starts outside of a word, the pair, and the rest. Inside a
word no pair starts; `inWord` tells whether the last character was part of one. -/
def findPair (inWord : Bool) : List Char → List Char × Option (List Char × List Char × List Char)
  | [] => ([], none)
  | c :: rest =>
    match if inWord then none else pair? (c :: rest) with
    | some found => ([], some found)
    | none =>
      let (before, found) := findPair (isKeyChar c) rest
      (c :: before, found)

def plainPiece (cs : List Char) : List Piece :=
  if cs.isEmpty then [] else [.plain cs]

/-- The pieces of a text; the fuel bounds the number of pairs. -/
def piecesFrom : Nat → List Char → List Piece
  | 0, cs => plainPiece cs
  | fuel + 1, cs =>
    match findPair false cs with
    | (before, none) => plainPiece before
    | (before, some (key, v, after)) => plainPiece before ++ .pair key v :: piecesFrom fuel after

def pieces (cs : List Char) : List Piece :=
  piecesFrom cs.length cs

theorem eq_of_toQuote? {cs inside after : List Char} (h : toQuote? cs = some (inside, after)) :
    cs = inside ++ after := by
  induction cs generalizing inside with
  | nil => simp [toQuote?] at h
  | cons c rest ih =>
    simp only [toQuote?] at h
    split at h
    · simp only [Option.some.injEq, Prod.mk.injEq] at h
      obtain ⟨rfl, rfl⟩ := h
      simp
    · split at h
      · simp at h
      · simp only [Option.map_eq_some_iff, Prod.mk.injEq] at h
        obtain ⟨⟨i, a⟩, hia, rfl, rfl⟩ := h
        simp [ih hia]

theorem eq_append_value (cs : List Char) : cs = (value cs).1 ++ (value cs).2 := by
  unfold value
  split
  · split
    · next inside after h => simp [eq_of_toQuote? h]
    · simp [toBlank]
  · simp [toBlank]

theorem eq_of_pair? {cs key v after : List Char} (h : pair? cs = some (key, v, after)) :
    cs = key ++ '=' :: (v ++ after) := by
  unfold pair? at h
  split at h
  · next rest hs =>
    have hcs : cs.takeWhile isKeyChar ++ cs.dropWhile isKeyChar = cs :=
      List.takeWhile_append_dropWhile
    rw [hs] at hcs
    dsimp only at h
    split at h
    · simp at h
    · simp only [Option.some.injEq, Prod.mk.injEq] at h
      obtain ⟨rfl, rfl, rfl⟩ := h
      rw [← eq_append_value rest]
      exact hcs.symm
  · simp at h

def joined : List Char × Option (List Char × List Char × List Char) → List Char
  | (before, none) => before
  | (before, some (key, v, after)) => before ++ (key ++ '=' :: (v ++ after))

theorem joined_findPair (inWord : Bool) (cs : List Char) : joined (findPair inWord cs) = cs := by
  induction cs generalizing inWord with
  | nil => simp [findPair, joined]
  | cons c rest ih =>
    simp only [findPair]
    split
    · next found hf =>
      obtain ⟨key, v, after⟩ := found
      cases inWord with
      | true => simp at hf
      | false => simpa [joined] using (eq_of_pair? (by simpa using hf)).symm
    · have := ih (isKeyChar c)
      rcases hfp : findPair (isKeyChar c) rest with ⟨before, none | ⟨key, v, after⟩⟩
      · rw [hfp] at this
        simpa [joined] using this
      · rw [hfp] at this
        simpa [joined] using this

theorem text_plainPiece (cs : List Char) : (plainPiece cs).flatMap Piece.text = cs := by
  cases cs <;> simp [plainPiece, Piece.text]

theorem text_piecesFrom (fuel : Nat) (cs : List Char) :
    (piecesFrom fuel cs).flatMap Piece.text = cs := by
  induction fuel generalizing cs with
  | zero => simp [piecesFrom, text_plainPiece]
  | succ fuel ih =>
    simp only [piecesFrom]
    have h := joined_findPair false cs
    rcases hfp : findPair false cs with ⟨before, none | ⟨key, v, after⟩⟩
    · rw [hfp] at h
      simpa [joined, text_plainPiece] using h
    · rw [hfp] at h
      simpa [joined, text_plainPiece, Piece.text, ih] using h

theorem text_pieces (cs : List Char) : (pieces cs).flatMap Piece.text = cs :=
  text_piecesFrom _ _

/-! ## Layout -/

def isResourceKey (key : List Char) : Bool :=
  let key := String.ofList key
  key = "command" || key = "config"

def Piece.parts : Piece → List (List Char × String)
  | plain t => [(t, "dim")]
  | pair key v =>
    [(key, "bold magenta"), (['='], "dim"),
      (v, if isResourceKey key then "bold blue" else "bold green")]

def spansFrom : Nat → List (List Char × String) → List Span
  | _, [] => []
  | at', (text, style) :: rest =>
    let stop := at' + (clean text).length
    ⟨at', stop, style⟩ :: spansFrom stop rest

def debugMark : List Char := ['[', 'd', 'e', 'b', 'u', 'g', ']', ' ']

def highlighted (text : String) : Styled :=
  let parts := (pieces text.toList).flatMap Piece.parts
  ⟨String.ofList (debugMark ++ parts.flatMap fun (t, _) => clean t), "bold cyan",
    spansFrom debugMark.length parts⟩

end ParserHost.Console
