import ParserHost.Text.Search

/-!
Command lines as words, quoted as a shell reads them. `split` cuts a line into words, `join` writes
words as a line.

Main statement: splitting what was joined gives the words back (`split_join`).
-/
namespace ParserHost.Words

inductive Unclosed where
  | quotation
  | escape
  deriving DecidableEq, Repr

def Unclosed.text : Unclosed → String
  | quotation => "No closing quotation"
  | escape => "No escaped character"

inductive Inside where
  | gap
  | word
  | single
  | double
  | escape
  | doubleEscape
  deriving DecidableEq, Repr

def isGap (c : Char) : Bool :=
  c = ' ' || c = '\t' || c = '\r' || c = '\n'

/-- The words of a text; the characters of the current one are in reverse. -/
def scan : Inside → List Char → List Char → Except Unclosed (List (List Char))
  | .gap, _, [] => .ok []
  | .gap, _, c :: rest =>
    if isGap c then scan .gap [] rest
    else if c = '\'' then scan .single [] rest
    else if c = '"' then scan .double [] rest
    else if c = '\\' then scan .escape [] rest
    else scan .word [c] rest
  | .word, acc, [] => .ok [acc.reverse]
  | .word, acc, c :: rest =>
    if isGap c then (scan .gap [] rest).map (acc.reverse :: ·)
    else if c = '\'' then scan .single acc rest
    else if c = '"' then scan .double acc rest
    else if c = '\\' then scan .escape acc rest
    else scan .word (c :: acc) rest
  | .single, _, [] => .error .quotation
  | .single, acc, c :: rest =>
    if c = '\'' then scan .word acc rest else scan .single (c :: acc) rest
  | .double, _, [] => .error .quotation
  | .double, acc, c :: rest =>
    if c = '"' then scan .word acc rest
    else if c = '\\' then scan .doubleEscape acc rest
    else scan .double (c :: acc) rest
  | .escape, _, [] => .error .escape
  | .escape, acc, c :: rest => scan .word (c :: acc) rest
  | .doubleEscape, _, [] => .error .escape
  | .doubleEscape, acc, c :: rest =>
    if c = '"' || c = '\\' then scan .double (c :: acc) rest
    else scan .double (c :: '\\' :: acc) rest

def split (line : String) : Except Unclosed (List String) :=
  (scan .gap [] line.toList).map (List.map String.ofList)

def isSafe (c : Char) : Bool :=
  c.isAlphanum || ['_', '@', '%', '+', '=', ':', ',', '.', '/', '-'].contains c

/-- A single quote leaves its quotation and stands between double ones. -/
def quoteChar (c : Char) : List Char :=
  if c = '\'' then ['\'', '"', '\'', '"', '\''] else [c]

def quoted (cs : List Char) : List Char :=
  if cs.isEmpty then ['\'', '\'']
  else if cs.all isSafe then cs
  else '\'' :: cs.flatMap quoteChar ++ ['\'']

def joinChars : List (List Char) → List Char
  | [] => []
  | [w] => quoted w
  | w :: rest => quoted w ++ ' ' :: joinChars rest

def join (words : List String) : String :=
  String.ofList (joinChars (words.map String.toList))

theorem not_isGap_of_isSafe {c : Char} (h : isSafe c = true) :
    isGap c = false ∧ c ≠ '\'' ∧ c ≠ '"' ∧ c ≠ '\\' := by
  refine ⟨?_, ?_, ?_, ?_⟩
  · cases hc : isGap c with
    | false => rfl
    | true =>
      simp only [isGap, Bool.or_eq_true, decide_eq_true_eq] at hc
      rcases hc with ((hc | hc) | hc) | hc <;> subst hc <;> simp [isSafe] at h
  all_goals
    rintro rfl
    simp [isSafe] at h

theorem scan_safe {cs acc rest : List Char} (h : ∀ c ∈ cs, isSafe c = true) :
    scan .word acc (cs ++ rest) = scan .word (cs.reverse ++ acc) rest := by
  induction cs generalizing acc with
  | nil => simp
  | cons c cs ih =>
    obtain ⟨hg, hs, hd, he⟩ := not_isGap_of_isSafe (h c List.mem_cons_self)
    simp only [List.cons_append, scan, hg, hs, hd, he, if_false, Bool.false_eq_true]
    rw [ih fun d hd => h d (List.mem_cons_of_mem _ hd)]
    simp

theorem scan_quoteChars {cs acc rest : List Char} :
    scan .single acc (cs.flatMap quoteChar ++ '\'' :: rest) =
      scan .word (cs.reverse ++ acc) rest := by
  induction cs generalizing acc with
  | nil => simp [scan]
  | cons c cs ih =>
    by_cases hc : c = '\''
    · subst hc
      simp only [List.flatMap_cons, quoteChar, if_true, List.cons_append, List.nil_append,
        scan, isGap]
      simp [ih]
    · simp only [List.flatMap_cons, quoteChar, hc, if_false, List.cons_append, List.nil_append,
        scan]
      rw [ih]
      simp

theorem scan_quoted (cs rest : List Char) :
    scan .gap [] (quoted cs ++ rest) = scan .word cs.reverse rest := by
  unfold quoted
  split
  · next h =>
    rw [List.isEmpty_iff] at h
    subst h
    simp [scan, isGap]
  · next hne =>
    split
    · next hall =>
      rw [List.all_eq_true] at hall
      cases cs with
      | nil => simp at hne
      | cons c cs =>
        obtain ⟨hg, hs, hd, he⟩ := not_isGap_of_isSafe (hall c List.mem_cons_self)
        simp only [List.cons_append, scan, hg, hs, hd, he, if_false, Bool.false_eq_true]
        rw [scan_safe fun d hd => hall d (List.mem_cons_of_mem _ hd)]
        simp
    · simp only [List.cons_append, List.append_assoc, List.nil_append, scan, isGap]
      rw [scan_quoteChars]
      simp

theorem scan_joinChars (words : List (List Char)) : scan .gap [] (joinChars words) = .ok words := by
  induction words with
  | nil => simp [joinChars, scan]
  | cons w rest ih =>
    cases rest with
    | nil =>
      have := scan_quoted w []
      simp only [List.append_nil] at this
      simp [joinChars, this, scan]
    | cons v rest =>
      simp only [joinChars]
      rw [scan_quoted, scan]
      simp [isGap, ih, Except.map]

theorem split_join (words : List String) : split (join words) = .ok words := by
  simp [split, join, scan_joinChars, Except.map, Function.comp_def]

end ParserHost.Words
