/-!
Blank characters and the two trims built on them. `isBlank` is the wide class, which counts the
four information separators; `isWhite` is the Unicode property of the same purpose, which does not.

Main statements: a trimmed text is empty exactly when every character is of the class
(`trimBy_eq_nil_iff`), and otherwise starts with one that is not (`head_dropWhile`).
-/
namespace ParserHost.Text

/-- The Unicode property White_Space. -/
def isWhite (c : Char) : Bool :=
  let n := c.toNat
  (9 ≤ n && n ≤ 13) || n == 0x20 || n == 0x85 || n == 0xa0 || n == 0x1680 ||
    (0x2000 ≤ n && n ≤ 0x200a) || n == 0x2028 || n == 0x2029 || n == 0x202f || n == 0x205f ||
    n == 0x3000

/-- White space, or one of the information separators U+001C to U+001F. -/
def isBlank (c : Char) : Bool :=
  isWhite c || (0x1c ≤ c.toNat && c.toNat ≤ 0x1f)

def trimBy (p : Char → Bool) (cs : List Char) : List Char :=
  ((cs.dropWhile p).reverse.dropWhile p).reverse

def trim (s : String) : String :=
  String.ofList (trimBy isBlank s.toList)

def trimWhite (s : String) : String :=
  String.ofList (trimBy isWhite s.toList)

def allBlank (s : String) : Bool :=
  s.toList.all isBlank

theorem head_dropWhile {p : Char → Bool} {cs rest : List Char} {c : Char}
    (h : cs.dropWhile p = c :: rest) : p c = false := by
  induction cs with
  | nil => simp at h
  | cons d ds ih =>
    by_cases hd : p d = true
    · rw [List.dropWhile_cons_of_pos hd] at h
      exact ih h
    · rw [List.dropWhile_cons_of_neg hd] at h
      simp_all

theorem dropWhile_eq_nil {p : Char → Bool} {cs : List Char} :
    cs.dropWhile p = [] ↔ ∀ c ∈ cs, p c = true := by
  induction cs with
  | nil => simp
  | cons d ds ih =>
    by_cases hd : p d = true
    · simp [List.dropWhile_cons_of_pos hd, ih, hd]
    · simp [List.dropWhile_cons_of_neg hd, hd]

theorem trimBy_eq_nil_iff {p : Char → Bool} {cs : List Char} :
    trimBy p cs = [] ↔ ∀ c ∈ cs, p c = true := by
  constructor
  · intro h
    simp only [trimBy, List.reverse_eq_nil_iff, dropWhile_eq_nil, List.mem_reverse] at h
    cases hd : cs.dropWhile p with
    | nil => exact dropWhile_eq_nil.1 hd
    | cons c rest =>
      have hc := head_dropWhile hd
      simp [h c (by simp [hd])] at hc
  · intro h
    simp [trimBy, dropWhile_eq_nil.2 h]

end ParserHost.Text
