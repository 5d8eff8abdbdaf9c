import ParserHost.Text.Blank

/-!
Lines of a text. `foldNewlines` turns every line end (CR LF, CR, LF) into LF; `terminated` cuts a
text after each LF, as a reader of a stream sees it; `split` cuts it at every character that ends a
line in Unicode.
-/
namespace ParserHost.Text

/-- Every CR LF and every lone CR becomes LF. -/
def foldNewlines : List Char → List Char
  | [] => []
  | '\r' :: '\n' :: rest => '\n' :: foldNewlines rest
  | '\r' :: rest => '\n' :: foldNewlines rest
  | c :: rest => c :: foldNewlines rest

/-- The lines of a text whose line ends are LF, each without its end; a last line without an end
counts unless it is empty. -/
def terminatedAux : List Char → List Char → List (List Char)
  | [], [] => []
  | [], acc => [acc.reverse]
  | '\n' :: rest, acc => acc.reverse :: terminatedAux rest []
  | c :: rest, acc => terminatedAux rest (c :: acc)

/-- The lines that a reader of the text sees one after the other, without their ends. -/
def terminated (s : String) : List String :=
  (terminatedAux (foldNewlines s.toList) []).map String.ofList

/-- Characters that end a line: the ASCII ones, NEL, and the two Unicode separators. -/
def endsLine (c : Char) : Bool :=
  let n := c.toNat
  (0x0a ≤ n && n ≤ 0x0d) || (0x1c ≤ n && n ≤ 0x1e) || n == 0x85 || n == 0x2028 || n == 0x2029

def splitAux : List Char → List Char → List (List Char)
  | [], [] => []
  | [], acc => [acc.reverse]
  | '\r' :: '\n' :: rest, acc => acc.reverse :: splitAux rest []
  | c :: rest, acc =>
    if endsLine c then acc.reverse :: splitAux rest [] else splitAux rest (c :: acc)

def splitLines (s : String) : List String :=
  (splitAux s.toList []).map String.ofList

def unifyNewlines (s : String) : String :=
  String.ofList (foldNewlines s.toList)

theorem not_mem_foldNewlines (cs : List Char) : '\r' ∉ foldNewlines cs := by
  fun_induction foldNewlines cs with
  | case1 => simp
  | case2 rest ih => simp [ih]
  | case3 rest _ ih => simp [ih]
  | case4 c rest _ h ih =>
    simp only [List.mem_cons, not_or]
    refine ⟨?_, ih⟩
    intro hc
    subst hc
    exact h rfl

end ParserHost.Text
