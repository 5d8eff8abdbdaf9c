/-!
Where what is opened in a shell script ends: a quotation, the braces of a parameter, the commands
between the brackets of a substitution. Each of them may hold the others, so a closing mark counts
only outside of what was opened after it.

Every function takes the text gone over so far, in reverse, and goes on with it; the closing mark
is the last character that it adds. Fuel is needed twice for each character at most.
-/
namespace ParserHost.Shell

def isBreak (c : Char) : Bool :=
  [' ', '\t', '\n', ';', '&', '|', '<', '>', '(', ')'].contains c

/-- The text up to the bracket that closes the given number of open ones, and what follows. -/
def toClosing (opening closing : Char) : Nat → List Char → List Char × List Char
  | _, [] => ([], [])
  | depth, c :: rest =>
    if c = closing && depth ≤ 1 then ([], rest)
    else
      let depth := if c = opening then depth + 1 else if c = closing then depth - 1 else depth
      let (inside, after) := toClosing opening closing depth rest
      (c :: inside, after)

def toSingleQuote : List Char → Option (List Char × List Char)
  | [] => none
  | c :: rest =>
    if c = '\'' then some ([], rest)
    else (toSingleQuote rest).map fun (inside, after) => (c :: inside, after)

def toBackquote : List Char → Option (List Char × List Char)
  | [] => none
  | '\\' :: c :: rest =>
    (toBackquote rest).map fun (inside, after) => ('\\' :: c :: inside, after)
  | c :: rest =>
    if c = '\x60' then some ([], rest)
    else (toBackquote rest).map fun (inside, after) => (c :: inside, after)

namespace Closing

inductive Opened where
  | bracket
  /-- A choice between patterns; its closing brackets end patterns. -/
  | choice
  deriving DecidableEq, Repr

structure Reading where
  opened : List Opened
  /-- Whether the word here is the first one of a command. -/
  atCommand : Bool
  /-- The word so far, in reverse. -/
  word : List Char
  /-- The delimiters of the here-documents of this line, and whether tabs in front do not count. -/
  pending : List (List Char × Bool)

def Reading.start : Reading := ⟨[], true, [], []⟩

def leading : List String :=
  ["then", "do", "else", "elif", "if", "while", "until", "!", "\x7b"]

def Reading.endWord (r : Reading) : Reading :=
  let name := String.ofList r.word.reverse
  if r.word.isEmpty then r
  else if !r.atCommand then { r with word := [] }
  else if name = "case" then { r with opened := .choice :: r.opened, atCommand := false, word := [] }
  else if name = "esac" && r.opened.head? = some .choice then
    { r with opened := r.opened.drop 1, atCommand := false, word := [] }
  else { r with atCommand := leading.contains name, word := [] }

def Reading.endCommand (r : Reading) : Reading :=
  { r.endWord with atCommand := true }

def overDocument (delimiter : List Char) (dropTabs : Bool) :
    Nat → List Char → List Char × List Char
  | 0, cs => ([], cs)
  | _, [] => ([], [])
  | fuel + 1, cs =>
    let (line, after) := cs.span (· != '\n')
    let ending := after.take 1
    let shown := if dropTabs then line.dropWhile (· = '\t') else line
    if shown = delimiter then (line ++ ending, after.drop 1)
    else
      let (more, rest) := overDocument delimiter dropTabs fuel (after.drop 1)
      (line ++ ending ++ more, rest)

def overDocuments : List (List Char × Bool) → List Char → List Char × List Char
  | [], cs => ([], cs)
  | (delimiter, dropTabs) :: more, cs =>
    let (text, rest) := overDocument delimiter dropTabs (cs.length + 1) cs
    let (texts, rest) := overDocuments more rest
    (text ++ texts, rest)

/-- The operator and the delimiter of a here-document after its first sign, as they are written, the
delimiter without its quotes, and what follows. -/
def documentStart (cs : List Char) : List Char × (List Char × Bool) × List Char :=
  let (dash, rest) := match cs with
    | '<' :: '-' :: rest => (['<', '-'], rest)
    | cs => (cs.take 1, cs.drop 1)
  let (blank, rest) := rest.span fun c => c = ' ' || c = '\t'
  let (word, rest) := rest.span fun c => !isBreak c
  let delimiter := word.filter fun c => !(['\'', '"', '\\'].contains c)
  (dash ++ blank ++ word, (delimiter, 1 < dash.length), rest)

/-- Puts a text that was gone over in front of what was gone over before. -/
def passed (text acc : List Char) : List Char :=
  text.reverse ++ acc

/-- Whether the inside of some braces cuts a pattern off a parameter. Such a pattern is quoted by its
own marks alone. -/
def isCut (cs : List Char) : Bool :=
  let rest := if (cs.head?.map fun c => c.isAlpha || c = '_').getD false
    then cs.dropWhile fun c => c.isAlphanum || c = '_' else cs.drop 1
  rest.head? = some '%' || rest.head? = some '#'

mutual
def quotation : Nat → List Char → List Char → Option (List Char × List Char)
  | 0, _, _ => none
  | _, _, [] => none
  | fuel + 1, acc, c :: rest =>
    if c = '"' then some (c :: acc, rest)
    else
      match one fuel true acc (c :: rest) with
      | some (acc, rest) => quotation fuel acc rest
      | none => none

def braces (quoted : Bool) : Nat → List Char → List Char → Option (List Char × List Char)
  | 0, _, _ => none
  | _, _, [] => none
  | fuel + 1, acc, c :: rest =>
    if c = '\x7d' then some (c :: acc, rest)
    else
      match one fuel quoted acc (c :: rest) with
      | some (acc, rest) => braces quoted fuel acc rest
      | none => none

/-- Goes over one character, or over what it opens. Between double quotes a single one is a
character. -/
def one (fuel : Nat) (quoted : Bool) (acc : List Char) (cs : List Char) :
    Option (List Char × List Char) :=
  match fuel with
  | 0 => none
  | fuel + 1 =>
    match cs with
    | [] => none
    | '\\' :: [] => none
    | '\\' :: c :: rest => some (c :: '\\' :: acc, rest)
    | '\x60' :: rest =>
      (toBackquote rest).map fun (inside, rest) => ('\x60' :: passed inside ('\x60' :: acc), rest)
    | '$' :: '\x7b' :: rest => braces (quoted && !isCut rest) fuel ('\x7b' :: '$' :: acc) rest
    | '$' :: '(' :: '(' :: rest =>
      let (inside, rest) := toClosing '(' ')' 1 rest
      some (')' :: passed inside ('(' :: '(' :: '$' :: acc), rest)
    | '$' :: '(' :: rest => commands fuel .start ('(' :: '$' :: acc) rest
    | '"' :: rest => quotation fuel ('"' :: acc) rest
    | '\'' :: rest =>
      if quoted then some ('\'' :: acc, rest)
      else (toSingleQuote rest).map fun (inside, rest) => ('\'' :: passed inside ('\'' :: acc), rest)
    | c :: rest => some (c :: acc, rest)

def commands : Nat → Reading → List Char → List Char → Option (List Char × List Char)
  | 0, _, _, _ => none
  | _, _, _, [] => none
  | fuel + 1, r, acc, c :: rest =>
    if c = ' ' || c = '\t' then commands fuel r.endWord (c :: acc) rest
    else if c = '\n' then
      let (texts, rest) := overDocuments r.pending rest
      commands fuel { r.endCommand with pending := [] } (passed texts (c :: acc)) rest
    else if c = '#' && r.word.isEmpty then
      let (comment, rest) := rest.span (· != '\n')
      commands fuel r (passed comment (c :: acc)) rest
    else if c = ';' || c = '&' || c = '|' then commands fuel r.endCommand (c :: acc) rest
    else if c = '(' then
      let r := r.endCommand
      commands fuel { r with opened := .bracket :: r.opened } (c :: acc) rest
    else if c = ')' then
      let r := r.endCommand
      match r.opened with
      | [] => some (c :: acc, rest)
      | .bracket :: opened => commands fuel { r with opened, atCommand := false } (c :: acc) rest
      | .choice :: _ => commands fuel r (c :: acc) rest
    else if c = '<' && rest.head? = some '<' then
      let (written, delimiter, rest) := documentStart rest
      let r := r.endWord
      commands fuel { r with pending := r.pending ++ [delimiter] } (passed written (c :: acc)) rest
    else if c = '<' || c = '>' then commands fuel r.endWord (c :: acc) rest
    else
      match one fuel false acc (c :: rest) with
      | some (acc, rest) => commands fuel { r with word := c :: r.word } acc rest
      | none => none
end

/-- What a reader went over without the closing mark, and what follows that. -/
def inside (found : Option (List Char × List Char)) : Option (List Char × List Char) :=
  found.map fun (acc, rest) => ((acc.drop 1).reverse, rest)

end Closing

/-- The commands up to the bracket that ends them, and what follows. -/
def toCommandsEnd (cs : List Char) : Option (List Char × List Char) :=
  Closing.inside (Closing.commands (2 * cs.length + 2) .start [] cs)

def toBracesEnd (quoted : Bool) (cs : List Char) : Option (List Char × List Char) :=
  Closing.inside (Closing.braces (quoted && !Closing.isCut cs) (2 * cs.length + 2) [] cs)

example : toCommandsEnd "echo \")\") x".toList = some ("echo \")\"".toList, " x".toList) := by
  decide +kernel
example : toCommandsEnd "case a in a) b;; esac)".toList =
    some ("case a in a) b;; esac".toList, []) := by decide +kernel
example : toBracesEnd true "y:-it's\x7d z".toList = some ("y:-it's".toList, " z".toList) := by
  decide +kernel

end ParserHost.Shell
