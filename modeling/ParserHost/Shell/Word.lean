import ParserHost.Shell.Closing

/-!
Words of a shell script before they are expanded: text, parameters, sums and the output of commands,
each quoted or not. `Word.scan` reads the word at the start of a text.
-/
namespace ParserHost.Shell

inductive Part where
  | text (cs : List Char) (quoted : Bool)
  /-- A parameter; what follows its name in braces is kept as it is written. -/
  | parameter (name : List Char) (modifier : List Char) (quoted : Bool)
  /-- The number of characters of a parameter. -/
  | length (name : List Char) (quoted : Bool)
  | sum (expression : List Char) (quoted : Bool)
  /-- The output of a script, whose lines may go on from those of the script around it. -/
  | output (goesOn : Bool) (script : List Char) (quoted : Bool)
  deriving DecidableEq, Repr, Inhabited

abbrev Word := List Part

def isNameStart (c : Char) : Bool :=
  c.isAlpha || c = '_'

def isNameChar (c : Char) : Bool :=
  c.isAlphanum || c = '_'

def isSpecial (c : Char) : Bool :=
  c.isDigit || ['@', '*', '#', '?', '$', '!', '-'].contains c

def parameterName (cs : List Char) : List Char × List Char :=
  match cs with
  | c :: rest =>
    if isNameStart c then cs.span isNameChar
    else if isSpecial c then ([c], rest)
    else ([], cs)
  | [] => ([], [])

def braced (inside : List Char) (quoted : Bool) : Part :=
  match inside with
  | '#' :: c :: rest =>
    if isNameStart c then .length (c :: rest) quoted
    else .parameter ['#'] (c :: rest) quoted
  | _ =>
    let (name, modifier) := parameterName inside
    .parameter name modifier quoted

/-- What stands after a dollar sign; alone it stands for itself. -/
def dollar (quoted : Bool) (cs : List Char) : Option (Part × List Char) :=
  match cs with
  | '\x7b' :: rest =>
    (toBracesEnd quoted rest).map fun (inside, after) => (braced inside quoted, after)
  | '(' :: '(' :: rest =>
    let (inside, after) := toClosing '(' ')' 1 rest
    some (.sum inside quoted, after.drop 1)
  | '(' :: rest =>
    (toCommandsEnd rest).map fun (inside, after) => (.output true inside quoted, after)
  | cs =>
    let (name, after) := parameterName cs
    some (if name.isEmpty then (.text ['$'] quoted, cs) else (.parameter name [] quoted, after))

/-- A script between backquotes without the backslashes that keep it from ending there; between
double quotes they also keep those. -/
def unescapedScript (quoted : Bool) : List Char → List Char
  | [] => []
  | '\\' :: c :: rest =>
    if ['$', '\\', '\x60'].contains c || (quoted && c = '"') then c :: unescapedScript quoted rest
    else '\\' :: c :: unescapedScript quoted rest
  | c :: rest => c :: unescapedScript quoted rest

/-- The commands after a backquote, and what follows the closing one. -/
def backquoted (quoted : Bool) (cs : List Char) : Option (Part × List Char) :=
  (toBackquote cs).map fun (inside, after) =>
    (.output false (unescapedScript quoted inside) quoted, after)

/-- Whether a backslash inside double quotes takes the meaning from a character. -/
def isEscapable (c : Char) : Bool :=
  ['$', '"', '\\', '\x60'].contains c

inductive QuoteMark where
  /-- It ends the text. -/
  | ends
  | kept
  | dropped
  deriving DecidableEq, Repr

def quotedParts (m : QuoteMark) : Nat → List Char → List Part → Option (List Part × List Char)
  | 0, _, _ => none
  | _, [], acc => if m = .ends then none else some (acc, [])
  | fuel + 1, c :: rest, acc =>
    if c = '"' && m = .ends then some (acc, rest)
    else if c = '"' && m = .dropped then quotedParts m fuel rest acc
    else if c = '$' then
      match dollar true rest with
      | some (part, after) => quotedParts m fuel after (part :: acc)
      | none => none
    else if c = '\x60' then
      match backquoted (m != .kept) rest with
      | some (part, after) => quotedParts m fuel after (part :: acc)
      | none => none
    else if c = '\\' then
      match rest with
      | '\n' :: rest => quotedParts m fuel rest acc
      | d :: rest =>
        let isPlain := if d = '"' then m != .kept else isEscapable d || (d = '\x7d' && m = .dropped)
        quotedParts m fuel rest (.text (if isPlain then [d] else ['\\', d]) true :: acc)
      | [] => if m = .ends then none else some (.text ['\\'] true :: acc, [])
    else quotedParts m fuel rest (.text [c] true :: acc)

/-- The parts of a word up to a character that ends it; the parts read so far are in reverse. -/
def wordParts (ends : Char → Bool) : Nat → List Char → List Part → Option (Word × List Char)
  | 0, _, _ => none
  | _, [], acc => some (acc.reverse, [])
  | fuel + 1, c :: rest, acc =>
    if ends c then some (acc.reverse, c :: rest)
    else if c = '\'' then
      match toSingleQuote rest with
      | some (inside, after) => wordParts ends fuel after (.text inside true :: acc)
      | none => none
    else if c = '"' then
      match quotedParts .ends fuel rest (.text [] true :: acc) with
      | some (acc, after) => wordParts ends fuel after acc
      | none => none
    else if c = '$' then
      match dollar false rest with
      | some (part, after) => wordParts ends fuel after (part :: acc)
      | none => none
    else if c = '\x60' then
      match backquoted false rest with
      | some (part, after) => wordParts ends fuel after (part :: acc)
      | none => none
    else if c = '\\' then
      match rest with
      | '\n' :: rest => wordParts ends fuel rest acc
      | d :: rest => wordParts ends fuel rest (.text [d] true :: acc)
      | [] => wordParts ends fuel [] (.text ['\\'] true :: acc)
    else wordParts ends fuel rest (.text [c] false :: acc)

def Word.scan (cs : List Char) : Option (Word × List Char) :=
  wordParts isBreak (cs.length + 1) cs []

/-- A text that is one word as a whole, such as the pattern of a modifier. -/
def Word.ofChars (cs : List Char) : Word :=
  match wordParts (fun _ => false) (cs.length + 1) cs [] with
  | some (w, _) => w
  | none => [.text cs false]

/-- A text that is quoted as a whole. -/
def Word.ofQuoted (m : QuoteMark) (cs : List Char) : Word :=
  match quotedParts m (cs.length + 1) cs [] with
  | some (acc, _) => acc.reverse
  | none => [.text cs true]

/-- The parts of a text in which quotes stand for themselves, such as a here-document. -/
def Word.ofDocument (cs : List Char) : Word :=
  Word.ofQuoted .kept cs

def Word.plain? : Word → Option (List Char)
  | [] => some []
  | .text cs false :: rest => (Word.plain? rest).map (cs ++ ·)
  | _ => none

/-- The text of a word without its quotes; other parts do not count. -/
def Word.unquoted (w : Word) : List Char :=
  w.flatMap fun
    | .text cs _ => cs
    | _ => []

def Word.isQuoted (w : Word) : Bool :=
  w.any fun
    | .text _ quoted => quoted
    | _ => false

end ParserHost.Shell
