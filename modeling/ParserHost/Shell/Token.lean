import ParserHost.Shell.Word

/-!
Tokens of a shell script: words, operators and redirections. A here-document is a token that holds
its text; the text follows the line on which its operator stands.
-/
namespace ParserHost.Shell

inductive Direction where
  | write
  | append
  | read
  | duplicate
  deriving DecidableEq, Repr, Inhabited

inductive Token where
  /-- A word, with the line on which it starts. -/
  | word (line : Nat) (w : Word)
  /-- An operator, or a line end. -/
  | mark (m : String)
  /-- A redirection, whose target is the next word. -/
  | redirect (stream : Nat) (direction : Direction)
  | document (stream : Nat) (text : Word)
  deriving DecidableEq, Repr, Inhabited

structure Pending where
  delimiter : List Char
  literal : Bool
  /-- Whether tabs at the start of lines are dropped. -/
  dropTabs : Bool
  deriving DecidableEq, Repr, Inhabited

def takeLine : List Char → List Char × List Char
  | [] => ([], [])
  | '\n' :: rest => ([], rest)
  | c :: rest =>
    let (line, after) := takeLine rest
    (c :: line, after)

def documentText (p : Pending) : Nat → List Char → List Char × List Char
  | 0, cs => ([], cs)
  | _, [] => ([], [])
  | fuel + 1, cs =>
    let (line, after) := takeLine cs
    let line := if p.dropTabs then line.dropWhile (· = '\t') else line
    if line = p.delimiter then ([], after)
    else
      let (more, after) := documentText p fuel after
      (line ++ '\n' :: more, after)

/-- The texts of here-documents, one after the other, and what follows. -/
def documents : List Pending → List Char → List Word × List Char
  | [], cs => ([], cs)
  | p :: rest, cs =>
    let (text, after) := documentText p (cs.length + 1) cs
    let (more, after) := documents rest after
    ((if p.literal then [.text text true] else Word.ofDocument text) :: more, after)

def operators : List String :=
  ["&&", "||", ";;", ";", "&", "|", "(", ")"]

def operator? (cs : List Char) : Option (String × List Char) :=
  operators.findSome? fun op =>
    if op.toList.isPrefixOf cs then some (op, cs.drop op.length) else none

inductive Redirecting where
  | to (d : Direction)
  | document (dropTabs : Bool)
  deriving DecidableEq, Repr

/-- The redirection at the start of a text, with the stream it is about. -/
def redirection? (cs : List Char) : Option (Nat × Redirecting × List Char) :=
  let (digits, rest) := cs.span Char.isDigit
  let number (default : Nat) : Nat :=
    if digits.isEmpty then default
    else digits.foldl (fun n c => n * 10 + (c.toNat - '0'.toNat)) 0
  match rest with
  | '>' :: '>' :: rest => some (number 1, .to .append, rest)
  | '>' :: '&' :: rest => some (number 1, .to .duplicate, rest)
  | '>' :: '|' :: rest => some (number 1, .to .write, rest)
  | '>' :: rest => some (number 1, .to .write, rest)
  | '<' :: '<' :: '-' :: rest => some (number 0, .document true, rest)
  | '<' :: '<' :: rest => some (number 0, .document false, rest)
  | '<' :: '&' :: rest => some (number 0, .to .duplicate, rest)
  | '<' :: rest => some (number 0, .to .read, rest)
  | _ => none

/-- Tokens in which the place of each here-document is kept, and the texts of those, in order. -/
structure Scanned where
  tokens : List Token
  texts : List Word

def isSpaceChar (c : Char) : Bool :=
  c = ' ' || c = '\t'

def linesBefore (rest text : List Char) : Nat :=
  text.count '\n' - rest.count '\n'

/-- Reads tokens from a line on; `pending` are the here-documents of that line. -/
def scanFrom : Nat → Nat → List Char → List Pending → Option Scanned
  | 0, _, _, _ => none
  | _, _, [], _ => some ⟨[], []⟩
  | fuel + 1, line, c :: rest, pending =>
    let add (t : Token) (s : Scanned) : Scanned := { s with tokens := t :: s.tokens }
    if isSpaceChar c then scanFrom fuel line rest pending
    else if c = '\\' && rest.head? = some '\n' then
      scanFrom fuel (line + 1) (rest.drop 1) pending
    else if c = '#' then scanFrom fuel line (rest.dropWhile (· != '\n')) pending
    else if c = '\n' then
      let (texts, after) := documents pending rest
      (scanFrom fuel (line + 1 + linesBefore after rest) after []).map fun s =>
        ⟨.mark "\n" :: s.tokens, texts ++ s.texts⟩
    else
      match redirection? (c :: rest) with
      | some (stream, .to d, after) =>
        (scanFrom fuel line after pending).map (add (.redirect stream d))
      | some (stream, .document dropTabs, after) =>
        match Word.scan (after.dropWhile isSpaceChar) with
        | some (w, after) =>
          (scanFrom fuel line after (pending ++ [⟨w.unquoted, w.isQuoted, dropTabs⟩])).map
            (add (.document stream []))
        | none => none
      | none =>
        match operator? (c :: rest) with
        | some (op, after) => (scanFrom fuel line after pending).map (add (.mark op))
        | none =>
          match Word.scan (c :: rest) with
          | some (w, after) =>
            (scanFrom fuel (line + linesBefore after rest) after pending).map (add (.word line w))
          | none => none

def fillDocuments : List Token → List Word → List Token
  | [], _ => []
  | .document stream _ :: rest, text :: texts => .document stream text :: fillDocuments rest texts
  | t :: rest, texts => t :: fillDocuments rest texts

/-- The tokens of a script from a line on; there are none if a quotation is not closed. -/
def tokens (line : Nat) (script : List Char) : Option (List Token) :=
  (scanFrom (2 * script.length + 2) line script []).map fun s => fillDocuments s.tokens s.texts

end ParserHost.Shell
