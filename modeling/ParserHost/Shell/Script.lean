import ParserHost.Shell.Token

/-!
Shell scripts as trees of commands. `Script.ofChars` reads a script line by line, so that the lines in
front of one that cannot be read still count; every function takes fuel, of which the number of tokens
is enough.
-/
namespace ParserHost.Shell

inductive Target where
  | file (direction : Direction) (name : Word)
  | document (text : Word)
  deriving DecidableEq, Repr, Inhabited

structure Redirection where
  stream : Nat
  target : Target
  deriving DecidableEq, Repr, Inhabited

inductive Command where
  | simple (line : Nat) (assignments : List (List Char × Word)) (words : List Word)
    (redirections : List Redirection)
  | pipe (left right : Command)
  | both (left right : Command)
  | either (left right : Command)
  | negated (c : Command)
  | sequence (first second : Command)
  | background (c : Command)
  | choose (condition yes no : Command)
  /-- Repeats its body while the condition holds, or until it does. -/
  | repeat (stops : Bool) (condition body : Command)
  | forEach (name : List Char) (words : Option (List Word)) (body : Command)
  | match' (subject : Word) (cases : List (List Word × Command))
  | nested (c : Command)
  | redirected (line : Nat) (c : Command) (redirections : List Redirection)
  /-- Gives a name to a body that can be called with arguments. -/
  | define (name : List Char) (body : Command)
  | nothing
  deriving Repr, Inhabited

def Token.keyword? : Token → Option String
  | .word _ w => (w.plain?).map String.ofList
  | _ => none

def endsList (t : Token) : Bool :=
  match t with
  | .mark m => m = ")" || m = ";;"
  | .word _ w =>
    match w.plain? with
    | some cs =>
      ["then", "else", "elif", "fi", "do", "done", "esac", "\x7d"].contains (String.ofList cs)
    | none => false
  | _ => false

def isSeparator : Token → Bool
  | .mark m => m = ";" || m = "\n"
  | _ => false

def lineOf : List Token → Nat
  | .word line _ :: _ => line
  | _ :: rest => lineOf rest
  | [] => 0

def skipLines : List Token → List Token :=
  List.dropWhile fun t => t == .mark "\n"

def afterKeyword? (k : String) : List Token → Option (List Token)
  | t :: rest => if t.keyword? = some k then some rest else none
  | [] => none

def assignment? (w : Word) : Option (List Char × Word) :=
  let rec go : List Char → Word → Option (List Char × Word)
    | name, .text [c] false :: rest =>
      if c = '=' && !name.isEmpty then some (name.reverse, rest)
      else if (if name.isEmpty then isNameStart c else isNameChar c) then go (c :: name) rest
      else none
    | _, _ => none
  go [] w

def redirections : List Token → List Redirection × List Token
  | .redirect stream d :: .word _ w :: rest =>
    let (more, after) := redirections rest
    (⟨stream, .file d w⟩ :: more, after)
  | .document stream text :: rest =>
    let (more, after) := redirections rest
    (⟨stream, .document text⟩ :: more, after)
  | ts => ([], ts)

def simpleParts : List Token → List Word × List Redirection × List Token
  | .word _ w :: rest =>
    let (ws, rs, after) := simpleParts rest
    (w :: ws, rs, after)
  | .redirect stream d :: .word _ w :: rest =>
    let (ws, rs, after) := simpleParts rest
    (ws, ⟨stream, .file d w⟩ :: rs, after)
  | .document stream text :: rest =>
    let (ws, rs, after) := simpleParts rest
    (ws, ⟨stream, .document text⟩ :: rs, after)
  | ts => ([], [], ts)

def splitAssignments : List Word → List (List Char × Word) × List Word
  | [] => ([], [])
  | w :: rest =>
    match assignment? w with
    | some a =>
      let (more, words) := splitAssignments rest
      (a :: more, words)
    | none => ([], w :: rest)

def simple (ts : List Token) : Option (Command × List Token) :=
  let (ws, rs, after) := simpleParts ts
  if ws.isEmpty && rs.isEmpty then none
  else
    let (assignments, words) := splitAssignments ws
    some (.simple (lineOf ts) assignments words rs, after)

def loopWords : List Token → List Word × List Token
  | .word _ w :: rest =>
    let (ws, after) := loopWords rest
    (w :: ws, after)
  | ts => ([], ts)

def patterns : Nat → List Token → Option (List Word × List Token)
  | 0, _ => none
  | fuel + 1, ts =>
    match ts with
    | .word _ w :: .mark ")" :: rest => some ([w], rest)
    | .word _ w :: .mark "|" :: rest => (patterns fuel rest).map fun (ws, after) => (w :: ws, after)
    | _ => none

mutual
def list : Nat → List Token → Option (Command × List Token)
  | 0, _ => none
  | fuel + 1, ts =>
    match ts.dropWhile isSeparator with
    | [] => some (.nothing, [])
    | t :: rest =>
      if endsList t then some (.nothing, t :: rest)
      else
        match andOr fuel (t :: rest) with
        | none => none
        | some (c, .mark "&" :: after) =>
          (list fuel after).map fun (more, after) => (.sequence (.background c) more, after)
        | some (c, after) => (list fuel after).map fun (more, after) => (.sequence c more, after)

/-- Pipelines joined by `&&` and `||`. -/
def andOr : Nat → List Token → Option (Command × List Token)
  | 0, _ => none
  | fuel + 1, ts =>
    match pipeline fuel ts with
    | none => none
    | some (c, after) => andOrRest fuel c after

def andOrRest : Nat → Command → List Token → Option (Command × List Token)
  | 0, _, _ => none
  | fuel + 1, left, ts =>
    match ts with
    | .mark "&&" :: rest =>
      match pipeline fuel (skipLines rest) with
      | some (right, after) => andOrRest fuel (.both left right) after
      | none => none
    | .mark "||" :: rest =>
      match pipeline fuel (skipLines rest) with
      | some (right, after) => andOrRest fuel (.either left right) after
      | none => none
    | ts => some (left, ts)

def pipeline : Nat → List Token → Option (Command × List Token)
  | 0, _ => none
  | fuel + 1, ts =>
    match afterKeyword? "!" ts with
    | some rest => (pipeline fuel rest).map fun (c, after) => (.negated c, after)
    | none =>
      match command fuel ts with
      | some (c, .mark "|" :: rest) =>
        (pipeline fuel (skipLines rest)).map fun (right, after) => (.pipe c right, after)
      | found => found

def command : Nat → List Token → Option (Command × List Token)
  | 0, _ => none
  | fuel + 1, ts =>
    match compound fuel ts with
    | some (c, after) =>
      let (rs, after) := redirections after
      some (if rs.isEmpty then c else .redirected (lineOf ts) c rs, after)
    | none =>
      match ts with
      | .word _ w :: .mark "(" :: .mark ")" :: rest => do
        let name ← w.plain?
        let (body, after) ← command fuel (skipLines rest)
        return (.define name body, after)
      | t :: _ => if endsList t then none else simple ts
      | [] => none

def compound : Nat → List Token → Option (Command × List Token)
  | 0, _ => none
  | fuel + 1, ts =>
    match ts with
    | [] => none
    | .mark "(" :: rest =>
      match list fuel rest with
      | some (c, .mark ")" :: after) => some (.nested c, after)
      | _ => none
    | t :: rest =>
      match t.keyword? with
      | some "\x7b" => do
        let (c, after) ← list fuel rest
        return (c, ← afterKeyword? "\x7d" after)
      | some "if" => conditional fuel rest
      | some "while" => loop fuel false rest
      | some "until" => loop fuel true rest
      | some "for" => forLoop fuel rest
      | some "case" => caseOf fuel rest
      | _ => none

/-- A condition after `if` or `elif`, and its branches. -/
def conditional : Nat → List Token → Option (Command × List Token)
  | 0, _ => none
  | fuel + 1, ts => do
    let (condition, after) ← list fuel ts
    let after ← afterKeyword? "then" after
    let (yes, after) ← list fuel after
    match afterKeyword? "elif" after with
    | some after =>
      let (no, after) ← conditional fuel after
      return (.choose condition yes no, after)
    | none =>
      match afterKeyword? "else" after with
      | some after =>
        let (no, after) ← list fuel after
        return (.choose condition yes no, ← afterKeyword? "fi" after)
      | none => return (.choose condition yes .nothing, ← afterKeyword? "fi" after)

def loop : Nat → Bool → List Token → Option (Command × List Token)
  | 0, _, _ => none
  | fuel + 1, stops, ts => do
    let (condition, after) ← list fuel ts
    let after ← afterKeyword? "do" after
    let (body, after) ← list fuel after
    return (.repeat stops condition body, ← afterKeyword? "done" after)

def forLoop : Nat → List Token → Option (Command × List Token)
  | 0, _ => none
  | fuel + 1, ts => do
    match ts with
    | .word _ w :: rest =>
      let name ← w.plain?
      let (words, after) := match afterKeyword? "in" (skipLines rest) with
        | some after =>
          let (ws, after) := loopWords after
          (some ws, after)
        | none => (none, rest)
      let after ← afterKeyword? "do" (after.dropWhile isSeparator)
      let (body, after) ← list fuel after
      return (.forEach name words body, ← afterKeyword? "done" after)
    | _ => none

def caseOf : Nat → List Token → Option (Command × List Token)
  | 0, _ => none
  | fuel + 1, ts => do
    match ts with
    | .word _ w :: rest =>
      let after ← afterKeyword? "in" (skipLines rest)
      let (cases, after) ← caseList fuel after
      return (.match' w cases, after)
    | _ => none

/-- The cases up to `esac`. -/
def caseList : Nat → List Token → Option (List (List Word × Command) × List Token)
  | 0, _ => none
  | fuel + 1, ts =>
    let ts := skipLines ts
    match afterKeyword? "esac" ts with
    | some after => some ([], after)
    | none => do
      let ts := match ts with
        | .mark "(" :: rest => rest
        | ts => ts
      let (ws, after) ← patterns fuel ts
      let (body, after) ← list fuel after
      let after := match after with
        | .mark ";;" :: rest => rest
        | after => after
      let (more, after) ← caseList fuel after
      return ((ws, body) :: more, after)
end

structure Script where
  commands : Command
  /-- Whether that is all of it. -/
  whole : Bool
  deriving Repr, Inhabited

def lineOfCommands : Nat → List Token → Option (Command × List Token)
  | 0, _ => none
  | fuel + 1, ts => do
    let (c, after) ← andOr fuel ts
    let following (c : Command) (rest : List Token) : Option (Command × List Token) :=
      match rest with
      | [] | .mark "\n" :: _ => some (c, rest)
      | rest => (lineOfCommands fuel rest).map fun (more, after) => (.sequence c more, after)
    match after with
    | .mark "&" :: rest => following (.background c) rest
    | .mark ";" :: rest => following c rest
    | [] | .mark "\n" :: _ => some (c, after)
    | _ => none

def linesOfCommands : Nat → List Token → Script
  | 0, _ => ⟨.nothing, false⟩
  | fuel + 1, ts =>
    match skipLines ts with
    | [] => ⟨.nothing, true⟩
    | ts =>
      match lineOfCommands fuel ts with
      | some (c, rest) =>
        let more := linesOfCommands fuel rest
        ⟨.sequence c more.commands, more.whole⟩
      | none => ⟨.nothing, false⟩

/-- The commands of a script whose first line has a given number. -/
def Script.ofChars (line : Nat) (script : List Char) : Script :=
  match tokens line script with
  | none => ⟨.nothing, false⟩
  | some ts => linesOfCommands (10 * ts.length + 20) ts

end ParserHost.Shell
