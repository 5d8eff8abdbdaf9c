import ParserHost.Shell.Printed
import ParserHost.Shell.Session

/-!
Conditions of `test` and `[`: comparisons of texts and integers, and questions about files.
-/
namespace ParserHost.Shell.Condition

inductive Fault where
  | unexpected (word : String)
  | operandMissing (operator : String)
  | noNumber (word : String)
  | closingMissing
  deriving DecidableEq, Repr, Inhabited

def Fault.message : Fault → String
  | unexpected word => s!"{word}: unexpected operator"
  | operandMissing operator => s!"{operator}: argument expected"
  | noNumber word => s!"Illegal number: {word}"
  | closingMissing => "closing paren expected"

def unary? (s : Session) (question word : String) : Option Bool :=
  let t := s.world.tree
  let p := s.absolute word
  match question with
  | "-n" => some !word.isEmpty
  | "-z" => some word.isEmpty
  | "-e" => some (t.exists? p)
  | "-f" => some (t.isFile p)
  | "-d" => some (t.isDirectory p)
  | "-r" | "-w" => some (t.exists? p)
  | "-x" =>
    some <| match t.stat p with
      | .ok (_, .file _ executable) => executable
      | .ok (_, .directory) => true
      | _ => false
  | "-s" =>
    some <| match t.stat p with
      | .ok (_, .file content _) => !content.isEmpty
      | .ok (_, .directory) => true
      | _ => false
  | "-L" | "-h" =>
    some <| match t.find false p with
      | .ok (.found at') =>
        match t.node? at' with
        | some (.link _) => true
        | _ => false
      | _ => false
  | "-t" | "-p" | "-S" | "-b" | "-c" => some false
  | _ => none

/-- The integer that a word is; blanks may stand around it. -/
def integer (word : String) : Except Fault Int :=
  let isBlank (c : Char) : Bool := c.isWhitespace
  let cs := ((word.toList.dropWhile isBlank).reverse.dropWhile isBlank).reverse
  let digits := match cs with
    | '-' :: rest | '+' :: rest => rest
    | cs => cs
  if digits.isEmpty || !digits.all Char.isDigit then .error (.noNumber word)
  else .ok (Sum.natural 10 digits * if cs.head? = some '-' then -1 else 1)

def comparison? : String → Option (Int → Int → Bool)
  | "-eq" => some (· == ·)
  | "-ne" => some (· != ·)
  | "-lt" => some fun m n => decide (m < n)
  | "-le" => some fun m n => decide (m ≤ n)
  | "-gt" => some fun m n => decide (n < m)
  | "-ge" => some fun m n => decide (n ≤ m)
  | _ => none

def binary? (a comparison b : String) : Option (Except Fault Bool) :=
  match comparison with
  | "=" | "==" => some (.ok (a == b))
  | "!=" => some (.ok (a != b))
  | "<" => some (.ok (decide (a < b)))
  | ">" => some (.ok (decide (b < a)))
  | _ => (comparison? comparison).map fun holds => do return holds (← integer a) (← integer b)

def isComparison (word : String) : Bool :=
  (binary? "0" word "0").isSome

mutual
def primary (s : Session) : Nat → List String → Except Fault (Bool × List String)
  | 0, _ => .error .closingMissing
  | fuel + 1, ws =>
    match ws with
    | a :: comparison :: b :: rest =>
      match binary? a comparison b with
      | some holds => holds.map (·, rest)
      | none =>
        if a = "!" then (primary s fuel (comparison :: b :: rest)).map fun (h, r) => (!h, r)
        else if a = "(" then
          match joined s fuel (comparison :: b :: rest) with
          | .ok (holds, ")" :: rest) => .ok (holds, rest)
          | .ok _ => .error .closingMissing
          | .error f => .error f
        else
          match unary? s a comparison with
          | some holds => .ok (holds, b :: rest)
          | none => .ok (!a.isEmpty, comparison :: b :: rest)
    | [a, b] =>
      if a = "!" then (primary s fuel [b]).map fun (h, r) => (!h, r)
      else
        match unary? s a b with
        | some holds => .ok (holds, [])
        | none => if isComparison b then .error (.operandMissing b) else .ok (!a.isEmpty, [b])
    | [a] => .ok (!a.isEmpty, [])
    | [] => .ok (false, [])

/-- Questions joined by `-a` and `-o`, of which the first binds tighter. -/
def joined (s : Session) : Nat → List String → Except Fault (Bool × List String)
  | 0, _ => .error .closingMissing
  | fuel + 1, ws => do
    let (holds, after) ← primary s fuel ws
    match after with
    | "-a" :: rest =>
      let (more, after) ← joined s fuel rest
      return (holds && more, after)
    | "-o" :: rest =>
      let (more, after) ← joined s fuel rest
      return (holds || more, after)
    | after => return (holds, after)
end

/-- Whether a condition holds. A word that nothing belongs to is unexpected after the first one. -/
def holds (s : Session) (ws : List String) : Except Fault Bool :=
  match joined s (2 * ws.length + 2) ws with
  | .ok (holds, []) => .ok holds
  | .ok (_, _ :: _) => .error (.unexpected (ws.headD ""))
  | .error f => .error f

end ParserHost.Shell.Condition
