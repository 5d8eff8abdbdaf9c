import ParserHost.Shell.Word

/-!
Sums in a script: integers of 64 bits, variables, and operators by rank. `Sum.ofChars` reads a sum,
and `Sum.eval` computes its value with the variables that it assigns on the way. A variable that holds
no number counts as zero.
-/
namespace ParserHost.Shell

inductive Sum where
  | number (n : Int)
  | named (name : String)
  | unary (op : Char) (a : Sum)
  | binary (op : String) (a b : Sum)
  | choose (condition yes no : Sum)
  /-- Puts a value into a variable, after an operator with the value that it had. -/
  | assign (name : String) (op : Option String) (a : Sum)
  deriving DecidableEq, Repr, Inhabited

namespace Sum

inductive Fault where
  | valueExpected
  | closingExpected
  | colonExpected
  | endExpected
  | divisionByZero
  deriving DecidableEq, Repr, Inhabited

def Fault.message : Fault → String
  | valueExpected => "expecting primary"
  | closingExpected => "expecting ')'"
  | colonExpected => "expecting ':'"
  | endExpected => "expecting EOF"
  | divisionByZero => "division by zero"

/-! ## Values -/

def wrap (n : Int) : Int :=
  (BitVec.ofInt 64 n).toInt

def truth (b : Bool) : Int :=
  if b then 1 else 0

def bitwise (f : BitVec 64 → BitVec 64 → BitVec 64) (a b : Int) : Int :=
  (f (BitVec.ofInt 64 a) (BitVec.ofInt 64 b)).toInt

def apply (op : String) (a b : Int) : Except Fault Int :=
  match op with
  | "|" => .ok (bitwise (· ||| ·) a b)
  | "^" => .ok (bitwise (· ^^^ ·) a b)
  | "&" => .ok (bitwise (· &&& ·) a b)
  | "==" => .ok (truth (a == b))
  | "!=" => .ok (truth (a != b))
  | "<=" => .ok (truth (a ≤ b))
  | ">=" => .ok (truth (b ≤ a))
  | "<" => .ok (truth (a < b))
  | ">" => .ok (truth (b < a))
  | "<<" => .ok (bitwise (fun x _ => x <<< (b % 64).toNat) a b)
  | ">>" => .ok (bitwise (fun x _ => x.sshiftRight (b % 64).toNat) a b)
  | "+" => .ok (wrap (a + b))
  | "-" => .ok (wrap (a - b))
  | "*" => .ok (wrap (a * b))
  | "/" => if b = 0 then .error .divisionByZero else .ok (wrap (a.tdiv b))
  | _ => if b = 0 then .error .divisionByZero else .ok (a.tmod b)

/-- The variables that a sum has assigned, the last one first. -/
abbrev Assigned := List (String × Int)

/-- The value of a sum. The second operand of `&&`, `||` and `?` counts only where it matters. -/
def eval (look : String → Int) : Sum → StateT Assigned (Except Fault) Int
  | number n => return wrap n
  | named name => return ((← get).lookup name).getD (look name)
  | unary op a => do
    let n ← eval look a
    return if op = '-' then wrap (-n) else if op = '~' then -n - 1 else if op = '!' then truth (n == 0)
      else n
  | binary op a b => do
    let n ← eval look a
    if op = "&&" && n = 0 then return 0
    else if op = "||" && n != 0 then return 1
    else
      let m ← eval look b
      if op = "&&" || op = "||" then return truth (m != 0) else apply op n m
  | choose condition yes no => do
    let n ← eval look condition
    if n = 0 then eval look no else eval look yes
  | assign name op a => do
    let n ← eval look a
    let before := ((← get).lookup name).getD (look name)
    let value ← match op with
      | some op => apply op before n
      | none => pure n
    modify ((name, value) :: ·)
    return value

/-! ## Reading -/

/-- Operators of two values with their rank; what binds tighter has the higher one. -/
def ranks : List (String × Nat) :=
  [("||", 1), ("&&", 2), ("==", 6), ("!=", 6), ("<<", 8), (">>", 8), ("<=", 7), (">=", 7), ("<", 7),
    (">", 7), ("|", 3), ("^", 4), ("&", 5), ("+", 9), ("-", 9), ("*", 10), ("/", 10), ("%", 10)]

/-- Operators that may stand in front of the sign of an assignment. -/
def assigning : List String :=
  ["<<", ">>", "|", "^", "&", "+", "-", "*", "/", "%"]

def operator? (cs : List Char) : Option (String × Nat × List Char) :=
  ranks.findSome? fun (op, rank) =>
    if op.toList.isPrefixOf cs then some (op, rank, cs.drop op.length) else none

/-- The text after the sign of an assignment, with the operator in front of it. -/
def assignment? (cs : List Char) : Option (Option String × List Char) :=
  match cs with
  | '=' :: rest => if rest.head? = some '=' then none else some (none, rest)
  | cs =>
    assigning.findSome? fun op =>
      if (op.toList ++ ['=']).isPrefixOf cs then some (some op, cs.drop (op.length + 1)) else none

def skip : List Char → List Char :=
  List.dropWhile Char.isWhitespace

def digitValue (c : Char) : Nat :=
  if c.isDigit then c.toNat - '0'.toNat else c.toLower.toNat - 'a'.toNat + 10

def natural (base : Nat) (cs : List Char) : Int :=
  ((cs.foldl (fun n c => n * base + digitValue c) 0 : Nat) : Int)

/-- The number at the start of a text; `0` stands before octal digits and `0x` before hexadecimal
ones. -/
def digits (cs : List Char) : Int × List Char :=
  match cs with
  | '0' :: 'x' :: rest | '0' :: 'X' :: rest =>
    let (ds, after) := rest.span fun c => c.isDigit || ('a' ≤ c.toLower && c.toLower ≤ 'f')
    (natural 16 ds, after)
  | '0' :: rest =>
    let (ds, after) := rest.span Char.isDigit
    (natural 8 ds, after)
  | cs =>
    let (ds, after) := cs.span Char.isDigit
    (natural 10 ds, after)

def integer (value : String) : Int :=
  let whole (cs : List Char) : Int :=
    match digits cs with
    | (n, []) => n
    | _ => 0
  match value.toList with
  | '-' :: cs => -(whole cs)
  | cs => whole cs

mutual
def assigned : Nat → List Char → Except Fault (Sum × List Char)
  | 0, _ => .error .valueExpected
  | fuel + 1, cs =>
    let (name, after) := (skip cs).span isNameChar
    match if (name.head?.map isNameStart).getD false then assignment? (skip after) else none with
    | some (op, rest) => do
      let (a, after) ← assigned fuel rest
      return (.assign (String.ofList name) op a, after)
    | none => do
      let (condition, after) ← binaries fuel 1 cs
      match skip after with
      | '?' :: rest =>
        let (yes, after) ← assigned fuel rest
        match skip after with
        | ':' :: rest =>
          let (no, after) ← assigned fuel rest
          return (.choose condition yes no, after)
        | _ => .error .colonExpected
      | _ => return (condition, after)

def value : Nat → List Char → Except Fault (Sum × List Char)
  | 0, _ => .error .valueExpected
  | fuel + 1, cs =>
    match skip cs with
    | '(' :: rest => do
      let (a, after) ← assigned fuel rest
      match skip after with
      | ')' :: after => return (a, after)
      | _ => .error .closingExpected
    | c :: rest =>
      if ['-', '+', '!', '~'].contains c then do
        let (a, after) ← value fuel rest
        return (.unary c a, after)
      else if c.isDigit then
        let (n, after) := digits (c :: rest)
        .ok (.number n, after)
      else if isNameStart c then
        let (name, after) := (c :: rest).span isNameChar
        .ok (.named (String.ofList name), after)
      else .error .valueExpected
    | [] => .error .valueExpected

def binaries : Nat → Nat → List Char → Except Fault (Sum × List Char)
  | 0, _, _ => .error .valueExpected
  | fuel + 1, rank, cs => do
    let (a, after) ← value fuel cs
    following fuel rank a after

def following : Nat → Nat → Sum → List Char → Except Fault (Sum × List Char)
  | 0, _, _, _ => .error .valueExpected
  | fuel + 1, rank, left, cs =>
    match operator? (skip cs) with
    | some (op, r, rest) =>
      if r < rank then .ok (left, cs)
      else do
        let (right, after) ← binaries fuel (r + 1) rest
        following fuel rank (.binary op left right) after
    | none => .ok (left, cs)
end

/-- The sum that a text is; an empty one is zero. -/
def ofChars (cs : List Char) : Except Fault Sum :=
  if (skip cs).isEmpty then .ok (.number 0)
  else
    match assigned (4 * cs.length + 4) cs with
    | .ok (a, after) => if (skip after).isEmpty then .ok a else .error .endExpected
    | .error f => .error f

/-- The value of the sum that a text is, with the variables that it assigns. -/
def value? (look : String → Int) (cs : List Char) : Except Fault (Int × Assigned) := do
  let a ← ofChars cs
  eval look a []

example : (value? (fun _ => 7) "i+1".toList).toOption = some (8, []) := by decide +kernel
example : (value? (fun _ => 0) " 2 * (3 - 5) % 3".toList).toOption = some (-1, []) := by decide +kernel
example : (value? (fun _ => 3) "i <<= 2 | 1".toList).toOption = some (24, [("i", 24)]) := by decide +kernel
example : (value? (fun _ => 0) "0 && 1 / 0 ? 010 : 0x1F".toList).toOption = some (31, []) := by decide +kernel

end Sum

end ParserHost.Shell
