import ParserHost.Json.Reader
import ParserHost.Number.Decimal

/-!
Writing JSON text in ASCII. `compact` writes on one line, with a blank after each comma and colon;
`indented` puts each item and member on a line of its own.
-/
namespace ParserHost.Json

def escapeUnit (n : Nat) : List Char :=
  let digits := (Nat.toDigits 16 n)
  '\\' :: 'u' :: (List.replicate (4 - digits.length) '0' ++ digits)

/-- A code point inside a string: beyond the basic plane, as a pair of surrogates. -/
def escapeCode (n : Nat) : List Char :=
  if n = 0x22 then ['\\', '"']
  else if n = 0x5c then ['\\', '\\']
  else if n = 0x08 then ['\\', 'b']
  else if n = 0x0c then ['\\', 'f']
  else if n = 0x0a then ['\\', 'n']
  else if n = 0x0d then ['\\', 'r']
  else if n = 0x09 then ['\\', 't']
  else if 0x20 ≤ n && n < 0x7f then [Char.ofNat n]
  else if n < 0x10000 then escapeUnit n
  else
    let m := n - 0x10000
    escapeUnit (0xd800 + m / 1024) ++ escapeUnit (0xdc00 + m % 1024)

def stringText (cs : List Nat) : List Char :=
  '"' :: cs.flatMap escapeCode ++ ['"']

def intText (n : Int) : List Char :=
  if n < 0 then '-' :: Nat.toDigits 10 n.natAbs else Nat.toDigits 10 n.natAbs

def keyText (key : String) : List Char :=
  stringText (key.toList.map Char.toNat)

def atomText : Json → List Char
  | null => ['n', 'u', 'l', 'l']
  | bool true => ['t', 'r', 'u', 'e']
  | bool false => ['f', 'a', 'l', 's', 'e']
  | int n => intText n
  | float x => (Decimal.text "Infinity" "NaN" x).toList
  | str s => keyText s
  | broken cs => stringText cs
  | arr _ => ['[', ']']
  | obj _ => ['\x7b', '\x7d']

mutual
def compactChars : Json → List Char
  | arr (v :: rest) => '[' :: compactChars v ++ compactItems rest
  | obj ((k, v) :: rest) => '\x7b' :: keyText k ++ [':', ' '] ++ compactChars v ++ compactMembers rest
  | v => atomText v

def compactItems : List Json → List Char
  | [] => [']']
  | v :: rest => ',' :: ' ' :: compactChars v ++ compactItems rest

def compactMembers : Entries → List Char
  | [] => ['\x7d']
  | (k, v) :: rest => ',' :: ' ' :: keyText k ++ [':', ' '] ++ compactChars v ++ compactMembers rest
end

def compact (v : Json) : String :=
  String.ofList (compactChars v)

/-- A new line at a depth; each level adds two blanks. -/
def newline (depth : Nat) : List Char :=
  '\n' :: List.replicate (2 * depth) ' '

mutual
def indentedChars (depth : Nat) : Json → List Char
  | arr (v :: rest) =>
    '[' :: newline (depth + 1) ++ indentedChars (depth + 1) v ++ indentedItems depth rest
  | obj ((k, v) :: rest) =>
    '\x7b' :: newline (depth + 1) ++ keyText k ++ [':', ' '] ++ indentedChars (depth + 1) v ++
      indentedMembers depth rest
  | v => atomText v

def indentedItems (depth : Nat) : List Json → List Char
  | [] => newline depth ++ [']']
  | v :: rest =>
    ',' :: newline (depth + 1) ++ indentedChars (depth + 1) v ++ indentedItems depth rest

def indentedMembers (depth : Nat) : Entries → List Char
  | [] => newline depth ++ ['\x7d']
  | (k, v) :: rest =>
    ',' :: newline (depth + 1) ++ keyText k ++ [':', ' '] ++ indentedChars (depth + 1) v ++
      indentedMembers depth rest
end

def indented (v : Json) : String :=
  String.ofList (indentedChars 0 v)

end ParserHost.Json
