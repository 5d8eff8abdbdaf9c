import ParserHost.Text.Search

/-!
UTF-8. `scan` reads bytes as a list of pieces: characters, and faults with the bytes they cover. The
three decoders differ in what they do with a fault: `decode` stops at the first one,
`decodeReplacing` puts U+FFFD in its place, `decodeSkipping` drops it.
-/
namespace ParserHost.Text.Utf8

abbrev Bytes := List UInt8

def encodeChar (c : Char) : Bytes :=
  let n := c.toNat
  let tail (k : Nat) : UInt8 := UInt8.ofNat (0x80 + n / Nat.pow 64 k % 64)
  if n < 0x80 then [UInt8.ofNat n]
  else if n < 0x800 then [UInt8.ofNat (0xc0 + n / 64), tail 0]
  else if n < 0x10000 then [UInt8.ofNat (0xe0 + n / 4096), tail 1, tail 0]
  else [UInt8.ofNat (0xf0 + n / 262144), tail 2, tail 1, tail 0]

def encode (s : String) : Bytes :=
  s.toList.flatMap encodeChar

/-- The first code points in a row that are no characters, and where they start. -/
structure Unencodable where
  start : Nat
  codes : List Nat
  deriving DecidableEq, Repr

/-- The bytes of code points, which may be unpaired surrogates and then have none. -/
def encodeCodes (codes : List Nat) : Except Unencodable Bytes :=
  let isBad (n : Nat) : Bool := !decide n.isValidChar
  match codes.findIdx? isBad with
  | none => .ok (codes.flatMap fun n => encodeChar (Char.ofNat n))
  | some start => .error ⟨start, (codes.drop start).takeWhile isBad⟩

inductive Reason where
  | badStart
  | badContinuation
  | truncated
  deriving DecidableEq, Repr

inductive Piece where
  | char (c : Char)
  | fault (reason : Reason) (bytes : Bytes)
  deriving DecidableEq, Repr

def isTail (b : UInt8) : Bool :=
  0x80 ≤ b.toNat && b.toNat < 0xc0

/-- The second bytes that may follow a first one: they keep out overlong forms, surrogates and
numbers above U+10FFFF. -/
def isSecond (first b : UInt8) : Bool :=
  let n := b.toNat
  match first.toNat with
  | 0xe0 => 0xa0 ≤ n && n < 0xc0
  | 0xed => 0x80 ≤ n && n < 0xa0
  | 0xf0 => 0x90 ≤ n && n < 0xc0
  | 0xf4 => 0x80 ≤ n && n < 0x90
  | _ => isTail b

/-- How many bytes a character takes that starts with this byte; none does so with 0. -/
def width (b : UInt8) : Nat :=
  let n := b.toNat
  if n < 0x80 then 1
  else if n < 0xc2 then 0
  else if n < 0xe0 then 2
  else if n < 0xf0 then 3
  else if n < 0xf5 then 4
  else 0

def bits (first : UInt8) (mask : Nat) (tail : Bytes) : Char :=
  Char.ofNat (tail.foldl (fun n b => n * 64 + b.toNat % 64) (first.toNat % mask))

def piece (first : UInt8) (rest : Bytes) : Piece :=
  match width first, rest with
  | 1, _ => .char (Char.ofNat first.toNat)
  | 2, [] => .fault .truncated [first]
  | 2, b :: _ =>
    if isTail b then .char (bits first 32 [b]) else .fault .badContinuation [first]
  | 3, [] => .fault .truncated [first]
  | 3, [b] =>
    if isSecond first b then .fault .truncated [first, b] else .fault .badContinuation [first]
  | 3, b :: c :: _ =>
    if !isSecond first b then .fault .badContinuation [first]
    else if isTail c then .char (bits first 16 [b, c])
    else .fault .badContinuation [first, b]
  | 4, [] => .fault .truncated [first]
  | 4, [b] =>
    if isSecond first b then .fault .truncated [first, b] else .fault .badContinuation [first]
  | 4, [b, c] =>
    if !isSecond first b then .fault .badContinuation [first]
    else if isTail c then .fault .truncated [first, b, c]
    else .fault .badContinuation [first, b]
  | 4, b :: c :: d :: _ =>
    if !isSecond first b then .fault .badContinuation [first]
    else if !isTail c then .fault .badContinuation [first, b]
    else if isTail d then .char (bits first 8 [b, c, d])
    else .fault .badContinuation [first, b, c]
  | _, _ => .fault .badStart [first]

def Piece.size (first : UInt8) : Piece → Nat
  | .char _ => width first
  | .fault _ bytes => bytes.length

def scan : Bytes → List Piece
  | [] => []
  | first :: rest =>
    let p := piece first rest
    p :: scan (rest.drop (p.size first - 1))
termination_by bytes => bytes.length
decreasing_by simp only [List.length_drop, List.length_cons]; omega

/-- The first fault of a byte string: where its bytes start, and what they are. -/
structure Fault where
  start : Nat
  bytes : Bytes
  reason : Reason
  deriving DecidableEq, Repr

def decodeFrom : Nat → List Piece → List Char → Except Fault String
  | _, [], acc => .ok (String.ofList acc.reverse)
  | at', .char c :: rest, acc => decodeFrom (at' + (encodeChar c).length) rest (c :: acc)
  | at', .fault reason bytes :: _, _ => .error ⟨at', bytes, reason⟩

def decode (bytes : Bytes) : Except Fault String :=
  decodeFrom 0 (scan bytes) []

def decodeReplacing (bytes : Bytes) : String :=
  String.ofList ((scan bytes).map fun
    | .char c => c
    | .fault .. => '\ufffd')

def decodeSkipping (bytes : Bytes) : String :=
  String.ofList ((scan bytes).filterMap fun
    | .char c => some c
    | .fault .. => none)

/-- Lower-case hexadecimal digits, at least `width` of them. -/
def hex (width n : Nat) : String :=
  let digits := (Nat.toDigits 16 n).map fun c => c.toLower
  String.ofList (List.replicate (width - digits.length) '0' ++ digits)

def Unencodable.text (u : Unencodable) : String :=
  let place := match u.codes with
    | [n] => s!"character '\\u{hex 4 n}' in position {u.start}"
    | codes => s!"characters in position {u.start}-{u.start + codes.length - 1}"
  s!"'utf-8' codec can't encode {place}: surrogates not allowed"

def Reason.text : Reason → String
  | .badStart => "invalid start byte"
  | .badContinuation => "invalid continuation byte"
  | .truncated => "unexpected end of data"

def Fault.text (f : Fault) : String :=
  match f.bytes with
  | [b] => s!"'utf-8' codec can't decode byte 0x{hex 2 b.toNat} in position {f.start}: {f.reason.text}"
  | bytes =>
    let last := f.start + bytes.length - 1
    s!"'utf-8' codec can't decode bytes in position {f.start}-{last}: {f.reason.text}"

end ParserHost.Text.Utf8
