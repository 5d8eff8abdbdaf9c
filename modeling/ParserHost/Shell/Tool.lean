import ParserHost.Number.Literal
import ParserHost.Shell.Condition
import ParserHost.Shell.Edit
import ParserHost.Shell.Printed

/-!
The tools that scripts call: small programs that read and write streams and files. `builtins`
names those of the shell itself, and `programs` those that are files.
-/
namespace ParserHost.Shell

open Text.Utf8 (Bytes)

abbrev Tool := List String → Run

/-- The letters of the options in front of some arguments, and the other arguments. -/
def options : List String → List Char × List String
  | [] => ([], [])
  | "--" :: rest => ([], rest)
  | a :: rest =>
    match a.toList with
    | '-' :: c :: letters =>
      let (more, words) := options rest
      (c :: letters ++ more, words)
    | _ => ([], a :: rest)

/-- Options of which some letters take a text: the rest of their word or the word after it. -/
def optionsFrom (takes : Char → Bool) : Nat → List String → List (Char × String) × List String
  | 0, ws => ([], ws)
  | _, [] => ([], [])
  | _, "--" :: rest => ([], rest)
  | fuel + 1, a :: rest =>
    match a.toList with
    | '-' :: c :: letters =>
      if takes c then
        if letters.isEmpty then
          let (more, words) := optionsFrom takes fuel (rest.drop 1)
          ((c, rest.headD "") :: more, words)
        else
          let (more, words) := optionsFrom takes fuel rest
          ((c, String.ofList letters) :: more, words)
      else
        let inner := if letters.isEmpty then rest else String.ofList ('-' :: letters) :: rest
        let (more, words) := optionsFrom takes fuel inner
        ((c, "") :: more, words)
    | _ => ([], a :: rest)

/-- Options of which some letters take a text, and the other arguments. Each letter may be an option of
its own. -/
def optionsWith (takes : Char → Bool) (ws : List String) : List (Char × String) × List String :=
  optionsFrom takes (ws.foldl (fun n w => n + w.length + 1) 1) ws

namespace Tool

/-- What a tool says of a file that it cannot read, and its status then. -/
def unreadable (tool name : String) (e : Errno) : String × Nat :=
  match tool with
  | "head" | "tail" => (s!"{tool}: cannot open '{name}' for reading: {e.text}", 1)
  | "sed" => (s!"sed: can't read {name}: {e.text}", 2)
  | _ => (s!"{tool}: {name}: {e.text}", 1)

/-- Reads the files of a tool, or standard input if there are none. What cannot be read is said. -/
def readFiles (tool : String) : List String → Session → Bytes × Nat × Session
  | [], s => ([], 0, s)
  | name :: rest, s =>
    if name = "-" then
      let (bytes, s) := s.readAll
      let (more, status, s) := readFiles tool rest s
      (bytes ++ more, status, s)
    else
      match s.readFile name with
      | .ok bytes =>
        let (more, status, s) := readFiles tool rest s
        (bytes ++ more, status, s)
      | .error e =>
        let (text, status) := unreadable tool name e
        let (more, _, s) := readFiles tool rest (s.print 2 (text ++ "\n"))
        (more, status, s)

def readInput (tool : String) (names : List String) (s : Session) : Bytes × Nat × Session :=
  readFiles tool (if names.isEmpty then ["-"] else names) s

def transform (tool : String) (names : List String) (f : Bytes → Bytes) : Run := fun s =>
  let (bytes, status, s) := readInput tool names s
  (s.write 1 (f bytes)).ended status

def cat : Tool := fun arguments s =>
  if s.channel 1 = .closed then s.complain 1 "cat: standard output: Bad file descriptor"
  else transform "cat" (options arguments).2 id s

def put (tool : String) (bytes : Bytes) : Run := fun s =>
  if s.channel 1 = .closed then s.warn 1 s!"{tool}: I/O error" else (s.write 1 bytes).ended 0

def echo : Tool := fun arguments => put "echo" (echoed arguments)

def printf : Tool := fun arguments s =>
  match arguments with
  | "--" :: format :: rest | format :: rest =>
    let (bytes, faults) := formatted format rest
    match put "printf" bytes s with
    | (flow, s) =>
      let invalid := faults.any (Text.endsWith "invalid directive")
      faults.foldl (fun (_, s) fault => s.warn (if invalid then 2 else 1) fault) (flow, s)
  | [] => s.warn 2 "usage: printf format [arg ...]"

def succeed : Tool := fun _ s => s.ended 0

def fail : Tool := fun _ s => s.ended 1

def test : Tool := fun arguments s =>
  match Condition.holds s arguments with
  | .ok true => s.ended 0
  | .ok false => s.ended 1
  | .error fault => s.warn 2 fault.message

def bracket : Tool := fun arguments s =>
  if arguments.getLast? = some "]" then test arguments.dropLast s
  else s.warn 2 "missing ]"

/-! ## Time -/

/-- A time in thousandths of a second, with a letter for its unit. -/
def thousandths? (written : String) : Option Nat :=
  let cs := written.toList
  let (number, unit) := match cs.getLast? with
    | some 's' => (cs.dropLast, 1)
    | some 'm' => (cs.dropLast, 60)
    | some 'h' => (cs.dropLast, 3600)
    | _ => (cs, 1)
  let (whole, rest) := number.span Char.isDigit
  let fraction := rest.drop 1
  if (rest.isEmpty || rest.head? = some '.') && fraction.all Char.isDigit then
    let digits := (fraction ++ ['0', '0', '0']).take 3
    some ((Literal.natural whole * 1000 + Literal.natural digits) * unit)
  else none

def sleep : Tool := fun arguments s =>
  match arguments.mapM thousandths? with
  | some times => s.sleep (times.foldl (· + ·) 0)
  | none =>
    let first := arguments.headD ""
    s.complain 1 s!"sleep: invalid time interval '{first}'"

/-! ## Parts of a stream -/

def takeLines : Nat → Bytes → Bytes × Bytes
  | 0, bytes => ([], bytes)
  | _, [] => ([], [])
  | n + 1, b :: rest =>
    let (first, after) := takeLines (if b = 10 then n else n + 1) rest
    (b :: first, after)

def lineList : Nat → Bytes → List Bytes
  | 0, _ => []
  | _, [] => []
  | fuel + 1, bytes =>
    let (line, rest) := takeLines 1 bytes
    line :: lineList fuel rest

def isCount (a : String) : Bool :=
  !a.isEmpty && a.toList.all Char.isDigit

/-- How much of something `head` and `tail` take: so many, or all but so many. -/
inductive Amount where
  | only (n : Nat)
  | except' (n : Nat)
  deriving DecidableEq, Repr

/-- The amount that an argument is; after a sign it counts from the other side. -/
def amount (sign : Char) (written : String) : Amount :=
  match written.toList with
  | c :: digits =>
    if c = sign then .except' (Literal.natural digits) else .only (Literal.natural (c :: digits))
  | [] => .only 0

/-- Options with a count, of which a bare number stands for lines. -/
def countOptions (arguments : List String) : List (Char × String) × List String :=
  match arguments with
  | a :: rest =>
    if Text.startsWith "-" a && isCount (Text.dropPrefix "-" a) then
      ([('n', Text.dropPrefix "-" a)], rest)
    else optionsWith (fun c => c = 'c' || c = 'n') arguments
  | [] => ([], [])

def head : Tool := fun arguments s =>
  let (opts, names) := countOptions arguments
  let part (bytes : Bytes) : Bytes × Bytes :=
    match opts.lookup 'c' with
    | some n =>
      match amount '-' n with
      | .only n => bytes.splitAt n
      | .except' n => bytes.splitAt (bytes.length - n)
    | none =>
      match amount '-' ((opts.lookup 'n').getD "10") with
      | .only n => takeLines n bytes
      | .except' n => takeLines ((lineList (bytes.length + 1) bytes).length - n) bytes
  if names.isEmpty then
    let (first, w) := s.world.take (s.channel 0) part
    (({ s with world := w } : Session).write 1 first).ended 0
  else transform "head" names (fun bytes => (part bytes).1) s

def tail : Tool := fun arguments =>
  let (opts, names) := countOptions arguments
  transform "tail" names fun bytes =>
    match opts.lookup 'c' with
    | some n =>
      match amount '+' n with
      | .only n => bytes.drop (bytes.length - n)
      | .except' n => bytes.drop (n - 1)
    | none =>
      let all := lineList (bytes.length + 1) bytes
      match amount '+' ((opts.lookup 'n').getD "10") with
      | .only n => (all.drop (all.length - n)).flatten
      | .except' n => (all.drop (n - 1)).flatten

/-! ## Counting and changing -/

def isBlankByte (b : UInt8) : Bool :=
  b = 32 || (9 ≤ b && b ≤ 13)

def wordCount : Bool → Bytes → Nat
  | _, [] => 0
  | inside, b :: rest =>
    if isBlankByte b then wordCount false rest
    else (if inside then 0 else 1) + wordCount true rest

/-- The counts that the letters ask for; without letters lines, words and bytes. -/
def counts (letters : List Char) (bytes : Bytes) : List Nat :=
  let wanted := if letters.isEmpty then ['l', 'w', 'c'] else letters
  (if wanted.contains 'l' then [(bytes.filter (· = 10)).length] else []) ++
    (if wanted.contains 'w' then [wordCount false bytes] else []) ++
    (if wanted.contains 'm' then [(Text.Utf8.decodeReplacing bytes).length] else []) ++
    (if wanted.contains 'c' then [bytes.length] else [])

def padded (width n : Nat) : String :=
  let digits := toString n
  String.ofList (List.replicate (width - digits.length) ' ') ++ digits

/-- Counts of several files, one after the other, and their status and sum. -/
def countFiles (letters : List Char) (width : Nat) :
    List String → Session → Nat × List Nat × Session
  | [], s => (0, (counts letters []).map fun _ => 0, s)
  | name :: rest, s =>
    let (bytes, status, s) := readInput "wc" [name] s
    let numbers := counts letters bytes
    let shown := Text.join " " (numbers.map (padded width) ++ [name])
    let s := if status = 0 then s.print 1 (shown ++ "\n") else s
    let (others, sums, s) := countFiles letters width rest s
    (max status others, (if status = 0 then List.zipWith (· + ·) numbers sums else sums), s)

def wc : Tool := fun arguments s =>
  let (letters, names) := options arguments
  if names.isEmpty then
    let (bytes, status, s) := readInput "wc" [] s
    let numbers := counts letters bytes
    let width := if numbers.length = 1 then 1 else 7
    (s.print 1 (Text.join " " (numbers.map (padded width)) ++ "\n")).ended status
  else
    let total := names.foldl (fun n name => n + ((s.readFile name).toOption.getD []).length) 0
    let width := (toString total).length
    let (status, sums, s) := countFiles letters width names s
    let s := if names.length = 1 then s
      else s.print 1 (Text.join " " (sums.map (padded width) ++ ["total"]) ++ "\n")
    s.ended status

/-- The characters of a set with ranges, escapes and the names of classes. -/
def setChars : Nat → List Char → List Char
  | 0, _ => []
  | _, [] => []
  | fuel + 1, cs =>
    let named (name : String) (members : List Char) : Option (List Char × List Char) :=
      (Text.dropPart? name.toList cs).map fun rest => (members, rest)
    let range (a b : Char) : List Char :=
      (List.range (b.toNat + 1 - a.toNat)).map fun n => Char.ofNat (a.toNat + n)
    let found := named "[:space:]" [' ', '\t', '\n', '\r', '\x0b', '\x0c'] <|>
      named "[:blank:]" [' ', '\t'] <|> named "[:digit:]" (range '0' '9') <|>
      named "[:upper:]" (range 'A' 'Z') <|> named "[:lower:]" (range 'a' 'z') <|>
      named "[:alpha:]" (range 'A' 'Z' ++ range 'a' 'z') <|>
      named "[:alnum:]" (range '0' '9' ++ range 'A' 'Z' ++ range 'a' 'z')
    match found, cs with
    | some (members, rest), _ => members ++ setChars fuel rest
    | none, '\\' :: c :: rest =>
      if isOctal c then
        let (digits, after) := takeOctal 3 (c :: rest)
        (octalByte digits).map (fun b => Char.ofNat b.toNat) ++ setChars fuel after
      else (control? c).getD c :: setChars fuel rest
    | none, a :: '-' :: b :: rest =>
      if a.toNat ≤ b.toNat then range a b ++ setChars fuel rest
      else a :: setChars fuel ('-' :: b :: rest)
    | none, c :: rest => c :: setChars fuel rest
    | none, [] => []

/-- The byte in the place of another one: that at the same place of the second set, or its last. -/
def counterpart (first second : Bytes) (b : UInt8) : UInt8 :=
  match first.idxOf? b with
  | some n => (second[n]?).getD (second.getLast?.getD b)
  | none => b

/-- Drops each byte of a set that equals the byte before it. -/
def squeeze (set : Bytes) : Bytes → Bytes
  | a :: b :: rest =>
    if a = b && set.contains a then squeeze set (b :: rest) else a :: squeeze set (b :: rest)
  | rest => rest

def tr : Tool := fun arguments =>
  let (letters, sets) := options arguments
  let bytesOf (set : String) : Bytes :=
    (setChars (set.length + 1) set.toList).flatMap Text.Utf8.encodeChar
  let first := bytesOf (sets.headD "")
  let second := sets[1]?.map bytesOf
  let chosen (b : UInt8) : Bool := first.contains b != (letters.contains 'c' || letters.contains 'C')
  transform "tr" [] fun bytes =>
    let changed :=
      if letters.contains 'd' then bytes.filter fun b => !chosen b
      else
        match second with
        | none => bytes
        | some second =>
          if letters.contains 'c' || letters.contains 'C' then
            bytes.map fun b => if chosen b then second.getLast?.getD b else b
          else bytes.map (counterpart first second)
    if letters.contains 's' then squeeze (second.getD first) changed else changed

/-- The lines of a text without their ends, and whether the last one has an end. -/
def splitLines (cs : List Char) : List (List Char) × Bool :=
  let pieces := Text.splitAt '\n' cs
  if pieces.getLast? = some [] then (pieces.dropLast, true) else (pieces, false)

def sed : Tool := fun arguments s =>
  let (opts, words) := optionsWith (· = 'e') arguments
  let scripts := opts.filterMap fun (c, script) => if c = 'e' then some script else none
  let (written, names) :=
    if scripts.isEmpty then (words.headD "", words.drop 1) else (Text.join "\n" scripts, words)
  let has (letter : Char) : Bool := opts.any fun (c, _) => c = letter
  match Edit.rules (has 'E' || has 'r') (written.length + 2) written.toList with
  | none => s.complain 1 "sed: -e expression #1, char 1: unknown command"
  | some rules =>
    transform "sed" names (fun bytes =>
      let (given, ends) := splitLines (Text.Utf8.decodeReplacing bytes).toList
      let edited := Edit.lines (has 'n') rules given
      let text := String.ofList (edited.flatMap (· ++ ['\n']))
      Text.Utf8.encode (if ends then text else Text.dropSuffix "\n" text)) s

/-! ## Files -/

def pwd : Tool := fun arguments s =>
  let physical := (options arguments).1.contains 'P'
  let directory := s.process.directory
  let shown :=
    if physical then
      match s.world.tree.resolve directory with
      | .ok p => p
      | .error _ => directory
    else directory
  (s.print 1 (shown.text ++ "\n")).ended 0

/-- One file after the other; the status is that of the worst. -/
def eachFile (action : String → Session → Nat × Session) : List String → Run
  | [], s => s.ended 0
  | name :: rest, s =>
    let (status, s) := action name s
    match eachFile action rest s with
    | (flow, s) =>
      (flow, s.withProcess { s.process with status := max status s.process.status })

def refuse (s : Session) (text : String) : Nat × Session :=
  (1, s.print 2 (text ++ "\n"))

def mkdir : Tool := fun arguments =>
  let (letters, names) := options arguments
  eachFile (fun name s =>
    let p := s.absolute name
    let made : Except Errno FileTree :=
      if letters.contains 'p' then
        match s.world.tree.makeDirectories (Path.absolute []) p.root p.parts.reverse with
        | .ok t => .ok t
        | .error e => .error e.errno
      else s.world.tree.makeDirectory p
    match made with
    | .ok t => (0, s.withTree t)
    | .error e => refuse s s!"mkdir: cannot create directory '{name}': {e.text}") names

def rm : Tool := fun arguments =>
  let (letters, names) := options arguments
  let deep := letters.contains 'r' || letters.contains 'R'
  eachFile (fun name s =>
    let t := s.world.tree
    let missing (e : Errno) :=
      if letters.contains 'f' then (0, s)
      else refuse s s!"rm: cannot remove '{name}': {e.text}"
    match t.find false (s.absolute name) with
    | .error e => missing e
    | .ok (.vacant ..) => missing .noEntry
    | .ok (.found at') =>
      if t.node? at' = some .directory && !deep then
        refuse s s!"rm: cannot remove '{name}': {Errno.text .isDirectory}"
      else (0, s.withTree (t.remove at'))) names

def rmdir : Tool := fun arguments =>
  eachFile (fun name s =>
    let t := s.world.tree
    match t.find false (s.absolute name) with
    | .ok (.found at') =>
      if t.node? at' != some .directory then
        refuse s s!"rmdir: failed to remove '{name}': {Errno.text .notDirectory}"
      else if !(t.children at').isEmpty then
        refuse s s!"rmdir: failed to remove '{name}': {Errno.text .directoryNotEmpty}"
      else (0, s.withTree (t.remove at'))
    | _ => refuse s s!"rmdir: failed to remove '{name}': {Errno.text .noEntry}") (options arguments).2

def touch : Tool := fun arguments =>
  eachFile (fun name s =>
    let t := s.world.tree
    if t.exists? (s.absolute name) then (0, s)
    else
      match t.write (s.absolute name) [] with
      | .ok t => (0, s.withTree t)
      | .error e => refuse s s!"touch: cannot touch '{name}': {e.text}") (options arguments).2

/-- A file tree in which everything at or below a location also stands elsewhere. -/
def copyBelow (t : FileTree) (source target : Location) : FileTree :=
  t.nodes.foldl (fun t (l, node) =>
    match Path.dropParts? source l with
    | some rest => t.set (target ++ rest) node
    | none => t) t

/-- Where a copy of a file goes: into a directory, or to the name itself. -/
def destination (s : Session) (source target : String) : Path :=
  let p := s.absolute target
  if s.world.tree.isDirectory p then p.child (Path.parse source).name else p

/-- Copies a file or, if that is wanted, a directory; the source may go away. -/
def place (tool : String) (deep moves : Bool) (target source : String) (s : Session) :
    Nat × Session :=
  let t := s.world.tree
  match t.stat (s.absolute source) with
  | .error e => refuse s s!"{tool}: cannot stat '{source}': {e.text}"
  | .ok (at', node) =>
    if node = .directory && !deep then
      refuse s s!"{tool}: -r not specified; omitting directory '{source}'"
    else
      match t.find true (destination s source target) with
      | .error e => refuse s s!"{tool}: cannot create regular file '{target}': {e.text}"
      | .ok found =>
        let goal := match found with
          | .found g => g
          | .vacant dir name => dir ++ [name]
        if goal = at' then refuse s s!"{tool}: '{source}' and '{target}' are the same file"
        else
          let copied := copyBelow t at' goal
          (0, s.withTree (if moves then copied.remove at' else copied))

def copying (tool : String) (deep moves : Bool) (names : List String) : Run :=
  match names.getLast? with
  | some target => eachFile (place tool deep moves target) names.dropLast
  | none => fun s => s.complain 1 s!"{tool}: missing file operand"

def cp : Tool := fun arguments =>
  let (letters, names) := options arguments
  copying "cp" (letters.any fun c => c = 'r' || c = 'R' || c = 'a') false names

def mv : Tool := fun arguments => copying "mv" true true (options arguments).2

/-- Makes symbolic links, and no others. -/
def ln : Tool := fun arguments =>
  let names := (options arguments).2
  eachFile (fun target s =>
    let t := s.world.tree
    let failed (reason : Errno) := refuse s s!"ln: failed to create symbolic link '{target}': {reason.text}"
    match t.find false (destination s target (names.getLast?.getD "")) with
    | .ok (.vacant dir name) => (0, s.withTree (t.set (dir ++ [name]) (.link target)))
    | .ok (.found _) => failed .exists
    | .error e => failed e) names.dropLast

def tee : Tool := fun arguments s =>
  let (letters, names) := options arguments
  let (bytes, s) := s.readAll
  let s := s.write 1 bytes
  eachFile (fun name s =>
    let t := s.world.tree
    let old := match t.read (s.absolute name) with
      | .ok old => if letters.contains 'a' then old else []
      | .error _ => []
    match t.write (s.absolute name) (old ++ bytes) with
    | .ok t => (0, s.withTree t)
    | .error e => refuse s s!"tee: {name}: {e.text}") names s

def basename : Tool := fun arguments s =>
  let name := (Path.parse (arguments.headD "")).name
  (s.print 1 (Text.dropSuffix (arguments[1]?.getD "") name ++ "\n")).ended 0

def dirname : Tool := fun arguments s =>
  (s.print 1 ((Path.parse (arguments.headD "")).parent.text ++ "\n")).ended 0

/-! ## Names -/

def builtins : List (String × Tool) :=
  [("echo", echo), ("printf", printf), ("test", test), ("[", bracket), ("pwd", pwd),
    ("true", succeed), ("false", fail), (":", succeed)]

def programs : List (String × Tool) :=
  [("cat", cat), ("echo", echo), ("printf", printf), ("true", succeed), ("false", fail),
    ("test", test), ("[", bracket), ("sleep", sleep), ("head", head), ("tail", tail), ("wc", wc),
    ("tr", tr), ("sed", sed), ("pwd", pwd), ("mkdir", mkdir), ("rm", rm), ("rmdir", rmdir),
    ("touch", touch), ("cp", cp), ("mv", mv), ("ln", ln), ("tee", tee), ("basename", basename),
    ("dirname", dirname)]

end Tool

end ParserHost.Shell
