import ParserHost.Glob.Wildcard
import ParserHost.Shell.Session
import ParserHost.Shell.Sum

/-!
Expansion of words: parameters, sums and the output of commands become text, what came from outside
quotes is cut at separators, and patterns become the names that they match.
-/
namespace ParserHost.Shell

/-- What a word becomes before it is cut into fields. -/
inductive Atom where
  /-- A character; a soft one comes from an expansion outside quotes. -/
  | char (c : Char) (quoted soft : Bool)
  /-- A pair of quotes: there is a field, even if nothing stands in it. -/
  | present
  /-- The border between two fields. -/
  | cut
  deriving DecidableEq, Repr, Inhabited

/-- A field, whose characters know whether they were quoted. -/
abbrev Field := List (Char × Bool)

def isSoftBlank : Char → Bool
  | ' ' | '\t' | '\n' => true
  | _ => false

/-- Cuts atoms into fields at separators; the current field, if there is one, is in reverse. Blanks
separate together; each other separator ends a field, unless blanks in front of it (`ended`) have
done so. -/
def fieldsFrom (separators : List Char) : Bool → Option Field → List Atom → List Field
  | _, none, [] => []
  | _, some f, [] => [f.reverse]
  | _, none, .cut :: rest => fieldsFrom separators false none rest
  | _, some f, .cut :: rest => f.reverse :: fieldsFrom separators false none rest
  | ended, f, .present :: rest => fieldsFrom separators ended (some (f.getD [])) rest
  | ended, f, .char c quoted soft :: rest =>
    if soft && !quoted && separators.contains c then
      match f with
      | some f => f.reverse :: fieldsFrom separators (isSoftBlank c) none rest
      | none =>
        if isSoftBlank c then fieldsFrom separators ended none rest
        else if ended then fieldsFrom separators false none rest
        else [] :: fieldsFrom separators false none rest
    else fieldsFrom separators false (some ((c, quoted) :: f.getD [])) rest

def fields (separators : List Char) (atoms : List Atom) : List Field :=
  fieldsFrom separators false none atoms

def separators (p : Process) : List Char :=
  ((p.valueOf? "IFS").getD " \t\n").toList

def plainText (atoms : List Atom) : List Char :=
  atoms.filterMap fun
    | .char c _ _ => some c
    | .present => none
    | .cut => some ' '

/-- The pattern that some characters are; quoted ones stand for themselves. -/
def patternOf (f : Field) : List Glob.Wild :=
  let written := f.flatMap fun (c, quoted) =>
    if quoted && ['*', '?', '['].contains c then ['[', c, ']'] else [c]
  Glob.parseChars written.length written

def atomPattern (atoms : List Atom) : List Glob.Wild :=
  patternOf (atoms.filterMap fun
    | .char c quoted _ => some (c, quoted)
    | _ => none)

/-! ## Cutting off a pattern -/

/-- The beginnings of a list with what follows each, the shortest first. -/
def splits {α : Type} : List α → List (List α × List α)
  | [] => [([], [])]
  | c :: cs => ([], c :: cs) :: (splits cs).map fun (a, b) => (c :: a, b)

/-- The text without the shortest, or the longest, beginning that a pattern accepts. -/
def withoutStart (longest : Bool) (p : List Glob.Wild) (cs : List Char) : List Char :=
  let all := if longest then (splits cs).reverse else splits cs
  match all.find? fun (a, _) => Glob.accepts p a with
  | some (_, rest) => rest
  | none => cs

/-- The text without the shortest, or the longest, end that a pattern accepts. -/
def withoutEnd (longest : Bool) (p : List Glob.Wild) (cs : List Char) : List Char :=
  let all := if longest then splits cs else (splits cs).reverse
  match all.find? fun (_, b) => Glob.accepts p b with
  | some (rest, _) => rest
  | none => cs

/-! ## Expanding -/

/-- Expansion changes the session, and a command in it can end the script. -/
abbrev Expanding := EStateM Flow Session

def parameter? (p : Process) (name : List Char) : Option String :=
  match name with
  | ['?'] => some (toString p.status)
  | ['#'] => some (toString p.arguments.length)
  | ['$'] => some processNumber
  | ['!'] => if p.startsOthers then some backgroundNumber else none
  | ['0'] => some p.name
  | ['-'] => some ""
  | ['@'] | ['*'] => if p.arguments.isEmpty then none else some (String.intercalate " " p.arguments)
  | [c] => if c.isDigit then p.arguments[c.toNat - '1'.toNat]? else p.valueOf? (String.ofList [c])
  | ['P', 'W', 'D'] => some p.directory.text
  | _ => p.valueOf? (String.ofList name)

def charAtoms (quoted : Bool) (cs : List Char) : List Atom :=
  cs.map fun c => .char c quoted true

def soften (atoms : List Atom) : List Atom :=
  atoms.map fun
    | .char c quoted _ => .char c quoted true
    | a => a

/-- The atoms of all arguments of the script; those that are joined have the first separator between
them. -/
def argumentAtoms (quoted joined : Bool) (p : Process) : List Atom :=
  if joined && quoted then
    charAtoms true (String.intercalate (String.ofList ((separators p).take 1)) p.arguments).toList
  else
    (p.arguments.map fun a => (if quoted then [.present] else []) ++ charAtoms quoted a.toList)
      |> List.intersperse [.cut] |> List.flatten

def withoutLastLines (cs : List Char) : List Char :=
  (cs.reverse.dropWhile (· = '\n')).reverse

inductive Modifier where
  | cutStart (longest : Bool)
  | cutEnd (longest : Bool)
  /-- Puts a word in place of a parameter that is not set, or is empty. -/
  | instead (emptyToo assigns : Bool)
  | whenSet (emptyToo : Bool)
  | demand (emptyToo : Bool)
  deriving DecidableEq, Repr

def modifier? : List Char → Option (Modifier × List Char)
  | '#' :: '#' :: w => some (.cutStart true, w)
  | '#' :: w => some (.cutStart false, w)
  | '%' :: '%' :: w => some (.cutEnd true, w)
  | '%' :: w => some (.cutEnd false, w)
  | ':' :: '-' :: w => some (.instead true false, w)
  | '-' :: w => some (.instead false false, w)
  | ':' :: '=' :: w => some (.instead true true, w)
  | '=' :: w => some (.instead false true, w)
  | ':' :: '+' :: w => some (.whenSet true, w)
  | '+' :: w => some (.whenSet false, w)
  | ':' :: '?' :: w => some (.demand true, w)
  | '?' :: w => some (.demand false, w)
  | _ => none

def counted? (emptyToo : Bool) (value : Option String) : Option String :=
  value.filter fun v => !(emptyToo && v.isEmpty)

def modifierWord (quoted : Bool) (cs : List Char) : Word :=
  if quoted then Word.ofQuoted .dropped cs else Word.ofChars cs

def isAlwaysSet (name : List Char) : Bool :=
  [['@'], ['*'], ['#'], ['?'], ['$'], ['-']].contains name

def abandon (text : String) : Expanding (List Atom) := do
  modify fun s => (s.warn 2 text).2
  throw .exited

/-- The atoms of one part; `run` runs the commands of a script from a given line on. -/
def partAtoms (run : Nat → List Char → Run) : Nat → Part → Expanding (List Atom)
  | 0, _ => return []
  | fuel + 1, part => do
    let inner (w : Word) : Expanding (List Atom) := do
      return (← w.mapM (partAtoms run fuel)).flatten
    match part with
    | .text cs quoted =>
      return (if quoted then [.present] else []) ++ cs.map fun c => .char c quoted false
    | .length name quoted =>
      let value := (parameter? (← get).process name).getD ""
      return charAtoms quoted (toString value.length).toList
    | .sum expression quoted =>
      let written := plainText (← inner (Word.ofDocument expression))
      let p := (← get).process
      let look (name : String) : Int := Sum.integer ((p.valueOf? name).getD "0")
      match Sum.value? look written with
      | .ok (n, assigned) =>
        modify fun s => s.withProcess (assigned.foldr (fun (name, value) p =>
          p.assign name (toString value)) s.process)
        return charAtoms quoted (toString n).toList
      | .error fault =>
        let text := String.ofList written
        abandon s!"arithmetic expression: {fault.message}: \"{text}\""
    | .output goesOn script quoted =>
      let s ← get
      let line := if goesOn then s.process.line else 1
      let (bytes, flow, s) := Session.capture (run line script) s
      set s
      if flow != .next then throw flow
      let text := (Text.Utf8.decodeReplacing bytes).toList.filter (· != '\x00')
      return charAtoms quoted (withoutLastLines text)
    | .parameter name modifier quoted =>
      let p := (← get).process
      let value := parameter? p name
      let written (v : Option String) := charAtoms quoted (v.getD "").toList
      match modifier? modifier with
      | none =>
        if name = ['@'] || name = ['*'] then return argumentAtoms quoted (name = ['*']) p
        else if value.isNone && p.manner.demandsSet && !isAlwaysSet name then
          abandon s!"{String.ofList name}: parameter not set"
        else return written value
      | some (.cutStart longest, w) =>
        let pattern := atomPattern (← inner (Word.ofChars w))
        return charAtoms quoted (withoutStart longest pattern (value.getD "").toList)
      | some (.cutEnd longest, w) =>
        let pattern := atomPattern (← inner (Word.ofChars w))
        return charAtoms quoted (withoutEnd longest pattern (value.getD "").toList)
      | some (.instead emptyToo assigns, w) =>
        match counted? emptyToo value with
        | some v => return written (some v)
        | none =>
          let atoms ← inner (modifierWord quoted w)
          if assigns then
            let text := String.ofList (plainText atoms)
            modify fun s => s.withProcess (s.process.assign (String.ofList name) text)
          return if quoted then atoms else soften atoms
      | some (.whenSet emptyToo, w) =>
        match counted? emptyToo value with
        | some _ =>
          let atoms ← inner (modifierWord quoted w)
          return if quoted then atoms else soften atoms
        | none => return []
      | some (.demand emptyToo, w) =>
        match counted? emptyToo value with
        | some v => return written (some v)
        | none =>
          let text := String.ofList (plainText (← inner (modifierWord true w)))
          let said := if text.isEmpty then
            (if emptyToo then "parameter not set or null" else "parameter not set") else text
          abandon s!"{String.ofList name}: {said}"

def expansionDepth : Nat := 50

/-- The atoms of a word. The quotes around the arguments of a script are no field by themselves. -/
def wordAtoms (run : Nat → List Char → Run) : Word → Expanding (List Atom)
  | [] => return []
  | .text [] true :: .parameter ['@'] [] true :: rest => do
    let first ← partAtoms run expansionDepth (.parameter ['@'] [] true)
    return first ++ (← wordAtoms run rest)
  | part :: rest => do
    let first ← partAtoms run expansionDepth part
    return first ++ (← wordAtoms run rest)

def wordText (run : Nat → List Char → Run) (w : Word) : Expanding String := do
  return String.ofList (plainText (← wordAtoms run w))

/-! ## Names that match a pattern -/

def isPattern (f : Field) : Bool :=
  f.any fun (c, quoted) => !quoted && ['*', '?', '['].contains c

def fieldParts : Field → List Field
  | [] => [[]]
  | (c, quoted) :: rest =>
    match fieldParts rest with
    | part :: parts => if c = '/' then [] :: part :: parts else ((c, quoted) :: part) :: parts
    | [] => [[(c, quoted)]]

def insertName (name : String) : List String → List String
  | [] => [name]
  | n :: rest => if name < n then name :: n :: rest else n :: insertName name rest

/-- The names in a directory that a pattern accepts, sorted; hidden ones only for a pattern that
starts with the dot. -/
def namesFor (s : Session) (directory : String) (part : Field) : List String :=
  match s.world.tree.stat (s.absolute directory) with
  | .ok (at', .directory) =>
    let names := (s.world.tree.children at').map Prod.fst
    let shown := names.filter fun name =>
      (!Text.startsWith "." name || part.head?.map Prod.fst = some '.') &&
        Glob.accepts (patternOf part) name.toList
    shown.foldr insertName []
  | _ => []

/-- The paths below some beginnings that the parts of a field match. -/
def pathsFor (s : Session) : List String → List Field → List String
  | starts, [] => starts
  | starts, part :: rest =>
    let slash := if rest.isEmpty then "" else "/"
    if isPattern part then
      pathsFor s (starts.flatMap fun start =>
        (namesFor s (if start.isEmpty then "." else start) part).map fun name =>
          start ++ name ++ slash) rest
    else
      let text := String.ofList (part.map Prod.fst)
      pathsFor s (starts.map fun start => start ++ text ++ slash) rest

/-- The texts that a field stands for; a pattern that matches nothing stands for itself. -/
def fieldTexts (s : Session) (f : Field) : List String :=
  let text := String.ofList (f.map Prod.fst)
  if isPattern f then
    let found := (pathsFor s [""] (fieldParts f)).filter fun path =>
      s.world.tree.exists? (s.absolute path)
    if found.isEmpty then [text] else found
  else [text]

def wordFields (run : Nat → List Char → Run) (ws : List Word) : Expanding (List String) := do
  let atoms ← ws.mapM (wordAtoms run)
  let s ← get
  return (atoms.flatMap (fields (separators s.process))).flatMap (fieldTexts s)

end ParserHost.Shell
