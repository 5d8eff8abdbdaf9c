import ParserHost.Number.Literal
import ParserHost.Shell.Expansion

/-!
Redirections: the streams of a process lead to files, to texts, or to where another stream leads.
-/
namespace ParserHost.Shell

def openReason : Errno → String
  | .noEntry => "Directory nonexistent"
  | e => e.text

/-- The channel of a file to write to; the file is emptied unless the text is to be added. -/
def openFile (append : Bool) (name : String) (s : Session) : Except Errno (Channel × Session) := do
  let p := s.absolute name
  if p = Path.absolute ["dev", "null"] then return (.nothing, s)
  if p = Path.absolute ["dev", "stdout"] then return (s.channel 1, s)
  if p = Path.absolute ["dev", "stderr"] then return (s.channel 2, s)
  let t := s.world.tree
  let old := match t.read p with
    | .ok content => if append then content else []
    | .error _ => []
  let t ← t.write p old
  let (at', _) ← t.stat p
  return (.file at', s.withTree t)

def openText (bytes : Text.Utf8.Bytes) (s : Session) : Channel × Session :=
  let (w, n) := s.world.addStream bytes
  (.stream n, { s with world := w })

/-- The channel that a file redirection leads to, or what is wrong with it. -/
def opened (direction : Direction) (name : String) (s : Session) :
    Except String (Channel × Session) :=
  match direction with
  | .read =>
    match s.readFile name with
    | .ok bytes => .ok (if bytes.isEmpty then (.nothing, s) else openText bytes s)
    | .error _ => .error s!"cannot open {name}: No such file"
  | .duplicate =>
    if name = "-" then .ok (.closed, s)
    else if name.toList.all Char.isDigit then
      match s.channel (Literal.natural name.toList) with
      | .closed => .error s!"{name}: Bad file descriptor"
      | channel => .ok (channel, s)
    else .error "Syntax error: Bad fd number"
  | direction =>
    match openFile (direction = .append) name s with
    | .ok found => .ok found
    | .error e => .error s!"cannot create {name}: {openReason e}"

/-- Carries out redirections; `false` if one of them fails, which has been said then. -/
def redirect (run : Nat → List Char → Run) : List Redirection → Expanding Bool
  | [] => return true
  | r :: rest => do
    let found ← match r.target with
      | .document w => do
        let text ← wordText run w
        pure (.ok (openText (Text.Utf8.encode text) (← get)))
      | .file direction w => do
        let name ← wordText run w
        pure (opened direction name (← get))
    match found with
    | .ok (channel, s) =>
      set (s.withProcess (s.process.setChannel r.stream channel))
      redirect run rest
    | .error text =>
      modify fun s => (s.warn 2 text).2
      return false

end ParserHost.Shell
