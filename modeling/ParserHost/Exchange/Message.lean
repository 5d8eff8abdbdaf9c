import ParserHost.Schema.Scalar

/-!
Messages, the diagnostics of a parser: a level, a text, and optionally a type and a place in a
source file.
-/
namespace ParserHost

open Schema

inductive Level where
  | debug
  | info
  | warn
  | error
  deriving DecidableEq, Repr, Inhabited

def Level.text : Level → String
  | debug => "DEBUG"
  | info => "INFO"
  | warn => "WARN"
  | error => "ERROR"

def Level.choices : List (String × Level) :=
  [debug, info, warn, error].map fun l => (l.text, l)

structure MessageLocation where
  file : String
  line : Option Int
  deriving DecidableEq, Repr, Inhabited

namespace MessageLocation

def fields (e : Json.Entries) : Checked MessageLocation :=
  mk <$> required e (word "file") string <*> optional e (word "line") integer

def check : Json → Checked MessageLocation :=
  model "MessageLocation" fields

def toJson (l : MessageLocation) : Json :=
  .obj (Json.record [("file", some (.str l.file)), ("line", l.line.map .int)])

end MessageLocation

structure Message where
  level : Level
  text : String
  type : Option String
  location : Option MessageLocation
  deriving DecidableEq, Repr, Inhabited

namespace Message

def fields (e : Json.Entries) : Checked Message :=
  mk <$> required e (word "level") (choice Level.choices)
    <*> required e (word "message") string
    <*> optional e (word "type") string
    <*> optional e ⟨"sourceLocation", "source_location"⟩ MessageLocation.check

def check : Json → Checked Message :=
  model "Message" fields

def toJson (m : Message) : Json :=
  .obj (Json.record [
    ("level", some (.str m.level.text)),
    ("message", some (.str m.text)),
    ("type", m.type.map .str),
    ("sourceLocation", m.location.map MessageLocation.toJson)])

def plain (level : Level) (text : String) : Message :=
  ⟨level, text, none, none⟩

def isError (m : Message) : Bool :=
  m.level = .error

def isWarning (m : Message) : Bool :=
  m.level = .warn

/-- The line that shows a message: its type in brackets, its text, and where it points to. -/
def display (m : Message) : String :=
  let text := match m.type with
    | some type => if type.isEmpty then m.text else s!"[{type}] {m.text}"
    | none => m.text
  match m.location with
  | some ⟨file, some line⟩ => s!"{text} ({file}:{line})"
  | some ⟨file, none⟩ => s!"{text} ({file})"
  | none => text

/-- The messages to show: without those for debugging, unless they are asked for. -/
def surfaced (verbose : Bool) (messages : List Message) : List Message :=
  messages.filter fun m => verbose || m.level != .debug

/-- What a line on standard error says: a message if the line holds one as JSON, else information
with the line as its text. -/
def ofLine (line : String) : Message :=
  let body := Text.trim line
  if Text.startsWith "\x7b" body then
    match (Json.readStrict? body).map check with
    | some (.ok m) => m
    | _ => plain .info line
  else plain .info line

end Message

end ParserHost
