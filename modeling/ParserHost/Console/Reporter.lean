import ParserHost.Console.Line
import ParserHost.Run.Journal

/-!
The reporter prints what a journal records: messages and what the run itself has to say, each at its
level, those for debugging only on request. A collector in front of it keeps all messages.

Main statement: the text of two journals is that of the first followed by that of the second
(`print_append`).
-/
namespace ParserHost

structure Reporter where
  verbose : Bool
  useEmoji : Bool
  deriving DecidableEq, Repr, Inhabited

namespace Reporter

def log (r : Reporter) (level : Level) (text : String) : String :=
  if level = .debug && !r.verbose then ""
  else Console.lineText (.level level) text r.useEmoji

def report (r : Reporter) (m : Message) : String :=
  r.log m.level m.display

def eventText (r : Reporter) : Event → String
  | .message m => r.report m
  | .log level text => r.log level text
  | _ => ""

def print (r : Reporter) : List Event → String
  | [] => ""
  | e :: rest => r.eventText e ++ r.print rest

theorem print_append (r : Reporter) (a b : List Event) :
    r.print (a ++ b) = r.print a ++ r.print b := by
  induction a with
  | nil => simp [print]
  | cons e rest ih => simp [print, ih, String.append_assoc]

end Reporter

/-- It keeps all messages that arrive, and a reporter, if there is one, gets each of them. -/
structure Collector where
  sink : Option Reporter
  messages : List Message
  deriving DecidableEq, Repr, Inhabited

namespace Collector

/-- The collector after a message, with what was printed. -/
def take (c : Collector) (m : Message) : Collector × String :=
  let shown := match c.sink with
    | some r => r.report m
    | none => ""
  ({ c with messages := c.messages ++ [m] }, shown)

def takeAll (c : Collector) : List Message → Collector × String
  | [] => (c, "")
  | m :: rest =>
    let (c, first) := c.take m
    let (c, others) := takeAll c rest
    (c, first ++ others)

end Collector

end ParserHost
