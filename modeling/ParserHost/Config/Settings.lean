import ParserHost.Config.Section

/-!
Settings of one run, which come from its caller rather than from the project. A timeout that is not
given comes from the environment; one that is given has to be positive.
-/
namespace ParserHost

open Schema

structure Settings where
  cwd : Path
  verbose : Bool
  timeout : Option Double
  repositoryUrl : Option String
  label : Option String
  cliVersion : String
  useEmoji : Bool
  deriving Repr, Inhabited

namespace Settings

def version : String := "0.1.0"

def timeoutVariable : String := "CODELINK_PARSER_TIMEOUT"

/-- The timeout that a variable of the environment asks for; one that is not positive is none. -/
def timeoutFrom : Option String → Except RunError (Option Double)
  | none => .ok none
  | some raw =>
    if Text.allBlank raw then .ok none
    else
      match Literal.anyFloat? raw with
      | some x => .ok (if x.positive then some x else none)
      | none =>
        .error (.configuration
          s!"{timeoutVariable} must be a number of seconds, got {Text.quote raw}")

def path : Json → Checked Path
  | .str s => .ok (Path.parse s)
  | _ => .fail .notPath

/-- A number of seconds, or null; it has to be positive. -/
def seconds (v : Json) : Checked (Option Double) :=
  match nullable number v with
  | .ok (some x) => if x.nonPositive then .fail .notPositive else .ok (some x)
  | c => c

def fields (cwd : Path) (timeout : Option Double) (e : Json.Entries) : Checked Settings :=
  mk <$> withDefault e (word "cwd") cwd path
    <*> withDefault e (word "verbose") false boolean
    <*> withDefault e (word "timeout") timeout seconds
    <*> optional e (word "repository_url") string
    <*> optional e (word "label") string
    <*> withDefault e (word "cli_version") version string
    <*> withDefault e (word "use_emoji") true boolean

/-- The settings that values ask for, in a given directory and environment. -/
def ofValues (cwd : Path) (raw : Option String) (e : Json.Entries) :
    Except Failure Settings :=
  let default := match Json.get? "timeout" e with
    | some _ => (.ok none : Except RunError (Option Double))
    | none => timeoutFrom raw
  match default with
  | .error err => .error err
  | .ok timeout => (fields cwd timeout e).toExcept.mapError fun vs => .fault (.invalid vs)

end Settings

end ParserHost
