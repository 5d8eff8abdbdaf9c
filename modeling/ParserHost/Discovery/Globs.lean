import ParserHost.Config.Section

/-!
The glob patterns of a project: those of its configuration, or those that go with its parser.
-/
namespace ParserHost.Globs

/-- The patterns that a parser takes its files from when none are configured. -/
def defaultIncluded : ParserKind → Option (List String)
  | .react => some ["**/*.\x7btsx,jsx\x7d"]
  | .html => some ["**/*.\x7bts,js\x7d"]
  | .swift => some ["**/*.swift"]
  | .compose => some ["**/*.kt"]
  | .custom => none
  | .unitTest => some []

def defaultExcluded : ParserKind → List String
  | .react => ["node_modules/**"]
  | .html => ["node_modules/**"]
  | .swift => ["**/__test__/**"]
  | _ => []

/-- Configured patterns count if there are any. -/
def configured? (patterns : Option (List String)) : Option (List String) :=
  patterns.filter fun ps => !ps.isEmpty

def ofConfig (c : Config) : Except RunError (List String × List String) :=
  match (configured? c.included).orElse fun _ => defaultIncluded c.parser with
  | some included => .ok (included, c.excluded.getD [] ++ defaultExcluded c.parser)
  | none =>
    .error (.configuration
      "`include` globs must be specified in the config file for custom parsers")

end ParserHost.Globs
