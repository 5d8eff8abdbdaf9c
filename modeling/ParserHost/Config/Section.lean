import ParserHost.Failure.Fault
import ParserHost.Text.Lines

/-!
The section of a project's configuration file that names its parser. Keys that the section does not
declare are kept, so that a parser sees them in its request.
-/
namespace ParserHost

open Schema

inductive ParserKind where
  | react
  | html
  | swift
  | compose
  | custom
  | unitTest
  deriving DecidableEq, Repr, Inhabited

namespace ParserKind

def text : ParserKind → String
  | react => "react"
  | html => "html"
  | swift => "swift"
  | compose => "compose"
  | custom => "custom"
  | unitTest => "__unit_test__"

def all : List ParserKind :=
  [react, html, swift, compose, custom, unitTest]

def choices : List (String × ParserKind) :=
  all.map fun k => (k.text, k)

def ofText? (s : String) : Option ParserKind :=
  choices.lookup s

end ParserKind

structure Config where
  parser : ParserKind
  parserCommand : Option String
  included : Option (List String)
  excluded : Option (List String)
  label : Option String
  language : Option String
  substitutions : Option (List (String × String))
  gradleWrapperPath : Option String
  swiftPackagePath : Option String
  xcodeprojPath : Option String
  sourcePackagesPath : Option String
  extra : Json.Entries
  deriving Repr, Inhabited

namespace Config

def names : List Name :=
  [word "parser", ⟨"parserCommand", "parser_command"⟩, word "include", word "exclude",
    word "label", word "language", ⟨"documentUrlSubstitutions", "document_url_substitutions"⟩,
    ⟨"gradleWrapperPath", "gradle_wrapper_path"⟩, ⟨"swiftPackagePath", "swift_package_path"⟩,
    ⟨"xcodeprojPath", "xcodeproj_path"⟩, ⟨"sourcePackagesPath", "source_packages_path"⟩]

def usedKeys (e : Json.Entries) : List String :=
  names.filterMap fun n => (n.find? e).map Prod.fst

def extraOf (e : Json.Entries) : Json.Entries :=
  let used := usedKeys e
  e.filter fun (k, _) => !used.contains k

def fields (e : Json.Entries) : Checked Config :=
  mk <$> required e (word "parser") (choice ParserKind.choices)
    <*> optional e ⟨"parserCommand", "parser_command"⟩ string
    <*> optional e (word "include") (tuple string)
    <*> optional e (word "exclude") (tuple string)
    <*> optional e (word "label") string
    <*> optional e (word "language") string
    <*> optional e ⟨"documentUrlSubstitutions", "document_url_substitutions"⟩ (dictionary string)
    <*> optional e ⟨"gradleWrapperPath", "gradle_wrapper_path"⟩ string
    <*> optional e ⟨"swiftPackagePath", "swift_package_path"⟩ string
    <*> optional e ⟨"xcodeprojPath", "xcodeproj_path"⟩ string
    <*> optional e ⟨"sourcePackagesPath", "source_packages_path"⟩ string
    <*> .ok (extraOf e)

def texts (ts : List String) : Json :=
  .arr (ts.map .str)

def isNull : Json → Bool
  | .null => true
  | _ => false

/-- The shape of the section in requests: without what is null at its top. -/
def toEntries (c : Config) : Json.Entries :=
  Json.record [
    ("parser", some (.str c.parser.text)),
    ("parserCommand", c.parserCommand.map .str),
    ("include", c.included.map texts),
    ("exclude", c.excluded.map texts),
    ("label", c.label.map .str),
    ("language", c.language.map .str),
    ("documentUrlSubstitutions",
      c.substitutions.map fun ss => .obj (ss.map fun (k, v) => (k, .str v))),
    ("gradleWrapperPath", c.gradleWrapperPath.map .str),
    ("swiftPackagePath", c.swiftPackagePath.map .str),
    ("xcodeprojPath", c.xcodeprojPath.map .str),
    ("sourcePackagesPath", c.sourcePackagesPath.map .str)] ++
  Json.finiteEntries (c.extra.filter fun (_, v) => !isNull v)

/-- The section as requests carry it. -/
def toRequest (c : Config) : Except Json.Excess Json.Entries :=
  if Json.entryLevels c.extra ≤ Json.levelLimit then .ok c.toEntries else .error .levels

/-- The key of the section in a document that has other sections too. -/
def sectionKey : String := "codeConnect"

def segmentText : Segment → String
  | .key name => name
  | .index n => toString n

def violationText (v : Violation) : String :=
  let place := Text.join "." (v.location.map segmentText)
  let place := if place.isEmpty then sectionKey else place
  s!"{place}: {v.complaint.detail .value}"

/-- The configuration of a document; `source` is what error messages call it. -/
def ofDocument (document : Json.Entries) (source : String) : Except RunError Config :=
  match (Json.get? sectionKey document).getD (.obj document) with
  | .obj e =>
    if (Json.get? "parser" e).isNone then
      .error (.configuration s!"No `parser` specified in config file: {source}")
    else
      match (fields e).toExcept with
      | .ok c => .ok c
      | .error vs =>
        let listed := Text.join "; " (vs.map violationText)
        .error (.configuration s!"Invalid config file {source}: {listed}")
  | _ =>
    .error (.configuration
      s!"No options specified under '{sectionKey}' in config file: {source}")

/-- The name of a configuration file that is found without being named. -/
def defaultFileName : String := "figma.config.json"

/-- The default configuration file of a directory, if it has one. -/
def find? (t : FileTree) (directory : Path) : Option Path :=
  let candidate := directory.child defaultFileName
  if t.isFile candidate then some candidate else none

def load (t : FileTree) (file : Path) : Except Failure Config :=
  if FileTree.hasNul file then .error Fault.embeddedNul
  else
    match t.read file with
    | .error e =>
      .error (RunError.configuration s!"Unable to read config file {file.text}: {e.text}")
    | .ok bytes =>
      match Text.Utf8.decode bytes with
      | .error f => .error (Fault.notUnicode f)
      | .ok text =>
        match Json.read (Text.unifyNewlines text) with
        | .error ⟨.within limit, _⟩ => .error (Fault.beyond limit)
        | .error f =>
          .error (RunError.configuration
            s!"Error parsing config file: {file.text} ({f.expected.text})")
        | .ok (.obj document) => (ofDocument document file.text).mapError .run
        | .ok _ =>
          .error (RunError.configuration
            s!"Error parsing config file: {file.text} (expected a JSON object)")

end Config

end ParserHost
