import ParserHost.Exchange.Component
import ParserHost.Json.Payload
import ParserHost.Json.Shown

/-!
Requests, what a parser is asked: to extract documents from files, or to create a source file for a
component. The field `mode` tells the two apart.
-/
namespace ParserHost

open Schema

inductive Mode where
  | parse
  | create
  deriving DecidableEq, Repr, Inhabited

def Mode.text : Mode → String
  | parse => "PARSE"
  | create => "CREATE"

def Mode.choices : List (String × Mode) :=
  [parse, create].map fun m => (m.text, m)

structure ParseRequest where
  paths : List String
  config : Json.Entries
  verbose : Bool
  deriving Repr, Inhabited

namespace ParseRequest

def fields (e : Json.Entries) : Checked ParseRequest :=
  (fun _ paths config verbose => mk paths config verbose)
    <$> withDefault e (word "mode") () (literal Mode.parse.text)
    <*> required e (word "paths") (tuple string)
    <*> required e (word "config") anyDictionary
    <*> withDefault e (word "verbose") false boolean

def check : Json → Checked ParseRequest :=
  model "ParseRequest" fields

def toJson (r : ParseRequest) : Json :=
  .obj [
    ("mode", .str Mode.parse.text),
    ("paths", .arr (r.paths.map .str)),
    ("config", .obj (Json.finiteEntries r.config)),
    ("verbose", .bool r.verbose)]

def payload (r : ParseRequest) : Except Json.Excess Json :=
  Json.payload [r.config] r.toJson

end ParseRequest

structure CreateRequest where
  destinationDir : String
  component : Component
  config : Json.Entries
  destinationFile : Option String
  sourceFilepath : Option String
  sourceExport : Option String
  propMapping : Option Json.Entries
  verbose : Bool
  deriving Repr, Inhabited

namespace CreateRequest

def fields (e : Json.Entries) : Checked CreateRequest :=
  (fun _ => mk)
    <$> withDefault e (word "mode") () (literal Mode.create.text)
    <*> required e ⟨"destinationDir", "destination_dir"⟩ string
    <*> required e (word "component") Component.check
    <*> required e (word "config") anyDictionary
    <*> optional e ⟨"destinationFile", "destination_file"⟩ string
    <*> optional e ⟨"sourceFilepath", "source_filepath"⟩ string
    <*> optional e ⟨"sourceExport", "source_export"⟩ string
    <*> optional e ⟨"propMapping", "prop_mapping"⟩ anyDictionary
    <*> withDefault e (word "verbose") false boolean

def check : Json → Checked CreateRequest :=
  model "CreateRequest" fields

def toJson (r : CreateRequest) : Json :=
  .obj (Json.record [
    ("mode", some (.str Mode.create.text)),
    ("destinationDir", some (.str r.destinationDir)),
    ("component", some r.component.toJson),
    ("config", some (.obj (Json.finiteEntries r.config))),
    ("destinationFile", r.destinationFile.map .str),
    ("sourceFilepath", r.sourceFilepath.map .str),
    ("sourceExport", r.sourceExport.map .str),
    ("propMapping", r.propMapping.map fun m => .obj (Json.finiteEntries m)),
    ("verbose", some (.bool r.verbose))])

def payload (r : CreateRequest) : Except Json.Excess Json :=
  Json.payload (r.config :: r.propMapping.toList) r.toJson

end CreateRequest

inductive Request where
  | parse (r : ParseRequest)
  | create (r : CreateRequest)
  deriving Repr, Inhabited

namespace Request

def mode : Request → Mode
  | parse _ => .parse
  | create _ => .create

def toJson : Request → Json
  | parse r => r.toJson
  | create r => r.toJson

def payload : Request → Except Json.Excess Json
  | parse r => r.payload
  | create r => r.payload

/-- The text that a parser gets. -/
def serialized (r : Request) : Except Json.Excess String := do
  Json.written Json.compact (← r.payload)

def check : Json → Checked Request
  | .obj e =>
    match Json.get? "mode" e with
    | none => .fail .noTag
    | some tag =>
      match tag with
      | .str "PARSE" => ((ParseRequest.fields e).map parse).below (.key Mode.parse.text)
      | .str "CREATE" => ((CreateRequest.fields e).map create).below (.key Mode.create.text)
      | tag => .fail (.unknownTag tag.shown (Mode.choices.map Prod.fst))
  | _ => .fail .notTagged

end Request

end ParserHost
