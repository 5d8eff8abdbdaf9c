import ParserHost.Json.Payload
import ParserHost.Schema.Scalar

/-!
Documents, the code examples that parsers extract: each belongs to a design node. Two documents of
the same node and template are duplicates.
-/
namespace ParserHost

open Schema

def unknownLine : Int := -1

structure DocumentLink where
  name : String
  url : String
  deriving DecidableEq, Repr, Inhabited

namespace DocumentLink

def fields (e : Json.Entries) : Checked DocumentLink :=
  mk <$> required e (word "name") string <*> required e (word "url") string

def check : Json → Checked DocumentLink :=
  model "DocumentLink" fields

def toJson (l : DocumentLink) : Json :=
  .obj [("name", .str l.name), ("url", .str l.url)]

end DocumentLink

structure SourceLocation where
  line : Int
  deriving DecidableEq, Repr, Inhabited

namespace SourceLocation

def unknown : SourceLocation := ⟨unknownLine⟩

def fields (e : Json.Entries) : Checked SourceLocation :=
  mk <$> withDefault e (word "line") unknownLine integer

def check : Json → Checked SourceLocation :=
  model "SourceLocation" fields

def toJson (l : SourceLocation) : Json :=
  .obj [("line", .int l.line)]

end SourceLocation

structure DocumentMetadata where
  cliVersion : String
  deriving DecidableEq, Repr, Inhabited

namespace DocumentMetadata

def fields (e : Json.Entries) : Checked DocumentMetadata :=
  mk <$> required e ⟨"cliVersion", "cli_version"⟩ string

def check : Json → Checked DocumentMetadata :=
  model "DocumentMetadata" fields

def toJson (m : DocumentMetadata) : Json :=
  .obj [("cliVersion", .str m.cliVersion)]

end DocumentMetadata

structure Document where
  figmaNode : String
  label : String
  language : String
  template : String
  templateData : Json.Entries
  component : Option String
  variant : Option (List (String × Setting))
  source : String
  sourceLocation : SourceLocation
  links : Option (List DocumentLink)
  metadata : Option DocumentMetadata
  deriving Repr, Inhabited

namespace Document

/-- A null source counts as an empty one. -/
def checkSource : Json → Checked String
  | .null => .ok ""
  | v => string v

/-- A null place counts as one without a line. -/
def checkLocation : Json → Checked SourceLocation
  | .null => .ok .unknown
  | v => SourceLocation.check v

def fields (e : Json.Entries) : Checked Document :=
  mk <$> required e ⟨"figmaNode", "figma_node"⟩ string
    <*> required e (word "label") string
    <*> required e (word "language") string
    <*> required e (word "template") string
    <*> required e ⟨"templateData", "template_data"⟩ anyDictionary
    <*> optional e (word "component") string
    <*> optional e (word "variant") (dictionary textOrFlag)
    <*> withDefault e (word "source") "" checkSource
    <*> withDefault e ⟨"sourceLocation", "source_location"⟩ .unknown checkLocation
    <*> optional e (word "links") (tuple DocumentLink.check)
    <*> optional e (word "metadata") DocumentMetadata.check

def check : Json → Checked Document :=
  model "Document" fields

def toJson (d : Document) : Json :=
  .obj (Json.record [
    ("figmaNode", some (.str d.figmaNode)),
    ("label", some (.str d.label)),
    ("language", some (.str d.language)),
    ("template", some (.str d.template)),
    ("templateData", some (.obj (Json.finiteEntries d.templateData))),
    ("component", d.component.map .str),
    ("variant", d.variant.map fun v => .obj (v.map fun (k, s) => (k, s.toJson))),
    ("source", some (.str d.source)),
    ("sourceLocation", some d.sourceLocation.toJson),
    ("links", d.links.map fun ls => .arr (ls.map DocumentLink.toJson)),
    ("metadata", d.metadata.map DocumentMetadata.toJson)])

def payload (d : Document) : Except Json.Excess Json :=
  Json.payload [d.templateData] d.toJson

/-- What tells documents apart. -/
def key (d : Document) : String × String :=
  (d.figmaNode, d.template)

def isDuplicate (first second : Document) : Bool :=
  first.key = second.key

/-- The documents whose key does not come earlier in the list or among those seen. -/
def dedupeFrom (seen : List (String × String)) : List Document → List Document
  | [] => []
  | d :: rest =>
    if seen.contains d.key then dedupeFrom seen rest
    else d :: dedupeFrom (d.key :: seen) rest

/-- The first document of each key, in order. -/
def dedupe (documents : List Document) : List Document :=
  dedupeFrom [] documents

end Document

end ParserHost
