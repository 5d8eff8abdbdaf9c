import ParserHost.Schema.Scalar

/-!
Components, the design nodes for which a parser may write a source file, with their properties.
-/
namespace ParserHost

open Schema

inductive PropertyType where
  | boolean
  | instanceSwap
  | text
  | variant
  deriving DecidableEq, Repr, Inhabited

def PropertyType.wire : PropertyType → String
  | boolean => "BOOLEAN"
  | instanceSwap => "INSTANCE_SWAP"
  | text => "TEXT"
  | variant => "VARIANT"

def PropertyType.choices : List (String × PropertyType) :=
  [boolean, instanceSwap, text, variant].map fun t => (t.wire, t)

inductive ComponentType where
  | component
  | componentSet
  deriving DecidableEq, Repr, Inhabited

def ComponentType.wire : ComponentType → String
  | component => "COMPONENT"
  | componentSet => "COMPONENT_SET"

def ComponentType.choices : List (String × ComponentType) :=
  [component, componentSet].map fun t => (t.wire, t)

structure PropertyDefinition where
  type : PropertyType
  defaultValue : Setting
  variantOptions : Option (List String)
  deriving DecidableEq, Repr, Inhabited

namespace PropertyDefinition

def fields (e : Json.Entries) : Checked PropertyDefinition :=
  mk <$> required e (word "type") (choice PropertyType.choices)
    <*> required e ⟨"defaultValue", "default_value"⟩ flagOrText
    <*> optional e ⟨"variantOptions", "variant_options"⟩ (tuple string)

def check : Json → Checked PropertyDefinition :=
  model "ComponentPropertyDefinition" fields

def checkWritten : Json → Checked PropertyDefinition :=
  writtenModel "ComponentPropertyDefinition" fields

def toJson (p : PropertyDefinition) : Json :=
  .obj (Json.record [
    ("type", some (.str p.type.wire)),
    ("defaultValue", some p.defaultValue.toJson),
    ("variantOptions", p.variantOptions.map fun os => .arr (os.map .str))])

end PropertyDefinition

structure Component where
  figmaNodeUrl : String
  id : String
  name : String
  normalizedName : String
  type : ComponentType
  properties : List (String × PropertyDefinition)
  deriving DecidableEq, Repr, Inhabited

namespace Component

def fields (definitions : Json → Checked (List (String × PropertyDefinition))) (e : Json.Entries) :
    Checked Component :=
  mk <$> required e ⟨"figmaNodeUrl", "figma_node_url"⟩ string
    <*> required e (word "id") string
    <*> required e (word "name") string
    <*> required e ⟨"normalizedName", "normalized_name"⟩ string
    <*> required e (word "type") (choice ComponentType.choices)
    <*> withDefault e ⟨"componentPropertyDefinitions", "component_property_definitions"⟩ []
      definitions

def check : Json → Checked Component :=
  model "ComponentDescriptor" (fields (dictionary PropertyDefinition.check))

/-- Checks a component whose members are as they were written. -/
def checkWritten : Json → Checked Component :=
  writtenModel "ComponentDescriptor" (fields (writtenDictionary PropertyDefinition.checkWritten))

def toJson (c : Component) : Json :=
  .obj [
    ("figmaNodeUrl", .str c.figmaNodeUrl),
    ("id", .str c.id),
    ("name", .str c.name),
    ("normalizedName", .str c.normalizedName),
    ("type", .str c.type.wire),
    ("componentPropertyDefinitions", .obj (c.properties.map fun (k, p) => (k, p.toJson)))]

end Component

end ParserHost
