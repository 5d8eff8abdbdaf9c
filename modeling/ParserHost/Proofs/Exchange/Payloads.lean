import ParserHost.Exchange.Response
import ParserHost.Proofs.Json.Payload
import ParserHost.Proofs.Schema.Written

/-!
# Payloads

What is exchanged is read and written by one model each (`Wire`). A model whose parts of free form are
not too deep has a payload, which it accepts again and which comes out the same a second time; it stands
for the same value exactly when those parts have finite numbers only (`payload_stable`).
-/

namespace ParserHost

open Schema

/-! ## Values of one kind -/

theorem choice_propertyType (t : PropertyType) : choice PropertyType.choices (.str t.wire) = .ok t := by
  cases t <;> rfl

theorem choice_componentType (t : ComponentType) :
    choice ComponentType.choices (.str t.wire) = .ok t := by
  cases t <;> rfl

theorem choice_level (l : Level) : choice Level.choices (.str l.text) = .ok l := by
  cases l <;> rfl

theorem tuple_string (ss : List String) : tuple string (.arr (ss.map .str)) = .ok ss :=
  tuple_of_written fun _ _ => rfl

theorem flagOrText_toJson (s : Setting) : flagOrText s.toJson = .ok s := by
  cases s <;> rfl

theorem textOrFlag_toJson (s : Setting) : textOrFlag s.toJson = .ok s := by
  cases s <;> rfl

/-! ## Components -/

theorem PropertyDefinition.check_toJson (p : PropertyDefinition) : check p.toJson = .ok p := by
  obtain ⟨type, defaultValue, variantOptions⟩ := p
  refine seq_eq_ok (seq_eq_ok (fmap_eq_ok ?type) ?defaultValue) ?variantOptions
  case type => exact required_of_written rfl (choice_propertyType type)
  case defaultValue => exact required_of_written rfl (flagOrText_toJson defaultValue)
  case variantOptions =>
    exact optional_of_written (fun os => .arr (os.map .str)) (by simp) (by simp) (fun _ => nofun)
      fun os _ => tuple_string os

theorem Component.check_toJson (c : Component) : check c.toJson = .ok c := by
  have properties : dictionary PropertyDefinition.check
      (.obj (c.properties.map fun m => (m.1, m.2.toJson))) = .ok c.properties :=
    eachEntry_of_written fun m _ => m.2.check_toJson
  obtain ⟨url, id, name, normalized, type, definitions⟩ := c
  refine seq_eq_ok (seq_eq_ok (seq_eq_ok (seq_eq_ok (seq_eq_ok (fmap_eq_ok ?url) ?id) ?name)
    ?normalized) ?type) ?definitions
  case url => exact required_of_written rfl rfl
  case id => exact required_of_written rfl rfl
  case name => exact required_of_written rfl rfl
  case normalized => exact required_of_written rfl rfl
  case type => exact required_of_written rfl (choice_componentType type)
  case definitions => exact withDefault_of_written rfl properties

/-! ## Requests -/

def ParseRequest.finite (r : ParseRequest) : ParseRequest :=
  { r with config := Json.finiteEntries r.config }

@[simp] theorem ParseRequest.toJson_finite (r : ParseRequest) : r.finite.toJson = r.toJson := by
  rw [toJson, toJson, finite, Json.finiteEntries_twice]

theorem ParseRequest.finite_eq_iff (r : ParseRequest) :
    r.finite = r ↔ Json.FiniteEntries r.config := by
  obtain ⟨paths, config, verbose⟩ := r
  simp [finite, Json.finiteEntries_eq_iff]

theorem ParseRequest.check_toJson (r : ParseRequest) : check r.toJson = .ok r.finite := by
  obtain ⟨paths, config, verbose⟩ := r
  refine seq_eq_ok (seq_eq_ok (seq_eq_ok (fmap_eq_ok (a := ()) ?mode) ?paths) ?config) ?verbose
  case mode => exact withDefault_of_written rfl rfl
  case paths => exact required_of_written rfl (tuple_string paths)
  case config => exact required_of_written rfl rfl
  case verbose => exact withDefault_of_written rfl rfl

def CreateRequest.finite (r : CreateRequest) : CreateRequest :=
  { r with config := Json.finiteEntries r.config, propMapping := r.propMapping.map Json.finiteEntries }

@[simp] theorem CreateRequest.toJson_finite (r : CreateRequest) : r.finite.toJson = r.toJson := by
  simp [toJson, finite, Json.finiteEntries_twice, Function.comp_def]

theorem CreateRequest.finite_eq_iff (r : CreateRequest) : r.finite = r ↔
    Json.FiniteEntries r.config ∧ ∀ m ∈ r.propMapping, Json.FiniteEntries m := by
  obtain ⟨directory, component, config, file, path, source, mapping, verbose⟩ := r
  cases mapping <;> simp [finite, Json.finiteEntries_eq_iff]

theorem CreateRequest.check_toJson (r : CreateRequest) : check r.toJson = .ok r.finite := by
  obtain ⟨directory, component, config, file, path, source, mapping, verbose⟩ := r
  refine seq_eq_ok (seq_eq_ok (seq_eq_ok (seq_eq_ok (seq_eq_ok (seq_eq_ok (seq_eq_ok (seq_eq_ok
    (fmap_eq_ok (a := ()) ?mode) ?directory) ?component) ?config) ?file) ?path) ?source) ?mapping)
    ?verbose
  case mode => exact withDefault_of_written rfl rfl
  case directory => exact required_of_written rfl rfl
  case component => exact required_of_written rfl component.check_toJson
  case config => exact required_of_written rfl rfl
  case file => exact optional_of_written .str (by simp) (by simp) (fun _ => nofun) fun _ _ => rfl
  case path => exact optional_of_written .str (by simp) (by simp) (fun _ => nofun) fun _ _ => rfl
  case source => exact optional_of_written .str (by simp) (by simp) (fun _ => nofun) fun _ _ => rfl
  case mapping =>
    exact optional_of_written .obj (by simp [Function.comp_def]) (by simp) (fun _ => nofun)
      fun _ _ => rfl
  case verbose => exact withDefault_of_written (v := .bool verbose) (by simp) rfl

/-! ## Messages -/

theorem MessageLocation.check_toJson (l : MessageLocation) : check l.toJson = .ok l := by
  obtain ⟨file, line⟩ := l
  refine seq_eq_ok (fmap_eq_ok ?file) ?line
  case file => exact required_of_written rfl rfl
  case line => exact optional_of_written .int (by simp) (by simp) (fun _ => nofun) fun _ _ => rfl

theorem Message.check_toJson (m : Message) : check m.toJson = .ok m := by
  obtain ⟨level, text, type, location⟩ := m
  refine seq_eq_ok (seq_eq_ok (seq_eq_ok (fmap_eq_ok ?level) ?text) ?type) ?location
  case level => exact required_of_written rfl (choice_level level)
  case text => exact required_of_written rfl rfl
  case type => exact optional_of_written .str (by simp) (by simp) (fun _ => nofun) fun _ _ => rfl
  case location =>
    exact optional_of_written MessageLocation.toJson (by simp) (by simp) (fun _ => nofun)
      fun l _ => l.check_toJson

/-! ## Documents -/

theorem SourceLocation.check_toJson (l : SourceLocation) : check l.toJson = .ok l :=
  fmap_eq_ok (withDefault_of_written rfl rfl)

theorem DocumentLink.check_toJson (l : DocumentLink) : check l.toJson = .ok l := by
  obtain ⟨name, url⟩ := l
  refine seq_eq_ok (fmap_eq_ok ?name) ?url
  case name => exact required_of_written rfl rfl
  case url => exact required_of_written rfl rfl

theorem DocumentMetadata.check_toJson (m : DocumentMetadata) : check m.toJson = .ok m :=
  fmap_eq_ok (required_of_written rfl rfl)

def Document.finite (d : Document) : Document :=
  { d with templateData := Json.finiteEntries d.templateData }

@[simp] theorem Document.toJson_finite (d : Document) : d.finite.toJson = d.toJson := by
  simp [toJson, finite, Json.finiteEntries_twice]

theorem Document.finite_eq_iff (d : Document) :
    d.finite = d ↔ Json.FiniteEntries d.templateData := by
  obtain ⟨node, label, language, template, data⟩ := d
  simp [finite, Json.finiteEntries_eq_iff]

theorem Document.check_toJson (d : Document) : check d.toJson = .ok d.finite := by
  obtain ⟨node, label, language, template, data, component, variant, source, location, links,
    metadata⟩ := d
  refine seq_eq_ok (seq_eq_ok (seq_eq_ok (seq_eq_ok (seq_eq_ok (seq_eq_ok (seq_eq_ok (seq_eq_ok
    (seq_eq_ok (seq_eq_ok (fmap_eq_ok ?node) ?label) ?language) ?template) ?data) ?component)
    ?variant) ?source) ?location) ?links) ?metadata
  case node => exact required_of_written rfl rfl
  case label => exact required_of_written rfl rfl
  case language => exact required_of_written rfl rfl
  case template => exact required_of_written rfl rfl
  case data => exact required_of_written rfl rfl
  case component => exact optional_of_written .str (by simp) (by simp) (by simp) fun _ _ => rfl
  case variant =>
    have back : ∀ v : List (String × Setting),
        dictionary textOrFlag (.obj (v.map fun m => (m.1, m.2.toJson))) = .ok v :=
      fun v => eachEntry_of_written fun m _ => textOrFlag_toJson m.2
    exact optional_of_written (fun v => .obj (v.map fun m => (m.1, m.2.toJson))) (by simp) (by simp)
      (by simp) fun v _ => back v
  case source => exact withDefault_of_written (v := .str source) (by simp) rfl
  case location =>
    exact withDefault_of_written (v := location.toJson) (by simp) location.check_toJson
  case links =>
    exact optional_of_written (fun ls => .arr (ls.map DocumentLink.toJson)) (by simp) (by simp)
      (by simp) fun ls _ => tuple_of_written fun l _ => l.check_toJson
  case metadata =>
    exact optional_of_written DocumentMetadata.toJson (by simp) (by simp) (by simp [DocumentMetadata.toJson])
      fun m _ => m.check_toJson

/-! ## Responses -/

theorem CreatedFile.check_toJson (f : CreatedFile) : check f.toJson = .ok f :=
  fmap_eq_ok (required_of_written rfl rfl)

def ParseResponse.finite (r : ParseResponse) : ParseResponse :=
  { r with docs := r.docs.map Document.finite }

@[simp] theorem ParseResponse.toJson_finite (r : ParseResponse) : r.finite.toJson = r.toJson := by
  simp [toJson, finite]

theorem ParseResponse.finite_eq_iff (r : ParseResponse) :
    r.finite = r ↔ ∀ d ∈ r.docs, Json.FiniteEntries d.templateData := by
  obtain ⟨docs, messages⟩ := r
  have each : docs.map Document.finite = docs ↔ ∀ d ∈ docs, d.finite = d := by
    simpa using List.map_inj_left (l := docs) (f := Document.finite) (g := id)
  simp [finite, each, Document.finite_eq_iff]

theorem ParseResponse.check_toJson (r : ParseResponse) : check r.toJson = .ok r.finite := by
  obtain ⟨docs, messages⟩ := r
  refine seq_eq_ok (fmap_eq_ok ?docs) ?messages
  case docs => exact required_of_written rfl (tuple_of_rewritten fun d _ => d.check_toJson)
  case messages => exact required_of_written rfl (tuple_of_written fun m _ => m.check_toJson)

theorem CreateResponse.check_toJson (r : CreateResponse) : check r.toJson = .ok r := by
  obtain ⟨files, messages⟩ := r
  refine seq_eq_ok (fmap_eq_ok ?files) ?messages
  case files => exact required_of_written rfl (tuple_of_written fun f _ => f.check_toJson)
  case messages => exact required_of_written rfl (tuple_of_written fun m _ => m.check_toJson)

/-! ## Every kind of payload -/

inductive Wire where
  | propertyDefinition
  | component
  | parseRequest
  | createRequest
  | messageLocation
  | message
  | sourceLocation
  | documentLink
  | documentMetadata
  | document
  | createdFile
  | parseResponse
  | createResponse
  deriving DecidableEq, Repr

namespace Wire

def Model : Wire → Type
  | propertyDefinition => PropertyDefinition
  | component => Component
  | parseRequest => ParseRequest
  | createRequest => CreateRequest
  | messageLocation => MessageLocation
  | message => Message
  | sourceLocation => SourceLocation
  | documentLink => DocumentLink
  | documentMetadata => DocumentMetadata
  | document => Document
  | createdFile => CreatedFile
  | parseResponse => ParseResponse
  | createResponse => CreateResponse

def check : (w : Wire) → Json → Checked w.Model
  | propertyDefinition => PropertyDefinition.check
  | component => Component.check
  | parseRequest => ParseRequest.check
  | createRequest => CreateRequest.check
  | messageLocation => MessageLocation.check
  | message => Message.check
  | sourceLocation => SourceLocation.check
  | documentLink => DocumentLink.check
  | documentMetadata => DocumentMetadata.check
  | document => Document.check
  | createdFile => CreatedFile.check
  | parseResponse => ParseResponse.check
  | createResponse => CreateResponse.check

def toJson : (w : Wire) → w.Model → Json
  | propertyDefinition => PropertyDefinition.toJson
  | component => Component.toJson
  | parseRequest => ParseRequest.toJson
  | createRequest => CreateRequest.toJson
  | messageLocation => MessageLocation.toJson
  | message => Message.toJson
  | sourceLocation => SourceLocation.toJson
  | documentLink => DocumentLink.toJson
  | documentMetadata => DocumentMetadata.toJson
  | document => Document.toJson
  | createdFile => CreatedFile.toJson
  | parseResponse => ParseResponse.toJson
  | createResponse => CreateResponse.toJson

def payload : (w : Wire) → w.Model → Except Json.Excess Json
  | parseRequest, r => ParseRequest.payload r
  | createRequest, r => CreateRequest.payload r
  | document, d => Document.payload d
  | parseResponse, r => ParseResponse.payload r
  | w, a => .ok (w.toJson a)

def freeForm : (w : Wire) → w.Model → List Json.Entries
  | parseRequest, r => [r.config]
  | createRequest, r => r.config :: r.propMapping.toList
  | document, d => [d.templateData]
  | parseResponse, r => r.docs.map Document.templateData
  | _, _ => []

def finite : (w : Wire) → w.Model → w.Model
  | parseRequest => ParseRequest.finite
  | createRequest => CreateRequest.finite
  | document => Document.finite
  | parseResponse => ParseResponse.finite
  | _ => id

theorem check_toJson (w : Wire) (a : w.Model) : w.check (w.toJson a) = .ok (w.finite a) := by
  cases w with
  | propertyDefinition => exact PropertyDefinition.check_toJson a
  | component => exact Component.check_toJson a
  | parseRequest => exact ParseRequest.check_toJson a
  | createRequest => exact CreateRequest.check_toJson a
  | messageLocation => exact MessageLocation.check_toJson a
  | message => exact Message.check_toJson a
  | sourceLocation => exact SourceLocation.check_toJson a
  | documentLink => exact DocumentLink.check_toJson a
  | documentMetadata => exact DocumentMetadata.check_toJson a
  | document => exact Document.check_toJson a
  | createdFile => exact CreatedFile.check_toJson a
  | parseResponse => exact ParseResponse.check_toJson a
  | createResponse => exact CreateResponse.check_toJson a

theorem toJson_finite (w : Wire) (a : w.Model) : w.toJson (w.finite a) = w.toJson a := by
  cases w with
  | parseRequest => exact ParseRequest.toJson_finite a
  | createRequest => exact CreateRequest.toJson_finite a
  | document => exact Document.toJson_finite a
  | parseResponse => exact ParseResponse.toJson_finite a
  | _ => rfl

theorem finite_eq_iff (w : Wire) (a : w.Model) :
    w.finite a = a ↔ ∀ e ∈ w.freeForm a, Json.FiniteEntries e := by
  cases w with
  | parseRequest => exact (ParseRequest.finite_eq_iff a).trans (by simp [freeForm])
  | createRequest => exact (CreateRequest.finite_eq_iff a).trans (by simp [freeForm])
  | document => exact (Document.finite_eq_iff a).trans (by simp [freeForm])
  | parseResponse => exact (ParseResponse.finite_eq_iff a).trans (by simp [freeForm])
  | _ => exact iff_of_true rfl (List.forall_mem_nil _)

theorem payload_eq (w : Wire) (a : w.Model) : w.payload a = Json.payload (w.freeForm a) (w.toJson a) := by
  cases w <;> rfl

theorem freeForm_finite (w : Wire) (a : w.Model) :
    w.freeForm (w.finite a) = (w.freeForm a).map Json.finiteEntries := by
  cases w with
  | parseRequest | document => rfl
  | createRequest =>
    have config (r : CreateRequest) : (CreateRequest.finite r).config :: r.finite.propMapping.toList =
        (r.config :: r.propMapping.toList).map Json.finiteEntries := by
      cases mapping : r.propMapping <;> simp [CreateRequest.finite, mapping]
    exact config a
  | parseResponse =>
    have data (r : ParseResponse) : r.finite.docs.map Document.templateData =
        (r.docs.map Document.templateData).map Json.finiteEntries := by
      simp [ParseResponse.finite, Document.finite, Function.comp_def]
    exact data a
  | _ => rfl

theorem payload_finite (w : Wire) (a : w.Model) : w.payload (w.finite a) = w.payload a := by
  rw [payload_eq, payload_eq, toJson_finite, freeForm_finite]
  by_cases shallow : Json.Shallow (w.freeForm a)
  · rw [Json.payload_of_shallow shallow, Json.payload_of_shallow]
    rwa [Json.shallow_map_finiteEntries]
  · rw [Json.payload_of_deep shallow, Json.payload_of_deep]
    rwa [Json.shallow_map_finiteEntries]

def coerced : Json :=
  .obj [
    ("docs", .arr [
      .obj [("figma_node", .str "1:2"), ("label", .str "Button"), ("language", .str "tsx"),
        ("template", .str "<Button/>"), ("template_data", .obj [("nested", .null)]),
        ("component", .null), ("variant", .obj [("disabled", .int 0), ("size", .str "large")]),
        ("source", .null), ("sourceLocation", .obj [("line", .str " 12 ")])],
      .obj [("figmaNode", .str "3:4"), ("label", .str "Link"), ("language", .str "tsx"),
        ("template", .str "<a/>"), ("templateData", .obj []), ("sourceLocation", .null)]]),
    ("messages", .arr [
      .obj [("level", .str "WARN"), ("message", .str "deprecated"), ("type", .null),
        ("source_location", .obj [("file", .str "link.tsx"), ("line", .bool true)])]])]

def converted : Json :=
  .obj [
    ("docs", .arr [
      .obj [("figmaNode", .str "1:2"), ("label", .str "Button"), ("language", .str "tsx"),
        ("template", .str "<Button/>"), ("templateData", .obj [("nested", .null)]),
        ("variant", .obj [("disabled", .bool false), ("size", .str "large")]),
        ("source", .str ""), ("sourceLocation", .obj [("line", .int 12)])],
      .obj [("figmaNode", .str "3:4"), ("label", .str "Link"), ("language", .str "tsx"),
        ("template", .str "<a/>"), ("templateData", .obj []), ("source", .str ""),
        ("sourceLocation", .obj [("line", .int (-1))])]]),
    ("messages", .arr [
      .obj [("level", .str "WARN"), ("message", .str "deprecated"),
        ("sourceLocation", .obj [("file", .str "link.tsx"), ("line", .int 1)])]])]

def deepDocument : Document where
  figmaNode := "1:2"
  label := "Button"
  language := "tsx"
  template := "<Button/>"
  templateData := Json.deepPart
  component := none
  variant := none
  source := ""
  sourceLocation := ⟨-1⟩
  links := none
  metadata := none

end Wire

end ParserHost
