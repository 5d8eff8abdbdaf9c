import ParserHost.Proofs.Exchange.Payloads
import ParserHost.Proofs.Json.Portable

/-!
# Requests as text

A request whose parts of free form are portable has a text unless one of them is too deep
(`serialized_of_shallow`), and is what a parser reads from that text (`check_of_serialized`).
-/

namespace ParserHost

open Schema

/-! ## What is written is portable -/

namespace Json

theorem portable_strings (ss : List String) : (arr (ss.map str)).Portable := by
  refine portableItems_iff.2 fun v member => ?_
  obtain ⟨s, -, rfl⟩ := List.mem_map.1 member
  trivial

theorem nesting_strings (ss : List String) : (arr (ss.map str)).nesting ≤ 1 := by
  refine Nat.succ_le_succ (nestingItems_le_iff.2 fun v member => ?_)
  obtain ⟨s, -, rfl⟩ := List.mem_map.1 member
  exact Nat.le_refl _

theorem portable_finiteEntries {e : Entries} (portable : (obj e).Portable) :
    (obj (finiteEntries e)).Portable := by
  rw [(finiteEntries_eq_iff e).2 (finiteEntries_of_portable portable.2)]
  exact portable

end Json

theorem Schema.Setting.portable_toJson (s : Setting) : s.toJson.Portable := by
  cases s <;> trivial

theorem Schema.Setting.nesting_toJson (s : Setting) : s.toJson.nesting = 0 := by
  cases s <;> rfl

theorem PropertyDefinition.portable_toJson (p : PropertyDefinition) : p.toJson.Portable := by
  have options : ∀ os ∈ p.variantOptions, (Json.arr (os.map .str)).Portable := fun os _ =>
    Json.portable_strings os
  refine Json.portable_record (by simp) ?_
  simpa [Json.Portable, p.defaultValue.portable_toJson] using options

theorem PropertyDefinition.nesting_toJson (p : PropertyDefinition) : p.toJson.nesting ≤ 2 := by
  have options : ∀ os ∈ p.variantOptions, (Json.arr (os.map .str)).nesting ≤ 1 := fun os _ =>
    Json.nesting_strings os
  refine Nat.succ_le_succ ?_
  simpa [p.defaultValue.nesting_toJson] using options

theorem Component.nesting_toJson (c : Component) : c.toJson.nesting ≤ 4 := by
  have properties : (Json.obj (c.properties.map fun m => (m.1, m.2.toJson))).nesting ≤ 3 := by
    refine Nat.succ_le_succ (Json.nestingEntries_le_iff.2 fun m member => ?_)
    obtain ⟨⟨k, p⟩, -, rfl⟩ := List.mem_map.1 member
    exact p.nesting_toJson
  refine Nat.succ_le_succ (Json.nestingEntries_le_iff.2 ?_)
  simpa [Json.nesting] using properties

theorem Component.portable_toJson {c : Component} (once : (c.properties.map Prod.fst).Nodup) :
    c.toJson.Portable := by
  have properties : (Json.obj (c.properties.map fun m => (m.1, m.2.toJson))).Portable := by
    refine ⟨by simpa [Json.keys, Function.comp_def] using once, Json.portableEntries_iff.2 ?_⟩
    intro m member
    obtain ⟨⟨k, p⟩, -, rfl⟩ := List.mem_map.1 member
    exact p.portable_toJson
  exact ⟨by simp [Json.keys], trivial, trivial, trivial, trivial, trivial, properties, trivial⟩

namespace Request

/-- The parts of free form come through their text unharmed, and no property of a component comes
twice. -/
def Portable : Request → Prop
  | parse r => (Json.obj r.config).Portable
  | create r => (Json.obj r.config).Portable ∧ (∀ m ∈ r.propMapping, (Json.obj m).Portable) ∧
      (r.component.properties.map Prod.fst).Nodup

theorem portable_toJson {r : Request} (portable : r.Portable) : r.toJson.Portable := by
  cases r with
  | parse r =>
    have config := Json.portable_finiteEntries portable
    exact ⟨by simp [Json.keys], trivial, Json.portable_strings r.paths, config, trivial, trivial⟩
  | create r =>
    obtain ⟨config, mapping, once⟩ := portable
    have component : r.component.toJson.Portable := Component.portable_toJson once
    have config := Json.portable_finiteEntries config
    have mapping : ∀ m ∈ r.propMapping, (Json.obj (Json.finiteEntries m)).Portable := fun m given =>
      Json.portable_finiteEntries (mapping m given)
    refine Json.portable_record (by simp) ?_
    simp only [Json.portableEntries_record_cons, Json.portableEntries_record_nil]
    simpa [component, config] using mapping

/-! ## What is read -/

theorem check_toJson {r : Request} (portable : r.Portable) : check r.toJson = .ok r := by
  cases r with
  | parse r =>
    have same : r.finite = r := r.finite_eq_iff.2 (Json.finiteEntries_of_portable portable.2)
    have checked : ParseRequest.check r.toJson = .ok r := r.check_toJson.trans (congrArg _ same)
    change ((ParseRequest.check r.toJson).map parse).below (.key Mode.parse.text) = _
    rw [checked]
    rfl
  | create r =>
    obtain ⟨config, mapping, -⟩ := portable
    have same : r.finite = r := r.finite_eq_iff.2 ⟨Json.finiteEntries_of_portable config.2,
      fun m given => Json.finiteEntries_of_portable (mapping m given).2⟩
    have checked : CreateRequest.check r.toJson = .ok r := r.check_toJson.trans (congrArg _ same)
    change ((CreateRequest.check r.toJson).map create).below (.key Mode.create.text) = _
    rw [checked]
    rfl

/-! ## What has a text -/

def freeForm : Request → List Json.Entries
  | parse r => [r.config]
  | create r => r.config :: r.propMapping.toList

theorem payload_eq (r : Request) : r.payload = Json.payload r.freeForm r.toJson := by
  cases r <;> rfl

theorem serialized_of_shallow {r : Request} (portable : r.Portable) (shallow : Json.Shallow r.freeForm) :
    r.serialized = .ok (Json.compact r.toJson) := by
  rw [serialized, payload_eq, Json.payload_of_shallow shallow]
  exact if_pos (Json.writable_of_portable (portable_toJson portable))

theorem serialized_of_deep {r : Request} (deep : ¬ Json.Shallow r.freeForm) :
    r.serialized = .error .levels := by
  rw [serialized, payload_eq, Json.payload_of_deep deep]
  rfl

/-! ## What is read from it -/

theorem nesting_part {e : Json.Entries} (shallow : Json.entryLevels e ≤ Json.levelLimit) :
    (Json.obj (Json.finiteEntries e)).nesting ≤ Json.levelLimit + 1 := by
  have inner := Json.nestingEntries_le_levels (Json.finiteEntries e)
  rw [Json.entryLevels_finiteEntries] at inner
  exact Nat.succ_le_succ (Nat.le_trans inner shallow)

theorem nesting_toJson {r : Request} (shallow : Json.Shallow r.freeForm) :
    r.toJson.nesting ≤ Json.levelLimit + 2 := by
  cases r with
  | parse r =>
    have config := nesting_part (shallow r.config (.head _))
    have paths : (Json.arr (r.paths.map .str)).nesting ≤ Json.levelLimit + 1 :=
      Nat.le_trans (Json.nesting_strings r.paths) (by decide)
    refine Nat.succ_le_succ (Json.nestingEntries_le_iff.2 ?_)
    simp [paths, config]
  | create r =>
    have config := nesting_part (shallow r.config (.head _))
    have component : r.component.toJson.nesting ≤ Json.levelLimit + 1 :=
      Nat.le_trans r.component.nesting_toJson (by decide)
    have mapping : ∀ m ∈ r.propMapping,
        (Json.obj (Json.finiteEntries m)).nesting ≤ Json.levelLimit + 1 := fun m given =>
      nesting_part (shallow m (.tail _ (Option.mem_toList.2 given)))
    refine Nat.succ_le_succ ?_
    simp only [Json.nestingEntries_record_cons, Json.nestingEntries_record_nil]
    simpa [component, config] using mapping

/-- What is read from the text of a request is the request. -/
theorem check_of_serialized {r : Request} {text : String} (portable : r.Portable)
    (written : r.serialized = .ok text) : ∃ v, Json.read text = .ok v ∧ check v = .ok r := by
  have shallow : Json.Shallow r.freeForm := by
    by_contra deep
    cases (serialized_of_deep deep).symm.trans written
  cases (serialized_of_shallow portable shallow).symm.trans written
  refine ⟨r.toJson, ?_, check_toJson portable⟩
  have fits : r.toJson.nesting ≤ Json.lenient.depth :=
    Nat.le_trans (nesting_toJson shallow) (by decide)
  exact Json.read_compact (Json.readable_of_portable (portable_toJson portable) fits)

end Request

end ParserHost
