import ParserHost.Proofs.Text.Occurrences

/-!
# Replaced parts

To replace the first occurrence of a part is a relation between texts (`Replaced`), of which `replaceFirst` is
the function (`replaceFirst_eq_iff`). The empty part occurs first in front of a text.
-/

namespace ParserHost.Text

variable {part by' s s' : String}

/-- No occurrence of a part is in front of the one that is found. -/
theorem length_le_of_findPart {part cs before after before' after' : List Char}
    (found : findPart part cs = some (before, after)) (other : cs = before' ++ part ++ after') :
    before.length ≤ before'.length := by
  induction cs generalizing before before' with
  | nil =>
    obtain ⟨rest, -, same⟩ := Option.map_eq_some_iff.1 found
    obtain ⟨rfl, -⟩ := Prod.mk.inj same
    exact Nat.zero_le _
  | cons c cs ih =>
    rw [findPart] at found
    cases front : dropPart? part (c :: cs) with
    | some rest =>
      rw [front] at found
      obtain ⟨rfl, -⟩ := Prod.mk.inj (Option.some.inj found)
      exact Nat.zero_le _
    | none =>
      rw [front] at found
      obtain ⟨⟨b, a⟩, later, same⟩ := Option.map_eq_some_iff.1 found
      obtain ⟨rfl, rfl⟩ := Prod.mk.inj same
      cases before' with
      | nil =>
        rw [List.nil_append] at other
        rw [dropPart?_eq_some_iff.2 other] at front
        cases front
      | cons d b' =>
        obtain ⟨-, other⟩ := List.cons.inj other
        exact Nat.succ_le_succ (ih later other)

/-- A text, and what it is when the first occurrence of a part has given way to another text. -/
inductive Replaced (part by' : String) : String → String → Prop
  | first (before after : String)
      (earliest : ∀ before' after', before ++ part ++ after = before' ++ part ++ after' →
        before.length ≤ before'.length) :
      Replaced part by' (before ++ part ++ after) (before ++ by' ++ after)
  | absent (s : String) (unheld : ∀ before after, s ≠ before ++ part ++ after) : Replaced part by' s s

theorem eq_append_iff {before after : String} :
    s = before ++ part ++ after ↔ s.toList = before.toList ++ part.toList ++ after.toList := by
  rw [← String.toList_inj, String.toList_append, String.toList_append]

/-- The parts around what is found, which are those of the first occurrence. -/
theorem exists_of_findPart {parts : List Char × List Char}
    (found : findPart part.toList s.toList = some parts) :
    ∃ before after : String, parts = (before.toList, after.toList) ∧ s = before ++ part ++ after ∧
      ∀ before' after', s = before' ++ part ++ after' → before.length ≤ before'.length := by
  refine ⟨.ofList parts.1, .ofList parts.2, by simp, ?_, fun before' after' same => ?_⟩
  · rw [eq_append_iff, String.toList_ofList, String.toList_ofList]
    exact eq_append_of_findPart found
  · rw [String.length_ofList, ← String.length_toList]
    exact length_le_of_findPart found (eq_append_iff.1 same)

theorem findPart_eq_none_iff :
    findPart part.toList s.toList = none ↔ ∀ before after, s ≠ before ++ part ++ after := by
  rw [← Option.not_isSome_iff_eq_none, isSome_findPart_iff]
  constructor
  · exact fun none before after same =>
      none ⟨before.toList, after.toList, (eq_append_iff.1 same).symm⟩
  · rintro none ⟨before, after, same⟩
    refine none (.ofList before) (.ofList after) (eq_append_iff.2 ?_)
    rw [String.toList_ofList, String.toList_ofList, same]

theorem ofList_parts (before by' after : String) :
    String.ofList (before.toList ++ by'.toList ++ after.toList) = before ++ by' ++ after := by
  rw [← String.toList_inj, String.toList_ofList, String.toList_append, String.toList_append]

theorem replaced_replaceFirst (part by' s : String) : Replaced part by' s (replaceFirst part by' s) := by
  rw [replaceFirst]
  cases found : findPart part.toList s.toList with
  | none => exact .absent s (findPart_eq_none_iff.1 found)
  | some parts =>
    obtain ⟨before, after, rfl, rfl, earliest⟩ := exists_of_findPart found
    dsimp only
    rw [ofList_parts]
    exact .first before after earliest

theorem replaceFirst_of_replaced (replaced : Replaced part by' s s') : replaceFirst part by' s = s' := by
  cases replaced with
  | absent _ unheld => rw [replaceFirst, findPart_eq_none_iff.2 unheld]
  | first before after earliest =>
    rw [replaceFirst]
    cases found : findPart part.toList (before ++ part ++ after).toList with
    | none => exact absurd rfl (findPart_eq_none_iff.1 found before after)
    | some parts =>
      obtain ⟨before', after', rfl, same, earliest'⟩ := exists_of_findPart found
      -- neither occurrence is in front of the other
      have lengths : before.toList.length = before'.toList.length := by
        rw [String.length_toList, String.length_toList]
        exact Nat.le_antisymm (earliest _ _ same) (earliest' _ _ rfl)
      rw [eq_append_iff, String.toList_append, String.toList_append, List.append_assoc,
        List.append_assoc] at same
      obtain ⟨front, rest⟩ := List.append_inj same lengths
      obtain rfl := String.toList_inj.1 front
      obtain rfl := String.toList_inj.1 (List.append_cancel_left rest)
      exact ofList_parts before by' after

theorem replaceFirst_eq_iff : replaceFirst part by' s = s' ↔ Replaced part by' s s' :=
  ⟨fun same => same ▸ replaced_replaceFirst part by' s, replaceFirst_of_replaced⟩

theorem replaced_empty (by' s : String) : Replaced "" by' s (by' ++ s) := by
  have front := replaceFirst_front "" by' s
  rw [String.empty_append] at front
  exact replaceFirst_eq_iff.1 front

end ParserHost.Text
