import Mathlib.Data.List.Infix
import ParserHost.Proofs.Text.Trimming
import ParserHost.Text.Search

/-!
# Occurrences

A text that does not hold a separator occurs in two texts joined by it only within one of them
(`infix_append_cons_iff`), and is taken off the end of what is joined if it is taken off the end of the
second (`dropSuffix_joined`). The first occurrence of a single character is behind all that does not hold it
(`findPart_char`).
-/

namespace ParserHost.Text

variable {sep : Char} {part xs ys : List Char}

theorem startsWith_iff {part s : String} : startsWith part s = true ↔ part.toList <+: s.toList := by
  rw [startsWith, Option.isSome_iff_exists]
  simp only [dropPart?_eq_some_iff]
  exact exists_congr fun _ => eq_comm

theorem isSome_findPart_iff : (findPart part xs).isSome = true ↔ part <:+: xs := by
  induction xs with
  | nil =>
    rw [findPart, Option.isSome_map, Option.isSome_iff_exists, List.infix_nil]
    simp only [dropPart?_eq_some_iff]
    simp [eq_comm]
  | cons c cs ih =>
    rw [findPart]
    cases dropped : dropPart? part (c :: cs) with
    | some rest =>
      have front := dropPart?_eq_some_iff.1 dropped
      exact iff_of_true rfl ⟨[], rest, front.symm⟩
    | none =>
      have notFront : ¬ part <+: c :: cs := by
        rintro ⟨rest, same⟩
        rw [dropPart?_eq_some_iff.2 same.symm] at dropped
        cases dropped
      rw [List.infix_cons_iff, ← ih]
      simp [notFront]

theorem contains_iff {part s : String} : contains part s = true ↔ part.toList <:+: s.toList :=
  isSome_findPart_iff

theorem Padded.contains {part s line : String} (padded : Padded s line) (found : contains part s = true) :
    Text.contains part line = true := by
  rw [contains_iff] at found ⊢
  obtain ⟨before, after, -, -⟩ := padded
  exact found.trans ⟨before.toList, after.toList, by simp [String.toList_append]⟩

theorem infix_append_cons_iff (free : sep ∉ part) :
    part <:+: xs ++ sep :: ys ↔ part <:+: xs ∨ part <:+: ys := by
  constructor
  · rintro ⟨before, after, same⟩
    rcases List.append_eq_append_iff.1 same with ⟨more, whole, -⟩ | ⟨more, start, rest⟩
    · exact .inl ⟨before, more, whole.symm⟩
    · cases more with
      | nil => exact .inl ⟨before, [], by simpa using start⟩
      | cons c more =>
        obtain ⟨rfl, rfl⟩ := List.cons.inj rest
        -- the part ends behind the separator, so it starts behind it too
        rcases List.append_eq_append_iff.1 start with ⟨inner, -, held⟩ | ⟨inner, -, held⟩
        · exact absurd (held ▸ List.mem_append_right _ (.head _)) free
        · cases inner with
          | nil =>
            obtain rfl : sep :: more = part := held
            exact absurd (.head _) free
          | cons d inner =>
            obtain ⟨-, rfl⟩ := List.cons.inj held
            exact .inr ⟨inner, after, by simp⟩
  · rintro (⟨before, after, rfl⟩ | ⟨before, after, rfl⟩)
    · exact ⟨before, after ++ sep :: ys, by simp⟩
    · exact ⟨xs ++ sep :: before, after, by simp⟩

theorem contains_joined {part mark : String} (single : mark.toList = [sep]) (free : sep ∉ part.toList)
    (a b : String) : contains part (a ++ mark ++ b) = (contains part a || contains part b) := by
  rw [Bool.eq_iff_iff, Bool.or_eq_true, contains_iff, contains_iff, contains_iff]
  have written : (a ++ mark ++ b).toList = a.toList ++ sep :: b.toList := by
    simp [String.toList_append, single]
  rw [written, infix_append_cons_iff free]

/-- What does not hold the separator is in joined parts just if it is in one of them. -/
theorem contains_join {part mark : String} (single : mark.toList = [sep]) (free : sep ∉ part.toList)
    (some : part ≠ "") (parts : List String) :
    contains part (join mark parts) = parts.any (contains part) := by
  induction parts with
  | nil =>
    rw [join, String.intercalate_nil, List.any_nil, Bool.eq_false_iff, ne_eq, contains_iff]
    intro found
    exact some (String.toList_inj.1 (List.infix_nil.1 found))
  | cons first rest ih =>
    rw [List.any_cons]
    cases rest with
    | nil => simp [join]
    | cons second rest => rw [join, String.intercalate_cons_cons, contains_joined single free, ← ih, join]

/-! ## First occurrences -/

theorem findPart_char (free : sep ∉ xs) : findPart [sep] (xs ++ sep :: ys) = some (xs, ys) := by
  induction xs with
  | nil => simp [findPart, dropPart?]
  | cons c cs ih =>
    obtain ⟨other, later⟩ := not_or.1 (mt List.mem_cons.2 free)
    simp [findPart, dropPart?, other, ih later]

theorem findPart_char_none (free : sep ∉ xs) : findPart [sep] xs = none := by
  rw [← Option.not_isSome_iff_eq_none, isSome_findPart_iff]
  exact fun found => free (found.subset (.head _))

theorem findPart_front (part rest : List Char) : findPart part (part ++ rest) = some ([], rest) := by
  cases whole : part ++ rest with
  | nil =>
    obtain ⟨rfl, rfl⟩ := List.append_eq_nil_iff.1 whole
    rfl
  | cons c cs => rw [findPart, dropPart?_eq_some_iff.2 whole.symm]

theorem replaceFirst_char {mark a : String} (single : mark.toList = [sep]) (free : sep ∉ a.toList)
    (by' b : String) : replaceFirst mark by' (a ++ mark ++ b) = a ++ by' ++ b := by
  have written : (a ++ mark ++ b).toList = a.toList ++ sep :: b.toList := by
    simp [String.toList_append, single]
  rw [replaceFirst, written, single, findPart_char free]
  simp [← String.toList_inj, String.toList_append]

theorem replaceFirst_front (part by' s : String) : replaceFirst part by' (part ++ s) = by' ++ s := by
  rw [replaceFirst, String.toList_append, findPart_front]
  simp

/-! ## Ends -/

theorem dropPart?_append_cons (free : sep ∉ part) :
    dropPart? part (xs ++ sep :: ys) = (dropPart? part xs).map (· ++ sep :: ys) := by
  induction part generalizing xs with
  | nil => rfl
  | cons p ps ih =>
    obtain ⟨other, later⟩ := not_or.1 (mt List.mem_cons.2 free)
    cases xs with
    | nil => simp [dropPart?, Ne.symm other]
    | cons c cs =>
      by_cases same : p = c <;> simp [dropPart?, same, ih later]

theorem dropSuffix_joined {part mark : String} (single : mark.toList = [sep]) (free : sep ∉ part.toList)
    (a b : String) : dropSuffix part (a ++ mark ++ b) = a ++ mark ++ dropSuffix part b := by
  have written : (a ++ mark ++ b).toList.reverse = b.toList.reverse ++ sep :: a.toList.reverse := by
    simp [String.toList_append, single]
  have free' : sep ∉ part.toList.reverse := by simpa using free
  rw [dropSuffix, dropSuffix, written, dropPart?_append_cons free']
  cases dropPart? part.toList.reverse b.toList.reverse with
  | none => rfl
  | some rest => simp [← String.toList_inj, String.toList_append, single]

/-- A single character is taken off the end of the text that is last, unless that is empty. -/
theorem dropSuffix_char {mark b : String} (single : mark.toList = [sep]) (some : b ≠ "") (a : String) :
    dropSuffix mark (a ++ b) = a ++ dropSuffix mark b := by
  rw [dropSuffix, dropSuffix, single, String.toList_append, List.reverse_append]
  cases ends : b.toList.reverse with
  | nil => exact absurd (String.toList_inj.1 (List.reverse_eq_nil_iff.1 ends)) some
  | cons c rest =>
    by_cases same : sep = c <;> simp [dropPart?, same]

theorem dropSuffix_append (part s : String) : dropSuffix part (s ++ part) = s := by
  have dropped : dropPart? part.toList.reverse (s ++ part).toList.reverse = some s.toList.reverse := by
    rw [dropPart?_eq_some_iff, String.toList_append, List.reverse_append]
  rw [dropSuffix, dropped]
  simp

theorem dropSuffix_of_other {part s : String} (other : endsWith part s = false) : dropSuffix part s = s := by
  have kept : dropPart? part.toList.reverse s.toList.reverse = none := by simpa [endsWith] using other
  rw [dropSuffix, kept]

theorem dropSuffix_of_not_mem {mark s : String} (single : mark.toList = [sep]) (free : sep ∉ s.toList) :
    dropSuffix mark s = s := by
  refine dropSuffix_of_other ?_
  rw [endsWith, Option.isSome_eq_false_iff, Option.isNone_iff_eq_none, single, Option.eq_none_iff_forall_ne_some]
  intro rest found
  have whole : s.toList.reverse = sep :: rest := dropPart?_eq_some_iff.1 found
  have member : sep ∈ s.toList.reverse := whole ▸ List.mem_cons_self
  exact free (List.mem_reverse.1 member)

theorem dropSuffix_prefix (part s : String) : (dropSuffix part s).toList <+: s.toList := by
  rw [dropSuffix]
  cases dropped : dropPart? part.toList.reverse s.toList.reverse with
  | none => exact List.prefix_rfl
  | some rest =>
    have whole := congrArg List.reverse (dropPart?_eq_some_iff.1 dropped)
    rw [List.reverse_reverse, List.reverse_append, List.reverse_reverse] at whole
    exact ⟨part.toList, by simpa using whole.symm⟩

end ParserHost.Text
