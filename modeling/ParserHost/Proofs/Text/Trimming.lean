import ParserHost.Text.Blank

/-!
# Trimmed texts

What a trim leaves has no blank at either end (`head_trimBy`, `last_trimBy`), and a text without a blank at
either end is what a trim leaves of it, also with blanks around it (`trimBy_padded`, `trim_of_padded`).
-/

namespace ParserHost.Text

variable {p : Char → Bool} {cs rest before after : List Char} {c : Char} {s line : String}

theorem head_trimBy (trimmed : trimBy p cs = c :: rest) : p c = false := by
  have before : trimBy p cs <+: cs.dropWhile p := by
    have after := List.dropWhile_suffix p (l := (cs.dropWhile p).reverse)
    simpa [trimBy] using List.reverse_prefix.2 after
  rw [trimmed] at before
  obtain ⟨more, same⟩ := before
  exact head_dropWhile same.symm

theorem last_trimBy (last : c ∈ (trimBy p cs).getLast?) : p c = false := by
  rw [trimBy, List.getLast?_reverse] at last
  obtain ⟨rest, dropped⟩ := List.head?_eq_some_iff.1 last
  exact head_dropWhile dropped

theorem dropWhile_of_head (kept : ∀ c ∈ cs.head?, p c = false) : cs.dropWhile p = cs := by
  cases cs with
  | nil => rfl
  | cons c rest => exact List.dropWhile_cons_of_neg (by simp [kept c rfl])

theorem takeWhile_of_head (stop : ∀ c ∈ cs.head?, p c = false) : cs.takeWhile p = [] := by
  cases cs with
  | nil => rfl
  | cons c rest => exact List.takeWhile_cons_of_neg (by simp [stop c rfl])

theorem trimBy_padded (blank : ∀ c ∈ before, p c = true) (blank' : ∀ c ∈ after, p c = true)
    (head : ∀ c ∈ cs.head?, p c = false) (last : ∀ c ∈ cs.getLast?, p c = false) :
    trimBy p (before ++ (cs ++ after)) = cs := by
  cases cs with
  | nil =>
    rw [trimBy_eq_nil_iff]
    exact List.forall_mem_append.2 ⟨blank, blank'⟩
  | cons c rest =>
    have front : (before ++ (c :: rest ++ after)).dropWhile p = c :: rest ++ after := by
      rw [List.dropWhile_append_of_pos blank]
      exact dropWhile_of_head head
    have back : (c :: rest ++ after).reverse.dropWhile p = (c :: rest).reverse := by
      rw [List.reverse_append, List.dropWhile_append_of_pos fun c member =>
        blank' c (List.mem_reverse.1 member)]
      refine dropWhile_of_head fun c first => last c ?_
      rwa [List.head?_reverse] at first
    rw [trimBy, front, back, List.reverse_reverse]

/-- A text that neither starts nor ends with a blank has nothing to trim. -/
theorem trim_of_ends (start : ∀ c ∈ s.toList.head?, isBlank c = false)
    (finish : ∀ c ∈ s.toList.getLast?, isBlank c = false) : trim s = s := by
  have kept : trimBy isBlank ([] ++ (s.toList ++ [])) = s.toList := trimBy_padded nofun nofun start finish
  rw [List.nil_append, List.append_nil] at kept
  rw [trim, kept, String.ofList_toList]

theorem trim_trim (s : String) : trim (trim s) = trim s := by
  refine trim_of_ends (fun c first => ?_) fun c final => ?_
  · rw [trim, String.toList_ofList] at first
    obtain ⟨rest, starts⟩ := List.head?_eq_some_iff.1 first
    exact head_trimBy starts
  · rw [trim, String.toList_ofList] at final
    exact last_trimBy final

theorem isEmpty_trim_iff : (trim s).isEmpty = true ↔ allBlank s = true := by
  rw [String.isEmpty_iff, ← String.toList_inj, trim, String.toList_ofList, String.toList_empty,
    trimBy_eq_nil_iff, allBlank, List.all_eq_true]

inductive Padded (s : String) : String → Prop
  | intro (before after : String) (blank : allBlank before = true) (blank' : allBlank after = true) :
      Padded s (before ++ s ++ after)

theorem trim_of_padded (padded : Padded s line) (trimmed : trim s = s) : trim line = s := by
  have ends : trimBy isBlank s.toList = s.toList := by
    rwa [trim, ← String.toList_inj, String.toList_ofList] at trimmed
  obtain ⟨before, after, blank, blank'⟩ := padded
  rw [allBlank, List.all_eq_true] at blank blank'
  have kept : trimBy isBlank (before.toList ++ (s.toList ++ after.toList)) = s.toList := by
    refine trimBy_padded blank blank' (fun c first => ?_) fun c final => ?_
    · obtain ⟨rest, starts⟩ := List.head?_eq_some_iff.1 first
      exact head_trimBy (ends.trans starts)
    · exact last_trimBy (ends.symm ▸ final)
  rw [trim, String.toList_append, String.toList_append, List.append_assoc, kept, String.ofList_toList]

end ParserHost.Text
