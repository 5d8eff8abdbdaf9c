import ParserHost.Proofs.Text.Occurrences
import ParserHost.Text.Lines

/-!
# Lines of a text

All line ends of a text are made LF (`makesEndsLF_unifyNewlines`), and the lines of such a text, joined again, are
the text up to an LF at its end (`join_terminated`). The lines that a reader sees are the pieces between CR and
LF, up to blank ones (`visible_terminated`); it does not matter which of the three line ends stands where.
-/

namespace ParserHost.Text

variable {cs xs ys : List Char} {c : Char}

/-! ## Line ends -/

theorem foldNewlines_eq (noReturn : '\r' ∉ cs) : foldNewlines cs = cs := by
  fun_induction foldNewlines cs with
  | case1 => rfl
  | case2 rest ih => exact absurd List.mem_cons_self noReturn
  | case3 rest _ ih => exact absurd List.mem_cons_self noReturn
  | case4 c rest _ h ih => rw [ih fun later => noReturn (List.mem_cons_of_mem _ later)]

theorem unifyNewlines_eq {s : String} (noReturn : '\r' ∉ s.toList) : unifyNewlines s = s := by
  rw [unifyNewlines, foldNewlines_eq noReturn, String.ofList_toList]

theorem foldNewlines_append (noReturn : '\r' ∉ xs) (ys : List Char) :
    foldNewlines (xs ++ ys) = xs ++ foldNewlines ys := by
  induction xs with
  | nil => rfl
  | cons c cs ih =>
    obtain ⟨other, later⟩ := not_or.1 (mt List.mem_cons.2 noReturn)
    simp [foldNewlines, Ne.symm other, ih later]

theorem foldNewlines_return (notPair : cs.head? ≠ some '\n') :
    foldNewlines ('\r' :: cs) = '\n' :: foldNewlines cs := by
  cases cs with
  | nil => rfl
  | cons c cs =>
    have other : c ≠ '\n' := by simpa using notPair
    simp [foldNewlines, other]

def isEnd (c : Char) : Bool :=
  c = '\n' || c = '\r'

theorem isEnd_eq_false_iff : isEnd c = false ↔ c ≠ '\n' ∧ c ≠ '\r' := by
  rw [isEnd, Bool.or_eq_false_iff, decide_eq_false_iff_not, decide_eq_false_iff_not]

/-- In the texts of a function every LF, CR LF and CR has become LF, and nothing else is changed. -/
structure MakesEndsLF (unify : String → String) : Prop where
  noEnd : ∀ line, (∀ c ∈ line.toList, isEnd c = false) → unify line = line
  ending : ∀ line mark rest, (∀ c ∈ line.toList, isEnd c = false) → mark ∈ ["\n", "\r\n", "\r"] →
    (mark = "\r" → rest.toList.head? ≠ some '\n') → unify (line ++ mark ++ rest) = line ++ "\n" ++ unify rest

theorem makesEndsLF_unifyNewlines : MakesEndsLF unifyNewlines := by
  have noReturn (line : String) (inner : ∀ c ∈ line.toList, isEnd c = false) : '\r' ∉ line.toList :=
    fun member => absurd (inner _ member) (by decide)
  refine ⟨fun line inner => unifyNewlines_eq (noReturn line inner), fun line mark rest inner known single => ?_⟩
  have folded : foldNewlines (mark.toList ++ rest.toList) = '\n' :: foldNewlines rest.toList := by
    simp only [List.mem_cons, List.not_mem_nil, or_false] at known
    rcases known with rfl | rfl | rfl
    · rfl
    · rfl
    · exact foldNewlines_return (single rfl)
  rw [← String.toList_inj, unifyNewlines, unifyNewlines]
  simp only [String.toList_ofList, String.toList_append, List.append_assoc]
  rw [foldNewlines_append (noReturn line inner), folded]
  rfl

/-! ## Pieces -/

def visible (cs : List Char) : List (List Char) :=
  (cs.splitOnP isEnd).filter fun line => !line.all isBlank

theorem visible_append_end (ends : isEnd c = true) (xs ys : List Char) :
    visible (xs ++ c :: ys) = visible xs ++ visible ys := by
  rw [visible, List.splitOnP_append_cons xs ys ends, List.filter_append]
  rfl

theorem visible_of_line (line : ∀ c ∈ cs, isEnd c = false) :
    visible cs = if cs.all isBlank then [] else [cs] := by
  rw [visible, List.splitOnP_eq_singleton fun c member => by simpa using line c member]
  cases blank : cs.all isBlank <;> simp [blank]

theorem visible_cons_end (ends : isEnd c = true) (ys : List Char) : visible (c :: ys) = visible ys := by
  have nothing : visible [] = [] := visible_of_line nofun
  have split := visible_append_end ends [] ys
  rwa [nothing, List.nil_append, List.nil_append] at split

theorem visible_append_foldNewlines (xs cs : List Char) :
    visible (xs ++ foldNewlines cs) = visible (xs ++ cs) := by
  -- What stands in front of the text may belong to its first line.
  fun_induction foldNewlines cs generalizing xs with
  | case1 => rfl
  | case2 rest ih =>
    rw [visible_append_end rfl, visible_append_end rfl, visible_cons_end rfl]
    exact congrArg _ (ih [])
  | case3 rest _ ih =>
    rw [visible_append_end rfl, visible_append_end rfl]
    exact congrArg _ (ih [])
  | case4 c rest _ _ ih =>
    rw [List.append_cons, List.append_cons xs c rest]
    exact ih _

theorem filter_terminatedAux {acc : List Char} (noReturn : '\r' ∉ cs)
    (line : ∀ c ∈ acc, isEnd c = false) :
    (terminatedAux cs acc).filter (fun line => !line.all isBlank) = visible (acc.reverse ++ cs) := by
  fun_induction terminatedAux cs acc with
  | case1 => rfl
  | case2 acc _ =>
    have whole : ∀ c ∈ acc.reverse ++ [], isEnd c = false := by simpa using line
    rw [visible_of_line whole]
    cases blank : acc.reverse.all isBlank <;> simp [blank]
  | case3 rest acc ih =>
    have first : ∀ c ∈ acc.reverse, isEnd c = false := by simpa using line
    have others := ih (fun later => noReturn (List.mem_cons_of_mem _ later)) nofun
    rw [visible_append_end rfl, visible_of_line first, List.filter_cons, others]
    cases blank : acc.reverse.all isBlank <;> simp
  | case4 c rest acc other ih =>
    have noEnd : isEnd c = false :=
      isEnd_eq_false_iff.2 ⟨other, fun same => noReturn (same ▸ List.mem_cons_self)⟩
    rw [ih (fun later => noReturn (List.mem_cons_of_mem _ later)) (List.forall_mem_cons.2 ⟨noEnd, line⟩),
      List.reverse_cons, List.append_assoc, List.singleton_append]

/-- The lines that are not blank are the pieces that are not. -/
theorem visible_terminated (s : String) :
    (terminated s).filter (fun line => !allBlank line) = (visible s.toList).map String.ofList := by
  have kept : (terminatedAux (foldNewlines s.toList) []).filter _ = _ :=
    filter_terminatedAux (not_mem_foldNewlines s.toList) nofun
  have same := visible_append_foldNewlines [] s.toList
  rw [List.reverse_nil, same, List.nil_append] at kept
  rw [terminated, List.filter_map, ← kept]
  simp [Function.comp_def, allBlank]

/-! ## Joining the lines again -/

theorem notEnd_of_terminatedAux (noReturn : '\r' ∉ cs) (line : ∀ c ∈ xs, isEnd c = false) :
    ∀ found ∈ terminatedAux cs xs, ∀ c ∈ found, isEnd c = false := by
  fun_induction terminatedAux cs xs with
  | case1 => nofun
  | case2 acc _ => simpa using line
  | case3 rest acc ih =>
    rw [List.forall_mem_cons]
    exact ⟨by simpa using line, ih (fun later => noReturn (List.mem_cons_of_mem _ later)) (List.forall_mem_nil _)⟩
  | case4 c rest acc other ih =>
    have noEnd : isEnd c = false :=
      isEnd_eq_false_iff.2 ⟨other, fun same => noReturn (same ▸ List.mem_cons_self)⟩
    exact ih (fun later => noReturn (List.mem_cons_of_mem _ later)) (List.forall_mem_cons.2 ⟨noEnd, line⟩)

theorem notEnd_of_terminated {s line : String} (found : line ∈ terminated s) :
    ∀ c ∈ line.toList, isEnd c = false := by
  obtain ⟨chars, member, rfl⟩ := List.mem_map.1 found
  rw [String.toList_ofList]
  exact notEnd_of_terminatedAux (not_mem_foldNewlines s.toList) (List.forall_mem_nil _) chars member

theorem terminatedAux_eq_nil : terminatedAux cs xs = [] ↔ cs = [] ∧ xs = [] := by
  fun_induction terminatedAux cs xs with
  | case1 => simp
  | case2 acc some => simpa using some
  | case3 => simp
  | case4 c rest acc other ih => simpa using ih

theorem join_terminatedAux (line : '\n' ∉ xs) : join "\n" ((terminatedAux cs xs).map String.ofList) =
    dropSuffix "\n" (String.ofList (xs.reverse ++ cs)) := by
  fun_induction terminatedAux cs xs with
  | case1 => rfl
  | case2 acc _ =>
    have free : '\n' ∉ (String.ofList (acc.reverse ++ [])).toList := by simpa using line
    rw [dropSuffix_of_not_mem rfl free]
    simp [join]
  | case3 rest acc ih =>
    have whole : String.ofList (acc.reverse ++ '\n' :: rest) =
        String.ofList acc.reverse ++ "\n" ++ String.ofList rest := by
      simp [← String.toList_inj, String.toList_append]
    have later := ih List.not_mem_nil
    rw [List.reverse_nil, List.nil_append] at later
    rw [whole, List.map_cons]
    cases rest with
    | nil => rw [terminatedAux, List.map_nil, String.ofList_nil, String.append_empty, dropSuffix_append]; rfl
    | cons c rest =>
      have more : (terminatedAux (c :: rest) []).map String.ofList ≠ [] := by
        simp [terminatedAux_eq_nil]
      have some : String.ofList (c :: rest) ≠ "" := by simp [← String.toList_inj]
      rw [dropSuffix_char rfl some, ← later, join, String.intercalate_cons_of_ne_nil more]
      rfl
  | case4 c rest acc other ih =>
    have line' : '\n' ∉ c :: acc := by
      rw [List.mem_cons, not_or]
      exact ⟨fun same => other same.symm, line⟩
    rw [ih line', List.reverse_cons, List.append_assoc, List.singleton_append]

/-- The lines of a text, joined by LF, are all of the text, except that an LF at its end is not there. -/
theorem join_terminated (s : String) : join "\n" (terminated s) = dropSuffix "\n" (unifyNewlines s) :=
  join_terminatedAux List.not_mem_nil

end ParserHost.Text
