import Mathlib.Data.List.Lex
import Mathlib.Data.List.Sort
import Mathlib.Data.String.Basic
import ParserHost.Proofs.Discovery.Exclusion
import ParserHost.Proofs.Glob.Expansion

/-!
# The search as a set

A search lists the files that some include finds and no exclude matches (`mem_files_iff`), in the
order of their parts (`pairwise_files`). So the lists of patterns count as sets
(`discovery_algebra`).
-/

namespace ParserHost

namespace Path

variable {p q r : Path}

theorem keyLe_iff {a b : List String} : keyLe a b = true ↔ a ≤ b := by
  rw [keyLe, Bool.not_eq_true', decide_eq_false_iff_not]
  exact not_lt

theorem le_of_le_of_le (first : le p q = true) (second : le q r = true) : le p r = true := by
  rw [le, keyLe_iff] at *
  exact first.trans second

theorem le_or_le (p q : Path) : (le p q || le q p) = true := by
  rw [Bool.or_eq_true, le, le, keyLe_iff, keyLe_iff]
  exact le_total p.key q.key

theorem cons_le_cons_iff {first : String} {a b : List String} : first :: a ≤ first :: b ↔ a ≤ b := by
  rw [← not_lt, ← not_lt, not_iff_not]
  exact List.cons_lt_cons_self

/-- Paths from one root are in the order of their parts. -/
theorem le_iff_parts (same : p.root = q.root) : le p q = true ↔ p.parts ≤ q.parts := by
  obtain ⟨root, parts⟩ := p
  obtain ⟨root', parts'⟩ := q
  obtain rfl : root = root' := same
  rw [le, keyLe_iff]
  cases root with
  | relative => rfl
  | slash => exact cons_le_cons_iff
  | twoSlashes => exact cons_le_cons_iff

theorem eq_of_parts (same : p.root = q.root) (equal : p.parts = q.parts) : p = q := by
  cases p
  cases q
  cases same
  cases equal
  rfl

end Path

namespace Discovery

variable {t : FileTree} {root base : Path} {pattern : String} {included excluded : List String}

/-! ## The order of the answer -/

def Before (p q : Path) : Prop :=
  p.parts < q.parts

instance : Std.Irrefl Before :=
  ⟨fun p => lt_irrefl p.parts⟩

instance : Std.Antisymm Before :=
  ⟨fun _ _ before after => absurd before (lt_asymm after)⟩

theorem pairwise_distinct {found : List Path} {start : Root}
    (rooted : ∀ p ∈ found, p.root = start)
    (sorted : found.Pairwise fun p q => p.parts ≤ q.parts) : (distinct found).Pairwise Before := by
  fun_induction distinct found with
  | case1 => exact .nil
  | case2 p => exact List.pairwise_singleton _ _
  | case3 q rest ih =>
    exact ih (fun p member => rooted p (.tail _ member)) (List.pairwise_cons.1 sorted).2
  | case4 p q rest different ih =>
    obtain ⟨first, later⟩ := List.pairwise_cons.1 sorted
    refine .cons (fun r member => ?_) (ih (fun p member => rooted p (.tail _ member)) later)
    have unequal : p.parts ≠ q.parts := by
      intro equal
      have same : p.root = q.root := (rooted p (.head _)).trans (rooted q (.tail _ (.head _))).symm
      exact different (Path.eq_of_parts same equal)
    have next : p.parts < q.parts := lt_of_le_of_ne (first q (.head _)) unequal
    rcases List.mem_cons.1 (mem_distinct.1 member) with rfl | among
    · exact next
    · exact next.trans_le ((List.pairwise_cons.1 later).1 r among)

theorem root_of_finds {p : Path} (finds : Finds t base pattern p) : p.root = base.root := by
  obtain ⟨chunks, -, rfl, -⟩ := takes_of_finds finds
  rfl

theorem pairwise_files {found : List Path}
    (searched : files t root included excluded = .ok found) : found.Pairwise Before := by
  cases resolved : t.resolve root with
  | error u =>
    rw [files, resolved] at searched
    cases searched
  | ok base =>
    have members := fun p => mem_files_iff (p := p) resolved searched
    simp only [files, resolved, filesBelow] at searched
    obtain ⟨lists, -, done⟩ := bind_eq_ok.1 searched
    cases done
    have rooted : ∀ p ∈ lists.flatten.mergeSort Path.le, p.root = base.root := by
      intro p member
      obtain ⟨⟨e, -, finds⟩, -⟩ := (members p).1 (mem_distinct.2 member)
      exact root_of_finds finds
    have sorted : (lists.flatten.mergeSort Path.le).Pairwise fun p q => Path.le p q = true := by
      refine List.pairwise_mergeSort (fun p q r => ?_) (fun p q => ?_) _
      · exact Path.le_of_le_of_le
      · exact Path.le_or_le p q
    refine pairwise_distinct rooted (sorted.imp_of_mem fun {p q} first second ordered => ?_)
    exact (Path.le_iff_parts ((rooted p first).trans (rooted q second).symm)).1 ordered

/-! ## Lists of patterns as sets -/

theorem mem_expanded {e : String} :
    e ∈ expanded included ↔ (∃ p ∈ included, e ∈ Glob.expand p) ∧ e ≠ "" := by
  rw [expanded, List.mem_filter, List.mem_flatMap]
  simp

theorem expanded_append (more : List String) :
    expanded (included ++ more) = expanded included ++ expanded more := by
  rw [expanded, List.flatMap_append, List.filter_append]
  rfl

theorem isExcluded_append {patterns more : List String} {relative : String} :
    isExcluded (patterns ++ more) relative = false ↔
      isExcluded patterns relative = false ∧ isExcluded more relative = false := by
  rw [isExcluded, List.any_append, Bool.or_eq_false_iff]
  rfl

theorem isExcluded_of_subset {patterns more : List String} {relative : String}
    (among : patterns ⊆ more) (kept : isExcluded more relative = false) :
    isExcluded patterns relative = false := by
  rw [isExcluded, List.any_eq_false] at kept ⊢
  exact fun p member => kept p (among member)

/-- What a pattern stands for stands for itself. -/
theorem expand_of_mem_expand {e : String} (member : e ∈ Glob.expand pattern) :
    Glob.expand e = [e] := by
  obtain ⟨w, among, rfl⟩ := List.mem_map.1 member
  have alone := Glob.expansions_of_free (Glob.free_of_mem_expansions among)
  rw [Glob.expand, String.toList_ofList]
  exact congrArg (List.map String.ofList) alone

theorem flatMap_expand_expand (pattern : String) :
    (Glob.expand pattern).flatMap Glob.expand = Glob.expand pattern := by
  rw [List.flatMap_congr fun e member => expand_of_mem_expand member, List.flatMap_singleton']

def Accepted (t : FileTree) (base : Path) (included : List String) : Prop :=
  ∀ e ∈ expanded included, ¬ Stuck t base e

theorem accepted_of_answered
    (answered : ∀ e ∈ expanded included, (wanted t base [] e).toBool = true) :
    Accepted t base included := by
  intro e member stuck
  obtain ⟨f, failed⟩ : ∃ f, wanted t base [] e = .error f := wanted_fault_iff.2 stuck
  have succeeded := answered e member
  rw [failed] at succeeded
  cases succeeded

theorem files_eq_ok_iff (resolved : t.resolve root = .ok base) (excluded : List String) :
    (∃ found, files t root included excluded = .ok found) ↔ Accepted t base included := by
  constructor
  · rintro ⟨found, searched⟩ e member stuck
    obtain ⟨f, failed⟩ : ∃ f, files t root included excluded = .error f :=
      files_fault_iff.2 (.inr ⟨base, resolved, e, member, stuck⟩)
    cases searched.symm.trans failed
  · intro accepted
    cases searched : files t root included excluded with
    | ok found => exact ⟨found, rfl⟩
    | error f =>
      rcases files_fault_iff.1 ⟨f, searched⟩ with ⟨u, unresolved⟩ | ⟨base', same, e, member, stuck⟩
      · cases resolved.symm.trans unresolved
      · cases resolved.symm.trans same
        exact absurd stuck (accepted e member)

namespace Accepted

variable {more : List String}

theorem append (first : Accepted t base included) (second : Accepted t base more) :
    Accepted t base (included ++ more) := by
  intro e member
  rw [expanded_append, List.mem_append] at member
  exact member.elim (first e) (second e)

theorem of_subset (accepted : Accepted t base more) (among : included ⊆ more) :
    Accepted t base included := by
  intro e member
  obtain ⟨⟨p, listed, stands⟩, filled⟩ := mem_expanded.1 member
  exact accepted e (mem_expanded.2 ⟨⟨p, among listed, stands⟩, filled⟩)

end Accepted

/-- Includes that are listed in one search are listed in another; its excludes leave more. -/
theorem subset_of_mem {a b : List Path} {included' excluded' : List String}
    (resolved : t.resolve root = .ok base) (first : files t root included excluded = .ok a)
    (second : files t root included' excluded' = .ok b) (includes : included ⊆ included')
    (excludes : excluded' ⊆ excluded) : a ⊆ b := by
  intro p member
  obtain ⟨⟨e, stands, finds⟩, kept⟩ := (mem_files_iff resolved first).1 member
  obtain ⟨⟨pattern, listed, stands⟩, filled⟩ := mem_expanded.1 stands
  refine (mem_files_iff resolved second).2 ⟨⟨e, ?_, finds⟩, ?_⟩
  · exact mem_expanded.2 ⟨⟨pattern, includes listed, stands⟩, filled⟩
  · refine isExcluded_of_subset (fun e member => ?_) kept
    obtain ⟨pattern, listed, stands⟩ := List.mem_flatMap.1 member
    exact List.mem_flatMap.2 ⟨pattern, excludes listed, stands⟩

/-- Lists of the same patterns have the same answer. -/
theorem files_congr (resolved : t.resolve root = .ok base) (accepted : Accepted t base included)
    {included' excluded' : List String} (includes : ∀ p, p ∈ included' ↔ p ∈ included)
    (excludes : ∀ p, p ∈ excluded' ↔ p ∈ excluded) :
    files t root included' excluded' = files t root included excluded := by
  obtain ⟨a, first⟩ := (files_eq_ok_iff resolved excluded).2 accepted
  have accepted' : Accepted t base included' := accepted.of_subset fun p => (includes p).1
  obtain ⟨b, second⟩ := (files_eq_ok_iff resolved excluded').2 accepted'
  have same : b = a := by
    refine (pairwise_files second).eq_of_mem_iff (pairwise_files first) fun p => ⟨?_, ?_⟩
    · exact fun member => subset_of_mem resolved second first (fun p => (includes p).1)
        (fun p => (excludes p).2) member
    · exact fun member => subset_of_mem resolved first second (fun p => (includes p).2)
        (fun p => (excludes p).1) member
  rw [first, second, same]

/-- The files of a search are those that an include finds and no exclude matches, in order. Includes
add up, excludes cut down, and only which patterns are listed counts. -/
theorem discovery_algebra (resolved : t.resolve root = .ok base) {includes others : List String}
    (first : Accepted t base includes) (second : Accepted t base others)
    (excludes more : List String) :
    (∀ included excluded,
      (∃ found, files t root included excluded = .ok found) ↔ Accepted t base included) ∧
    ∃ found, files t root includes excludes = .ok found ∧
      found.Pairwise Before ∧
      (∀ p, p ∈ found ↔ (∃ e ∈ expanded includes, Finds t base e p) ∧
        isExcluded (excludes.flatMap Glob.expand) (seen base p) = false) ∧
      (∃ a b, files t root others excludes = .ok a ∧
        files t root (includes ++ others) excludes = .ok b ∧ ∀ p, p ∈ b ↔ p ∈ found ∨ p ∈ a) ∧
      (∃ a b, files t root includes more = .ok a ∧
        files t root includes (excludes ++ more) = .ok b ∧ ∀ p, p ∈ b ↔ p ∈ found ∧ p ∈ a) ∧
      (∀ includes' excludes', (∀ p, p ∈ includes' ↔ p ∈ includes) →
        (∀ p, p ∈ excludes' ↔ p ∈ excludes) → files t root includes' excludes' = .ok found) ∧
      (∀ includes', includes ⊆ includes' → Accepted t base includes' →
        ∃ a, files t root includes' excludes = .ok a ∧ found ⊆ a) ∧
      (∀ excludes', excludes ⊆ excludes' →
        ∃ a, files t root includes excludes' = .ok a ∧ a ⊆ found) ∧
      ∀ pattern front back,
        files t root (front ++ Glob.expand pattern ++ back) excludes =
          files t root (front ++ pattern :: back) excludes ∧
        files t root includes (front ++ Glob.expand pattern ++ back) =
          files t root includes (front ++ pattern :: back) := by
  have answers := fun {included : List String} (accepted : Accepted t base included) excluded =>
    (files_eq_ok_iff resolved excluded).2 accepted
  obtain ⟨found, searched⟩ := answers first excludes
  have members := fun p => mem_files_iff (p := p) resolved searched
  refine ⟨fun _ => files_eq_ok_iff resolved, found, searched, pairwise_files searched, members,
    ?_, ?_, ?_, ?_, ?_, ?_⟩
  · obtain ⟨a, alone⟩ := answers second excludes
    obtain ⟨b, both⟩ := answers (first.append second) excludes
    refine ⟨a, b, alone, both, fun p => ?_⟩
    rw [mem_files_iff resolved both, members, mem_files_iff resolved alone, expanded_append]
    simp only [List.mem_append, or_and_right, exists_or]
  · obtain ⟨a, alone⟩ := answers first more
    obtain ⟨b, both⟩ := answers first (excludes ++ more)
    refine ⟨a, b, alone, both, fun p => ?_⟩
    rw [mem_files_iff resolved both, members, mem_files_iff resolved alone, List.flatMap_append,
      isExcluded_append, and_and_left]
  · intro includes' excludes' same same'
    rw [files_congr resolved first same same', searched]
  · intro includes' among accepted
    obtain ⟨a, further⟩ := answers accepted excludes
    exact ⟨a, further, subset_of_mem resolved searched further among (List.Subset.refl _)⟩
  · intro excludes' among
    obtain ⟨a, further⟩ := answers first excludes'
    exact ⟨a, further, subset_of_mem resolved further searched (List.Subset.refl _) among⟩
  · intro pattern front back
    have once : (front ++ Glob.expand pattern ++ back).flatMap Glob.expand =
        (front ++ pattern :: back).flatMap Glob.expand := by
      simp only [List.flatMap_append, List.flatMap_cons, flatMap_expand_expand, List.append_assoc]
    constructor
    · simp only [files, filesBelow, expanded, once]
    · simp only [files, filesBelow, once]

theorem discovery_algebra_of_nested :
    nested.resolve ⟨.slash, []⟩ = .ok ⟨.slash, []⟩ ∧
    Accepted nested ⟨.slash, []⟩ ["*.kt"] ∧
    Accepted nested ⟨.slash, []⟩ ["src/*.\x7bts,kt\x7d"] ∧
    ∃ found a b, files nested ⟨.slash, []⟩ ["*.kt"] [] = .ok found ∧
      files nested ⟨.slash, []⟩ ["src/*.\x7bts,kt\x7d"] [] = .ok a ∧
      files nested ⟨.slash, []⟩ ["*.kt", "src/*.\x7bts,kt\x7d"] [] = .ok b ∧
      b.Pairwise Before ∧ ∀ p, p ∈ b ↔ p ∈ found ∨ p ∈ a := by
  have resolved : nested.resolve ⟨.slash, []⟩ = .ok ⟨.slash, []⟩ := by rfl
  have first : Accepted nested ⟨.slash, []⟩ ["*.kt"] :=
    accepted_of_answered (by decide +kernel)
  have second : Accepted nested ⟨.slash, []⟩ ["src/*.\x7bts,kt\x7d"] :=
    accepted_of_answered (by decide +kernel)
  obtain ⟨-, found, searched, -, -, ⟨a, b, alone, both, union⟩, -⟩ :=
    discovery_algebra resolved first second [] []
  exact ⟨resolved, first, second, found, a, b, searched, alone, both, pairwise_files both, union⟩

end Discovery

end ParserHost
