import ParserHost.Proofs.Discovery.Exclusion
import ParserHost.Proofs.Files.Entries
import ParserHost.Proofs.Text.Pieces

/-!
# Names along a found path

In a tree whose names hold no slash, the text of a found path tells its names (`names_of_finds`):
which directory it starts with (`starts_joined_iff`) and which directories it leads through
(`holds_joined_iff`).
-/

namespace ParserHost

def FileTree.Named (t : FileTree) : Prop :=
  ∀ entry ∈ t.nodes, ∀ name ∈ entry.1, '/' ∉ name.toList

/-! ## Names in a text -/

namespace Path

variable {names : List String} {name : String}

theorem splitAt_joined (some_names : names ≠ []) (slashless : ∀ name ∈ names, '/' ∉ name.toList) :
    Text.splitAt '/' (joined names) = names.map String.toList := by
  have written : joined names = ['/'].intercalate (names.map String.toList) :=
    String.toList_intercalate
  rw [written]
  refine Text.splitAt_intercalate (by simpa using some_names) fun piece member => ?_
  obtain ⟨name, among, rfl⟩ := List.mem_map.1 member
  exact slashless name among

theorem starts_joined_iff (plain : '/' ∉ name.toList) (some_names : names ≠ [])
    (slashless : ∀ name ∈ names, '/' ∉ name.toList) :
    (∃ rest, joined names = name.toList ++ '/' :: rest) ↔ names.dropLast.head? = some name := by
  have pieces := splitAt_joined some_names slashless
  constructor
  · rintro ⟨rest, written⟩
    rw [written, Text.splitAt_append_cons plain] at pieces
    cases names with
    | nil => cases pieces
    | cons first others =>
      obtain ⟨same, later⟩ := List.cons.inj pieces
      have some_others : others ≠ [] := by
        rintro rfl
        exact Text.splitAt_ne_nil '/' rest later
      rw [List.dropLast_cons_of_ne_nil some_others, List.head?_cons, String.toList_inj.1 same]
  · intro starts
    cases names with
    | nil => cases starts
    | cons first others =>
      cases others with
      | nil => cases starts
      | cons next others =>
        obtain rfl : first = name := by simpa using starts
        exact ⟨_, joined_cons (List.cons_ne_nil _ _) first⟩

theorem holds_joined_iff (plain : '/' ∉ name.toList) (some_names : names ≠ [])
    (slashless : ∀ name ∈ names, '/' ∉ name.toList) :
    ((∃ before rest, joined names = before ++ '/' :: (name.toList ++ '/' :: rest)) ∨
      ∃ rest, joined names = name.toList ++ '/' :: rest) ↔ name ∈ names.dropLast := by
  have pieces := splitAt_joined some_names slashless
  constructor
  · rintro (⟨before, rest, written⟩ | starts)
    · rw [written, Text.splitAt_append, Text.splitAt_append_cons plain] at pieces
      have inner : name.toList ∈ (names.map String.toList).dropLast := by
        rw [← pieces, List.dropLast_append_of_ne_nil (List.cons_ne_nil _ _),
          List.dropLast_cons_of_ne_nil (Text.splitAt_ne_nil '/' rest)]
        simp
      rw [← List.map_dropLast, List.mem_map] at inner
      obtain ⟨found, member, same⟩ := inner
      exact String.toList_inj.1 same ▸ member
    · exact List.mem_of_head? ((starts_joined_iff plain some_names slashless).1 starts)
  · intro member
    obtain ⟨front, back, split⟩ := List.append_of_mem member
    obtain ⟨last, whole⟩ : ∃ last, names = front ++ name :: (back ++ [last]) :=
      ⟨names.getLast some_names, by
        rw [← List.cons_append, ← List.append_assoc, ← split, List.dropLast_append_getLast]⟩
    have tail : joined (name :: (back ++ [last])) = name.toList ++ '/' :: joined (back ++ [last]) :=
      joined_cons (by simp) name
    by_cases first : front = []
    · rw [first, List.nil_append] at whole
      exact .inr ⟨joined (back ++ [last]), by rw [whole, tail]⟩
    · refine .inl ⟨joined front, joined (back ++ [last]), ?_⟩
      rw [whole, joined_append first (List.cons_ne_nil _ _), tail]

end Path

/-! ## Names of found files -/

namespace Glob

variable {t : FileTree}

theorem slashless_directoriesFrom (named : t.Named) {here : Location} {p q : Path}
    (member : q ∈ directoriesFrom t here p) :
    ∃ names, q = ⟨p.root, p.parts ++ names⟩ ∧ ∀ name ∈ names, '/' ∉ name.toList := by
  rcases List.mem_cons.1 member with rfl | member
  · exact ⟨[], by simp, by simp⟩
  · obtain ⟨⟨l, n⟩, listed, found⟩ := List.mem_filterMap.1 member
    dsimp only at found
    split at found
    · next part parts below =>
      cases found
      obtain rfl := Path.dropParts?_eq_some_iff.1 below
      exact ⟨part :: parts, rfl, fun name among =>
        named _ listed name (List.mem_append_right here among)⟩
    · cases found

theorem slashless_select (named : t.Named) {steps : List Step}
    (plain : ∀ text, .name text ∈ steps → '/' ∉ text.toList) {p q : Path}
    (member : q ∈ select t steps p) :
    ∃ names, q = ⟨p.root, p.parts ++ names⟩ ∧ ∀ name ∈ names, '/' ∉ name.toList := by
  induction steps generalizing p with
  | nil =>
    obtain rfl : q = p := by simpa [select] using member
    exact ⟨[], by simp, by simp⟩
  | cons step rest ih =>
    have plain_rest : ∀ text, .name text ∈ rest → '/' ∉ text.toList :=
      fun text later => plain text (.tail _ later)
    -- the names that a step takes come before those of the other steps
    have further : ∀ taken : List String, (∀ name ∈ taken, '/' ∉ name.toList) →
        q ∈ select t rest ⟨p.root, p.parts ++ taken⟩ →
        ∃ names, q = ⟨p.root, p.parts ++ names⟩ ∧ ∀ name ∈ names, '/' ∉ name.toList := by
      intro taken free member
      obtain ⟨names, rfl, free_rest⟩ := ih plain_rest member
      refine ⟨taken ++ names, by simp, fun name among => ?_⟩
      exact (List.mem_append.1 among).elim (free name) (free_rest name)
    cases step with
    | directory =>
      obtain rfl : q = p := by simpa [select] using member
      exact ⟨[], by simp, by simp⟩
    | anyDepth =>
      simp only [select] at member
      split at member
      · obtain ⟨p', below, member⟩ := List.mem_flatMap.1 member
        obtain ⟨taken, rfl, free⟩ := slashless_directoriesFrom named below
        exact further taken free member
      · cases member
    | wild w =>
      simp only [select] at member
      split at member
      · obtain ⟨⟨name, n⟩, child, member⟩ := List.mem_flatMap.1 member
        split at member
        · have listed := FileTree.mem_children.1 child
          refine further [name] (fun other among => ?_) member
          rw [List.mem_singleton.1 among]
          exact named _ listed name (by simp)
        · cases member
      · cases member
    | name text =>
      simp only [select] at member
      generalize (if rest.isEmpty then t.exists? (p.child text) else t.isDirectory (p.child text))
        = there at member
      cases there with
      | false => cases member
      | true =>
        refine further [text] (fun other among => ?_) member
        rw [List.mem_singleton.1 among]
        exact plain text (.head _)

theorem eq_of_stepOf {part text : String} (read : stepOf part = .ok (.name text)) :
    part = text := by
  unfold stepOf at read
  split at read
  · cases read
  · split at read
    · cases read
    · split at read
      · cases read
      · cases read
        rfl

theorem slashless_steps {pattern text : String} {steps : List Step}
    (parsed : Glob.steps pattern = .ok steps) (member : .name text ∈ steps) :
    '/' ∉ text.toList := by
  obtain ⟨relative, some_parts, -⟩ := steps_eq_ok parsed
  have filled : (Path.parse pattern).parts.isEmpty = false := by simpa using some_parts
  simp only [Glob.steps, relative, filled, Bool.false_eq_true, if_false] at parsed
  obtain ⟨named, mapped, done⟩ := bind_eq_ok.1 parsed
  have among : .name text ∈ named := by
    split at done
    · cases done
      simpa using member
    · cases done
      exact member
  obtain ⟨part, listed, read⟩ := (exists_of_mem_forall₂ (forall₂_of_mapM mapped)).1 _ among
  obtain rfl := eq_of_stepOf read
  exact Path.not_mem_of_mem_partsOf listed

end Glob

namespace Discovery

variable {t : FileTree} {base : Path} {pattern : String}

/-- The directories that lead from the base of a search to a path, as written. -/
def directories (base p : Path) : List String :=
  (p.parts.drop base.parts.length).dropLast

theorem names_of_finds (named : t.Named) {p : Path} (finds : Finds t base pattern p) :
    ∃ names, names ≠ [] ∧ (∀ name ∈ names, '/' ∉ name.toList) ∧
      (seen base p).toList = Path.joined names ∧ directories base p = names.dropLast := by
  obtain ⟨chunks, -, whole, some_names⟩ := takes_of_finds finds
  obtain ⟨steps, parsed, selected, -⟩ := finds
  rw [Glob.selected] at selected
  split at selected
  · obtain ⟨names, rfl, slashless⟩ :=
      Glob.slashless_select named (fun _ => Glob.slashless_steps parsed) selected
    have same : names = chunks.flatten := List.append_cancel_left (congrArg Path.parts whole)
    refine ⟨names, same ▸ some_names, slashless, ?_, ?_⟩
    · rw [seen_below, Path.text_relative (same ▸ some_names)]
    · rw [directories, List.drop_left]
  · cases selected

end Discovery

end ParserHost
