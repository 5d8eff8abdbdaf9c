import ParserHost.Proofs.Discovery.Names

/-!
# Resolved paths

A path that was resolved is absolute, without dots (`absolute_of_resolve`), and no part of it holds a slash if
none of the path did (`slashless_of_resolve`): parts come from the path and from the targets of links. Without
NUL only links in a circle leave a path unresolved (`resolve_of_clear`). The text of resolved parts tells what they
are (`partsOf_text`).
-/

namespace ParserHost

def Path.Slashless (parts : List String) : Prop :=
  ∀ part ∈ parts, '/' ∉ part.toList

namespace FileTree

variable {t : FileTree} {p q : Path} {parts : List String}

/-! ## Dots -/

theorem proper_normalize : ∀ part ∈ normalize parts, Proper part ∧ part ∈ parts := by
  suffices kept : ∀ (rest acc : List String), (∀ part ∈ acc, Proper part ∧ part ∈ parts) →
      (∀ part ∈ rest, part ∈ parts) →
        ∀ part ∈ rest.foldl (fun acc part =>
          if part = "" || part = "." then acc
          else if part = ".." then acc.drop 1
          else part :: acc) acc, Proper part ∧ part ∈ parts by
    intro part member
    exact kept parts [] nofun (fun _ => id) part (List.mem_reverse.1 member)
  intro rest
  induction rest with
  | nil => exact fun acc known _ => known
  | cons part rest ih =>
    intro acc known from'
    obtain ⟨here, later⟩ := List.forall_mem_cons.1 from'
    refine ih _ ?_ later
    dsimp only
    split
    · exact known
    · next named =>
      split
      · exact fun other member => known other (List.mem_of_mem_drop member)
      · next below =>
        simp only [Bool.or_eq_true, decide_eq_true_eq, not_or] at named
        exact List.forall_mem_cons.2 ⟨⟨⟨named.1, named.2, below⟩, here⟩, known⟩

theorem resolve_eq_ok (resolved : t.resolve p = .ok q) :
    q = .absolute (normalize (resolveParts t (resolveLink t (t.nodes.length + 1) []) [] p.parts).parts) := by
  unfold resolve at resolved
  split at resolved
  · cases resolved
  · dsimp only at resolved
    split at resolved
    · cases resolved
    · exact (Except.ok.inj resolved).symm

theorem absolute_of_resolve (resolved : t.resolve p = .ok q) :
    q.root = .slash ∧ ∀ part ∈ q.parts, Proper part := by
  rw [resolve_eq_ok resolved]
  exact ⟨rfl, fun part member => (proper_normalize part member).1⟩

theorem root_eq_of_resolve {p' q' : Path} (resolved : t.resolve p = .ok q) (resolved' : t.resolve p' = .ok q') :
    q.root = q'.root :=
  (absolute_of_resolve resolved).1.trans (absolute_of_resolve resolved').1.symm

/-! ## Slashes -/

open ParserHost.Path (Slashless)

theorem slashless_targetParts (target : String) : Slashless (targetParts target) := by
  intro part member
  rw [targetParts, List.mem_append] at member
  rcases member with named | dot
  · exact Path.not_mem_of_mem_partsOf named
  · split at dot
    · obtain rfl := List.mem_singleton.1 dot
      decide
    · cases dot

theorem slashless_resolveParts {link : Location → Location → String → Resolved}
    (linked : ∀ here self target, Slashless here → Slashless self →
      Slashless (link here self target).parts) {here : Location} (front : Slashless here)
    (rest : Slashless parts) : Slashless (resolveParts t link here parts).parts := by
  induction parts generalizing here with
  | nil => exact front
  | cons part more ih =>
    obtain ⟨first, later⟩ := List.forall_mem_cons.1 rest
    have there : Slashless (here ++ [part]) := by
      simpa [Slashless, or_imp, forall_and] using ⟨front, first⟩
    rw [resolveParts]
    split
    · exact ih front later
    · split
      · exact ih (fun x member => front x ((List.dropLast_subset here) member)) later
      · split
        · next target _ =>
          have target' := linked here (here ++ [part]) target front there
          dsimp only
          split
          · -- a circle of links leaves the parts behind it as they are
            intro x member
            exact (List.mem_append.1 member).elim (target' x) (later x)
          · exact ih target' later
        · exact ih there later

theorem slashless_resolveLink (fuel : Nat) (pending : List Location) (here self : Location)
    (target : String) (front : Slashless here) (own : Slashless self) :
    Slashless (resolveLink t fuel pending here self target).parts := by
  induction fuel generalizing pending here self target with
  | zero => exact own
  | succ fuel ih =>
    rw [resolveLink]
    split
    · exact own
    · refine slashless_resolveParts (fun here self target => ih (_ :: pending) here self target) ?_
        (slashless_targetParts target)
      split
      · exact nofun
      · exact front

theorem slashless_of_resolve (resolved : t.resolve p = .ok q) (plain : Slashless p.parts) :
    Slashless q.parts := by
  rw [resolve_eq_ok resolved]
  intro part member
  have root : Slashless ([] : Location) := nofun
  have linked := slashless_resolveLink (t := t) (t.nodes.length + 1) []
  exact slashless_resolveParts linked root plain part (proper_normalize part member).2

end FileTree

/-! ## Answers -/

namespace FileTree

variable {t : FileTree} {p q : Path}

theorem hasNul_eq_false_iff : hasNul p = false ↔ ∀ part ∈ p.parts, '\x00' ∉ part.toList := by
  simp [hasNul]

theorem hasNul_parse {s : String} (free : '\x00' ∉ s.toList) : hasNul (Path.parse s) = false := by
  rw [hasNul_eq_false_iff]
  intro part member within
  obtain ⟨written, -⟩ := List.mem_filter.1 member
  obtain ⟨piece, cut, rfl⟩ := List.mem_map.1 written
  rw [String.toList_ofList] at within
  exact free (Text.mem_of_mem_splitAt cut within)

theorem hasNul_join (first : hasNul p = false) (second : hasNul q = false) :
    hasNul (p.join q) = false := by
  rw [Path.join]
  split
  · exact second
  · rw [hasNul_eq_false_iff] at first second ⊢
    exact fun part member => (List.mem_append.1 member).elim (first part) (second part)

theorem resolve_of_clear (clear : hasNul p = false) :
    (∃ q, t.resolve p = .ok q) ∨ ∃ file, t.resolve p = .error (.loop file) := by
  unfold resolve
  rw [clear, if_neg Bool.false_ne_true]
  dsimp only
  split
  · exact .inr ⟨_, rfl⟩
  · exact .inl ⟨_, rfl⟩

end FileTree

/-! ## Texts -/

namespace Path

variable {parts : List String}

theorem slashless_parse (s : String) : Slashless (parse s).parts :=
  fun _ => not_mem_of_mem_partsOf

theorem slashless_join {p q : Path} (first : Slashless p.parts) (second : Slashless q.parts) :
    Slashless (p.join q).parts := by
  rw [join]
  split
  · exact second
  · exact fun part member => (List.mem_append.1 member).elim (first part) (second part)

theorem partsOf_text (slashless : Slashless parts) (proper : ∀ part ∈ parts, FileTree.Proper part) :
    partsOf (text ⟨.relative, parts⟩).toList = parts := by
  by_cases some_parts : parts = []
  · subst some_parts
    rfl
  · have kept : ∀ part ∈ parts, (part != "" && part != ".") = true := fun part member => by
      simp [(proper part member).notEmpty, (proper part member).notHere]
    rw [partsOf, text_relative some_parts, splitAt_joined some_parts slashless, List.map_map]
    have restored : String.ofList ∘ String.toList = id := funext fun _ => String.ofList_toList
    rw [restored, List.map_id, List.filter_eq_self.2 kept]

end Path

end ParserHost
