import ParserHost.Files.Tree

/-!
# Trees with more in them

What a path leads to in a tree it leads to in every tree that has the same nodes, and more
(`stat_of_extends`).
-/

namespace ParserHost.FileTree

variable {t u : FileTree} {follow : Bool} {here at' : Location} {parts : List String}

def Extends (u t : FileTree) : Prop :=
  ∀ at' n, t.node? at' = some n → u.node? at' = some n

def Stop.reached : Stop → Prop
  | .vacant .. | .failed .noEntry => False
  | _ => True

theorem Extends.refl (t : FileTree) : Extends t t :=
  fun _ _ found => found

/-! ## Walks -/

/-- How a walk may end at some part, as a function of the parts after it: not at a directory, and if at
a link, with these parts still to go. -/
structure Halts (t : FileTree) (stop : List String → Stop) : Prop where
  noDirectory : ∀ rest at', stop rest = .found at' → t.node? at' ≠ some .directory
  carries : ∀ rest more dir target left, stop rest = .link dir target left →
    stop (rest ++ more) = .link dir target (left ++ more)

theorem halts_failed (e : Errno) : Halts t fun _ => .failed e :=
  ⟨nofun, nofun⟩

theorem halts_missing (here : Location) (name : String) :
    Halts t fun rest => if rest.isEmpty then .vacant here name else .failed .noEntry := by
  constructor
  · intro rest at' same
    split at same <;> cases same
  · intro rest more dir target left same
    split at same <;> cases same

theorem halts_file {content : Text.Utf8.Bytes} {executable : Bool}
    (node : t.node? at' = some (.file content executable)) :
    Halts t fun rest => if rest.isEmpty then .found at' else .failed .notDirectory := by
  constructor
  · intro rest there same
    split at same
    · cases same
      rw [node]
      nofun
    · cases same
  · intro rest more dir target left same
    split at same <;> cases same

theorem halts_link {target : String} (node : t.node? at' = some (.link target)) :
    Halts t fun rest =>
      if rest.isEmpty && !follow then .found at' else .link here target rest := by
  constructor
  · intro rest there same
    split at same
    · cases same
      rw [node]
      nofun
    · cases same
  · intro rest more dir target' left same
    split at same
    · cases same
    · next goes =>
      cases same
      refine if_neg fun ends => goes ?_
      rw [Bool.and_eq_true, List.isEmpty_iff] at ends ⊢
      exact ⟨(List.append_eq_nil_iff.1 ends.1).1, ends.2⟩

/-- What one part of a path does to a walk: it leads on to a directory, or the walk ends there. In a
tree with more in it the part does the same, unless nothing was there. -/
theorem advance_cons (t : FileTree) (follow : Bool) (here : Location) (part : String) :
    (∃ next, ∀ u, Extends u t → ∀ rest,
      u.advance follow here (part :: rest) = u.advance follow next rest) ∨
    ∃ stop, Halts t stop ∧ (∀ rest, t.advance follow here (part :: rest) = stop rest) ∧
      ((∀ u, Extends u t → ∀ rest, u.advance follow here (part :: rest) = stop rest) ∨
        ∀ rest, ¬ (stop rest).reached) := by
  by_cases still : (part = "" || part = ".") = true
  · exact .inl ⟨here, fun u _ rest => by rw [advance, if_pos still]⟩
  by_cases up : part = ".."
  · exact .inl ⟨here.dropLast, fun u _ rest => by rw [advance, if_neg still, if_pos up]⟩
  by_cases long : nameLimit < part.utf8ByteSize
  · have fails (u : FileTree) (rest : List String) :
        u.advance follow here (part :: rest) = .failed .nameTooLong := by
      rw [advance, if_neg still, if_neg up, if_pos long]
    exact .inr ⟨_, halts_failed _, fails t, .inl fun u _ => fails u⟩
  cases node : t.node? (here ++ [part]) with
  | none =>
    -- A tree with more in it may have a node here, so nothing can be said about it.
    refine .inr ⟨_, halts_missing here part, fun rest => ?_, .inr fun rest => ?_⟩
    · rw [advance, if_neg still, if_neg up, if_neg long]
      dsimp only
      rw [node]
    · split <;> exact id
  | some n =>
    cases n with
    | directory =>
      refine .inl ⟨here ++ [part], fun u more rest => ?_⟩
      rw [advance, if_neg still, if_neg up, if_neg long]
      dsimp only
      rw [more _ _ node]
    | link target =>
      have ends (u : FileTree) (more : Extends u t) (rest : List String) :
          u.advance follow here (part :: rest) = if rest.isEmpty && !follow then
            .found (here ++ [part]) else .link here target rest := by
        rw [advance, if_neg still, if_neg up, if_neg long]
        dsimp only
        rw [more _ _ node]
      exact .inr ⟨_, halts_link node, ends t (.refl t), .inl ends⟩
    | file content executable =>
      have ends (u : FileTree) (more : Extends u t) (rest : List String) :
          u.advance follow here (part :: rest) = if rest.isEmpty then
            .found (here ++ [part]) else .failed .notDirectory := by
        rw [advance, if_neg still, if_neg up, if_neg long]
        dsimp only
        rw [more _ _ node]
      exact .inr ⟨_, halts_file node, ends t (.refl t), .inl ends⟩

theorem advance_of_extends (more : Extends u t) (reached : (t.advance follow here parts).reached) :
    u.advance follow here parts = t.advance follow here parts := by
  induction parts generalizing here with
  | nil => rfl
  | cons part rest ih =>
    rcases advance_cons t follow here part with ⟨next, leads⟩ | ⟨stop, -, ends, ends' | missing⟩
    · rw [leads t (.refl t)] at reached ⊢
      rw [leads u more, ih reached]
    · rw [ends, ends' u more]
    · rw [ends] at reached
      exact absurd reached (missing rest)

theorem reached_of_findFrom {links : Nat}
    (found : t.findFrom follow links here parts = .ok (.found at')) :
    (t.advance follow here parts).reached := by
  unfold findFrom at found
  cases stop : t.advance follow here parts with
  | found | link => trivial
  | vacant dir name =>
    rw [stop] at found
    cases found
  | failed e =>
    rw [stop] at found
    cases found

theorem findFrom_of_extends (more : Extends u t) {links : Nat}
    (found : t.findFrom follow links here parts = .ok (.found at')) :
    u.findFrom follow links here parts = .ok (.found at') := by
  have same := advance_of_extends more (reached_of_findFrom found)
  induction links generalizing here parts with
  | zero =>
    rw [findFrom, same]
    rw [findFrom] at found
    exact found
  | succ links ih =>
    rw [findFrom, same]
    rw [findFrom] at found
    cases stop : t.advance follow here parts with
    | link dir target rest =>
      rw [stop] at found
      exact ih found (advance_of_extends more (reached_of_findFrom found))
    | found | vacant | failed =>
      rw [stop] at found
      exact found

theorem stat_of_extends (more : Extends u t) {p : Path} {there : Location × Node}
    (found : t.stat p = .ok there) : u.stat p = .ok there := by
  unfold stat find at found ⊢
  split at found
  · cases found
  · cases found
  · next at' walked =>
    rw [findFrom_of_extends more walked]
    dsimp only
    split at found
    · next n node =>
      rw [more _ _ node]
      exact found
    · cases found

theorem lookup_eq_some_iff {nodes : List (Location × Node)} (once : (nodes.map Prod.fst).Nodup)
    {n : Node} : lookup at' nodes = some n ↔ (at', n) ∈ nodes := by
  induction nodes with
  | nil => simp [lookup]
  | cons e rest ih =>
    obtain ⟨l, m⟩ := e
    obtain ⟨new, more⟩ := List.nodup_cons.1 once
    rw [lookup, List.mem_cons]
    by_cases here : l = at'
    · subst here
      rw [if_pos rfl]
      constructor
      · rintro ⟨⟩
        exact .inl rfl
      · rintro (same | later)
        · cases same
          rfl
        · exact absurd (List.mem_map_of_mem later) new
    · rw [if_neg here, ih more]
      constructor
      · exact .inr
      · rintro (same | later)
        · cases same
          exact absurd rfl here
        · exact later

theorem extends_of_perm (once : (t.nodes.map Prod.fst).Nodup) (same : u.nodes.Perm t.nodes) :
    Extends u t := by
  intro at' n found
  have once' : (u.nodes.map Prod.fst).Nodup := (same.map Prod.fst).nodup_iff.2 once
  unfold node? at found ⊢
  split at found
  · next root => rw [if_pos root, found]
  · next below =>
    rw [if_neg below, lookup_eq_some_iff once', same.mem_iff]
    exact (lookup_eq_some_iff once).1 found

/-! ## A new node -/

theorem extends_set {node : Node} (new : t.node? at' = none) : Extends (t.set at' node) t := by
  intro other n found
  have different : other ≠ at' := by
    rintro rfl
    rw [new] at found
    cases found
  rw [node?_set_of_ne different, found]

theorem map_fst_setNode (node : Node) (nodes : List (Location × Node)) :
    (setNode at' node nodes).map Prod.fst =
      if at' ∈ nodes.map Prod.fst then nodes.map Prod.fst else nodes.map Prod.fst ++ [at'] := by
  induction nodes with
  | nil => rfl
  | cons e rest ih =>
    obtain ⟨l, n⟩ := e
    rw [setNode]
    by_cases here : l = at'
    · simp [here]
    · rw [if_neg here, List.map_cons, ih]
      by_cases later : at' ∈ rest.map Prod.fst
      · have present : at' ∈ ((l, n) :: rest).map Prod.fst := List.mem_cons_of_mem _ later
        rw [if_pos later, if_pos present, List.map_cons]
      · have absent : at' ∉ ((l, n) :: rest).map Prod.fst := by
          rw [List.map_cons, List.mem_cons]
          rintro (same | found)
          · exact here same.symm
          · exact later found
        rw [if_neg later, if_neg absent, List.map_cons, List.cons_append]

theorem nodup_set {node : Node} (once : (t.nodes.map Prod.fst).Nodup) :
    ((t.set at' node).nodes.map Prod.fst).Nodup := by
  rw [set, map_fst_setNode]
  split
  · exact once
  · next absent =>
    exact List.nodup_append.2 ⟨once, List.pairwise_singleton _ _, fun l member l' last => by
      rw [List.mem_singleton] at last
      rintro rfl
      exact absent (last ▸ member)⟩

structure Ordinary (name : String) : Prop where
  notEmpty : name ≠ ""
  notHere : name ≠ "."
  notUp : name ≠ ".."
  short : name.utf8ByteSize ≤ nameLimit

/-- A walk that goes further: on from the directory where it would end, or behind the same link. -/
theorem advance_append (more : List String) :
    (∀ at', t.advance follow here parts = .found at' → t.node? at' = some .directory →
      t.advance follow here (parts ++ more) = t.advance follow at' more) ∧
    ∀ dir target rest, t.advance follow here parts = .link dir target rest →
      t.advance follow here (parts ++ more) = .link dir target (rest ++ more) := by
  induction parts generalizing here with
  | nil =>
    constructor
    · rintro _ ⟨⟩ -
      rfl
    · rintro _ _ _ ⟨⟩
  | cons part rest ih =>
    rw [List.cons_append]
    rcases advance_cons t follow here part with ⟨next, leads⟩ | ⟨stop, halts, ends, -⟩
    · rw [leads t (.refl t), leads t (.refl t)]
      exact ih
    · rw [ends, ends]
      constructor
      · intro at' found directory
        exact absurd directory (halts.noDirectory rest at' found)
      · intro dir target left linked
        exact halts.carries rest more dir target left linked

theorem advance_entry {name : String} {node : Node} (ordinary : Ordinary name)
    (entry : t.node? (at' ++ [name]) = some node) (noLink : ∀ target, node ≠ .link target) :
    t.advance true at' [name] = .found (at' ++ [name]) := by
  have named : ¬ (name = "" || name = ".") = true := by
    simp [ordinary.notEmpty, ordinary.notHere]
  rw [advance, if_neg named, if_neg ordinary.notUp, if_neg (Nat.not_lt.2 ordinary.short)]
  dsimp only
  rw [entry]
  cases node with
  | link target => exact absurd rfl (noLink target)
  | file => rfl
  | directory => rfl

theorem advance_child {name : String} {node : Node} (ordinary : Ordinary name)
    (directory : t.node? at' = some .directory)
    (entry : t.node? (at' ++ [name]) = some node) (noLink : ∀ target, node ≠ .link target)
    (found : t.advance true here parts = .found at') :
    t.advance true here (parts ++ [name]) = .found (at' ++ [name]) := by
  rw [(advance_append [name]).1 _ found directory, advance_entry ordinary entry noLink]

theorem findFrom_child {name : String} {node : Node} {links : Nat} (ordinary : Ordinary name)
    (directory : t.node? at' = some .directory)
    (entry : t.node? (at' ++ [name]) = some node) (noLink : ∀ target, node ≠ .link target)
    (found : t.findFrom true links here parts = .ok (.found at')) :
    t.findFrom true links here (parts ++ [name]) = .ok (.found (at' ++ [name])) := by
  induction links generalizing here parts with
  | zero =>
    rw [findFrom] at found ⊢
    cases stop : t.advance true here parts with
    | found there =>
      rw [stop] at found
      cases found
      rw [advance_child ordinary directory entry noLink stop]
    | vacant | link | failed =>
      rw [stop] at found
      cases found
  | succ links ih =>
    rw [findFrom] at found ⊢
    cases stop : t.advance true here parts with
    | found there =>
      rw [stop] at found
      cases found
      rw [advance_child ordinary directory entry noLink stop]
    | link dir target rest =>
      rw [stop] at found
      rw [(advance_append [name]).2 _ _ _ stop]
      dsimp only at found ⊢
      rw [← List.append_assoc]
      exact ih found
    | vacant | failed =>
      rw [stop] at found
      cases found

theorem find_of_stat {p : Path} {node : Node} (found : t.stat p = .ok (at', node)) :
    t.findFrom true linkLimit [] p.parts = .ok (.found at') ∧ t.node? at' = some node := by
  unfold stat find at found
  split at found
  · cases found
  · cases found
  · next there walked =>
    split at found
    · next n here =>
      cases found
      exact ⟨walked, here⟩
    · cases found

/-- An entry of a directory that is no link is where its name leads. -/
theorem stat_child {p : Path} {name : String} {node : Node} (ordinary : Ordinary name)
    (found : t.stat p = .ok (at', .directory)) (entry : t.node? (at' ++ [name]) = some node)
    (noLink : ∀ target, node ≠ .link target) :
    t.stat (p.child name) = .ok (at' ++ [name], node) := by
  obtain ⟨walked, directory⟩ := find_of_stat found
  have further := findFrom_child ordinary directory entry noLink walked
  unfold stat find Path.child
  rw [further]
  dsimp only
  rw [entry]

end ParserHost.FileTree
