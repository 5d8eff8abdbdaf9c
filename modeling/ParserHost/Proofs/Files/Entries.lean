import ParserHost.Proofs.Files.Extension

/-!
# Entries of directories

In a tree where every node lies in a directory (`Rooted`), an entry is found in the directory that the
path above it leads to (`find_child`); the names that are taken there are those of its nodes
(`mem_map_fst_children`).
-/

namespace ParserHost.FileTree

variable {t u : FileTree} {follow : Bool} {here at' l : Location} {parts : List String} {name : String}

/-! ## Locations below another -/

theorem within_iff {dir : Location} : within dir l = true ↔ ∃ more, l = dir ++ more := by
  rw [within, List.isPrefixOf_iff_prefix]
  exact ⟨fun ⟨more, same⟩ => ⟨more, same.symm⟩, fun ⟨more, same⟩ => ⟨more, same.symm⟩⟩

theorem within_append (dir more : Location) : within dir (dir ++ more) = true :=
  within_iff.2 ⟨more, rfl⟩

theorem within_self (dir : Location) : within dir dir = true :=
  within_iff.2 ⟨[], by simp⟩

theorem within_parent {dir : Location} (below : within (dir ++ [name]) l = true) : within dir l = true := by
  obtain ⟨more, rfl⟩ := within_iff.1 below
  rw [List.append_assoc]
  exact within_append dir _

/-- Nothing lies in two entries of a directory. -/
theorem eq_of_within {dir : Location} {other : String} (first : within (dir ++ [name]) l = true)
    (second : within (dir ++ [other]) l = true) : name = other := by
  obtain ⟨more, rfl⟩ := within_iff.1 first
  obtain ⟨more', same⟩ := within_iff.1 second
  rw [List.append_assoc, List.append_assoc, List.append_cancel_left_eq] at same
  exact (List.cons.inj same).1

/-! ## Rooted trees -/

def Rooted (t : FileTree) : Prop :=
  ∀ at' name n, t.node? (at' ++ [name]) = some n → t.node? at' = some .directory

theorem Rooted.parent (rooted : t.Rooted) (found : t.node? at' = some .directory) :
    t.node? at'.dropLast = some .directory := by
  rcases List.eq_nil_or_concat at' with rfl | ⟨dir, name, rfl⟩
  · exact found
  · rw [List.concat_eq_append, List.dropLast_concat]
    rw [List.concat_eq_append] at found
    exact rooted dir name _ found

theorem Rooted.none_below (rooted : t.Rooted) (none : t.node? at' = none) (more : Location) :
    t.node? (at' ++ more) = .none := by
  induction more generalizing at' with
  | nil => rwa [List.append_nil]
  | cons name more ih =>
    rw [List.append_cons]
    refine ih ?_
    cases node : t.node? (at' ++ [name]) with
    | none => rfl
    | some n =>
      rw [rooted _ name n node] at none
      cases none

theorem Rooted.none_within (rooted : t.Rooted) (none : t.node? at' = none)
    (below : within at' l = true) : t.node? l = .none := by
  obtain ⟨more, rfl⟩ := within_iff.1 below
  exact rooted.none_below none more

theorem ne_append_singleton (dir : Location) (name : String) : dir ≠ dir ++ [name] := by
  simp

/-- Nothing lies in a node that is no directory, so it can become any other. -/
theorem Rooted.replace {node : Node} (rooted : t.Rooted) (directory : t.node? at' = some .directory)
    (leaf : t.node? (at' ++ [name]) ≠ some .directory) : (t.set (at' ++ [name]) node).Rooted := by
  intro dir other n found
  have outside : dir ≠ at' ++ [name] := by
    rintro rfl
    have different : at' ++ [name] ++ [other] ≠ at' ++ [name] := (ne_append_singleton _ other).symm
    rw [node?_set_of_ne different] at found
    exact leaf (rooted _ _ _ found)
  rw [node?_set_of_ne outside]
  by_cases same : dir ++ [other] = at' ++ [name]
  · obtain ⟨rfl, -⟩ := List.append_inj' same rfl
    exact directory
  · rw [node?_set_of_ne same] at found
    exact rooted dir other n found

theorem Rooted.set {node : Node} (rooted : t.Rooted) (directory : t.node? at' = some .directory)
    (new : t.node? (at' ++ [name]) = none) : (t.set (at' ++ [name]) node).Rooted :=
  rooted.replace directory (by simp [new])

theorem Rooted.remove (rooted : t.Rooted) (dir : Location) : (t.remove dir).Rooted := by
  intro at' name n found
  rw [node?_remove (by simp)] at found
  split at found
  · cases found
  · next outside =>
    have directory := rooted at' name n found
    by_cases root : at' = []
    · rw [root]
      rfl
    · have outside' : ¬ within dir at' = true := by
        intro below
        obtain ⟨more, rfl⟩ := within_iff.1 below
        rw [List.append_assoc] at outside
        exact outside (within_append dir _)
      rw [node?_remove root, if_neg outside', directory]

/-! ## Walks to an entry -/

structure Proper (name : String) : Prop where
  notEmpty : name ≠ ""
  notHere : name ≠ "."
  notUp : name ≠ ".."

theorem Ordinary.proper (ordinary : Ordinary name) : Proper name :=
  ⟨ordinary.notEmpty, ordinary.notHere, ordinary.notUp⟩

/-- The last part of a path is looked up where the parts before it lead. -/
theorem advance_snoc (rooted : t.Rooted) (directory : t.node? here = some .directory) :
    t.advance follow here (parts ++ [name]) =
      match t.advance true here parts with
      | .found at' =>
        if t.node? at' = some .directory then t.advance follow at' [name] else .failed .notDirectory
      | .vacant .. => .failed .noEntry
      | .link dir target rest => .link dir target (rest ++ [name])
      | .failed e => .failed e := by
  induction parts generalizing here with
  | nil =>
    rw [advance.eq_def t true]
    simp only [List.nil_append, if_pos directory]
  | cons part rest ih =>
    rw [List.cons_append, advance, advance]
    have more : (rest ++ [name]).isEmpty = false := by simp
    by_cases still : (part = "" || part = ".") = true
    · rw [if_pos still, if_pos still]
      exact ih directory
    rw [if_neg still, if_neg still]
    by_cases up : part = ".."
    · rw [if_pos up, if_pos up]
      exact ih (rooted.parent directory)
    rw [if_neg up, if_neg up]
    by_cases long : nameLimit < part.utf8ByteSize
    · rw [if_pos long, if_pos long]
    rw [if_neg long, if_neg long]
    dsimp only
    cases node : t.node? (here ++ [part]) with
    | none => cases rest <;> rfl
    | some n =>
      cases n with
      | directory => exact ih node
      | link target => simp [more]
      | file content executable => cases rest <;> simp [node]

def Stop.Grounded (t : FileTree) : Stop → Prop
  | .found at' => t.node? at' ≠ none
  | .vacant dir name => t.node? dir = some .directory ∧ t.node? (dir ++ [name]) = none
  | .link dir _ _ => t.node? dir = some .directory
  | .failed _ => True

theorem grounded_advance (rooted : t.Rooted) (directory : t.node? here = some .directory) :
    (t.advance follow here parts).Grounded t := by
  induction parts generalizing here with
  | nil => simp [advance, Stop.Grounded, directory]
  | cons part rest ih =>
    rw [advance]
    split
    · exact ih directory
    split
    · exact ih (rooted.parent directory)
    split
    · trivial
    dsimp only
    cases node : t.node? (here ++ [part]) with
    | none => cases rest <;> simp [Stop.Grounded, directory, node]
    | some n =>
      cases n with
      | directory => exact ih node
      | link target =>
        dsimp only
        split
        · simp [Stop.Grounded, node]
        · exact directory
      | file content executable => cases rest <;> simp [Stop.Grounded, node]

def entry (t : FileTree) (at' : Location) (name : String) : Except Errno Place :=
  if nameLimit < name.utf8ByteSize then .error .nameTooLong
  else if t.node? (at' ++ [name]) = none then .ok (.vacant at' name)
  else .ok (.found (at' ++ [name]))

theorem advance_single (proper : Proper name) :
    t.advance follow at' [name] =
      if nameLimit < name.utf8ByteSize then .failed .nameTooLong
      else
        match t.node? (at' ++ [name]) with
        | none => .vacant at' name
        | some (.link target) => if follow then .link at' target [] else .found (at' ++ [name])
        | some _ => .found (at' ++ [name]) := by
  have named : ¬ (name = "" || name = ".") = true := by simp [proper.notEmpty, proper.notHere]
  rw [advance, if_neg named, if_neg proper.notUp]
  split
  · rfl
  · dsimp only
    cases node : t.node? (at' ++ [name]) with
    | none => rfl
    | some n => cases n <;> cases follow <;> rfl

section
variable {links : Nat} {dir : Location} {target : String} {rest : List String}

theorem findFrom_of_found (stop : t.advance follow here parts = .found at') :
    t.findFrom follow links here parts = .ok (.found at') := by
  unfold findFrom
  rw [stop]

theorem findFrom_of_vacant (stop : t.advance follow here parts = .vacant dir name) :
    t.findFrom follow links here parts = .ok (.vacant dir name) := by
  unfold findFrom
  rw [stop]

theorem findFrom_of_failed {e : Errno} (stop : t.advance follow here parts = .failed e) :
    t.findFrom follow links here parts = .error e := by
  unfold findFrom
  rw [stop]

theorem findFrom_zero_of_link (stop : t.advance follow here parts = .link dir target rest) :
    t.findFrom follow 0 here parts = .error .linkLoop := by
  rw [findFrom, stop]

theorem findFrom_succ_of_link (stop : t.advance follow here parts = .link dir target rest) :
    t.findFrom follow (links + 1) here parts =
      t.findFrom follow links (if (Path.parse target).isAbsolute then [] else dir)
        (targetParts target ++ rest) := by
  rw [findFrom, stop]

theorem findFrom_congr {there : Location} {others : List String}
    (same : t.advance follow here parts = t.advance follow there others) :
    t.findFrom follow links here parts = t.findFrom follow links there others := by
  unfold findFrom
  rw [same]

theorem findFrom_single (proper : Proper name)
    (plain : follow = true → ∀ target, t.node? (at' ++ [name]) ≠ some (.link target)) :
    t.findFrom follow links at' [name] = t.entry at' name := by
  have single : t.advance follow at' [name] = _ := advance_single proper
  rw [entry]
  split
  · next long =>
    rw [if_pos long] at single
    exact findFrom_of_failed single
  · next short =>
    rw [if_neg short] at single
    cases node : t.node? (at' ++ [name]) with
    | none =>
      rw [node] at single
      exact findFrom_of_vacant single
    | some n =>
      rw [node] at single
      cases n with
      | file | directory => exact findFrom_of_found single
      | link target =>
        cases follow with
        | false => exact findFrom_of_found single
        | true => exact absurd node (plain rfl target)

/-- The entry of a directory is looked up where the path above it leads. -/
theorem findFrom_snoc (rooted : t.Rooted) (proper : Proper name) (links : Nat) {here : Location}
    {parts : List String} (directory : t.node? here = some .directory)
    (plain : follow = true → ∀ at', t.findFrom true links here parts = .ok (.found at') →
      ∀ target, t.node? (at' ++ [name]) ≠ some (.link target)) :
    t.findFrom follow links here (parts ++ [name]) =
      match t.findFrom true links here parts with
      | .ok (.found at') =>
        if t.node? at' = some .directory then t.entry at' name else .error .notDirectory
      | .ok (.vacant ..) => .error .noEntry
      | .error e => .error e := by
  have further : t.advance follow here (parts ++ [name]) = _ := advance_snoc rooted directory
  cases stop : t.advance true here parts with
  | found at' =>
    rw [stop] at further
    have found : t.findFrom true links here parts = .ok (.found at') := findFrom_of_found stop
    rw [found]
    dsimp only at further ⊢
    split at further
    · next inside =>
      rw [if_pos inside, findFrom_congr further, findFrom_single proper fun follows => plain follows _ found]
    · next outside =>
      rw [if_neg outside, findFrom_of_failed further]
  | vacant dir free =>
    rw [stop] at further
    rw [findFrom_of_vacant stop, findFrom_of_failed further]
  | failed e =>
    rw [stop] at further
    rw [findFrom_of_failed stop, findFrom_of_failed further]
  | link dir target rest =>
    rw [stop] at further
    cases links with
    | zero => rw [findFrom_zero_of_link stop, findFrom_zero_of_link further]
    | succ links =>
      rw [findFrom_succ_of_link stop] at plain ⊢
      rw [findFrom_succ_of_link further, ← List.append_assoc]
      refine findFrom_snoc rooted proper links ?_ plain
      split
      · rfl
      · have grounded : (t.advance true here parts).Grounded t := grounded_advance rooted directory
        rw [stop] at grounded
        exact grounded

end

/-! ## Entries of directories -/

def Place.Grounded (t : FileTree) : Place → Prop
  | .found at' => t.node? at' ≠ none
  | .vacant dir name => t.node? dir = some .directory ∧ t.node? (dir ++ [name]) = none

theorem grounded_findFrom (rooted : t.Rooted) (links : Nat) {here : Location} {parts : List String}
    {place : Place} (directory : t.node? here = some .directory)
    (found : t.findFrom follow links here parts = .ok place) : place.Grounded t := by
  have grounded : (t.advance follow here parts).Grounded t := grounded_advance rooted directory
  cases stop : t.advance follow here parts with
  | found at' =>
    rw [findFrom_of_found stop] at found
    cases found
    rwa [stop] at grounded
  | vacant dir free =>
    rw [findFrom_of_vacant stop] at found
    cases found
    rwa [stop] at grounded
  | failed e =>
    rw [findFrom_of_failed stop] at found
    cases found
  | link dir target rest =>
    cases links with
    | zero =>
      rw [findFrom_zero_of_link stop] at found
      cases found
    | succ links =>
      rw [findFrom_succ_of_link stop] at found
      refine grounded_findFrom rooted links ?_ found
      split
      · rfl
      · rwa [stop] at grounded

/-- The place of an entry, as far as the path above it leads to a directory. -/
theorem find_child {p : Path} (rooted : t.Rooted) (proper : Proper name)
    (plain : follow = true → ∀ at', t.stat p = .ok (at', .directory) →
      ∀ target, t.node? (at' ++ [name]) ≠ some (.link target)) :
    t.find follow (p.child name) =
      match t.stat p with
      | .ok (at', .directory) => t.entry at' name
      | .ok _ => .error .notDirectory
      | .error e => .error e := by
  have plain' (follows : follow = true) (at' : Location)
      (found : t.findFrom true linkLimit [] p.parts = .ok (.found at')) (target : String) :
      t.node? (at' ++ [name]) ≠ some (.link target) := by
    intro linked
    refine plain follows at' ?_ target linked
    rw [stat, find, found]
    dsimp only
    rw [rooted at' name _ linked]
  have found : t.findFrom follow linkLimit [] (p.parts ++ [name]) = _ :=
    findFrom_snoc rooted proper linkLimit rfl plain'
  unfold find Path.child stat find
  rw [found]
  cases place : t.findFrom true linkLimit [] p.parts with
  | error e => rfl
  | ok place' =>
    have grounded := grounded_findFrom rooted linkLimit rfl place
    cases place' with
    | vacant dir free => rfl
    | found at' =>
      dsimp only
      cases node : t.node? at' with
      | none => exact absurd node grounded
      | some n => cases n <;> simp

theorem find_entry {p : Path} (rooted : t.Rooted) (proper : Proper name)
    (found : t.stat p = .ok (at', .directory)) : t.find false (p.child name) = t.entry at' name := by
  have place : t.find false (p.child name) = _ := find_child rooted proper nofun
  rw [place, found]

theorem makeDirectory_child {p : Path} (rooted : t.Rooted) (proper : Proper name) :
    t.makeDirectory (p.child name) = .ok u ↔
      ∃ at', t.stat p = .ok (at', .directory) ∧ name.utf8ByteSize ≤ nameLimit ∧
        t.node? (at' ++ [name]) = none ∧ u = t.set (at' ++ [name]) .directory := by
  have place : t.find false (p.child name) = _ := find_child rooted proper nofun
  rw [makeDirectory, place]
  cases stat : t.stat p with
  | error e => simp
  | ok there =>
    obtain ⟨at', n⟩ := there
    cases n with
    | file | link => simp
    | directory =>
      by_cases long : nameLimit < name.utf8ByteSize
      · simp [entry, long, Nat.not_le.2 long]
      · cases node : t.node? (at' ++ [name]) <;>
          simp [entry, long, Nat.not_lt.1 long, node, eq_comm]

theorem find_child_of_free {p : Path} (rooted : t.Rooted) (ordinary : Ordinary name)
    (found : t.stat p = .ok (at', .directory)) (free : t.node? (at' ++ [name]) = none) :
    t.find true (p.child name) = .ok (.vacant at' name) := by
  have plain (_ : true = true) (dir : Location) (same : t.stat p = .ok (dir, .directory))
      (target : String) : t.node? (dir ++ [name]) ≠ some (.link target) := by
    cases found.symm.trans same
    rw [free]
    nofun
  rw [find_child rooted ordinary.proper plain, found]
  dsimp only
  rw [entry, if_neg (Nat.not_lt.2 ordinary.short), if_pos free]

theorem stat_child_of_free {p : Path} (rooted : t.Rooted) (ordinary : Ordinary name)
    (found : t.stat p = .ok (at', .directory)) (free : t.node? (at' ++ [name]) = none) :
    t.stat (p.child name) = .error .noEntry := by
  rw [stat, find_child_of_free rooted ordinary found free]

theorem write_child {p : Path} {content : Text.Utf8.Bytes} (rooted : t.Rooted)
    (ordinary : Ordinary name) (found : t.stat p = .ok (at', .directory))
    (free : t.node? (at' ++ [name]) = none) :
    t.write (p.child name) content = .ok (t.set (at' ++ [name]) (.file content false)) := by
  rw [write, find_child_of_free rooted ordinary found free]

/-! ## Names that are taken -/

theorem mem_children {node : Node} :
    (name, node) ∈ t.children at' ↔ (at' ++ [name], node) ∈ t.nodes := by
  rw [children, List.mem_filterMap]
  constructor
  · rintro ⟨⟨l, n⟩, member, found⟩
    dsimp only at found
    split at found
    · next inner =>
      cases found
      rw [Path.dropParts?_eq_some_iff] at inner
      exact inner ▸ member
    · cases found
  · intro member
    refine ⟨_, member, ?_⟩
    dsimp only
    rw [Path.dropParts?_eq_some_iff.2 rfl]

theorem mem_of_lookup {nodes : List (Location × Node)} {n : Node} (found : lookup at' nodes = some n) :
    (at', n) ∈ nodes := by
  induction nodes with
  | nil => cases found
  | cons e rest ih =>
    obtain ⟨l, m⟩ := e
    rw [lookup] at found
    split at found
    · next here =>
      cases found
      exact here ▸ List.mem_cons_self
    · exact List.mem_cons_of_mem _ (ih found)

theorem lookup_ne_none {nodes : List (Location × Node)} {n : Node} (member : (at', n) ∈ nodes) :
    lookup at' nodes ≠ none := by
  induction nodes with
  | nil => cases member
  | cons e rest ih =>
    obtain ⟨l, m⟩ := e
    rw [lookup]
    split
    · exact Option.some_ne_none _
    · next other =>
      rcases List.mem_cons.1 member with same | later
      · cases same
        exact absurd rfl other
      · exact ih later

theorem mem_of_node? {n : Node} (below : at' ≠ []) (found : t.node? at' = some n) :
    (at', n) ∈ t.nodes := by
  rw [node?, if_neg below] at found
  exact mem_of_lookup found

theorem mem_map_fst_children :
    name ∈ (t.children at').map Prod.fst ↔ t.node? (at' ++ [name]) ≠ none := by
  have below : at' ++ [name] ≠ [] := by simp
  rw [List.mem_map]
  constructor
  · rintro ⟨⟨_, n⟩, member, rfl⟩
    rw [node?, if_neg below]
    exact lookup_ne_none (mem_children.1 member)
  · intro there
    obtain ⟨n, found⟩ := Option.ne_none_iff_exists'.1 there
    exact ⟨(name, n), mem_children.2 (mem_of_node? below found), rfl⟩

/-! ## Trees given by their nodes -/

theorem rooted_of_nodes (each : ∀ m ∈ t.nodes, t.node? m.1.dropLast = some .directory) : t.Rooted := by
  intro at' name n found
  have directory := each _ (mem_of_node? (by simp) found)
  rwa [List.dropLast_concat] at directory

theorem extends_of_nodes (each : ∀ m ∈ t.nodes, u.node? m.1 = some m.2) : Extends u t := by
  intro at' n found
  by_cases root : at' = []
  · subst root
    exact found
  · exact each _ (mem_of_node? root found)

end ParserHost.FileTree
