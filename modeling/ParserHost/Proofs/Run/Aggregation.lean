import Mathlib.Data.List.Nodup
import Mathlib.Data.List.Sort
import ParserHost.Proofs.Files.Entries
import ParserHost.Proofs.Json.Reading
import ParserHost.Proofs.Run.Faults
import ParserHost.Proofs.Text.Lines
import ParserHost.Proofs.Text.Utf8

/-!
# Directories of modules

The modules of a directory are its visible files. What they hold is put end to end, in the order of
their names, unless one of them does not decode: the first such module is named in the refusal, except
where its text goes beyond a limit of the reader and ends in a fault (`aggregation_law`). Neither the
order in which the system lists the entries (`grown_of_perm`) nor hidden entries and subdirectories
(`grown_set`) make a difference.
-/

namespace ParserHost.Modules

open List (Forall₂)

variable {t u : FileTree} {mode : Mode} {directory file : Path} {at' : Location}

/-! ## Entries -/

theorem mem_entries {name : String} (once : (t.nodes.map Prod.fst).Nodup)
    (found : t.stat directory = .ok (at', .directory)) :
    name ∈ entries t directory ↔ ∃ node, t.node? (at' ++ [name]) = some node := by
  have below : at' ++ [name] ≠ [] := by simp
  simp only [entries, found, FileTree.node?, if_neg below, FileTree.lookup_eq_some_iff once,
    ← FileTree.mem_children, List.mem_map, Prod.exists, exists_and_right, exists_eq_right]

def heldName? (at' l : Location) : Option String :=
  match Path.dropParts? at' l with
  | some [name] => some name
  | _ => none

theorem eq_of_heldName? {l : Location} {name : String} (held : heldName? at' l = some name) :
    l = at' ++ [name] := by
  unfold heldName? at held
  split at held
  · next inner =>
    cases held
    exact Path.dropParts?_eq_some_iff.1 inner
  · cases held

theorem map_fst_children : (t.children at').map Prod.fst =
    (t.nodes.map Prod.fst).filterMap (heldName? at') := by
  rw [FileTree.children, List.map_filterMap, List.filterMap_map]
  refine List.filterMap_congr fun m _ => ?_
  obtain ⟨l, node⟩ := m
  rw [Function.comp_apply, heldName?]
  dsimp only
  cases Path.dropParts? at' l with
  | none => rfl
  | some inner =>
    rcases inner with _ | ⟨name, _ | ⟨part, rest⟩⟩
    · rfl
    · rfl
    · rfl

theorem nodup_entries (once : (t.nodes.map Prod.fst).Nodup) : (entries t directory).Nodup := by
  unfold entries
  split
  · rw [map_fst_children]
    refine once.filterMap fun l l' name one other => ?_
    rw [eq_of_heldName? one, eq_of_heldName? other]
  · exact List.nodup_nil

/-- A directory of modules: its entries are files, directories, and links to them. -/
structure ModuleDirectory (t : FileTree) (directory : Path) : Prop where
  once : (t.nodes.map Prod.fst).Nodup
  isDirectory : ∃ at', t.stat directory = .ok (at', .directory)
  leads : ∀ n ∈ entries t directory, ∃ there, t.stat (directory.child n) = .ok there

def isModule (t : FileTree) (directory : Path) (name : String) : Bool :=
  !isHidden name && t.isFile (directory.child name)

theorem unanswered?_of_stat {p : Path} {there : Location × Node} (found : t.stat p = .ok there) :
    t.unanswered? p = none := by
  rw [FileTree.unanswered?, found]

theorem names_of_directory (modules : ModuleDirectory t directory) :
    names t directory = .ok (((entries t directory).filter (isModule t directory)).mergeSort nameLe) := by
  have answered : (directory :: (entries t directory).map directory.child).findSome?
      t.unanswered? = none := by
    rw [List.findSome?_eq_none_iff]
    intro p member
    rcases List.mem_cons.1 member with rfl | member
    · obtain ⟨at', found⟩ := modules.isDirectory
      exact unanswered?_of_stat found
    · obtain ⟨n, entry, rfl⟩ := List.mem_map.1 member
      obtain ⟨there, found⟩ := modules.leads n entry
      exact unanswered?_of_stat found
  simp only [names, answered]
  rfl

structure Enumerated (t : FileTree) (directory : Path) (files : List String) : Prop where
  increasing : files.Pairwise (· < ·)
  exact : ∀ n, n ∈ files ↔ n ∈ entries t directory ∧ isModule t directory n = true

theorem enumerated_of_names {files : List String} (modules : ModuleDirectory t directory)
    (listed : names t directory = .ok files) : Enumerated t directory files := by
  obtain ⟨sorted, visible⟩ := listed_of_names listed
  have once : files.Nodup := visible.nodup_iff.2 ((nodup_entries modules.once).filter _)
  refine ⟨?_, fun n => ?_⟩
  · refine (sorted.and once).imp fun ⟨le, different⟩ => ?_
    exact Std.lt_of_le_of_ne le different
  · rw [visible.mem_iff, List.mem_filter]
    rfl

theorem Enumerated.unique {files files' : List String} (one : Enumerated t directory files)
    (other : Enumerated u directory files')
    (same : ∀ n, (n ∈ entries t directory ∧ isModule t directory n = true) ↔
      (n ∈ entries u directory ∧ isModule u directory n = true)) : files = files' := by
  refine one.increasing.eq_of_mem_iff other.increasing fun n => ?_
  rw [one.exact, other.exact, same]

/-! ## More entries -/

structure Grown (u t : FileTree) (directory : Path) : Prop where
  modules : ModuleDirectory u directory
  keeps : u.Extends t
  added : ∀ n ∈ entries u directory, n ∈ entries t directory ∨ isHidden n = true ∨
    ∃ there, u.stat (directory.child n) = .ok (there, .directory)

theorem stat_of_grown (modules : ModuleDirectory t directory) (grown : Grown u t directory)
    {name : String} (entry : name ∈ entries t directory) :
    u.stat (directory.child name) = t.stat (directory.child name) := by
  obtain ⟨there, found⟩ := modules.leads name entry
  rw [FileTree.stat_of_extends grown.keeps found, found]

theorem entries_of_extends (modules : ModuleDirectory t directory)
    (once : (u.nodes.map Prod.fst).Nodup) (keeps : u.Extends t) :
    entries t directory ⊆ entries u directory := by
  obtain ⟨at', found⟩ := modules.isDirectory
  intro n entry
  obtain ⟨node, here⟩ := (mem_entries modules.once found).1 entry
  exact (mem_entries once (FileTree.stat_of_extends keeps found)).2 ⟨node, keeps _ _ here⟩

theorem isModule_of_stat {name : String}
    (same : u.stat (directory.child name) = t.stat (directory.child name)) :
    isModule u directory name = isModule t directory name := by
  rw [isModule, isModule, FileTree.isFile, FileTree.isFile, same]

theorem isModule_of_directory {name : String} {there : Location}
    (found : t.stat (directory.child name) = .ok (there, .directory)) :
    isModule t directory name = false := by
  rw [isModule, FileTree.isFile, found, Bool.and_false, Bool.and_false]

theorem same_modules (modules : ModuleDirectory t directory) (grown : Grown u t directory)
    (n : String) : (n ∈ entries t directory ∧ isModule t directory n = true) ↔
      (n ∈ entries u directory ∧ isModule u directory n = true) := by
  constructor
  · rintro ⟨entry, isModule⟩
    refine ⟨entries_of_extends modules grown.modules.once grown.keeps entry, ?_⟩
    rw [isModule_of_stat (stat_of_grown modules grown entry), isModule]
  · rintro ⟨entry, module⟩
    rcases grown.added n entry with old | hidden | ⟨there, found⟩
    · rw [isModule_of_stat (stat_of_grown modules grown old)] at module
      exact ⟨old, module⟩
    · rw [isModule, hidden] at module
      cases module
    · rw [isModule_of_directory found] at module
      cases module

theorem parts_of_read (same : u.read file = t.read file) : parts u mode file = parts t mode file := by
  rw [parts, parts, load, load, same]

theorem sum_congr {files : List String} (same : ∀ n ∈ files,
      parts u mode (directory.child n) = parts t mode (directory.child n)) :
    sum u mode directory files = sum t mode directory files := by
  induction files with
  | nil => rfl
  | cons n rest ih =>
    rw [sum, sum, same n List.mem_cons_self, ih fun m member => same m (List.mem_cons_of_mem _ member)]

theorem aggregate_of_names {files : List String} (listed : names t directory = .ok files) :
    aggregate t directory mode =
      (sum t mode directory files).map fun p => ⟨payload mode p, files⟩ := by
  rw [aggregate, listed]
  rfl

theorem aggregate_of_grown (modules : ModuleDirectory t directory)
    (grown : Grown u t directory) : aggregate u directory mode = aggregate t directory mode := by
  have listed := names_of_directory modules
  have listed' := names_of_directory grown.modules
  have enumerated := enumerated_of_names modules listed
  have files := enumerated.unique (enumerated_of_names grown.modules listed')
    (same_modules modules grown)
  rw [← files] at listed'
  rw [aggregate_of_names listed, aggregate_of_names listed']
  -- Both list the same modules, and each is read where its name leads.
  congr 1
  refine sum_congr fun n member => parts_of_read ?_
  rw [FileTree.read, FileTree.read, stat_of_grown modules grown ((enumerated.exact n).1 member).1]

/-- The order in which the system lists entries makes no difference to them. -/
theorem grown_of_perm (modules : ModuleDirectory t directory) (same : u.nodes.Perm t.nodes) :
    Grown u t directory := by
  have once : (u.nodes.map Prod.fst).Nodup := (same.map Prod.fst).nodup_iff.2 modules.once
  have keeps := FileTree.extends_of_perm modules.once same
  have kept := FileTree.extends_of_perm once same.symm
  obtain ⟨at', found⟩ := modules.isDirectory
  have found' := FileTree.stat_of_extends keeps found
  have entry {n : String} (member : n ∈ entries u directory) : n ∈ entries t directory := by
    obtain ⟨node, here⟩ := (mem_entries once found').1 member
    exact (mem_entries modules.once found).2 ⟨node, kept _ _ here⟩
  refine ⟨⟨once, ⟨at', found'⟩, fun n member => ?_⟩, keeps, fun n member => .inl (entry member)⟩
  obtain ⟨there, leads⟩ := modules.leads n (entry member)
  exact ⟨there, FileTree.stat_of_extends keeps leads⟩

structure Aside (t : FileTree) (directory : Path) (at' : Location) (name : String) (node : Node) :
    Prop where
  place : t.stat directory = .ok (at', .directory)
  ordinary : FileTree.Ordinary name
  new : t.node? (at' ++ [name]) = none
  noModule : node = .directory ∨ isHidden name = true ∧ ∃ content executable,
    node = .file content executable

theorem Aside.leads {name : String} {node : Node} (aside : Aside t directory at' name node) :
    (t.set (at' ++ [name]) node).stat (directory.child name) = .ok (at' ++ [name], node) := by
  have keeps : (t.set (at' ++ [name]) node).Extends t := FileTree.extends_set aside.new
  have below : at' ++ [name] ≠ [] := by simp
  have placed : (t.set (at' ++ [name]) node).node? (at' ++ [name]) = some node :=
    FileTree.node?_set_self below node
  refine FileTree.stat_child aside.ordinary (FileTree.stat_of_extends keeps aside.place) placed
    fun target same => ?_
  rcases aside.noModule with rfl | ⟨-, content, executable, rfl⟩ <;> cases same

/-- A new entry that is no module makes no difference either. -/
theorem grown_set {name : String} {node : Node} (modules : ModuleDirectory t directory)
    (aside : Aside t directory at' name node) :
    Grown (t.set (at' ++ [name]) node) t directory := by
  have once : ((t.set (at' ++ [name]) node).nodes.map Prod.fst).Nodup :=
    FileTree.nodup_set modules.once
  have keeps : (t.set (at' ++ [name]) node).Extends t := FileTree.extends_set aside.new
  have found := FileTree.stat_of_extends keeps aside.place
  have old {n : String} (entry : n ∈ entries (t.set (at' ++ [name]) node) directory)
      (other : n ≠ name) : n ∈ entries t directory := by
    obtain ⟨node', here⟩ := (mem_entries once found).1 entry
    have different : at' ++ [n] ≠ at' ++ [name] := by simpa using other
    rw [FileTree.node?_set_of_ne different] at here
    exact (mem_entries modules.once aside.place).2 ⟨node', here⟩
  refine ⟨⟨once, ⟨at', found⟩, fun n entry => ?_⟩, keeps, fun n entry => ?_⟩
  · by_cases same : n = name
    · rw [same]
      exact ⟨_, aside.leads⟩
    · obtain ⟨there, leads⟩ := modules.leads n (old entry same)
      exact ⟨there, FileTree.stat_of_extends keeps leads⟩
  · by_cases same : n = name
    · rw [same]
      rcases aside.noModule with rfl | ⟨hidden, -⟩
      · exact .inr (.inr ⟨_, aside.leads⟩)
      · exact .inr (.inl hidden)
    · exact .inl (old entry same)

/-! ## Sums -/

/-- The list that a field of an object holds; one that is not there counts as empty. -/
inductive Field (key : String) (e : Json.Entries) : List Json → Prop
  | list {vs} (found : Json.get? key e = some (.arr vs)) : Field key e vs
  | absent (missing : Json.get? key e = none) : Field key e []

structure Decodes (t : FileTree) (mode : Mode) (file : Path) (p : Parts) : Prop where
  object : ∃ bytes text e, t.read file = .ok bytes ∧ Text.Utf8.decode bytes = .ok text ∧
    Json.read (Text.unifyNewlines text) = .ok (.obj e) ∧
    Field (resultKey mode) e p.results ∧ Field messagesKey e p.messages

theorem items_eq_ok {key : String} {e : Json.Entries} {vs : List Json} :
    items file key e = .ok vs ↔ Field key e vs := by
  unfold items
  constructor
  · intro taken
    split at taken
    · next missing =>
      cases taken
      exact .absent missing
    · next found =>
      cases taken
      exact .list found
    · cases taken
  · intro field
    cases field with
    | list found => rw [found]
    | absent missing => rw [missing]

theorem load_eq_ok {e : Json.Entries} : load t file = .ok e ↔ ∃ bytes text,
    t.read file = .ok bytes ∧ Text.Utf8.decode bytes = .ok text ∧
      Json.read (Text.unifyNewlines text) = .ok (.obj e) := by
  unfold load
  cases read : t.read file with
  | error err => simp
  | ok bytes =>
    dsimp only
    cases decoded : Text.Utf8.decode bytes with
    | error fault => simp [decoded]
    | ok text =>
      dsimp only
      unfold ofText
      constructor
      · intro loaded
        split at loaded
        · cases loaded
        · cases loaded
        · next e' parsed =>
          cases loaded
          exact ⟨bytes, text, rfl, decoded, parsed⟩
        · cases loaded
      · rintro ⟨_, _, ⟨⟩, same, parsed⟩
        cases decoded.symm.trans same
        rw [parsed]

theorem parts_eq_ok {p : Parts} : parts t mode file = .ok p ↔ Decodes t mode file p := by
  constructor
  · intro taken
    obtain ⟨e, loaded, taken⟩ := bind_eq_ok.1 taken
    obtain ⟨results, first, taken⟩ := bind_eq_ok.1 taken
    obtain ⟨messages, second, same⟩ := bind_eq_ok.1 taken
    cases same
    obtain ⟨bytes, text, read, decoded, parsed⟩ := load_eq_ok.1 loaded
    exact ⟨bytes, text, e, read, decoded, parsed, items_eq_ok.1 first, items_eq_ok.1 second⟩
  · rintro ⟨bytes, text, e, read, decoded, parsed, results, messages⟩
    refine bind_eq_ok.2 ⟨e, load_eq_ok.2 ⟨bytes, text, read, decoded, parsed⟩, ?_⟩
    refine bind_eq_ok.2 ⟨_, items_eq_ok.2 results, ?_⟩
    exact bind_eq_ok.2 ⟨_, items_eq_ok.2 messages, rfl⟩

/-- Where a module is not taken up, the refusal names its file, or a limit of the reader stops it. -/
theorem parts_eq_error {f : Failure} (refused : parts t mode file = .error f) :
    (∃ reason, f = .run (.malformedModule file reason)) ∨ ∃ limit, f = .fault (.beyond limit) := by
  have field {key : String} {fields : Json.Entries} (failed : items file key fields = .error f) :
      ∃ reason, f = .run (.malformedModule file reason) := by
    unfold items at failed
    split at failed <;> cases failed
    exact ⟨_, rfl⟩
  rcases bind_eq_error.1 refused with failed | ⟨fields, -, refused⟩
  · unfold load ofText at failed
    split at failed
    · cases failed
      exact .inl ⟨_, rfl⟩
    · split at failed
      · cases failed
        exact .inl ⟨_, rfl⟩
      · split at failed <;> cases failed
        · exact .inr ⟨_, rfl⟩
        · exact .inl ⟨_, rfl⟩
        · exact .inl ⟨_, rfl⟩
  · rcases bind_eq_error.1 refused with failed | ⟨results, -, refused⟩
    · exact .inl (field failed)
    · rcases bind_eq_error.1 refused with failed | ⟨messages, -, refused⟩
      · exact .inl (field failed)
      · cases refused

theorem sum_eq_ok {files : List String} {ps : List Parts}
    (each : Forall₂ (fun n p => Decodes t mode (directory.child n) p) files ps) :
    sum t mode directory files = .ok ⟨ps.flatMap Parts.results, ps.flatMap Parts.messages⟩ := by
  induction each with
  | nil => rfl
  | cons first rest ih =>
    rw [sum, parts_eq_ok.2 first, ih]
    rfl

theorem sum_eq_error {before after : List String} {n : String} {f : Failure}
    (good : ∀ m ∈ before, ∃ p, Decodes t mode (directory.child m) p)
    (refused : parts t mode (directory.child n) = .error f) :
    sum t mode directory (before ++ n :: after) = .error f := by
  induction before with
  | nil =>
    rw [List.nil_append, sum, refused]
    rfl
  | cons m rest ih =>
    obtain ⟨p, decodes⟩ := good m List.mem_cons_self
    rw [List.cons_append, sum, parts_eq_ok.2 decodes,
      ih fun m' member => good m' (List.mem_cons_of_mem _ member)]
    rfl

/-! ## The law -/

/-- The modules of a directory are read in strictly increasing order of their names. If all of them
decode, their results and messages are put end to end; otherwise the first that does not is named in
the refusal, exactly if its text is within the limits of the reader. Neither the order of the listing
nor hidden entries nor subdirectories make a difference. -/
theorem aggregation_law (modules : ModuleDirectory t directory) :
    ∃ files, Enumerated t directory files ∧
      (∀ ps, Forall₂ (fun n p => Decodes t mode (directory.child n) p) files ps →
        aggregate t directory mode =
          .ok ⟨payload mode ⟨ps.flatMap Parts.results, ps.flatMap Parts.messages⟩, files⟩) ∧
      (∀ before n after, files = before ++ n :: after →
        (∀ m ∈ before, ∃ p, Decodes t mode (directory.child m) p) →
        (¬ ∃ p, Decodes t mode (directory.child n) p) →
          ((∃ reason, aggregate t directory mode =
            .error (.run (.malformedModule (directory.child n) reason))) ↔
              ¬ Oversized t (directory.child n)) ∧
          ((∃ limit, aggregate t directory mode = .error (.fault (.beyond limit))) ↔
              Oversized t (directory.child n))) ∧
      ∀ u, u.nodes.Perm t.nodes ∨ Grown u t directory ∨
          (∃ at' name node, Aside t directory at' name node ∧ u = t.set (at' ++ [name]) node) →
        aggregate u directory mode = aggregate t directory mode := by
  have listed := names_of_directory modules
  refine ⟨_, enumerated_of_names modules listed, fun ps each => ?_,
    fun before n after split good bad => ?_, fun u same => ?_⟩
  · rw [aggregate_of_names listed, sum_eq_ok each]
    rfl
  · obtain ⟨f, refused⟩ : ∃ f, parts t mode (directory.child n) = .error f := by
      cases taken : parts t mode (directory.child n) with
      | ok p => exact absurd ⟨p, parts_eq_ok.1 taken⟩ bad
      | error f => exact ⟨f, rfl⟩
    have failed : aggregate t directory mode = .error f := by
      rw [aggregate_of_names listed, split, sum_eq_error good refused]
      rfl
    have stopped : (∃ f, parts t mode (directory.child n) = .error (.fault f)) ↔
        Oversized t (directory.child n) := parts_fault_iff
    rw [failed, ← stopped, refused]
    rcases parts_eq_error refused with ⟨reason, rfl⟩ | ⟨limit, rfl⟩
    · simp
    · simp
  · rcases same with listing | grown | ⟨at', name, node, aside, rfl⟩
    · exact aggregate_of_grown modules (grown_of_perm modules listing)
    · exact aggregate_of_grown modules grown
    · exact aggregate_of_grown modules (grown_set modules aside)

def assorted : FileTree :=
  ⟨[(["out"], .directory),
    (["out", "b.json"], .file (Text.Utf8.encode "\x7b\"docs\": [2], \"messages\": [3]\x7d") false),
    (["out", "sub"], .directory),
    (["out", "c.json"], .link "a.json"),
    (["out", ".seen"], .file [0xff] false),
    (["out", "a.json"], .file (Text.Utf8.encode "\x7b\"docs\": [1]\x7d") false)]⟩

theorem moduleDirectory_assorted : ModuleDirectory assorted (.absolute ["out"]) := by
  have leads : ∀ n ∈ entries assorted (.absolute ["out"]),
      (assorted.stat ((Path.absolute ["out"]).child n)).toOption.isSome = true := by
    decide +kernel
  refine ⟨by decide, ⟨["out"], by decide +kernel⟩, fun n entry => ?_⟩
  obtain ⟨there, found⟩ := Option.isSome_iff_exists.1 (leads n entry)
  exact ⟨there, toOption_eq_some.1 found⟩

theorem enumerated_assorted :
    Enumerated assorted (.absolute ["out"]) ["a.json", "b.json", "c.json"] := by
  have visible : (entries assorted (.absolute ["out"])).filter
      (isModule assorted (.absolute ["out"])) = ["b.json", "c.json", "a.json"] := by
    decide +kernel
  refine ⟨by decide, fun n => ?_⟩
  rw [← List.mem_filter, visible]
  simp only [List.mem_cons, List.not_mem_nil, or_false]
  tauto

theorem aggregation_law_of_assorted :
    ModuleDirectory assorted (.absolute ["out"]) ∧
      (∃ p, aggregate assorted (.absolute ["out"]) .parse =
        .ok ⟨payload .parse p, ["a.json", "b.json", "c.json"]⟩ ∧
          p.results.length = 3 ∧ p.messages.length = 1) ∧
      ∀ u, u.nodes.Perm assorted.nodes → aggregate u (.absolute ["out"]) .parse =
        aggregate assorted (.absolute ["out"]) .parse := by
  obtain ⟨files, enumerated, sums, -, same⟩ :=
    @aggregation_law assorted .parse _ moduleDirectory_assorted
  cases enumerated.unique enumerated_assorted fun _ => Iff.rfl
  have read : ["a.json", "b.json", "c.json"].map (fun n =>
      (parts assorted .parse ((Path.absolute ["out"]).child n)).toOption.map fun p =>
        (p.results.length, p.messages.length)) = [some (1, 0), some (1, 1), some (1, 0)] := by
    decide +kernel
  simp only [List.map_cons, List.map_nil, List.cons.injEq, and_true, Option.map_eq_some_iff,
    toOption_eq_some, Prod.mk.injEq] at read
  obtain ⟨⟨a, first, counts⟩, ⟨b, second, counts'⟩, ⟨c, third, counts''⟩⟩ := read
  have summed := sums [a, b, c] (.cons (parts_eq_ok.1 first)
    (.cons (parts_eq_ok.1 second) (.cons (parts_eq_ok.1 third) .nil)))
  refine ⟨moduleDirectory_assorted, ⟨_, summed, ?_, ?_⟩, fun u listing => same u (.inl listing)⟩
  · simp [counts.1, counts'.1, counts''.1]
  · simp [counts.2, counts'.2, counts''.2]

def sole (text : String) : FileTree :=
  ⟨[(["out"], .directory), (["out", "a.json"], .file (Text.Utf8.encode text) false)]⟩

theorem moduleDirectory_sole (text : String) : ModuleDirectory (sole text) (.absolute ["out"]) := by
  refine ⟨?_, ⟨["out"], rfl⟩, fun n entry => ?_⟩
  · change [["out"], ["out", "a.json"]].Nodup
    decide
  · have only : entries (sole text) (.absolute ["out"]) = ["a.json"] := rfl
    rw [only, List.mem_singleton] at entry
    subst entry
    exact ⟨_, rfl⟩

theorem names_sole (text : String) : names (sole text) (.absolute ["out"]) = .ok ["a.json"] := by
  have only : entries (sole text) (.absolute ["out"]) = ["a.json"] := rfl
  have visible : isModule (sole text) (.absolute ["out"]) "a.json" = true := rfl
  rw [names_of_directory (moduleDirectory_sole text), only, List.filter_cons_of_pos visible,
    List.filter_nil, List.mergeSort_singleton]

def brackets (n : Nat) : String :=
  String.ofList (List.replicate n '[' ++ List.replicate n ']')

theorem mem_brackets {n : Nat} {c : Char} (member : c ∈ (brackets n).toList) : c = '[' ∨ c = ']' := by
  rw [brackets, String.toList_ofList] at member
  rcases List.mem_append.1 member with member | member
  · exact .inl (List.eq_of_mem_replicate member)
  · exact .inr (List.eq_of_mem_replicate member)

theorem oversized_brackets {n : Nat} (deep : Json.lenient.depth < n) :
    Oversized (sole (brackets n)) (.absolute ["out", "a.json"]) := by
  have decoded := Text.Utf8.decode_encode (brackets n)
  have noReturn : '\r' ∉ (brackets n).toList := by
    intro member
    rcases mem_brackets member with same | same <;> cases same
  refine ⟨_, _, rfl, decoded, ?_⟩
  obtain ⟨left, beyond⟩ := Json.read_of_brackets deep (List.replicate n ']')
  rw [Text.unifyNewlines_eq noReturn]
  exact ⟨_, left, beyond⟩

theorem brackets_fault {n : Nat} (deep : Json.lenient.depth < n) :
    ∃ f, aggregate (sole (brackets n)) (.absolute ["out"]) .parse = .error (.fault f) := by
  obtain ⟨f, failed⟩ : ∃ f, sum (sole (brackets n)) .parse (.absolute ["out"]) ["a.json"] =
      .error (.fault f) :=
    sum_fault_iff.2 ⟨[], "a.json", [], rfl, by simp, oversized_brackets deep⟩
  refine ⟨f, ?_⟩
  rw [aggregate_of_names (names_sole _), failed]
  rfl

/-- A well-formed text escapes as a fault that names no file, because it nests too deep. -/
theorem brackets_escape :
    ModuleDirectory (sole (brackets 5000)) (.absolute ["out"]) ∧
      names (sole (brackets 5000)) (.absolute ["out"]) = .ok ["a.json"] ∧
      ∃ f, aggregate (sole (brackets 5000)) (.absolute ["out"]) .parse = .error (.fault f) :=
  ⟨moduleDirectory_sole _, names_sole _, brackets_fault (by decide)⟩

end ParserHost.Modules
