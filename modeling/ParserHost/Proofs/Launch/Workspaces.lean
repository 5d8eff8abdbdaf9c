import Mathlib.Algebra.Group.Nat.Defs
import Mathlib.Data.List.Nodup
import Mathlib.Data.List.Perm.Subperm
import ParserHost.Launch.Workspace
import ParserHost.Proofs.Files.Entries
import ParserHost.Proofs.Text.Utf8

/-!
# Workspaces in a file tree

Entering a workspace adds two directories under a name that was free (`enter_eq_ok`), or only one if the
path of the other is too long (`Entering`). Leaving it takes away a directory that lies there
(`node?_leave`). In between, its request file can be written (`writeRequest_of_short`), and what is done
in it is `Confined`.
-/

namespace ParserHost.Workspace

open FileTree

variable {way t u : FileTree} {base : Path} {w : Workspace} {at' dir l : Location} {name other : String}

/-! ## Names in use -/

theorem utf8ByteSize_of_ascii {cs : List Char} (ascii : ∀ c ∈ cs, c.utf8Size = 1) :
    (String.ofList cs).utf8ByteSize = cs.length := by
  induction cs with
  | nil => rfl
  | cons c cs ih =>
    obtain ⟨first, others⟩ := List.forall_mem_cons.1 ascii
    rw [String.ofList_cons, String.utf8ByteSize_append, String.utf8ByteSize_singleton, ih others, first,
      List.length_cons, Nat.add_comm]

theorem utf8ByteSize_numbered (places k : Nat) : (numbered places k).utf8ByteSize = places + 5 := by
  rw [numbered, utf8ByteSize_of_ascii]
  · simp
  · have digits : ∀ c ∈ (List.range places).map fun i => if k.testBit i then '1' else '0',
        c.utf8Size = 1 := by
      simp only [List.forall_mem_map]
      intro i _
      split <;> rfl
    simp only [List.forall_mem_cons]
    exact ⟨rfl, rfl, rfl, rfl, rfl, digits⟩

theorem ordinary_numbered {places k : Nat} (short : places ≤ numberRoom) : Ordinary (numbered places k) := by
  have starts : (numbered places k).toList.head? = some 'r' := by simp [numbered]
  refine ⟨?_, ?_, ?_, ?_⟩
  case refine_4 =>
    rw [utf8ByteSize_numbered, nameLimit]
    exact Nat.le_trans (Nat.add_le_add_right short 5) (by decide)
  all_goals
    intro same
    rw [same] at starts
    revert starts
    decide

theorem numbered_inj {places i j : Nat} (small : i < 2 ^ places) (small' : j < 2 ^ places)
    (same : numbered places i = numbered places j) : i = j := by
  refine Nat.eq_of_testBit_eq fun place => ?_
  by_cases there : place < places
  · simp only [numbered, String.ofList_inj, List.cons.injEq, true_and] at same
    have digit := List.map_inj_left.1 same place (List.mem_range.2 there)
    cases first : i.testBit place <;> cases second : j.testBit place <;> simp_all
  · have large : 2 ^ places ≤ 2 ^ place := Nat.pow_le_pow_right (by decide) (Nat.not_lt.1 there)
    rw [Nat.testBit_lt_two_pow (Nat.lt_of_lt_of_le small large),
      Nat.testBit_lt_two_pow (Nat.lt_of_lt_of_le small' large)]

theorem length_le_longest {names : List String} (member : name ∈ names) : name.length ≤ longest names := by
  induction names with
  | nil => cases member
  | cons first rest ih =>
    rcases List.mem_cons.1 member with rfl | later
    · exact Nat.le_max_left ..
    · exact Nat.le_trans (ih later) (Nat.le_max_right ..)

/-- One of the names with small numbers is free: the first of them is longer than all names in use, or
else there are more of them than names in use. -/
theorem exists_numbered_not_mem {names : List String} (few : names.length < 2 ^ numberRoom) :
    ∃ k ≤ names.length, numbered (min (longest names) numberRoom) k ∉ names := by
  by_cases short : longest names ≤ numberRoom
  · refine ⟨0, Nat.zero_le _, fun member => ?_⟩
    have length := length_le_longest member
    rw [Nat.min_eq_left short, numbered, String.length_ofList] at length
    simp only [List.length_cons, List.length_map, List.length_range] at length
    omega
  · rw [Nat.min_eq_right (Nat.le_of_not_le short)]
    by_contra taken
    simp only [not_exists, not_and, not_not] at taken
    have below (k : Nat) (member : k ∈ List.range (names.length + 1)) : k ≤ names.length :=
      Nat.lt_succ_iff.1 (List.mem_range.1 member)
    have distinct : ((List.range (names.length + 1)).map (numbered numberRoom)).Nodup :=
      List.nodup_range.map_on fun i first j second =>
        numbered_inj (Nat.lt_of_le_of_lt (below i first) few) (Nat.lt_of_le_of_lt (below j second) few)
    have used : (List.range (names.length + 1)).map (numbered numberRoom) ⊆ names := by
      intro name member
      obtain ⟨k, small, rfl⟩ := List.mem_map.1 member
      exact taken k (below k small)
    have fewer := (distinct.subperm used).length_le
    rw [List.length_map, List.length_range] at fewer
    exact Nat.not_succ_le_self _ fewer

theorem freshName_eq_numbered (names : List String) :
    ∃ k, freshName names = numbered (min (longest names) numberRoom) k := by
  rw [freshName]
  cases found : List.find? _ _ with
  | none => exact ⟨0, rfl⟩
  | some name =>
    obtain ⟨k, -, rfl⟩ := List.mem_map.1 (List.mem_of_find?_eq_some found)
    exact ⟨k, rfl⟩

/-- The name of a new workspace can be one, and it is none of those in use. -/
theorem ordinary_freshName (names : List String) : Ordinary (freshName names) := by
  obtain ⟨k, same⟩ := freshName_eq_numbered names
  rw [same]
  exact ordinary_numbered (Nat.min_le_right ..)

theorem freshName_not_mem {names : List String} (few : names.length < 2 ^ numberRoom) :
    freshName names ∉ names := by
  obtain ⟨k, small, free⟩ := exists_numbered_not_mem few
  rw [freshName]
  cases found : List.find? _ _ with
  | none =>
    have taken := List.find?_eq_none.1 found _
      (List.mem_map.2 ⟨k, List.mem_range.2 (Nat.lt_succ_iff.2 small), rfl⟩)
    simp [free] at taken
  | some name => simpa using List.find?_some found

theorem mem_namesIn (found : t.stat base = .ok (at', .directory)) :
    name ∈ namesIn t base ↔ t.node? (at' ++ [name]) ≠ none := by
  rw [namesIn, found]
  exact mem_map_fst_children

/-! ## Entering -/

theorem asked_of_long {α : Type} {p : Path} {answer : Except Errno α} (long : isTooLong p = true) :
    asked p answer = .error .nameTooLong :=
  if_pos long

theorem asked_of_short {α : Type} {p : Path} {answer : Except Errno α} (short : isTooLong p = false) :
    asked p answer = answer :=
  if_neg (Bool.eq_false_iff.1 short)

theorem asked_eq_ok {α : Type} {p : Path} {answer : Except Errno α} {a : α} :
    asked p answer = .ok a ↔ isTooLong p = false ∧ answer = .ok a := by
  cases length : isTooLong p with
  | true => simp [asked_of_long length]
  | false => simp [asked_of_short length]

theorem text_child (p : Path) : ∃ start, ∀ name, (p.child name).text = start ++ name := by
  have joined (parts : List String) : ∃ start, ∀ name, Text.join "/" (parts ++ [name]) = start ++ name := by
    induction parts with
    | nil => exact ⟨"", fun name => by simp [Text.join]⟩
    | cons part rest ih =>
      obtain ⟨start, ih⟩ := ih
      refine ⟨part ++ "/" ++ start, fun name => ?_⟩
      rw [String.append_assoc, ← ih name, Text.join, Text.join]
      cases rest with
      | nil => simp [String.append_assoc]
      | cons next rest => simp [String.intercalate_cons_cons, String.append_assoc]
  obtain ⟨root, parts⟩ := p
  obtain ⟨start, joined⟩ := joined parts
  refine ⟨Path.rootText root ++ start, fun name => ?_⟩
  rw [String.append_assoc, ← joined name]
  cases root <;> cases parts <;> rfl

/-- A path is not too long if another one, with a longer name in the same place, is not. -/
theorem isTooLong_child {p : Path} {short long : String} (shorter : short.utf8ByteSize ≤ long.utf8ByteSize)
    (fits : isTooLong (p.child long) = false) : isTooLong (p.child short) = false := by
  obtain ⟨start, text⟩ := text_child p
  simp only [isTooLong, text, String.utf8ByteSize_append, decide_eq_false_iff_not, Nat.not_lt] at fits ⊢
  omega

theorem ordinary_outputDirName : Ordinary outputDirName :=
  ⟨by decide, by decide, by decide, by decide⟩

theorem ordinary_requestFileName : Ordinary requestFileName :=
  ⟨by decide, by decide, by decide, by decide⟩

def opened (t : FileTree) (root : Location) : FileTree :=
  (t.set root .directory).set (root ++ [outputDirName]) .directory

def made (whole : Bool) (t : FileTree) (root : Location) : FileTree :=
  if whole then opened t root else t.set root .directory

structure Opens (t : FileTree) (base : Path) (at' : Location) (name : String) : Prop where
  rooted : t.Rooted
  base : t.stat base = .ok (at', .directory)
  ordinary : Ordinary name
  free : t.node? (at' ++ [name]) = none

theorem Opens.parent (opens : Opens t base at' name) : t.node? at' = some .directory :=
  (find_of_stat opens.base).2

theorem Opens.extends_root (opens : Opens t base at' name) :
    Extends (t.set (at' ++ [name]) .directory) t :=
  extends_set opens.free

theorem Opens.free_output (opens : Opens t base at' name) (entry : String) :
    (t.set (at' ++ [name]) .directory).node? (at' ++ [name] ++ [entry]) = none := by
  rw [node?_set_of_ne (ne_append_singleton _ entry).symm]
  exact opens.rooted.none_below opens.free [entry]

theorem Opens.rooted_root (opens : Opens t base at' name) : (t.set (at' ++ [name]) .directory).Rooted :=
  opens.rooted.set opens.parent opens.free

theorem Opens.extends_made (opens : Opens t base at' name) (whole : Bool) :
    Extends (made whole t (at' ++ [name])) t := by
  cases whole with
  | false => exact opens.extends_root
  | true =>
    intro l n found
    exact extends_set (opens.free_output outputDirName) _ _ (opens.extends_root _ _ found)

theorem node?_made_root (whole : Bool) (t : FileTree) (at' : Location) (name : String) :
    (made whole t (at' ++ [name])).node? (at' ++ [name]) = some .directory := by
  have root : (t.set (at' ++ [name]) .directory).node? (at' ++ [name]) = some .directory :=
    node?_set_self (by simp) _
  cases whole with
  | false => exact root
  | true =>
    rw [made, if_pos rfl, opened, node?_set_of_ne (ne_append_singleton _ _)]
    exact root

theorem Opens.rooted_made (opens : Opens t base at' name) (whole : Bool) :
    (made whole t (at' ++ [name])).Rooted := by
  cases whole with
  | false => exact opens.rooted_root
  | true =>
    refine opens.rooted_root.set ?_ (opens.free_output _)
    rw [node?_set_self (by simp)]

theorem node?_made {whole : Bool} (outside : ¬ within (at' ++ [name]) l = true) :
    (made whole t (at' ++ [name])).node? l = t.node? l := by
  have notRoot : l ≠ at' ++ [name] := by
    rintro rfl
    exact outside (within_self _)
  have notOutput : l ≠ at' ++ [name] ++ [outputDirName] := by
    rintro rfl
    exact outside (within_append _ _)
  cases whole with
  | false => exact node?_set_of_ne notRoot _
  | true => rw [made, if_pos rfl, opened, node?_set_of_ne notOutput, node?_set_of_ne notRoot]

theorem Opens.free_request (opens : Opens t base at' name) (whole : Bool) :
    (made whole t (at' ++ [name])).node? (at' ++ [name] ++ [requestFileName]) = none := by
  have apart : at' ++ [name] ++ [requestFileName] ≠ at' ++ [name] ++ [outputDirName] := by
    intro same
    have names := (List.append_inj' same rfl).2
    revert names
    decide
  cases whole with
  | false => exact opens.free_output _
  | true => rw [made, if_pos rfl, opened, node?_set_of_ne apart, opens.free_output]

def halfMade (base : Path) (t : FileTree) (at' : Location) (name : String) : HalfMade :=
  ⟨.system ⟨.nameTooLong, ((base.child name).child outputDirName).text⟩, ⟨base, some (base.child name)⟩,
    made false t (at' ++ [name])⟩

inductive Entering (t : FileTree) (base : Path) (name : String) :
    Except HalfMade (Workspace × FileTree) → Prop
  | refused {f : Fault} : Entering t base name (.error ⟨f, ⟨base, none⟩, t⟩)
  | half {at' : Location} (opens : Opens t base at' name) (root : isTooLong (base.child name) = false)
    (output : isTooLong ((base.child name).child outputDirName) = true) :
    Entering t base name (.error (halfMade base t at' name))
  | whole {at' : Location} (opens : Opens t base at' name) (root : isTooLong (base.child name) = false)
    (output : isTooLong ((base.child name).child outputDirName) = false) :
    Entering t base name (.ok (⟨base, some (base.child name)⟩, opened t (at' ++ [name])))

theorem makeDirectory_output (opens : Opens t base at' name) :
    (t.set (at' ++ [name]) .directory).makeDirectory ((base.child name).child outputDirName) =
      .ok (opened t (at' ++ [name])) := by
  have inside := stat_child opens.ordinary (stat_of_extends opens.extends_root opens.base)
    (node?_set_self (by simp) _) nofun
  exact (makeDirectory_child opens.rooted_root ordinary_outputDirName.proper).2
    ⟨_, inside, ordinary_outputDirName.short, opens.free_output _, rfl⟩

theorem makeDirectory_root (opens : Opens t base at' name) :
    t.makeDirectory (base.child name) = .ok (t.set (at' ++ [name]) .directory) :=
  (makeDirectory_child opens.rooted opens.ordinary.proper).2
    ⟨at', opens.base, opens.ordinary.short, opens.free, rfl⟩

theorem enterAs_of_long (long : isTooLong (w.base.child name) = true) :
    w.enterAs name t = .error ⟨.system ⟨.nameTooLong, (w.base.child name).text⟩, w, t⟩ := by
  simp only [enterAs, asked_of_long long]

theorem enterAs_of_half (opens : Opens t w.base at' name) (root : isTooLong (w.base.child name) = false)
    (output : isTooLong ((w.base.child name).child outputDirName) = true) :
    w.enterAs name t = .error (halfMade w.base t at' name) := by
  simp only [enterAs, asked_of_short root, makeDirectory_root opens, asked_of_long output]
  rfl

theorem enterAs_of_whole (opens : Opens t w.base at' name) (root : isTooLong (w.base.child name) = false)
    (output : isTooLong ((w.base.child name).child outputDirName) = false) :
    w.enterAs name t = .ok (⟨w.base, some (w.base.child name)⟩, opened t (at' ++ [name])) := by
  simp only [enterAs, asked_of_short root, makeDirectory_root opens, asked_of_short output,
    makeDirectory_output opens]

theorem entering (rooted : t.Rooted) (proper : Proper name) :
    Entering t base name ((mk base none).enterAs name t) := by
  cases first : asked (base.child name) (t.makeDirectory (base.child name)) with
  | error e =>
    simp only [enterAs, first]
    exact .refused
  | ok t₁ =>
    obtain ⟨root, made⟩ := asked_eq_ok.1 first
    obtain ⟨at', found, short, free, -⟩ := (makeDirectory_child rooted proper).1 made
    have opens : Opens t base at' name :=
      ⟨rooted, found, ⟨proper.notEmpty, proper.notHere, proper.notUp, short⟩, free⟩
    cases output : isTooLong ((base.child name).child outputDirName) with
    | true =>
      rw [enterAs_of_half (w := ⟨base, none⟩) opens root output]
      exact .half opens root output
    | false =>
      rw [enterAs_of_whole (w := ⟨base, none⟩) opens root output]
      exact .whole opens root output

theorem entering_enter (rooted : t.Rooted) :
    Entering t base (freshName (namesIn t base)) ((mk base none).enter t) :=
  entering rooted (ordinary_freshName _).proper

theorem enter_eq_ok (rooted : t.Rooted) :
    (mk base none).enter t = .ok (w, u) ↔
      ∃ at' name, name = freshName (namesIn t base) ∧ Opens t base at' name ∧
        isTooLong (base.child name) = false ∧ isTooLong ((base.child name).child outputDirName) = false ∧
        w = ⟨base, some (base.child name)⟩ ∧ u = opened t (at' ++ [name]) := by
  constructor
  · intro entered
    have ways : Entering t base _ _ := entering_enter rooted
    rw [entered] at ways
    cases ways with
    | whole opens root output => exact ⟨_, _, rfl, opens, root, output, rfl, rfl⟩
  · rintro ⟨at', name, rfl, opens, root, output, rfl, rfl⟩
    exact enterAs_of_whole opens root output

/-! ## A deep directory -/

def deepParts : List String :=
  List.replicate 16 (String.ofList (List.replicate 254 'd'))

def deep : Path := Path.absolute deepParts

def deepTree : FileTree :=
  ⟨(List.range 16).map fun n => (deepParts.take (n + 1), .directory)⟩

theorem opens_deep (ordinary : Ordinary name) : Opens deepTree deep deepParts name where
  rooted := rooted_of_nodes (by decide +kernel)
  base := by decide +kernel
  ordinary := ordinary
  free := by
    have leaf : ∀ m ∈ deepTree.nodes, m.1.length ≤ deepParts.length := by decide +kernel
    cases node : deepTree.node? (deepParts ++ [name]) with
    | none => rfl
    | some n =>
      have longer := leaf _ (mem_of_node? (by simp) node)
      rw [List.length_append, List.length_singleton] at longer
      exact absurd longer (Nat.not_succ_le_self _)

/-! ## Writing the request -/

def landed (codes : List Nat) : Text.Utf8.Bytes :=
  (Text.Utf8.encodeCodes codes).toOption.getD []

def taken (codes : List Nat) : Except Fault Unit :=
  ((Text.Utf8.encodeCodes codes).mapError .notEncodable).map fun _ => ()

structure Sits (w : Workspace) (t : FileTree) (at' : Location) (name : String) : Prop where
  base : t.stat w.base = .ok (at', .directory)
  root : w.root = some (w.base.child name)
  ordinary : Ordinary name

theorem Opens.sits (opens : Opens t base at' name) (whole : Bool) :
    Sits ⟨base, some (base.child name)⟩ (made whole t (at' ++ [name])) at' name :=
  ⟨stat_of_extends (opens.extends_made whole) opens.base, rfl, opens.ordinary⟩

theorem Sits.requestFile (sits : w.Sits t at' name) :
    w.requestFile = .ok ((w.base.child name).child requestFileName) := by
  simp only [Workspace.requestFile, activeRoot, sits.root, Except.map]

theorem writeRequest_of_long {file : Path} {codes : List Nat} (active : w.requestFile = .ok file)
    (long : isTooLong file = true) :
    w.writeRequest codes t = (.error (.system ⟨.nameTooLong, file.text⟩), t) := by
  simp only [writeRequest, active, asked_of_long long]

theorem writeRequest_of_short {file : Path} {codes : List Nat} (active : w.requestFile = .ok file)
    (short : isTooLong file = false) (written : t.write file (landed codes) = .ok u) :
    w.writeRequest codes t = (taken codes, u) := by
  rw [landed] at written
  simp only [writeRequest, active, asked_of_short short, written]
  rfl

theorem write_of_free {content : Text.Utf8.Bytes} (rooted : t.Rooted) (sits : w.Sits t at' name)
    (root : t.node? (at' ++ [name]) = some .directory)
    (free : t.node? (at' ++ [name] ++ [requestFileName]) = none) :
    t.write ((w.base.child name).child requestFileName) content =
      .ok (t.set (at' ++ [name] ++ [requestFileName]) (.file content false)) :=
  write_child rooted ordinary_requestFileName (stat_child sits.ordinary sits.base root nofun) free

/-- A text is written as it is, in a workspace that has all of its directories. -/
theorem writeRequest_of_free {text : String} (rooted : t.Rooted) (sits : w.Sits t at' name)
    (root : t.node? (at' ++ [name]) = some .directory)
    (free : t.node? (at' ++ [name] ++ [requestFileName]) = none)
    (output : isTooLong ((w.base.child name).child outputDirName) = false) :
    w.writeRequest (text.toList.map Char.toNat) t =
      (.ok (), t.set (at' ++ [name] ++ [requestFileName]) (.file (Text.Utf8.encode text) false)) := by
  have short : isTooLong ((w.base.child name).child requestFileName) = false :=
    isTooLong_child (by decide) output
  have content : landed (text.toList.map Char.toNat) = Text.Utf8.encode text := by
    rw [landed, Text.Utf8.encodeCodes_toNat]
    rfl
  rw [writeRequest_of_short sits.requestFile short (write_of_free rooted sits root free), taken, content,
    Text.Utf8.encodeCodes_toNat]
  rfl

/-! ## Leaving -/

theorem find_root (rooted : t.Rooted) (sits : w.Sits t at' name) :
    t.find false (w.base.child name) =
      .ok (if t.node? (at' ++ [name]) = none then .vacant at' name else .found (at' ++ [name])) := by
  have place : t.find false (w.base.child name) = _ := find_entry rooted sits.ordinary.proper sits.base
  rw [place, entry, if_neg (Nat.not_lt.2 sits.ordinary.short)]
  split <;> rfl

/-- Leaving takes away a directory, and nothing else that may lie in its place. -/
theorem leave_eq (rooted : t.Rooted) (sits : w.Sits t at' name) : (w.leave t).2 =
    if t.node? (at' ++ [name]) = some .directory then t.remove (at' ++ [name]) else t := by
  have place := find_root rooted sits
  simp only [leave, sits.root, removeTree]
  rw [place]
  cases node : t.node? (at' ++ [name]) with
  | none => rfl
  | some n =>
    rw [if_neg nofun]
    dsimp only
    rw [node]
    cases n <;> rfl

theorem node?_leave (rooted : t.Rooted) (sits : w.Sits t at' name)
    (outside : ¬ within (at' ++ [name]) l = true) : (w.leave t).2.node? l = t.node? l := by
  rw [leave_eq rooted sits]
  split
  · by_cases top : l = []
    · rw [top]
      rfl
    · rw [node?_remove top, if_neg outside]
  · rfl

theorem node?_leave_root (rooted : t.Rooted) (sits : w.Sits t at' name) :
    (w.leave t).2.node? (at' ++ [name]) =
      if t.node? (at' ++ [name]) = some .directory then none else t.node? (at' ++ [name]) := by
  rw [leave_eq rooted sits]
  split
  · rw [node?_remove (by simp), if_pos (within_self _)]
  · rfl

theorem rooted_leave (rooted : t.Rooted) (sits : w.Sits t at' name) : (w.leave t).2.Rooted := by
  rw [leave_eq rooted sits]
  split
  · exact rooted.remove _
  · exact rooted

def remains (w : Workspace) (t : FileTree) : Bool :=
  match w.root.map (t.find false) with
  | some (.ok (.found _)) => true
  | _ => false

theorem remains_iff (rooted : t.Rooted) (sits : w.Sits t at' name) :
    w.remains t = true ↔ t.node? (at' ++ [name]) ≠ none := by
  rw [remains, sits.root, Option.map_some, find_root rooted sits]
  cases node : t.node? (at' ++ [name]) <;> simp

/-! ## Changes inside a workspace -/

/-- What changes in a directory is one of its entries, and what leads to the directory stays. -/
structure Confined (way : FileTree) (at' : Location) (name : String) (t u : FileTree) : Prop where
  rooted : u.Rooted
  way : u.Extends way
  apart : ∀ l, within at' l = true → ¬ within (at' ++ [name]) l = true → u.node? l = t.node? l

theorem Confined.refl (rooted : t.Rooted) (stays : t.Extends way) : Confined way at' name t t :=
  ⟨rooted, stays, fun _ _ _ => rfl⟩

theorem Confined.trans {v : FileTree} (first : Confined way at' name t u) (second : Confined way at' name u v) :
    Confined way at' name t v :=
  ⟨second.rooted, second.way, fun l inside outside =>
    (second.apart l inside outside).trans (first.apart l inside outside)⟩

theorem confined_made (stays : t.Extends way) (opens : Opens t base at' name) (whole : Bool) :
    Confined way at' name t (made whole t (at' ++ [name])) where
  rooted := opens.rooted_made whole
  way l n found := opens.extends_made whole l n (stays l n found)
  apart _ _ outside := node?_made outside

theorem confined_set {node : Node} {entry : String} (rooted : t.Rooted) (stays : t.Extends way)
    (inside : within (at' ++ [name]) dir = true) (directory : t.node? dir = some .directory)
    (free : t.node? (dir ++ [entry]) = none) :
    Confined way at' name t (t.set (dir ++ [entry]) node) := by
  obtain ⟨more, rfl⟩ := within_iff.1 inside
  refine ⟨rooted.set directory free, fun l n found => ?_, fun l _ outside => ?_⟩
  · exact extends_set free l n (stays l n found)
  · refine node?_set_of_ne ?_ node
    rintro rfl
    rw [List.append_assoc (at' ++ [name])] at outside
    exact outside (within_append _ _)

theorem confined_leave (rooted : t.Rooted) (stays : t.Extends way)
    (clear : ∀ l, within (at' ++ [name]) l = true → way.node? l = none) (sits : w.Sits t at' name) :
    Confined way at' name t (w.leave t).2 where
  rooted := rooted_leave rooted sits
  way l n found := by
    have outside : ¬ within (at' ++ [name]) l = true := by
      intro below
      rw [clear l below] at found
      cases found
    rw [node?_leave rooted sits outside]
    exact stays l n found
  apart l _ outside := node?_leave rooted sits outside

theorem node?_of_confined (confined : Confined way at' name t u)
    (different : other ≠ name) (below : within (at' ++ [other]) l = true) : u.node? l = t.node? l :=
  confined.apart l (within_parent below) fun under => different (eq_of_within below under)

def name? (w : Workspace) : Option String :=
  w.root.map Path.name

@[simp] theorem name?_child (base : Path) (name : String) :
    name? ⟨base, some (base.child name)⟩ = some name := by
  simp [name?, Path.name, Path.child]

end ParserHost.Workspace
