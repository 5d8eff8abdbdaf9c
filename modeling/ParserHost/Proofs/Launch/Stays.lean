import Mathlib.Data.List.Induction
import Mathlib.Logic.Function.Basic
import ParserHost.Proofs.Files.Writing
import ParserHost.Proofs.Launch.Workspaces

/-!
# Stays in workspaces

A stay is the time from entering a workspace to leaving it. What was done with a workspace tells whether it is
in a stay (`after_eq_some_iff`), and the stay tells what lies in its directory (`Furnished`).
-/

namespace ParserHost.Workspace

open FileTree

/-! ## Uses of workspaces -/

inductive Use where
  | enter (name : String)
  | leave
  | cleanup
  /-- Writes a text, given by its code points. -/
  | write (codes : List Nat)
  | root
  | requestFile
  | outputDir
  deriving DecidableEq, Repr

abbrev Reply := Except Fault (Option Path)

def perform (w : Workspace) (t : FileTree) : Use → Reply × Workspace × FileTree
  | .enter name =>
    match w.enterAs name t with
    | .ok (w, t) => (.ok none, w, t)
    | .error half => (.error half.fault, half.workspace, half.tree)
  | .leave | .cleanup => (.ok none, w.leave t)
  | .write codes =>
    let done := w.writeRequest codes t
    (done.1.bind fun _ => w.requestFile.map some, w, done.2)
  | .root => (w.activeRoot.map some, w, t)
  | .requestFile => (w.requestFile.map some, w, t)
  | .outputDir => (w.outputDir.map some, w, t)

theorem perform_enter {w w' : Workspace} {t u : FileTree} {name : String}
    (entered : w.enterAs name t = .ok (w', u)) : w.perform t (.enter name) = (.ok none, w', u) := by
  rw [perform, entered]

theorem perform_enter_of_error {w : Workspace} {t : FileTree} {name : String} {half : HalfMade}
    (refused : w.enterAs name t = .error half) :
    w.perform t (.enter name) = (.error half.fault, half.workspace, half.tree) := by
  rw [perform, refused]

structure Quarters (ι : Type) where
  tree : FileTree
  space : ι → Workspace

section
variable {ι : Type} [DecidableEq ι]

namespace Quarters

def perform (q : Quarters ι) (i : ι) (use : Use) : Reply × Quarters ι :=
  let (reply, w, t) := (q.space i).perform q.tree use
  (reply, ⟨t, Function.update q.space i w⟩)

def after (q : Quarters ι) : List (ι × Use) → Quarters ι
  | [] => q
  | (i, use) :: rest => after (q.perform i use).2 rest

def replies (q : Quarters ι) (i : ι) : List (ι × Use) → List Reply
  | [] => []
  | (j, use) :: rest =>
    let (reply, q) := q.perform j use
    if j = i then reply :: replies q i rest else replies q i rest

/-- A workspace is entered only while it is not active, and under a name that is not in use. -/
def Permits (q : Quarters ι) (i : ι) (use : Use) : Prop :=
  ∀ name, use = .enter name →
    (q.space i).root = none ∧ Ordinary name ∧ name ∉ namesIn q.tree (q.space i).base

def Allowed (q : Quarters ι) : List (ι × Use) → Prop
  | [] => True
  | (i, use) :: rest => q.Permits i use ∧ Allowed (q.perform i use).2 rest

end Quarters

def alone (i : ι) (steps : List (ι × Use)) : List (ι × Use) :=
  steps.filter fun step => step.1 = i

def own (i : ι) (steps : List (ι × Use)) : List Use :=
  (alone i steps).map Prod.snd

end

/-! ## Histories -/

structure Stay where
  name : String
  /-- Whether there is a directory for output too. -/
  whole : Bool
  written : Option Text.Utf8.Bytes
  deriving DecidableEq, Repr

def admitted (p : Path) : Except Fault Unit :=
  if isTooLong p then .error (.system ⟨.nameTooLong, p.text⟩) else .ok ()

theorem admitted_of_long {p : Path} (long : isTooLong p = true) :
    admitted p = .error (.system ⟨.nameTooLong, p.text⟩) :=
  if_pos long

theorem admitted_of_short {p : Path} (short : isTooLong p = false) : admitted p = .ok () :=
  if_neg (Bool.eq_false_iff.1 short)

namespace Stay

def begun (base : Path) (name : String) : Option Stay :=
  if isTooLong (base.child name) then none
  else some ⟨name, !isTooLong ((base.child name).child outputDirName), none⟩

def rewritten (base : Path) (codes : List Nat) (s : Stay) : Stay :=
  if isTooLong ((base.child s.name).child requestFileName) then s
  else { s with written := some (landed codes) }

def next (base : Path) (stay : Option Stay) : Use → Option Stay
  | .enter name => begun base name
  | .leave | .cleanup => none
  | .write codes => stay.map (rewritten base codes)
  | .root | .requestFile | .outputDir => stay

def after (base : Path) (stay : Option Stay) (uses : List Use) : Option Stay :=
  uses.foldl (next base) stay

def space (base : Path) (stay : Option Stay) : Workspace :=
  ⟨base, stay.map fun s => base.child s.name⟩

def reply (base : Path) (stay : Option Stay) : Use → Reply
  | .enter name => do
    admitted (base.child name)
    admitted ((base.child name).child outputDirName)
    return none
  | .leave | .cleanup => .ok none
  | .write codes => do
    let file ← (space base stay).requestFile
    admitted file
    taken codes
    return some file
  | .root => (space base stay).activeRoot.map some
  | .requestFile => (space base stay).requestFile.map some
  | .outputDir => (space base stay).outputDir.map some

def replies (base : Path) (stay : Option Stay) : List Use → List Reply
  | [] => []
  | use :: rest => reply base stay use :: replies base (next base stay use) rest

def content (s : Stay) : Location → Option Node
  | [] => some .directory
  | [entry] =>
    if entry = outputDirName then if s.whole then some .directory else none
    else if entry = requestFileName then s.written.map fun bytes => .file bytes false
    else none
  | _ => none

end Stay

/-! ## Since a workspace was entered -/

def Use.inner : Use → Bool
  | .write _ | .root | .requestFile | .outputDir => true
  | .enter _ | .leave | .cleanup => false

def Use.written? : Use → Option (List Nat)
  | .write codes => some codes
  | _ => none

def lastWritten (uses : List Use) : Option (List Nat) :=
  (uses.filterMap Use.written?).getLast?

def requestAfter (base : Path) (name : String) (later : List Use) : Option Text.Utf8.Bytes :=
  if isTooLong ((base.child name).child requestFileName) then none
  else (lastWritten later).map landed

def Since (uses : List Use) (name : String) (later : List Use) : Prop :=
  (∃ before, uses = before ++ .enter name :: later) ∧ ∀ use ∈ later, use.inner = true

theorem since_concat {uses later : List Use} {use : Use} {name : String} : Since (uses ++ [use]) name later ↔
    use = .enter name ∧ later = [] ∨
      use.inner = true ∧ ∃ earlier, later = earlier ++ [use] ∧ Since uses name earlier := by
  constructor
  · rintro ⟨⟨before, same⟩, quiet⟩
    rcases List.eq_nil_or_concat later with rfl | ⟨earlier, last, rfl⟩
    · obtain ⟨-, last⟩ := List.append_inj' same rfl
      exact .inl ⟨List.singleton_inj.1 last, rfl⟩
    · rw [List.concat_eq_append, ← List.cons_append, ← List.append_assoc] at same
      obtain ⟨first, last⟩ := List.append_inj' same rfl
      obtain rfl := List.singleton_inj.1 last
      rw [List.concat_eq_append] at quiet ⊢
      obtain ⟨quiet, still⟩ := List.forall_mem_append.1 quiet
      exact .inr ⟨still _ (List.mem_singleton_self _), earlier, rfl, ⟨before, first⟩, quiet⟩
  · rintro (⟨rfl, rfl⟩ | ⟨still, earlier, rfl, ⟨before, rfl⟩, quiet⟩)
    · exact ⟨⟨uses, rfl⟩, nofun⟩
    · refine ⟨⟨before, by simp⟩, List.forall_mem_append.2 ⟨quiet, ?_⟩⟩
      simpa using still

theorem lastWritten_concat (uses : List Use) (use : Use) : lastWritten (uses ++ [use]) =
    match use.written? with
    | some text => some text
    | none => lastWritten uses := by
  cases written : use.written? <;> simp [lastWritten, written]

theorem requestAfter_concat (base : Path) (name : String) (later : List Use) (codes : List Nat) :
    requestAfter base name (later ++ [.write codes]) =
      if isTooLong ((base.child name).child requestFileName) then none else some (landed codes) := by
  rw [requestAfter, lastWritten_concat]
  rfl

theorem requestAfter_concat_of_quiet {use : Use} (quiet : use.written? = none) (base : Path)
    (name : String) (later : List Use) :
    requestAfter base name (later ++ [use]) = requestAfter base name later := by
  rw [requestAfter, lastWritten_concat, quiet, requestAfter]

def Stay.since (base : Path) (name : String) (later : List Use) : Stay :=
  ⟨name, !isTooLong ((base.child name).child outputDirName), requestAfter base name later⟩

theorem rewritten_since (base : Path) (name : String) (later : List Use) (codes : List Nat) :
    (Stay.since base name later).rewritten base codes =
      Stay.since base name (later ++ [.write codes]) := by
  rw [Stay.since, Stay.since, requestAfter_concat, Stay.rewritten]
  cases length : isTooLong ((base.child name).child requestFileName) with
  | true => simp only [requestAfter, length, if_true]
  | false => simp only [Bool.false_eq_true, if_false]

/-- A workspace is in a stay from an entering to the next leaving, if the system takes its path. -/
theorem after_eq_some_iff {base : Path} {uses : List Use} {s : Stay} : Stay.after base none uses = some s ↔
    ∃ name later, Since uses name later ∧ isTooLong (base.child name) = false ∧
      s = Stay.since base name later := by
  induction uses using List.reverseRecOn generalizing s with
  | nil =>
    constructor
    · nofun
    · rintro ⟨name, later, ⟨⟨before, same⟩, -⟩, -⟩
      simp at same
  | append_singleton uses use ih =>
    have step : Stay.after base none (uses ++ [use]) = Stay.next base (Stay.after base none uses) use := by
      simp [Stay.after]
    rw [step]
    simp only [since_concat]
    cases use with
    | enter name =>
      have fresh : Stay.since base name [] = ⟨name, !isTooLong ((base.child name).child outputDirName),
          none⟩ := by
        rw [Stay.since, requestAfter]
        split <;> rfl
      rw [Stay.next, Stay.begun]
      constructor
      · intro entered
        split at entered
        · cases entered
        · next short =>
          cases entered
          exact ⟨name, [], .inl ⟨rfl, rfl⟩, Bool.eq_false_iff.2 short, fresh.symm⟩
      · rintro ⟨_, later, ⟨⟨⟩, rfl⟩ | ⟨⟨⟩, -⟩, short, rfl⟩
        rw [if_neg (Bool.eq_false_iff.1 short), fresh]
    | leave | cleanup => simp [Stay.next, Use.inner]
    | root | requestFile | outputDir =>
      rw [Stay.next, ih]
      constructor
      · rintro ⟨name, later, since, short, rfl⟩
        refine ⟨name, _, .inr ⟨rfl, later, rfl, since⟩, short, ?_⟩
        rw [Stay.since, Stay.since, requestAfter_concat_of_quiet rfl]
      · rintro ⟨name, _, ⟨entering, -⟩ | ⟨-, later, rfl, since⟩, short, rfl⟩
        · cases entering
        · refine ⟨name, later, since, short, ?_⟩
          rw [Stay.since, Stay.since, requestAfter_concat_of_quiet rfl]
    | write codes =>
      rw [Stay.next, Option.map_eq_some_iff]
      constructor
      · rintro ⟨before, active, rfl⟩
        obtain ⟨name, later, since, short, rfl⟩ := ih.1 active
        exact ⟨name, _, .inr ⟨rfl, later, rfl, since⟩, short, rewritten_since base name later codes⟩
      · rintro ⟨name, _, ⟨entering, -⟩ | ⟨-, later, rfl, since⟩, short, rfl⟩
        · cases entering
        · exact ⟨_, ih.2 ⟨name, later, since, short, rfl⟩, rewritten_since base name later codes⟩

/-! ## Directories of stays -/

section
variable {t t₀ u : FileTree} {base : Path} {at' other l : Location} {name : String} {s : Stay}

def Furnished (t : FileTree) (root : Location) (s : Stay) : Prop :=
  ∀ more, t.node? (root ++ more) = s.content more

theorem Furnished.root (furnished : Furnished t at' s) : t.node? at' = some .directory := by
  simpa [Stay.content] using furnished []

theorem Furnished.output (furnished : Furnished t at' s) :
    t.node? (at' ++ [outputDirName]) = if s.whole then some .directory else none := by
  simpa [Stay.content] using furnished [outputDirName]

theorem Furnished.request (furnished : Furnished t at' s) : t.node? (at' ++ [requestFileName]) =
    s.written.map fun bytes => .file bytes false := by
  have apart : requestFileName ≠ outputDirName := by decide
  simpa [Stay.content, apart] using furnished [requestFileName]

theorem Furnished.frame (furnished : Furnished t at' s)
    (same : ∀ l, within at' l = true → u.node? l = t.node? l) : Furnished u at' s := fun more => by
  rw [same _ (within_append _ _), furnished more]

theorem Opens.furnished (opens : Opens t base at' name) (whole : Bool) :
    Furnished (made whole t (at' ++ [name])) (at' ++ [name]) ⟨name, whole, none⟩ := by
  intro more
  have below (entry : String) (more : Location) :
      (t.set (at' ++ [name]) .directory).node? (at' ++ [name] ++ entry :: more) = none := by
    have lower : at' ++ [name] ++ entry :: more ≠ at' ++ [name] := by simp
    rw [node?_set_of_ne lower]
    exact opens.rooted.none_below opens.free _
  cases more with
  | nil =>
    rw [List.append_nil, node?_made_root]
    rfl
  | cons entry more =>
    by_cases output : entry = outputDirName ∧ more = []
    · obtain ⟨rfl, rfl⟩ := output
      cases whole with
      | false => exact below _ []
      | true => exact node?_set_self (by simp) _
    · have nothing : (made whole t (at' ++ [name])).node? (at' ++ [name] ++ entry :: more) = none := by
        cases whole with
        | false => exact below entry more
        | true =>
          have different : at' ++ [name] ++ entry :: more ≠ at' ++ [name] ++ [outputDirName] := by
            simpa using output
          rw [made, if_pos rfl, opened, node?_set_of_ne different, below]
      rw [nothing]
      cases more with
      | nil =>
        have other : entry ≠ outputDirName := fun same => output ⟨same, rfl⟩
        simp [Stay.content, other]
      | cons => rfl

theorem write_of_furnished {w : Workspace} {content : Text.Utf8.Bytes} (rooted : t.Rooted)
    (sits : w.Sits t at' name) (furnished : Furnished t (at' ++ [name]) s) :
    t.write ((w.base.child name).child requestFileName) content =
      .ok (t.set (at' ++ [name] ++ [requestFileName]) (.file content false)) := by
  cases written : s.written with
  | none => exact write_of_free rooted sits furnished.root (by rw [furnished.request, written]; rfl)
  | some old =>
    have file := furnished.request
    rw [written] at file
    exact write_child_of_file ordinary_requestFileName
      (stat_child sits.ordinary sits.base furnished.root nofun) file

theorem Furnished.overwritten (furnished : Furnished t at' s) (bytes : Text.Utf8.Bytes) :
    Furnished (t.set (at' ++ [requestFileName]) (.file bytes false)) at'
      { s with written := some bytes } := by
  intro more
  have apart : requestFileName ≠ outputDirName := by decide
  by_cases request : more = [requestFileName]
  · subst request
    rw [node?_set_self (by simp)]
    simp [Stay.content, apart]
  · rw [node?_set_of_ne (by simpa using request), furnished]
    rcases more with _ | ⟨entry, _ | ⟨below, more⟩⟩
    · rfl
    · have other : entry ≠ requestFileName := by simpa using request
      simp [Stay.content, other]
    · rfl

/-- Directories of which none was there, in directories that were, have nothing in common. -/
theorem not_within_of_within {first second : String} (rooted : t₀.Rooted)
    (parent : t₀.node? at' = some .directory) (parent' : t₀.node? other = some .directory)
    (free : t₀.node? (at' ++ [first]) = none) (free' : t₀.node? (other ++ [second]) = none)
    (different : at' ++ [first] ≠ other ++ [second]) (below : within (at' ++ [first]) l = true) :
    ¬ within (other ++ [second]) l = true := by
  intro below'
  -- Of two directories above one place, one lies in the other, and then also its parent.
  have prefixes (a b : Location) (n : String) (new : t₀.node? a = none)
      (old : t₀.node? b = some .directory) (ne : a ≠ b ++ [n]) : ¬ a <+: b ++ [n] := by
    intro above
    rcases List.prefix_concat_iff.1 above with same | above
    · exact ne same
    · obtain ⟨more, rfl⟩ := above
      rw [rooted.none_below new] at old
      cases old
  rw [within, List.isPrefixOf_iff_prefix] at below below'
  rcases List.prefix_or_prefix_of_prefix below below' with above | above
  · exact prefixes _ _ _ free parent' different above
  · exact prefixes _ _ _ free' parent different.symm above

end

end ParserHost.Workspace
