import Mathlib.Logic.Function.Basic
import ParserHost.Proofs.Launch.Workspaces
import ParserHost.Proofs.Run.Phases

/-!
# Workspaces side by side

Invocations share a directory for their workspaces, and their steps may come in any order. No step of one
touches the workspace of another (`untouched_of_turn`), and apart from the workspaces in use the directory
is at all times as it was (`sound_of_reaches`). So it is after every run what it was before.
-/

namespace ParserHost

open FileTree (Ordinary within within_append within_self eq_of_within)

namespace Invocation

open Workspace

/-! ## One step of one invocation -/

namespace Phase

def workspace? : Phase → Option Workspace
  | .entered w | .planned w _ | .delivered w _ _ | .leaving w | .abandoned w => some w
  | .waiting | .ended => none

def name? (p : Phase) : Option String :=
  p.workspace?.bind Workspace.name?

def Unused : Phase → Prop
  | .entered _ | .planned .. => True
  | _ => False

end Phase

variable {c : Context} {request : Request} {way t u : FileTree} {base : Path} {at' l : Location}
  {name : String} {p : Phase}

structure Owns (base : Path) (at' : Location) (name : String) (p : Phase) (t : FileTree) : Prop where
  workspace : p.workspace? = some ⟨base, some (base.child name)⟩
  ordinary : Ordinary name
  unused : p.Unused → t.node? (at' ++ [name]) = some .directory ∧
    t.node? (at' ++ [name] ++ [requestFileName]) = none ∧
    isTooLong ((base.child name).child outputDirName) = false

theorem Owns.name? (owns : Owns base at' name p t) : p.name? = some name := by
  rw [Phase.name?, owns.workspace]
  exact name?_child base name

structure Gone (at' : Location) (name : String) (p : Phase) (t : FileTree) : Prop where
  workspace : p.workspace? = none
  node : t.node? (at' ++ [name]) = none

def StaysInside (c : Context) (way : FileTree) (at' : Location) (p : Phase) (t : FileTree) : Prop :=
  ∀ w plan input words name, p = .delivered w plan input → w.name? = some name →
    Executable.resolve t c.host (some c.cwd) plan.words = .ok words →
      Confined way at' name t (Executable.start c.host (launch c words input) t).2

theorem tree_start (h : Host) (l : Launch) (t : FileTree) :
    (Executable.start h l t).2 = t ∨ (Executable.start h l t).2 = (h.launch l t).2 := by
  unfold Executable.start
  split
  · exact .inl rfl
  · split
    · next launched => exact .inr (by rw [launched])
    · next launched => exact .inr (by rw [launched])

theorem tree_stream {plan : Plan} {input : Option String} :
    (stream c plan.words input t).tree = t ∨
      ∃ words, Executable.resolve t c.host (some c.cwd) plan.words = .ok words ∧
        (stream c plan.words input t).tree = (Executable.start c.host (launch c words input) t).2 := by
  cases resolved : Executable.resolve t c.host (some c.cwd) plan.words with
  | error f => exact .inl (by rw [stream_of_notFound resolved])
  | ok words =>
    refine .inr ⟨words, rfl, ?_⟩
    cases started : Executable.start c.host (launch c words input) t with
    | mk result u =>
      cases result with
      | error f => rw [stream_of_notStarted resolved started]
      | ok ended => rw [stream_of_ended resolved started]

/-- Delivering a request adds its file to the workspace, or changes nothing. -/
theorem confined_deliver {w : Workspace} {plan : Plan} (rooted : t.Rooted) (stays : t.Extends way)
    (leads : way.stat base = .ok (at', .directory)) (owns : Owns base at' name (.planned w plan) t)
    (text : String) : ∃ input u, deliver w plan.transport text t = ⟨.ok input, u, []⟩ ∧
      Confined way at' name t u := by
  obtain ⟨workspace, ordinary, unused⟩ := owns
  cases workspace
  cases plan.transport with
  | pipes => exact ⟨_, _, rfl, Confined.refl rooted stays⟩
  | files =>
    obtain ⟨root, free, output⟩ := unused trivial
    have sits : Sits ⟨base, some (base.child name)⟩ t at' name :=
      ⟨FileTree.stat_of_extends stays leads, rfl, ordinary⟩
    exact ⟨_, _, deliver_of_written (writeRequest_of_free rooted sits root free output),
      confined_set rooted stays (within_self _) root free⟩

theorem confined_stream {w : Workspace} {plan : Plan} {input : Option String} (rooted : t.Rooted)
    (stays : t.Extends way) (named : w.name? = some name)
    (child : StaysInside c way at' (.delivered w plan input) t) :
    Confined way at' name t (stream c plan.words input t).tree := by
  rcases tree_stream (c := c) (t := t) with same | ⟨words, resolved, same⟩
  · rw [same]
    exact Confined.refl rooted stays
  · rw [same]
    exact child w plan input words name rfl named resolved

theorem settles_over (rooted : t.Rooted) (sits : Sits ⟨base, some (base.child name)⟩ t at' name) :
    Owns base at' name (.over ⟨base, some (base.child name)⟩ t) t ∨
      Gone at' name (.over ⟨base, some (base.child name)⟩ t) t := by
  unfold Phase.over
  split
  · exact .inl ⟨rfl, sits.ordinary, False.elim⟩
  · next clean => exact .inr ⟨rfl, not_not.1 (mt (remains_iff rooted sits).2 clean)⟩

theorem next_of_owns (rooted : t.Rooted) (stays : t.Extends way)
    (leads : way.stat base = .ok (at', .directory))
    (clear : ∀ l, within (at' ++ [name]) l = true → way.node? l = none)
    (owns : Owns base at' name p t) (child : StaysInside c way at' p t) :
    Confined way at' name t (next c request p t).2 ∧
      (Owns base at' name (next c request p t).1 (next c request p t).2 ∨
        Gone at' name (next c request p t).1 (next c request p t).2) := by
  have still : Confined way at' name t t := Confined.refl rooted stays
  have ready := owns
  obtain ⟨workspace, ordinary, unused⟩ := owns
  have owned {p : Phase} {u : FileTree} (same : p.workspace? = some ⟨base, some (base.child name)⟩)
      (late : ¬ p.Unused) : Owns base at' name p u := ⟨same, ordinary, fun early => absurd early late⟩
  cases p with
  | waiting | ended => cases workspace
  | entered w =>
    cases workspace
    rw [next]
    split
    · exact ⟨still, .inl (owned rfl id)⟩
    · split
      · exact ⟨still, .inl (owned rfl id)⟩
      · exact ⟨still, .inl ⟨rfl, ordinary, unused⟩⟩
  | planned w plan =>
    cases workspace
    rw [next]
    split
    · exact ⟨still, .inl (owned rfl id)⟩
    · next text serialized =>
      obtain ⟨input, u, delivered, confined⟩ := confined_deliver rooted stays leads ready text
      rw [delivered]
      exact ⟨confined, .inl (owned rfl id)⟩
  | delivered w plan input =>
    cases workspace
    exact ⟨confined_stream rooted stays (name?_child base name) child, .inl (owned rfl id)⟩
  | leaving w =>
    cases workspace
    have sits : Sits ⟨base, some (base.child name)⟩ t at' name :=
      ⟨FileTree.stat_of_extends stays leads, rfl, ordinary⟩
    have confined := confined_leave rooted stays clear sits
    exact ⟨confined, settles_over confined.rooted
      ⟨FileTree.stat_of_extends confined.way leads, rfl, ordinary⟩⟩
  | abandoned w =>
    cases workspace
    exact ⟨still, .inl (owned rfl id)⟩

theorem Owns.frame (owns : Owns base at' name p t)
    (same : ∀ l, within (at' ++ [name]) l = true → u.node? l = t.node? l) : Owns base at' name p u where
  workspace := owns.workspace
  ordinary := owns.ordinary
  unused early := by
    rw [same _ (within_self _), same _ (within_append _ _)]
    exact owns.unused early

/-! ## Many invocations -/

structure Site (ι : Type) where
  tree : FileTree
  phase : ι → Phase

section
variable {ι : Type} [DecidableEq ι] {contexts : ι → Context} {requests : ι → Request} {t₀ : FileTree}
  {s s' : Site ι} {i j : ι}

namespace Site

def put (s : Site ι) (i : ι) (reached : Phase × FileTree) : Site ι :=
  ⟨reached.2, Function.update s.phase i reached.1⟩

@[simp] theorem tree_put (s : Site ι) (i : ι) (reached : Phase × FileTree) :
    (s.put i reached).tree = reached.2 := rfl

@[simp] theorem phase_put_self (s : Site ι) (i : ι) (reached : Phase × FileTree) :
    (s.put i reached).phase i = reached.1 :=
  Function.update_self ..

theorem phase_put_of_ne (different : j ≠ i) (reached : Phase × FileTree) :
    (s.put i reached).phase j = s.phase j :=
  Function.update_of_ne different ..

end Site

/-- One of many takes its next step, or its child goes on working. A new workspace has a name that no
other has, and a child stays inside its workspace. -/
inductive Move (contexts : ι → Context) (requests : ι → Request) (way : FileTree) (at' : Location)
    (i : ι) : Site ι → Site ι → Prop
  | step {s : Site ι}
      (fresh : s.phase i = .waiting → ∀ name,
        (next (contexts i) (requests i) (s.phase i) s.tree).1.name? = some name →
          ∀ j, (s.phase j).name? ≠ some name)
      (child : StaysInside (contexts i) way at' (s.phase i) s.tree) :
      Move contexts requests way at' i s (s.put i (next (contexts i) (requests i) (s.phase i) s.tree))
  | work {s : Site ι} {w : Workspace} {plan : Plan} {input : Option String} {name : String}
      {u : FileTree} (running : s.phase i = .delivered w plan input) (named : w.name? = some name)
      (confined : Confined way at' name s.tree u) :
      Move contexts requests way at' i s (s.put i (s.phase i, u))

/-- What holds at all times: everyone owns what is under its name and nobody else has that name, and what
is under no such name is as it was. -/
structure Sound (way : FileTree) (base : Path) (at' : Location) (t₀ : FileTree) (s : Site ι) : Prop where
  rooted : s.tree.Rooted
  stays : s.tree.Extends way
  owns : ∀ i, (s.phase i).workspace? = none ∨
    ∃ name, Owns base at' name (s.phase i) s.tree ∧ t₀.node? (at' ++ [name]) = none
  single : ∀ i j name, (s.phase i).name? = some name → (s.phase j).name? = some name → i = j
  kept : ∀ l, within at' l = true →
    (∀ i name, (s.phase i).name? = some name → ¬ within (at' ++ [name]) l = true) →
      s.tree.node? l = t₀.node? l

inductive Turn (way : FileTree) (base : Path) (at' : Location) (t₀ : FileTree) (s : Site ι) (i : ι) :
    Phase × FileTree → Prop
  | idle {p : Phase} (before : (s.phase i).workspace? = none) (after : p.workspace? = none) :
      Turn way base at' t₀ s i (p, s.tree)
  | works {name : String} {p : Phase} {u : FileTree}
      (others : ∀ j, j ≠ i → (s.phase j).name? ≠ some name)
      (own : ∀ other, (s.phase i).name? = some other → other = name)
      (free : t₀.node? (at' ++ [name]) = none) (confined : Confined way at' name s.tree u)
      (settles : Owns base at' name p u ∨ Gone at' name p u) :
      Turn way base at' t₀ s i (p, u)

theorem name?_eq_none (inactive : p.workspace? = none) : p.name? = none := by
  rw [Phase.name?, inactive]
  rfl

theorem sound_of_idle (sound : Sound way base at' t₀ s) (before : (s.phase i).workspace? = none)
    (after : p.workspace? = none) : Sound way base at' t₀ (s.put i (p, s.tree)) := by
  have names (j : ι) : ((s.put i (p, s.tree)).phase j).name? = (s.phase j).name? := by
    by_cases same : j = i
    · rw [same, Site.phase_put_self, name?_eq_none before, name?_eq_none after]
    · rw [Site.phase_put_of_ne same]
  refine ⟨sound.rooted, sound.stays, fun j => ?owns, fun j k name first second => ?single,
    fun l inside outside => ?kept⟩
  case owns =>
    by_cases same : j = i
    · rw [same, Site.phase_put_self]
      exact .inl after
    · rw [Site.phase_put_of_ne same]
      exact sound.owns j
  case single =>
    rw [names] at first second
    exact sound.single j k name first second
  case kept =>
    refine sound.kept l inside fun j name held => outside j name ?_
    rw [names, held]

theorem name_of_put (settles : Owns base at' name p u ∨ Gone at' name p u) {other : String}
    (held : ((s.put i (p, u)).phase j).name? = some other) :
    j = i ∧ other = name ∨ j ≠ i ∧ (s.phase j).name? = some other := by
  by_cases same : j = i
  · rw [same, Site.phase_put_self] at held
    rcases settles with owns | gone
    · rw [owns.name?] at held
      cases held
      exact .inl ⟨same, rfl⟩
    · rw [name?_eq_none gone.workspace] at held
      cases held
  · rw [Site.phase_put_of_ne same] at held
    exact .inr ⟨same, held⟩

theorem sound_of_works (rooted : t₀.Rooted) (sound : Sound way base at' t₀ s)
    (others : ∀ j, j ≠ i → (s.phase j).name? ≠ some name)
    (own : ∀ other, (s.phase i).name? = some other → other = name)
    (free : t₀.node? (at' ++ [name]) = none) (confined : Confined way at' name s.tree u)
    (settles : Owns base at' name p u ∨ Gone at' name p u) :
    Sound way base at' t₀ (s.put i (p, u)) := by
  refine ⟨confined.rooted, confined.way, fun j => ?owns, fun j k other first second => ?single,
    fun l inside outside => ?kept⟩
  case owns =>
    by_cases same : j = i
    · rw [same, Site.phase_put_self]
      exact settles.symm.imp Gone.workspace fun owns => ⟨name, owns, free⟩
    · rw [Site.phase_put_of_ne same]
      refine (sound.owns j).imp id ?_
      rintro ⟨other, owns, free'⟩
      have different : other ≠ name := by
        rintro rfl
        exact others j same owns.name?
      exact ⟨other, owns.frame fun l below => node?_of_confined confined different below, free'⟩
  case single =>
    rcases name_of_put settles first with ⟨isI, rfl⟩ | ⟨notI, first⟩
    · rcases name_of_put settles second with ⟨isI', -⟩ | ⟨notI', second⟩
      · rw [isI, isI']
      · exact absurd second (others k notI')
    · rcases name_of_put settles second with ⟨isI', rfl⟩ | ⟨-, second⟩
      · exact absurd first (others j notI)
      · exact sound.single j k other first second
  case kept =>
    rw [Site.tree_put]
    by_cases below : within (at' ++ [name]) l = true
    · -- The mover does not have this name any more, so nothing is left under it.
      rcases settles with owns | gone
      · have held : ((s.put i (p, u)).phase i).name? = some name := by
          rw [Site.phase_put_self, owns.name?]
        exact absurd below (outside i name held)
      · rw [confined.rooted.none_within gone.node below, rooted.none_within free below]
    · rw [confined.apart l inside below]
      refine sound.kept l inside fun j other held => ?_
      by_cases same : j = i
      · rw [same] at held
        rw [own other held]
        exact below
      · refine outside j other ?_
        rw [Site.phase_put_of_ne same, held]

/-! ## Every move is a turn -/

theorem clear_of_free (rooted : t₀.Rooted) (stays : t₀.Extends way)
    (free : t₀.node? (at' ++ [name]) = none) (below : within (at' ++ [name]) l = true) :
    way.node? l = none := by
  cases node : way.node? l with
  | none => rfl
  | some n =>
    have there := stays l n node
    rw [rooted.none_within free below] at there
    cases there

omit [DecidableEq ι] in
theorem turn_of_owns (leads : way.stat base = .ok (at', .directory)) (rooted : t₀.Rooted)
    (stays : t₀.Extends way) (sound : Sound way base at' t₀ s)
    (owns : Owns base at' name (s.phase i) s.tree) (free : t₀.node? (at' ++ [name]) = none)
    (child : StaysInside c way at' (s.phase i) s.tree) :
    Turn way base at' t₀ s i (next c request (s.phase i) s.tree) := by
  obtain ⟨confined, settles⟩ := next_of_owns sound.rooted sound.stays leads
    (fun l below => clear_of_free rooted stays free below) owns child
  refine .works (fun j other held => other (sound.single j i name held owns.name?)) ?_ free confined settles
  intro other held
  rw [owns.name?] at held
  exact (Option.some.inj held).symm

omit [DecidableEq ι] in
theorem turn_of_opens (whole : Bool) (sound : Sound way base at' t₀ s) (waiting : s.phase i = .waiting)
    (others : ∀ j, (s.phase j).name? ≠ some name) (opens : Opens s.tree base at' name)
    (workspace : p.workspace? = some ⟨base, some (base.child name)⟩)
    (early : p.Unused → isTooLong ((base.child name).child outputDirName) = false) :
    Turn way base at' t₀ s i (p, made whole s.tree (at' ++ [name])) := by
  have free : t₀.node? (at' ++ [name]) = none := by
    rw [← sound.kept _ (within_append _ _) fun j other held below => ?_, opens.free]
    cases eq_of_within below (within_self _)
    exact others j held
  have owns : Owns base at' name p (made whole s.tree (at' ++ [name])) :=
    ⟨workspace, opens.ordinary, fun unused =>
      ⟨node?_made_root _ _ _ _, opens.free_request whole, early unused⟩⟩
  refine .works (fun j _ => others j) ?_ free (confined_made sound.stays opens whole) (.inl owns)
  intro other held
  rw [waiting] at held
  cases held

theorem over_made (opens : Opens t base at' name) (whole : Bool) :
    Phase.over ⟨base, some (base.child name)⟩ (made whole t (at' ++ [name])) =
      .abandoned ⟨base, some (base.child name)⟩ := by
  refine if_pos ((remains_iff (opens.rooted_made whole) (opens.sits whole)).2 ?_)
  rw [node?_made_root]
  nofun

omit [DecidableEq ι] in
theorem turn_of_waiting (scratch : c.host.scratch = base) (sound : Sound way base at' t₀ s)
    (leads : way.stat base = .ok (at', .directory)) (waiting : s.phase i = .waiting)
    (fresh : ∀ name, (next c request .waiting s.tree).1.name? = some name →
      ∀ j, (s.phase j).name? ≠ some name) :
    Turn way base at' t₀ s i (next c request .waiting s.tree) := by
  subst scratch
  have before : (s.phase i).workspace? = none := by
    rw [waiting]
    rfl
  have found : s.tree.stat c.host.scratch = .ok (at', .directory) :=
    FileTree.stat_of_extends sound.stays leads
  have ways : Entering s.tree c.host.scratch _ _ := entering_enter sound.rooted
  rw [next] at fresh ⊢
  generalize (Workspace.mk c.host.scratch none).enter s.tree = outcome at ways fresh ⊢
  cases ways with
  | refused => exact .idle before rfl
  | half opens root output =>
    cases opens.base.symm.trans found
    dsimp only [halfMade] at fresh ⊢
    rw [over_made opens] at fresh ⊢
    exact turn_of_opens false sound waiting (fresh _ (name?_child _ _)) opens rfl False.elim
  | whole opens root output =>
    cases opens.base.symm.trans found
    exact turn_of_opens true sound waiting (fresh _ (name?_child _ _)) opens rfl fun _ => output

theorem turn_of_move (leads : way.stat base = .ok (at', .directory))
    (scratch : ∀ i, (contexts i).host.scratch = base) (rooted : t₀.Rooted) (stays : t₀.Extends way)
    (sound : Sound way base at' t₀ s) (move : Move contexts requests way at' i s s') :
    ∃ reached, s' = s.put i reached ∧ Turn way base at' t₀ s i reached := by
  cases move with
  | step fresh child =>
    refine ⟨_, rfl, ?_⟩
    rcases sound.owns i with inactive | ⟨name, owns, free⟩
    · cases phase : s.phase i with
      | waiting =>
        rw [phase] at fresh
        exact turn_of_waiting (scratch i) sound leads phase (fresh rfl)
      | ended => exact .idle inactive rfl
      | entered | planned | delivered | leaving | abandoned =>
        rw [phase] at inactive
        cases inactive
    · exact turn_of_owns leads rooted stays sound owns free child
  | @work w plan input name u running named confined =>
    refine ⟨_, rfl, ?_⟩
    rcases sound.owns i with inactive | ⟨other, owns, free⟩
    · rw [running] at inactive
      cases inactive
    · have same : other = name := by
        have both := owns.name?
        rw [running, Phase.name?, Phase.workspace?, Option.bind_some, named] at both
        exact (Option.some.inj both).symm
      subst same
      refine .works (fun j different held => different (sound.single j i other held owns.name?)) ?_ free
        confined (.inl ?_)
      · intro another held
        rw [owns.name?] at held
        exact (Option.some.inj held).symm
      · refine ⟨owns.workspace, owns.ordinary, ?_⟩
        rw [running]
        exact nofun

/-! ## Any order of steps -/

theorem sound_of_turn {reached : Phase × FileTree} (rooted : t₀.Rooted) (sound : Sound way base at' t₀ s)
    (turn : Turn way base at' t₀ s i reached) : Sound way base at' t₀ (s.put i reached) := by
  cases turn with
  | idle before after => exact sound_of_idle sound before after
  | works others own free confined settles =>
    exact sound_of_works rooted sound others own free confined settles

omit [DecidableEq ι] in
theorem untouched_of_turn {reached : Phase × FileTree} (turn : Turn way base at' t₀ s i reached)
    (different : j ≠ i) (held : (s.phase j).name? = some name)
    (below : within (at' ++ [name]) l = true) : reached.2.node? l = s.tree.node? l := by
  cases turn with
  | idle before after => rfl
  | @works mine p u others own free confined settles =>
    refine node?_of_confined confined ?_ below
    rintro rfl
    exact others j different held

inductive Reaches (contexts : ι → Context) (requests : ι → Request) (way : FileTree) (at' : Location)
    (s : Site ι) : Site ι → Prop
  | refl : Reaches contexts requests way at' s s
  | move {s' s'' : Site ι} {i : ι} (before : Reaches contexts requests way at' s s')
      (last : Move contexts requests way at' i s' s'') : Reaches contexts requests way at' s s''

omit [DecidableEq ι] in
theorem sound_of_start (rooted : s.tree.Rooted) (stays : s.tree.Extends way)
    (idle : ∀ i, (s.phase i).workspace? = none) : Sound way base at' s.tree s :=
  ⟨rooted, stays, fun i => .inl (idle i), fun i j name held => by simp [Phase.name?, idle] at held,
    fun _ _ _ => rfl⟩

theorem sound_of_reaches (leads : way.stat base = .ok (at', .directory))
    (scratch : ∀ i, (contexts i).host.scratch = base) (rooted : t₀.Rooted) (stays : t₀.Extends way)
    (sound : Sound way base at' t₀ s) (reaches : Reaches contexts requests way at' s s') :
    Sound way base at' t₀ s' := by
  induction reaches with
  | refl => exact sound
  | move before last ih =>
    obtain ⟨reached, rfl, turn⟩ := turn_of_move leads scratch rooted stays ih last
    exact sound_of_turn rooted ih turn

/-! ## What stays -/

/-- What does not go when the place of a workspace is cleared of a directory. -/
theorem exists_other_iff {o : Option Node} :
    (if o = some .directory then none else o) ≠ none ↔ ∃ n, o = some n ∧ n ≠ .directory := by
  cases o with
  | none => simp
  | some n => by_cases directory : n = .directory <;> simp [directory]

omit [DecidableEq ι] in
theorem over_eq_abandoned {w w' : Workspace} (abandoned : Phase.over w t = .abandoned w') :
    w = w' ∧ w.remains t = true := by
  unfold Phase.over at abandoned
  split at abandoned
  · next remains =>
    cases abandoned
    exact ⟨rfl, remains⟩
  · cases abandoned

omit [DecidableEq ι] in
/-- When an invocation comes to be over with something in the place of its workspace. -/
theorem abandoned_of_next {w : Workspace} (leads : way.stat base = .ok (at', .directory))
    (scratch : c.host.scratch = base) (rooted : t₀.Rooted) (stays : t₀.Extends way)
    (sound : Sound way base at' t₀ s) (abandoned : (next c request (s.phase i) s.tree).1 = .abandoned w)
    (named : w.name? = some name) :
    s.phase i = .abandoned w ∨
    s.phase i = .waiting ∧ isTooLong ((base.child name).child outputDirName) = true ∨
    s.phase i = .leaving w ∧ ∃ n, s.tree.node? (at' ++ [name]) = some n ∧ n ≠ .directory := by
  have owned := sound.owns i
  generalize s.phase i = p at abandoned owned ⊢
  cases p with
  | waiting =>
    subst scratch
    have ways : Entering s.tree c.host.scratch _ _ := entering_enter sound.rooted
    rw [next] at abandoned
    generalize (Workspace.mk c.host.scratch none).enter s.tree = outcome at ways abandoned
    cases ways with
    | refused =>
      dsimp only at abandoned
      cases (over_eq_abandoned abandoned).2
    | half opens root output =>
      obtain ⟨rfl, -⟩ := over_eq_abandoned abandoned
      cases (name?_child _ _).symm.trans named
      exact .inr (.inl ⟨rfl, output⟩)
    | whole => cases abandoned
  | entered w' =>
    rw [next] at abandoned
    split at abandoned
    · cases abandoned
    · split at abandoned <;> cases abandoned
  | planned w' plan =>
    rw [next] at abandoned
    split at abandoned
    · cases abandoned
    · split at abandoned <;> cases abandoned
  | leaving w' =>
    obtain ⟨rfl, remains⟩ := over_eq_abandoned abandoned
    rcases owned with inactive | ⟨own, owns, free⟩
    · cases inactive
    cases owns.workspace
    cases (name?_child _ _).symm.trans named
    have sits : Sits ⟨base, some (base.child name)⟩ s.tree at' name :=
      ⟨FileTree.stat_of_extends sound.stays leads, rfl, owns.ordinary⟩
    have confined := confined_leave sound.rooted sound.stays
      (fun l below => clear_of_free rooted stays free below) sits
    have there := (remains_iff confined.rooted
      ⟨FileTree.stat_of_extends confined.way leads, rfl, owns.ordinary⟩).1 remains
    rw [node?_leave_root sound.rooted sits] at there
    exact .inr (.inr ⟨rfl, exists_other_iff.1 there⟩)
  | abandoned w' =>
    cases abandoned
    exact .inl rfl
  | delivered | ended => cases abandoned

end

/-! ## A run by itself -/

theorem Delivered.of_deliver {w : Workspace} {plan : Plan} {input : Option String} {text : String}
    (planned : Planned c request t w u plan) (command : plan.kind ≠ .inProcess)
    (serialized : request.serialized = .ok text) {u' : FileTree}
    (done : deliver w plan.transport text u = ⟨.ok input, u', []⟩) :
    Delivered c request t w plan input u' := by
  cases transport : plan.transport with
  | pipes =>
    rw [transport] at done
    cases done
    exact .piped planned command transport serialized
  | files =>
    rw [transport] at done
    cases written : w.writeRequest (text.toList.map Char.toNat) u with
    | mk result u' =>
      cases result with
      | error f => cases (deliver_of_refused written).symm.trans done
      | ok _ =>
        cases (deliver_of_written written).symm.trans done
        exact .filed planned transport serialized written

/-- Whatever happens between entering a workspace and leaving it happens inside. -/
theorem confined_inside (leads : way.stat base = .ok (at', .directory)) (stays : t.Extends way)
    (opens : Opens t base at' name)
    (output : isTooLong ((base.child name).child outputDirName) = false)
    {w : Workspace} (place : w = ⟨base, some (base.child name)⟩)
    (entered : (Workspace.mk c.host.scratch none).enter t = .ok (w, opened t (at' ++ [name])))
    (child : ∀ w plan input u, Delivered c request t w plan input u →
      StaysInside c way at' (.delivered w plan input) u) :
    Confined way at' name t (inside c request w (opened t (at' ++ [name]))).tree := by
  have made : Confined way at' name t (opened t (at' ++ [name])) := confined_made stays opens true
  cases planned : Plan.ofConfig (opened t (at' ++ [name])) c.handlers c.config c.cwd request.mode c.verbose w with
  | error e =>
    rw [tree_inside_of_refused planned]
    exact made
  | ok plan =>
    rw [tree_inside_of_planned planned]
    by_cases kind : plan.kind = .inProcess
    · obtain ⟨h, rfl⟩ := eq_call_of_kind kind
      rw [show proceed c w request (.call h) = call c h request from rfl, still_call h]
      exact made
    rw [proceed_of_ne kind]
    cases serialized : request.serialized with
    | error x =>
      rw [runCommand_of_excess serialized]
      exact made
    | ok text =>
      have owns : Owns base at' name (.planned w plan) (opened t (at' ++ [name])) :=
        ⟨congrArg some place, opens.ordinary, fun _ =>
          ⟨node?_made_root true _ _ _, opens.free_request true, output⟩⟩
      obtain ⟨input, u, delivered, confined⟩ := confined_deliver made.rooted made.way leads owns text
      have stream := confined_stream (c := c) confined.rooted confined.way (by rw [place, name?_child])
        (child w plan input u (.of_deliver ⟨entered, planned⟩ kind serialized delivered))
      rw [tree_runCommand serialized, delivered]
      exact (made.trans confined).trans stream

/-- Something stays in the place of a workspace: one that has no directory for its output, whose path is too
long, or what was put there instead of its directory. -/
inductive Stranded (c : Context) (request : Request) (t : FileTree) (at' : Location) (name : String) : Prop
  | halfMade (free : t.node? (at' ++ [name]) = none)
      (root : isTooLong (c.host.scratch.child name) = false)
      (output : isTooLong ((c.host.scratch.child name).child outputDirName) = true)
  | displaced {w u n} (entered : (Workspace.mk c.host.scratch none).enter t = .ok (w, u))
      (found : (inside c request w u).tree.node? (at' ++ [name]) = some n) (other : n ≠ .directory)

/-- A run leaves the tree as it is, or changes one free place in it, in which nothing stays unless it is
stranded. -/
theorem tree_run_settled (leads : way.stat base = .ok (at', .directory)) (scratch : c.host.scratch = base)
    (rooted : t.Rooted) (stays : t.Extends way)
    (child : ∀ w plan input u, Delivered c request t w plan input u →
      StaysInside c way at' (.delivered w plan input) u)
    (named : name = freshName (namesIn t base)) :
    (run c request t).tree = t ∧ ¬ Stranded c request t at' name ∨
      t.node? (at' ++ [name]) = none ∧ Confined way at' name t (run c request t).tree ∧
        ((run c request t).tree.node? (at' ++ [name]) ≠ none ↔ Stranded c request t at' name) := by
  subst scratch
  have found : t.stat c.host.scratch = .ok (at', .directory) := FileTree.stat_of_extends stays leads
  have ways : Entering t c.host.scratch name ((Workspace.mk c.host.scratch none).enter t) := by
    rw [named]
    exact entering_enter rooted
  cases entered : (Workspace.mk c.host.scratch none).enter t with
  | error half =>
    rw [entered] at ways
    rw [tree_run_of_refused entered]
    cases ways with
    | refused =>
      refine .inl ⟨rfl, ?_⟩
      rintro (⟨free, root, output⟩ | ⟨entered', -, -⟩)
      · have opens : Opens t c.host.scratch at' name :=
          ⟨rooted, found, named ▸ ordinary_freshName _, free⟩
        have half := enterAs_of_half (w := ⟨c.host.scratch, none⟩) opens root output
        rw [named] at half
        cases entered.symm.trans half
      · cases entered'.symm.trans entered
    | half opens root output =>
      cases opens.base.symm.trans found
      refine .inr ⟨opens.free, confined_made stays opens false, iff_of_true ?_ (.halfMade opens.free root output)⟩
      exact fun gone => nomatch (node?_made_root false t at' name).symm.trans gone
  | ok active =>
    rw [entered] at ways
    cases ways with
    | whole opens root output =>
      cases opens.base.symm.trans found
      have confined := confined_inside leads stays opens output rfl entered child
      have sits : Sits ⟨c.host.scratch, some (c.host.scratch.child name)⟩
          (inside c request ⟨c.host.scratch, some (c.host.scratch.child name)⟩
            (opened t (at' ++ [name]))).tree at' name :=
        ⟨FileTree.stat_of_extends confined.way leads, rfl, opens.ordinary⟩
      rw [tree_run_of_entered entered]
      have left := confined_leave confined.rooted confined.way
        (fun l below => clear_of_free rooted stays opens.free below) sits
      refine .inr ⟨opens.free, confined.trans left, ?_⟩
      rw [node?_leave_root confined.rooted sits]
      rw [exists_other_iff]
      constructor
      · rintro ⟨n, node, other⟩
        exact .displaced entered node other
      · rintro (⟨-, -, long⟩ | ⟨entered', node, other⟩)
        · cases long.symm.trans output
        · cases entered'.symm.trans entered
          exact ⟨_, node, other⟩

theorem kept_of_run (leads : way.stat base = .ok (at', .directory)) (scratch : c.host.scratch = base)
    (rooted : t.Rooted) (stays : t.Extends way)
    (child : ∀ w plan input u, Delivered c request t w plan input u →
      StaysInside c way at' (.delivered w plan input) u)
    (inside : within at' l = true)
    (apart : Stranded c request t at' (freshName (namesIn t base)) →
      ¬ within (at' ++ [freshName (namesIn t base)]) l = true) :
    (run c request t).tree.node? l = t.node? l := by
  rcases tree_run_settled leads scratch rooted stays child rfl with ⟨same, -⟩ | ⟨free, confined, left⟩
  · rw [same]
  by_cases below : within (at' ++ [freshName (namesIn t base)]) l = true
  · have gone := not_not.1 (mt left.1 fun stranded => apart stranded below)
    rw [confined.rooted.none_within gone below, rooted.none_within free below]
  · exact confined.apart l inside below

theorem namesIn_run (leads : way.stat base = .ok (at', .directory)) (scratch : c.host.scratch = base)
    (rooted : t.Rooted) (stays : t.Extends way)
    (child : ∀ w plan input u, Delivered c request t w plan input u →
      StaysInside c way at' (.delivered w plan input) u) :
    name ∈ namesIn (run c request t).tree base ↔
      name ∈ namesIn t base ∨ name = freshName (namesIn t base) ∧ Stranded c request t at' name := by
  have before : t.stat base = .ok (at', .directory) := FileTree.stat_of_extends stays leads
  rcases tree_run_settled leads scratch rooted stays child rfl with ⟨same, clean⟩ | ⟨free, confined, left⟩
  · rw [same]
    refine ⟨.inl, Or.rec id ?_⟩
    rintro ⟨rfl, stranded⟩
    exact absurd stranded clean
  have after : (run c request t).tree.stat base = .ok (at', .directory) :=
    FileTree.stat_of_extends confined.way leads
  rw [mem_namesIn after]
  by_cases mine : name = freshName (namesIn t base)
  · have unused : name ∉ namesIn t base := by
      rw [mem_namesIn before, mine, free]
      exact not_not.2 rfl
    rw [mine] at unused ⊢
    simp [left, unused]
  · have outside : ¬ within (at' ++ [freshName (namesIn t base)]) (at' ++ [name]) = true := fun below =>
      mine (eq_of_within (within_self _) below)
    rw [mem_namesIn before, confined.apart _ (within_append _ _) outside]
    simp [mine]

/-! ## Every way out -/

def commanded : Config :=
  ⟨.custom, some "/bin/parser", none, none, none, none, none, none, none, none, none, []⟩

theorem ofConfig_commanded {u : FileTree} {handlers : Registry} {cwd : Path} {mode : Mode} {verbose : Bool}
    {w : Workspace} : Plan.ofConfig u handlers commanded cwd mode verbose w =
      .ok (.custom ["/bin/parser"] "Using custom parser command: /bin/parser") := rfl

def tampering (change : FileTree → FileTree) : Context where
  host := ⟨Path.absolute ["home"], [], Path.absolute ["tmp"], fun _ t =>
    (.ok ⟨-9, [], [], false, false⟩, change t)⟩
  handlers := []
  config := commanded
  cwd := Path.absolute ["home"]
  verbose := false
  timeout := none

def shared : FileTree :=
  ⟨[(["home"], .directory), (["tmp"], .directory), (["tmp", "other"], .directory),
    (["tmp", "other", "request.json"], .file [3] false)]⟩

def prepared : FileTree :=
  opened shared ["tmp", "run-000000"]

theorem rooted_prepared : prepared.Rooted :=
  FileTree.rooted_of_nodes (by decide)

theorem extends_prepared : prepared.Extends shared :=
  FileTree.extends_of_nodes (by decide)

theorem entered_tampering (change : FileTree → FileTree) :
    (Workspace.mk (tampering change).host.scratch none).enter shared =
      .ok (⟨Path.absolute ["tmp"], some (Path.absolute ["tmp", "run-000000"])⟩, prepared) := by
  have rooted : shared.Rooted := FileTree.rooted_of_nodes (by decide)
  have opens : Opens shared (Path.absolute ["tmp"]) ["tmp"] "run-000000" :=
    ⟨rooted, by decide +kernel, ⟨by decide, by decide, by decide, by decide⟩, by decide +kernel⟩
  have named : "run-000000" = freshName (namesIn shared (Path.absolute ["tmp"])) := by decide +kernel
  have root : isTooLong ((Path.absolute ["tmp"]).child "run-000000") = false := by decide +kernel
  have output : isTooLong (((Path.absolute ["tmp"]).child "run-000000").child outputDirName) = false := by
    decide +kernel
  exact (enter_eq_ok rooted).2 ⟨["tmp"], "run-000000", named, opens, root, output, rfl, rfl⟩

theorem staysInside_tampering {change : FileTree → FileTree} {r : Request}
    (confined : Confined shared ["tmp"] "run-000000" prepared (change prepared))
    {w : Workspace} {plan : Plan} {input : Option String} {u : FileTree}
    (delivered : Delivered (tampering change) r shared w plan input u) :
    StaysInside (tampering change) shared ["tmp"] (.delivered w plan input) u := by
  rintro _ _ _ words name ⟨⟩ named -
  cases delivered with
  | @piped _ _ text planned command transport serialized =>
    cases (entered_tampering change).symm.trans planned.entered
    cases named
    rcases tree_start (tampering change).host (launch (tampering change) words (some text)) prepared
      with same | same
    · rw [same]
      exact Confined.refl rooted_prepared extends_prepared
    · rw [same]
      exact confined
  | filed planned transport serialized written =>
    cases ofConfig_commanded.symm.trans planned.planned
    cases transport

def littering : Context :=
  tampering fun t => t.set ["tmp", "run-000000", "junk"] (.file [1, 2] false)

theorem confined_littering : Confined shared ["tmp"] "run-000000" prepared
    (prepared.set ["tmp", "run-000000", "junk"] (.file [1, 2] false)) :=
  have inside : within (["tmp"] ++ ["run-000000"]) ["tmp", "run-000000"] = true := within_self _
  confined_set rooted_prepared extends_prepared inside (by decide) (by decide)

theorem not_stranded_littering {r : Request} (empty : r = .parse ⟨[], [], false⟩) :
    ¬ Stranded littering r shared ["tmp"] "run-000000" := by
  subst empty
  rintro (⟨-, -, output⟩ | ⟨entered, node, other⟩)
  · revert output
    decide
  · cases (entered_tampering _).symm.trans entered
    cases (rfl : _ = some Node.directory).symm.trans node
    exact other rfl

def meeting : Site Bool :=
  Site.put ⟨shared, fun _ => .waiting⟩ true (next littering (.parse ⟨[], [], false⟩) .waiting shared)

theorem reaches_meeting : Reaches (fun _ => littering) (fun _ => .parse ⟨[], [], false⟩) shared ["tmp"]
    ⟨shared, fun _ => .waiting⟩ meeting :=
  .move .refl (.step (fun _ _ _ _ => nofun) fun _ _ _ _ _ => nofun)

theorem move_meeting : Move (fun _ => littering) (fun _ => .parse ⟨[], [], false⟩) shared ["tmp"] false
    meeting (meeting.put false (next littering (.parse ⟨[], [], false⟩) .waiting meeting.tree)) := by
  refine .step (fun _ name named j held => ?_) fun _ _ _ _ _ => nofun
  cases j with
  | false => cases held
  | true =>
    cases (held : some "run-000000" = some name)
    revert named
    decide +kernel

def linking : Context :=
  tampering fun t => (t.remove ["tmp", "run-000000"]).set ["tmp", "run-000000"] (.link "/elsewhere")

theorem confined_linking : Confined shared ["tmp"] "run-000000" prepared
    ((prepared.remove ["tmp", "run-000000"]).set ["tmp", "run-000000"] (.link "/elsewhere")) := by
  refine ⟨FileTree.rooted_of_nodes (by decide), FileTree.extends_of_nodes (by decide), ?_⟩
  intro l below outside
  have root : l ≠ ["tmp", "run-000000"] := by
    rintro rfl
    exact outside (within_self ["tmp", "run-000000"])
  have top : l ≠ [] := by
    rintro rfl
    cases below
  rw [FileTree.node?_set_of_ne root, FileTree.node?_remove top]
  exact if_neg outside

def cramped : Context :=
  { littering with host := { littering.host with scratch := deep } }

end Invocation

end ParserHost
