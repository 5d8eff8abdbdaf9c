import ParserHost.Proofs.Launch.Stays

/-!
# Lives of workspaces

Several workspaces are used in any order, and their directories may be shared. What one of them answers,
and what is in its directory, follows from its own history alone (`kept_after`, `replies_of_kept`): a
workspace is active from an `enter` to the next `leave`, and while it is, its request file holds what was
last written (`lives_of_workspaces`).
-/

namespace ParserHost.Workspace

open FileTree

section
variable {ι : Type} {t₀ : FileTree} {base : ι → Path} {at' : ι → Location} {stay : ι → Option Stay}
  {q : Quarters ι} {i j : ι} {s : Stay} {name : String} {use : Use}

/-! ## What follows from the stays -/

structure Grounds (t₀ : FileTree) (base : ι → Path) (at' : ι → Location) : Prop where
  rooted : t₀.Rooted
  leads : ∀ i, t₀.stat (base i) = .ok (at' i, .directory)

/-- Everything in the quarters follows from the stays: the workspaces, their directories, and that the rest
is as it was at first. -/
structure Kept (t₀ : FileTree) (base : ι → Path) (at' : ι → Location) (stay : ι → Option Stay)
    (q : Quarters ι) : Prop where
  space : ∀ i, q.space i = Stay.space (base i) (stay i)
  rooted : q.tree.Rooted
  ordinary : ∀ i s, stay i = some s → Ordinary s.name
  free : ∀ i s, stay i = some s → t₀.node? (at' i ++ [s.name]) = none
  single : ∀ i j s s', stay i = some s → stay j = some s' →
    at' i ++ [s.name] = at' j ++ [s'.name] → i = j
  inside : ∀ i s, stay i = some s → Furnished q.tree (at' i ++ [s.name]) s
  outside : ∀ l, (∀ i s, stay i = some s → ¬ within (at' i ++ [s.name]) l = true) →
    q.tree.node? l = t₀.node? l

theorem Kept.extends_first (kept : Kept t₀ base at' stay q) (grounds : Grounds t₀ base at') :
    q.tree.Extends t₀ := by
  intro l n found
  rw [kept.outside l fun i s active below => ?_, found]
  rw [grounds.rooted.none_within (kept.free i s active) below] at found
  cases found

theorem Kept.leads (kept : Kept t₀ base at' stay q) (grounds : Grounds t₀ base at') (i : ι) :
    q.tree.stat (base i) = .ok (at' i, .directory) :=
  stat_of_extends (kept.extends_first grounds) (grounds.leads i)

theorem Kept.sits (kept : Kept t₀ base at' stay q) (grounds : Grounds t₀ base at')
    (active : stay i = some s) : (q.space i).Sits q.tree (at' i) s.name := by
  rw [kept.space, active]
  exact ⟨kept.leads grounds i, rfl, kept.ordinary i s active⟩

theorem Grounds.parent (grounds : Grounds t₀ base at') (i : ι) : t₀.node? (at' i) = some .directory :=
  (find_of_stat (grounds.leads i)).2

theorem Kept.node?_of_not_mem (kept : Kept t₀ base at' stay q) (grounds : Grounds t₀ base at')
    (free : name ∉ namesIn q.tree (base i)) : q.tree.node? (at' i ++ [name]) = none :=
  not_not.1 (mt (mem_namesIn (kept.leads grounds i)).2 free)

theorem Kept.free_first (kept : Kept t₀ base at' stay q) (grounds : Grounds t₀ base at')
    (free : name ∉ namesIn q.tree (base i)) : t₀.node? (at' i ++ [name]) = none := by
  have vacant := kept.node?_of_not_mem grounds free
  cases first : t₀.node? (at' i ++ [name]) with
  | none => rfl
  | some n =>
    rw [kept.extends_first grounds _ n first] at vacant
    cases vacant

theorem Kept.opens (kept : Kept t₀ base at' stay q) (grounds : Grounds t₀ base at')
    (ordinary : Ordinary name) (free : name ∉ namesIn q.tree (base i)) :
    Opens q.tree (base i) (at' i) name :=
  ⟨kept.rooted, kept.leads grounds i, ordinary, kept.node?_of_not_mem grounds free⟩

theorem Kept.activeRoot (kept : Kept t₀ base at' stay q) {root : Path} :
    (q.space i).activeRoot = .ok root ↔ ∃ s, stay i = some s ∧ root = (base i).child s.name := by
  rw [kept.space i, Workspace.activeRoot, Stay.space]
  cases stay i <;> simp [eq_comm]

theorem Kept.root_eq_none (kept : Kept t₀ base at' stay q) (idle : (q.space i).root = none) :
    stay i = none := by
  rw [kept.space i] at idle
  exact Option.map_eq_none_iff.1 idle

theorem Kept.stat_root (kept : Kept t₀ base at' stay q) (grounds : Grounds t₀ base at')
    (active : stay i = some s) :
    q.tree.stat ((base i).child s.name) = .ok (at' i ++ [s.name], .directory) :=
  stat_child (kept.ordinary i s active) (kept.leads grounds i) (kept.inside i s active).root nofun

theorem Kept.stat_output (kept : Kept t₀ base at' stay q) (grounds : Grounds t₀ base at')
    (active : stay i = some s) : q.tree.stat (((base i).child s.name).child outputDirName) =
      if s.whole then .ok (at' i ++ [s.name] ++ [outputDirName], .directory) else .error .noEntry := by
  have root := kept.stat_root grounds active
  have output := (kept.inside i s active).output
  cases whole : s.whole with
  | true =>
    rw [whole, if_pos rfl] at output
    exact stat_child ordinary_outputDirName root output nofun
  | false =>
    rw [whole, if_neg Bool.false_ne_true] at output
    exact stat_child_of_free kept.rooted ordinary_outputDirName root output

theorem Kept.read_request (kept : Kept t₀ base at' stay q) (grounds : Grounds t₀ base at')
    (active : stay i = some s) : q.tree.read (((base i).child s.name).child requestFileName) =
      s.written.elim (.error .noEntry) .ok := by
  have root := kept.stat_root grounds active
  have request := (kept.inside i s active).request
  cases written : s.written with
  | none =>
    rw [written] at request
    rw [FileTree.read, stat_child_of_free kept.rooted ordinary_requestFileName root request]
    rfl
  | some bytes =>
    rw [written] at request
    rw [FileTree.read, stat_child ordinary_requestFileName root request nofun]
    rfl

theorem Kept.apart (kept : Kept t₀ base at' stay q) (grounds : Grounds t₀ base at') {root : Path}
    (active : (q.space i).activeRoot = .ok root) (active' : (q.space j).activeRoot = .ok root) : i = j := by
  obtain ⟨s, here, rfl⟩ := kept.activeRoot.1 active
  obtain ⟨s', there, same⟩ := kept.activeRoot.1 active'
  have place := kept.stat_root grounds here
  rw [same, kept.stat_root grounds there] at place
  exact (kept.single j i s' s there here (Prod.mk.inj (Except.ok.inj place)).1).symm

theorem Kept.gone (kept : Kept t₀ base at' stay q) (grounds : Grounds t₀ base at')
    (ordinary : Ordinary name) (first : t₀.node? (at' i ++ [name]) = none) (idle : stay i = none) :
    q.tree.stat ((base i).child name) = .error .noEntry ∨
      ∃ j root, j ≠ i ∧ (q.space j).activeRoot = .ok root ∧
        q.tree.stat root = q.tree.stat ((base i).child name) := by
  by_cases taken : ∃ j s, stay j = some s ∧ at' j ++ [s.name] = at' i ++ [name]
  · obtain ⟨j, s, active, same⟩ := taken
    refine .inr ⟨j, (base j).child s.name, ?_, kept.activeRoot.2 ⟨s, active, rfl⟩, ?_⟩
    · rintro rfl
      rw [idle] at active
      cases active
    · have root := (kept.inside j s active).root
      rw [same] at root
      rw [kept.stat_root grounds active, same, stat_child ordinary (kept.leads grounds i) root nofun]
  · refine .inl (stat_child_of_free kept.rooted ordinary (kept.leads grounds i) ?_)
    rw [kept.outside _ fun j s active below => ?_, first]
    have different : at' j ++ [s.name] ≠ at' i ++ [name] := fun same => taken ⟨j, s, active, same⟩
    exact not_within_of_within grounds.rooted (grounds.parent j) (grounds.parent i)
      (kept.free j s active) first different below (within_self _)

structure Unused (q : Quarters ι) : Prop where
  rooted : q.tree.Rooted
  idle : ∀ i, (q.space i).root = none
  leads : ∀ i, ∃ at', q.tree.stat (q.space i).base = .ok (at', .directory)

theorem Unused.kept (unused : Unused q) : ∃ at', Grounds q.tree (fun i => (q.space i).base) at' ∧
    Kept q.tree (fun i => (q.space i).base) at' (fun _ => none) q := by
  choose at' leads using unused.leads
  refine ⟨at', ⟨unused.rooted, leads⟩, ⟨fun i => ?_, unused.rooted, nofun, nofun, nofun, nofun, fun _ _ => rfl⟩⟩
  have idle := unused.idle i
  generalize q.space i = w at idle ⊢
  obtain ⟨base, root⟩ := w
  cases idle
  rfl

/-! ## What one use keeps -/

variable [DecidableEq ι] {st : Option Stay} {u : FileTree}

theorem update_eq_some : Function.update stay i st j = some s ↔
    j = i ∧ st = some s ∨ j ≠ i ∧ stay j = some s := by
  by_cases same : j = i
  · subst same
    simp
  · simp [same]

/-- A change inside the directory that a workspace has before or after it. -/
theorem Kept.change (kept : Kept t₀ base at' stay q) (grounds : Grounds t₀ base at') (rooted : u.Rooted)
    (free : t₀.node? (at' i ++ [name]) = none)
    (frame : ∀ l, ¬ within (at' i ++ [name]) l = true → u.node? l = q.tree.node? l)
    (others : ∀ j s, j ≠ i → stay j = some s → at' j ++ [s.name] ≠ at' i ++ [name])
    (before : ∀ s, stay i = some s → s.name = name)
    (entered : ∀ s, st = some s → s.name = name ∧ Ordinary name ∧ Furnished u (at' i ++ [name]) s)
    (left : st = none → u.node? (at' i ++ [name]) = none) :
    Kept t₀ base at' (Function.update stay i st)
      ⟨u, Function.update q.space i (Stay.space (base i) st)⟩ := by
  refine ⟨fun j => ?space, rooted, fun j s active => ?ordinary, fun j s active => ?free,
    fun j k s s' active active' same => ?single, fun j s active => ?inside, fun l apart => ?outside⟩
  case space =>
    by_cases same : j = i
    · subst same
      simp
    · simp [same, kept.space j]
  case ordinary =>
    rcases update_eq_some.1 active with ⟨-, now⟩ | ⟨-, still⟩
    · obtain ⟨rfl, ordinary, -⟩ := entered s now
      exact ordinary
    · exact kept.ordinary j s still
  case free =>
    rcases update_eq_some.1 active with ⟨rfl, now⟩ | ⟨-, still⟩
    · obtain ⟨rfl, -⟩ := entered s now
      exact free
    · exact kept.free j s still
  case single =>
    rcases update_eq_some.1 active with ⟨rfl, now⟩ | ⟨different, still⟩ <;>
      rcases update_eq_some.1 active' with ⟨rfl, now'⟩ | ⟨different', still'⟩
    · rfl
    · obtain ⟨rfl, -⟩ := entered s now
      exact absurd same.symm (others k s' different' still')
    · obtain ⟨rfl, -⟩ := entered s' now'
      exact absurd same (others j s different still)
    · exact kept.single j k s s' still still' same
  case inside =>
    rcases update_eq_some.1 active with ⟨rfl, now⟩ | ⟨different, still⟩
    · obtain ⟨rfl, -, furnished⟩ := entered s now
      exact furnished
    · refine (kept.inside j s still).frame fun l below => frame l ?_
      exact not_within_of_within grounds.rooted (grounds.parent j) (grounds.parent i)
        (kept.free j s still) free (others j s different still) below
  case outside =>
    have others' (j : ι) (s : Stay) (different : j ≠ i) (active : stay j = some s) :
        ¬ within (at' j ++ [s.name]) l = true :=
      apart j s (update_eq_some.2 (.inr ⟨different, active⟩))
    by_cases below : within (at' i ++ [name]) l = true
    · cases now : st with
      | some s =>
        obtain ⟨rfl, -⟩ := entered s now
        exact absurd below (apart i s (update_eq_some.2 (.inl ⟨rfl, now⟩)))
      | none =>
        -- the directory is gone, and at first there was none
        rw [rooted.none_within (left now) below, grounds.rooted.none_within free below]
    · rw [frame l below]
      refine kept.outside l fun j s active => ?_
      by_cases same : j = i
      · subst same
        rw [before s active]
        exact below
      · exact others' j s same active

theorem Quarters.perform_eq {reply : Reply} {w : Workspace}
    (done : (q.space i).perform q.tree use = (reply, w, u)) :
    q.perform i use = (reply, ⟨u, Function.update q.space i w⟩) := by
  rw [Quarters.perform, done]

theorem Kept.unchanged (kept : Kept t₀ base at' stay q) (i : ι) :
    Kept t₀ base at' (Function.update stay i (stay i))
      ⟨q.tree, Function.update q.space i (q.space i)⟩ := by
  rw [Function.update_eq_self, Function.update_eq_self]
  exact kept

theorem Kept.asked (kept : Kept t₀ base at' stay q)
    (done : (q.space i).perform q.tree use = (Stay.reply (base i) (stay i) use, q.space i, q.tree))
    (next : Stay.next (base i) (stay i) use = stay i) :
    (q.perform i use).1 = Stay.reply (base i) (stay i) use ∧
      Kept t₀ base at' (Function.update stay i (Stay.next (base i) (stay i) use))
        (q.perform i use).2 := by
  rw [Quarters.perform_eq done, next]
  exact ⟨rfl, kept.unchanged i⟩

theorem Kept.enter (kept : Kept t₀ base at' stay q) (grounds : Grounds t₀ base at') (idle : stay i = none)
    (ordinary : Ordinary name) (free : name ∉ namesIn q.tree (base i)) (whole : Bool) :
    Kept t₀ base at' (Function.update stay i (some ⟨name, whole, none⟩))
      ⟨made whole q.tree (at' i ++ [name]),
        Function.update q.space i (Stay.space (base i) (some ⟨name, whole, none⟩))⟩ := by
  have opens := kept.opens grounds ordinary free
  refine kept.change grounds (opens.rooted_made whole) (kept.free_first grounds free)
    (fun l => node?_made) (fun j s _ active same => ?_) (fun s active => ?_) ?_ nofun
  · have taken := (kept.inside j s active).root
    rw [same, opens.free] at taken
    cases taken
  · rw [idle] at active
    cases active
  · rintro s ⟨⟩
    exact ⟨rfl, ordinary, opens.furnished whole⟩

/-- Entering is refused at once, or only half of it is, or none: each time the stay tells what was made. -/
theorem Kept.entering (kept : Kept t₀ base at' stay q) (grounds : Grounds t₀ base at')
    (permitted : q.Permits i (.enter name)) :
    (q.perform i (.enter name)).1 = Stay.reply (base i) (stay i) (.enter name) ∧
      Kept t₀ base at' (Function.update stay i (Stay.begun (base i) name))
        (q.perform i (.enter name)).2 := by
  obtain ⟨idle, ordinary, free⟩ := permitted name rfl
  rw [kept.space i] at idle free
  have idle : stay i = none := Option.map_eq_none_iff.1 idle
  have space : q.space i = ⟨base i, none⟩ := by rw [kept.space i, idle]; rfl
  have opens : Opens q.tree (q.space i).base (at' i) name := by
    rw [space]
    exact kept.opens grounds ordinary free
  rw [Stay.begun, Stay.reply]
  cases root : isTooLong ((base i).child name) with
  | true =>
    have refused : (q.space i).enterAs name q.tree = _ := enterAs_of_long (by rw [space]; exact root)
    rw [Quarters.perform_eq (perform_enter_of_error refused), admitted_of_long root, space]
    have same := kept.unchanged i
    rw [idle, space] at same
    exact ⟨rfl, same⟩
  | false =>
    have root' : isTooLong ((q.space i).base.child name) = false := by rw [space]; exact root
    rw [admitted_of_short root]
    cases output : isTooLong (((base i).child name).child outputDirName) with
    | true =>
      have refused := enterAs_of_half opens root' (by rw [space]; exact output)
      rw [Quarters.perform_eq (perform_enter_of_error refused), admitted_of_long output, space]
      exact ⟨rfl, kept.enter grounds idle ordinary free false⟩
    | false =>
      have entered := enterAs_of_whole opens root' (by rw [space]; exact output)
      rw [Quarters.perform_eq (perform_enter entered), admitted_of_short output, space]
      exact ⟨rfl, kept.enter grounds idle ordinary free true⟩

theorem Kept.change_active (kept : Kept t₀ base at' stay q) (grounds : Grounds t₀ base at')
    (active : stay i = some s) (rooted : u.Rooted)
    (frame : ∀ l, ¬ within (at' i ++ [s.name]) l = true → u.node? l = q.tree.node? l)
    (furnished : ∀ s', st = some s' → s'.name = s.name ∧ Furnished u (at' i ++ [s.name]) s')
    (left : st = none → u.node? (at' i ++ [s.name]) = none) :
    Kept t₀ base at' (Function.update stay i st)
      ⟨u, Function.update q.space i (Stay.space (base i) st)⟩ := by
  refine kept.change grounds rooted (kept.free i s active) frame (fun j s' different active' same => ?_)
    (fun s' active' => ?_) (fun s' now => ?_) left
  · exact different (kept.single j i s' s active' active same)
  · rw [Option.some.inj (active'.symm.trans active)]
  · obtain ⟨same, inside⟩ := furnished s' now
    exact ⟨same, kept.ordinary i s active, inside⟩

theorem Kept.leave (kept : Kept t₀ base at' stay q) (grounds : Grounds t₀ base at') :
    ∃ u, (q.space i).perform q.tree .leave = (.ok none, Stay.space (base i) none, u) ∧
      Kept t₀ base at' (Function.update stay i none)
        ⟨u, Function.update q.space i (Stay.space (base i) none)⟩ := by
  cases active : stay i with
  | none =>
    have same := kept.unchanged i
    rw [kept.space i, active] at same
    refine ⟨q.tree, ?_, same⟩
    rw [kept.space i, active]
    rfl
  | some s =>
    have sits := kept.sits grounds active
    refine ⟨((q.space i).leave q.tree).2, ?_, ?_⟩
    · rw [kept.space i, active]
      rfl
    · refine kept.change_active grounds active (rooted_leave kept.rooted sits) (fun l apart => ?_)
        nofun fun _ => ?_
      · rw [node?_leave kept.rooted sits apart]
      · rw [node?_leave_root kept.rooted sits, if_pos (kept.inside i s active).root]

theorem Kept.rewrite (kept : Kept t₀ base at' stay q) (grounds : Grounds t₀ base at')
    (active : stay i = some s) (bytes : Text.Utf8.Bytes) :
    Kept t₀ base at' (Function.update stay i (some { s with written := some bytes }))
      ⟨q.tree.set (at' i ++ [s.name] ++ [requestFileName]) (.file bytes false),
        Function.update q.space i (Stay.space (base i) (some { s with written := some bytes }))⟩ := by
  have furnished := kept.inside i s active
  have leaf : q.tree.node? (at' i ++ [s.name] ++ [requestFileName]) ≠ some .directory := by
    rw [furnished.request]
    cases s.written <;> nofun
  refine kept.change_active grounds active (kept.rooted.replace furnished.root leaf)
    (fun l apart => node?_set_of_ne (fun same => ?_) _) ?_ nofun
  · rw [same] at apart
    exact apart (within_append _ _)
  · rintro s' ⟨⟩
    exact ⟨rfl, furnished.overwritten bytes⟩

theorem Kept.write (kept : Kept t₀ base at' stay q) (grounds : Grounds t₀ base at') (codes : List Nat) :
    ∃ u, (q.space i).perform q.tree (.write codes) =
        (Stay.reply (base i) (stay i) (.write codes), q.space i, u) ∧
      Kept t₀ base at' (Function.update stay i (Stay.next (base i) (stay i) (.write codes)))
        ⟨u, Function.update q.space i (q.space i)⟩ := by
  cases active : stay i with
  | none =>
    have same := kept.unchanged i
    rw [active] at same
    refine ⟨q.tree, ?_, same⟩
    rw [kept.space i, active]
    rfl
  | some s =>
    have sits := kept.sits grounds active
    have space : q.space i = ⟨base i, some ((base i).child s.name)⟩ := by
      rw [kept.space i, active]
      rfl
    have file : (q.space i).requestFile = .ok (((base i).child s.name).child requestFileName) := by
      rw [space]
      rfl
    have reply : Stay.reply (base i) (some s) (.write codes) = (do
        admitted (((base i).child s.name).child requestFileName)
        taken codes
        return some (((base i).child s.name).child requestFileName)) := rfl
    rw [Workspace.perform, reply, Stay.next, Option.map_some, Stay.rewritten]
    cases length : isTooLong (((base i).child s.name).child requestFileName) with
    | true =>
      have same := kept.unchanged i
      rw [active] at same
      rw [writeRequest_of_long file length, admitted_of_long length]
      exact ⟨q.tree, rfl, same⟩
    | false =>
      have written : q.tree.write _ (landed codes) = _ :=
        write_of_furnished kept.rooted sits (kept.inside i s active)
      have changed := kept.rewrite grounds active (landed codes)
      rw [space] at written
      rw [writeRequest_of_short file length written, admitted_of_short length, file, space]
      exact ⟨_, rfl, changed⟩

/-- A use is answered by what its workspace has been through, whatever the others have. -/
theorem Kept.perform (kept : Kept t₀ base at' stay q) (grounds : Grounds t₀ base at')
    (permitted : q.Permits i use) :
    (q.perform i use).1 = Stay.reply (base i) (stay i) use ∧
      Kept t₀ base at' (Function.update stay i (Stay.next (base i) (stay i) use))
        (q.perform i use).2 := by
  cases use with
  | enter name => exact kept.entering grounds permitted
  | leave =>
    obtain ⟨u, done, changed⟩ := kept.leave grounds (i := i)
    rw [Quarters.perform_eq done]
    exact ⟨rfl, changed⟩
  | cleanup =>
    obtain ⟨u, done, changed⟩ := kept.leave grounds (i := i)
    have done' : (q.space i).perform q.tree .cleanup = _ := done
    rw [Quarters.perform_eq done']
    exact ⟨rfl, changed⟩
  | write codes =>
    obtain ⟨u, done, changed⟩ := kept.write grounds codes (i := i)
    rw [Quarters.perform_eq done]
    exact ⟨rfl, changed⟩
  | root | requestFile | outputDir => exact kept.asked (by rw [kept.space i]; rfl) rfl

/-! ## What many uses keep -/

variable {steps : List (ι × Use)} {q' : Quarters ι} {stay' : ι → Option Stay}

theorem alone_cons_self (i : ι) (use : Use) (steps : List (ι × Use)) :
    alone i ((i, use) :: steps) = (i, use) :: alone i steps := by
  simp [alone]

theorem alone_cons_of_ne (different : j ≠ i) (use : Use) (steps : List (ι × Use)) :
    alone i ((j, use) :: steps) = alone i steps := by
  simp [alone, different]

theorem own_cons_self (i : ι) (use : Use) (steps : List (ι × Use)) :
    own i ((i, use) :: steps) = use :: own i steps := by
  rw [own, alone_cons_self]
  rfl

theorem own_cons_of_ne (different : j ≠ i) (use : Use) (steps : List (ι × Use)) :
    own i ((j, use) :: steps) = own i steps := by
  rw [own, alone_cons_of_ne different]
  rfl

theorem own_alone (i : ι) (steps : List (ι × Use)) : own i (alone i steps) = own i steps := by
  simp [own, alone]

theorem kept_after (grounds : Grounds t₀ base at') (kept : Kept t₀ base at' stay q)
    (allowed : q.Allowed steps) :
    Kept t₀ base at' (fun i => Stay.after (base i) (stay i) (own i steps)) (q.after steps) := by
  induction steps generalizing stay q with
  | nil => exact kept
  | cons step rest ih =>
    obtain ⟨j, use⟩ := step
    have later := ih (kept.perform grounds allowed.1).2 allowed.2
    have same : (fun i => Stay.after (base i)
        (Function.update stay j (Stay.next (base j) (stay j) use) i) (own i rest)) =
        fun i => Stay.after (base i) (stay i) (own i ((j, use) :: rest)) := by
      funext i
      by_cases self : j = i
      · subst self
        rw [Function.update_self, own_cons_self]
        rfl
      · rw [Function.update_of_ne (Ne.symm self), own_cons_of_ne self]
    rwa [same] at later

theorem replies_of_kept (grounds : Grounds t₀ base at') (kept : Kept t₀ base at' stay q)
    (allowed : q.Allowed steps) (i : ι) :
    q.replies i steps = Stay.replies (base i) (stay i) (own i steps) := by
  induction steps generalizing stay q with
  | nil => rfl
  | cons step rest ih =>
    obtain ⟨j, use⟩ := step
    obtain ⟨answered, kept'⟩ := kept.perform grounds allowed.1
    have later := ih kept' allowed.2
    rw [Quarters.replies]
    dsimp only
    by_cases self : j = i
    · subst self
      rw [if_pos rfl, answered, later, Function.update_self, own_cons_self]
      rfl
    · rw [if_neg self, later, Function.update_of_ne (Ne.symm self), own_cons_of_ne self]

/-- What a workspace may do among others, it may do alone. -/
theorem Kept.permits_alone (kept : Kept t₀ base at' stay q) (grounds : Grounds t₀ base at')
    (kept' : Kept t₀ base at' stay' q') (same : stay' i = stay i) (idle : ∀ j, j ≠ i → stay' j = none)
    (permitted : q.Permits i use) : q'.Permits i use := by
  intro name entering
  obtain ⟨inactive, ordinary, free⟩ := permitted name entering
  have space : q'.space i = q.space i := by rw [kept'.space, kept.space, same]
  have nobody (j : ι) : stay' j = none := by
    by_cases here : j = i
    · rw [here, same, kept.root_eq_none inactive]
    · exact idle j here
  refine ⟨space ▸ inactive, ordinary, ?_⟩
  rw [kept.space i] at free
  -- alone in the tree, the workspace finds it as it was at first, and there the name was free too
  rw [kept'.space i, Stay.space, mem_namesIn (kept'.leads grounds i), not_not,
    kept'.outside _ fun j s active => by rw [nobody j] at active; cases active]
  exact kept.free_first grounds free

theorem allowed_alone (grounds : Grounds t₀ base at') (kept : Kept t₀ base at' stay q)
    (kept' : Kept t₀ base at' stay' q') (same : stay' i = stay i) (idle : ∀ j, j ≠ i → stay' j = none)
    (allowed : q.Allowed steps) : q'.Allowed (alone i steps) := by
  induction steps generalizing stay q stay' q' with
  | nil => trivial
  | cons step rest ih =>
    obtain ⟨j, use⟩ := step
    have next := (kept.perform grounds allowed.1).2
    by_cases self : j = i
    · subst self
      have permitted : q'.Permits j use := kept.permits_alone grounds kept' same idle allowed.1
      rw [alone_cons_self]
      refine ⟨permitted, ih next (kept'.perform grounds permitted).2 ?_ (fun k different => ?_) allowed.2⟩
      · rw [Function.update_self, Function.update_self, same]
      · rw [Function.update_of_ne different]
        exact idle k different
    · rw [alone_cons_of_ne self]
      refine ih next kept' ?_ idle allowed.2
      rw [Function.update_of_ne (Ne.symm self), same]

theorem free_of_entered (grounds : Grounds t₀ base at') (kept : Kept t₀ base at' stay q)
    (allowed : q.Allowed steps) (entered : .enter name ∈ own i steps) :
    Ordinary name ∧ t₀.node? (at' i ++ [name]) = none := by
  induction steps generalizing stay q with
  | nil => cases entered
  | cons step rest ih =>
    obtain ⟨j, use⟩ := step
    have next := (kept.perform grounds allowed.1).2
    by_cases self : j = i
    · subst self
      rw [own_cons_self, List.mem_cons] at entered
      rcases entered with rfl | later
      · obtain ⟨-, ordinary, free⟩ := allowed.1 name rfl
        rw [kept.space j] at free
        exact ⟨ordinary, kept.free_first grounds free⟩
      · exact ih next allowed.2 later
    · rw [own_cons_of_ne self] at entered
      exact ih next allowed.2 entered

/-! ## Lives -/

structure Lived (q : Quarters ι) (i : ι) (base : Path) (uses : List Use) : Prop where
  active : ∀ root, (q.space i).activeRoot = .ok root ↔
    ∃ name later, Since uses name later ∧ isTooLong root = false ∧ root = base.child name
  directories : ∀ root, (q.space i).activeRoot = .ok root → ∃ l,
    q.tree.stat root = .ok (l, .directory) ∧
      q.tree.stat (root.child outputDirName) =
        if isTooLong (root.child outputDirName) then .error .noEntry
        else .ok (l ++ [outputDirName], .directory)
  request : ∀ name later, Since uses name later → isTooLong (base.child name) = false →
    q.tree.read ((base.child name).child requestFileName) =
      (requestAfter base name later).elim (.error .noEntry) .ok
  apart : ∀ j root, (q.space i).activeRoot = .ok root → (q.space j).activeRoot = .ok root → i = j
  gone : (q.space i).root = none → ∀ name, .enter name ∈ uses →
    q.tree.stat (base.child name) = .error .noEntry ∨
      ∃ j root, j ≠ i ∧ (q.space j).activeRoot = .ok root ∧
        q.tree.stat root = q.tree.stat (base.child name)
  refused : (q.space i).root = none → ∀ use, use.inner = true →
    q.perform i use = (.error .workspaceInactive, q)
  entered : (q.space i).root = none → (namesIn q.tree base).length < 2 ^ numberRoom →
    ∃ name, q.Allowed [(i, .enter name)] ∧
      (q.space i).enter q.tree = (q.space i).enterAs name q.tree ∧
      (q.perform i (.enter name)).1 = Stay.reply base none (.enter name)
  cleaned : (q.perform i .cleanup).2.perform i .cleanup = (.ok none, (q.perform i .cleanup).2)

theorem Kept.refused (kept : Kept t₀ base at' stay q) (idle : stay i = none) (inner : use.inner = true) :
    q.perform i use = (.error .workspaceInactive, q) := by
  have done : (q.space i).perform q.tree use = (.error .workspaceInactive, q.space i, q.tree) := by
    rw [kept.space i, idle]
    cases use with
    | write | root | requestFile | outputDir => rfl
    | enter | leave | cleanup => cases inner
  rw [Quarters.perform_eq done, Function.update_eq_self]

theorem Kept.entered (kept : Kept t₀ base at' stay q) (grounds : Grounds t₀ base at') (idle : stay i = none)
    (few : (namesIn q.tree (base i)).length < 2 ^ numberRoom) :
    ∃ name, q.Allowed [(i, .enter name)] ∧
      (q.space i).enter q.tree = (q.space i).enterAs name q.tree ∧
      (q.perform i (.enter name)).1 = Stay.reply (base i) none (.enter name) := by
  have space : q.space i = ⟨base i, none⟩ := by rw [kept.space i, idle]; rfl
  have permitted : q.Permits i (.enter (freshName (namesIn q.tree (base i)))) := by
    rintro _ ⟨⟩
    rw [space]
    exact ⟨rfl, ordinary_freshName _, freshName_not_mem few⟩
  have answered := (kept.entering grounds permitted).1
  rw [idle] at answered
  refine ⟨_, ⟨permitted, trivial⟩, ?_, answered⟩
  rw [space]
  rfl

theorem leave_leave (w : Workspace) (t u : FileTree) : (w.leave t).1.leave u = ((w.leave t).1, u) := by
  obtain ⟨base, _ | root⟩ := w <;> rfl

theorem cleanup_cleanup (q : Quarters ι) (i : ι) :
    (q.perform i .cleanup).2.perform i .cleanup = (.ok none, (q.perform i .cleanup).2) := by
  simp only [Quarters.perform, Workspace.perform, Function.update_self, leave_leave, Function.update_idem]

theorem Kept.lived (kept : Kept t₀ base at' stay q) (grounds : Grounds t₀ base at') {uses : List Use}
    (life : stay i = Stay.after (base i) none uses)
    (free : ∀ name, .enter name ∈ uses → Ordinary name ∧ t₀.node? (at' i ++ [name]) = none) :
    Lived q i (base i) uses where
  active root := by
    rw [kept.activeRoot]
    constructor
    · rintro ⟨s, active, rfl⟩
      obtain ⟨name, later, since, short, rfl⟩ := after_eq_some_iff.1 (life ▸ active)
      exact ⟨name, later, since, short, rfl⟩
    · rintro ⟨name, later, since, short, rfl⟩
      exact ⟨.since (base i) name later, life ▸ after_eq_some_iff.2 ⟨name, later, since, short, rfl⟩, rfl⟩
  directories root active := by
    obtain ⟨s, here, rfl⟩ := kept.activeRoot.1 active
    obtain ⟨name, later, -, -, rfl⟩ := after_eq_some_iff.1 (life ▸ here)
    refine ⟨_, kept.stat_root grounds here, ?_⟩
    rw [kept.stat_output grounds here]
    cases length : isTooLong (((base i).child name).child outputDirName) <;>
      simp [Stay.since, length]
  request name later since short := by
    have here : stay i = some (.since (base i) name later) :=
      life ▸ after_eq_some_iff.2 ⟨name, later, since, short, rfl⟩
    exact kept.read_request grounds here
  apart j root active active' := kept.apart grounds active active'
  gone idle name entered :=
    kept.gone grounds (free name entered).1 (free name entered).2 (kept.root_eq_none idle)
  refused idle use inner := kept.refused (kept.root_eq_none idle) inner
  entered idle few := kept.entered grounds (kept.root_eq_none idle) few
  cleaned := cleanup_cleanup q i

/-- Whatever is done with workspaces in any order, each of them is active from an entering to the next leaving;
then its directories are there, and its request file holds what was last written. Before and after, it has no
directory and refuses every use. What it answers, it would answer alone. -/
theorem lives_of_workspaces (unused : Unused q) (allowed : q.Allowed steps) (i : ι) :
    Lived (q.after steps) i (q.space i).base (own i steps) ∧
      q.replies i steps = Stay.replies (q.space i).base none (own i steps) ∧
      q.Allowed (alone i steps) ∧ q.replies i (alone i steps) = q.replies i steps := by
  obtain ⟨at', grounds, kept⟩ := unused.kept
  have allowed' : q.Allowed (alone i steps) :=
    allowed_alone grounds kept kept rfl (fun _ _ => rfl) allowed
  have answered := replies_of_kept grounds kept allowed i
  refine ⟨?_, answered, allowed', ?_⟩
  · exact (kept_after grounds kept allowed).lived grounds rfl fun name entered =>
      free_of_entered grounds kept allowed entered
  · rw [answered, replies_of_kept grounds kept allowed', own_alone]

end

def lodgings : Quarters Bool :=
  ⟨⟨[(["tmp"], .directory)]⟩, fun _ => ⟨Path.absolute ["tmp"], none⟩⟩

def crossing : List (Bool × Use) :=
  [(false, .enter "a"), (true, .enter "b"), (false, .write [102]), (true, .write [115, 233]),
    (false, .leave), (true, .requestFile), (false, .root)]

theorem lives_of_workspaces_crossing :
    Unused lodgings ∧ lodgings.Allowed crossing ∧
      (∃ name later, Since (own true crossing) name later ∧ lastWritten later = some [115, 233]) ∧
      (lodgings.after crossing).tree.read (Path.absolute ["tmp", "b", "request.json"]) =
        .ok [115, 0xc3, 0xa9] ∧
      (lodgings.after crossing).tree.stat (Path.absolute ["tmp", "a"]) = .error .noEntry ∧
      lodgings.replies false crossing = lodgings.replies false (alone false crossing) := by
  have unused : Unused lodgings :=
    ⟨rooted_of_nodes (by decide), fun _ => rfl, fun _ => ⟨["tmp"], rfl⟩⟩
  have allowed : lodgings.Allowed crossing := by
    refine ⟨?_, ?_, nofun, nofun, nofun, nofun, nofun, trivial⟩ <;>
    · rintro _ ⟨⟩
      exact ⟨rfl, ⟨by decide, by decide, by decide, by decide⟩, by decide⟩
  have since : Since (own true crossing) "b" [.write [115, 233], .requestFile] := ⟨⟨[], rfl⟩, by decide⟩
  obtain ⟨first, -, -, same⟩ := lives_of_workspaces unused allowed false
  obtain ⟨second, -⟩ := lives_of_workspaces unused allowed true
  refine ⟨unused, allowed, ⟨_, _, since, rfl⟩, ?_, ?_, same.symm⟩
  · exact (second.request _ _ since (by decide)).trans (by decide)
  · rcases first.gone rfl "a" (by decide) with gone | ⟨_ | _, root, other, active, place⟩
    · exact gone
    · exact absurd rfl other
    · cases active
      exact absurd place (by decide)

def unwritable : List (Bool × Use) :=
  [(true, .enter "b"), (true, .write [0xd800])]

/-- In a deep directory entering fails and the workspace is active all the same, without a directory for
output. A text that cannot be written leaves a request file that holds none. -/
theorem active_without_output :
    (Quarters.perform ⟨deepTree, fun _ : Unit => ⟨deep, none⟩⟩ () (.enter "a")).1 =
        .error (.system ⟨.nameTooLong, ((deep.child "a").child outputDirName).text⟩) ∧
      ((Quarters.perform ⟨deepTree, fun _ : Unit => ⟨deep, none⟩⟩ () (.enter "a")).2.space ()).activeRoot =
        .ok (deep.child "a") ∧
      (Quarters.perform ⟨deepTree, fun _ : Unit => ⟨deep, none⟩⟩ () (.enter "a")).2.tree.stat
        ((deep.child "a").child outputDirName) = .error .noEntry ∧
      lodgings.replies true unwritable =
        [.ok none, .error (.notEncodable ⟨0, [0xd800]⟩)] ∧
      (lodgings.after unwritable).tree.read (Path.absolute ["tmp", "b", "request.json"]) = .ok [] := by
  have opens : Opens deepTree deep deepParts "a" :=
    opens_deep ⟨by decide, by decide, by decide, by decide⟩
  have refused : (mk deep none).enterAs "a" deepTree = .error (halfMade deep deepTree deepParts "a") :=
    enterAs_of_half opens (by decide +kernel) (by decide +kernel)
  have half := Quarters.perform_eq (q := ⟨deepTree, fun _ : Unit => ⟨deep, none⟩⟩) (i := ())
    (perform_enter_of_error refused)
  rw [half]
  exact ⟨rfl, rfl, by decide +kernel, by decide +kernel, by decide +kernel⟩

end ParserHost.Workspace
