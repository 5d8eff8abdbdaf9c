import ParserHost.Proofs.Files.Entries

/-!
# Writing files

A file that was written holds what was written (`read_of_write`): a walk that ended at a free name ends at
the new file, and no walk looks into a file.
-/

namespace ParserHost.FileTree

variable {t u : FileTree} {follow executable : Bool} {here at' dir : Location} {parts : List String}
  {name : String} {content : Text.Utf8.Bytes} {links : Nat}

/-! ## New files -/

theorem free_of_advance (stop : t.advance follow here parts = .vacant dir name) :
    t.node? (dir ++ [name]) = none := by
  induction parts generalizing here with
  | nil => cases stop
  | cons part rest ih =>
    rw [advance] at stop
    split at stop
    · exact ih stop
    split at stop
    · exact ih stop
    split at stop
    · cases stop
    dsimp only at stop
    cases node : t.node? (here ++ [part]) with
    | none =>
      rw [node] at stop
      dsimp only at stop
      split at stop <;> cases stop
      exact node
    | some n =>
      rw [node] at stop
      cases n with
      | directory => exact ih stop
      | link | file =>
        dsimp only at stop
        split at stop <;> cases stop

/-- A free name is where the last stretch of a walk ended, after all links. -/
theorem findFrom_eq_vacant (found : t.findFrom follow links here parts = .ok (.vacant dir name)) :
    t.advance follow here parts = .vacant dir name ∨
      ∃ fewer from' target rest, links = fewer + 1 ∧
        t.advance follow here parts = .link from' target rest ∧
        t.findFrom follow fewer (if (Path.parse target).isAbsolute then [] else from')
          (targetParts target ++ rest) = .ok (.vacant dir name) := by
  cases stop : t.advance follow here parts with
  | found at' =>
    rw [findFrom_of_found stop] at found
    cases found
  | vacant dir' name' =>
    rw [findFrom_of_vacant stop] at found
    cases found
    exact .inl rfl
  | failed e =>
    rw [findFrom_of_failed stop] at found
    cases found
  | link from' target rest =>
    cases links with
    | zero =>
      rw [findFrom_zero_of_link stop] at found
      cases found
    | succ links =>
      rw [findFrom_succ_of_link stop] at found
      exact .inr ⟨links, from', target, rest, rfl, rfl, found⟩

theorem free_of_findFrom (found : t.findFrom follow links here parts = .ok (.vacant dir name)) :
    t.node? (dir ++ [name]) = none := by
  induction links using Nat.strongRecOn generalizing here parts with
  | ind links ih =>
    rcases findFrom_eq_vacant found with stop | ⟨fewer, from', target, rest, rfl, -, further⟩
    · exact free_of_advance stop
    · exact ih fewer (Nat.lt_succ_self fewer) further

/-- A new file is where a walk ended before it was there. -/
theorem advance_new_file (stop : t.advance follow here parts = .vacant dir name) :
    (t.set (dir ++ [name]) (.file content executable)).advance follow here parts =
      .found (dir ++ [name]) := by
  have more : Extends (t.set (dir ++ [name]) (.file content executable)) t :=
    extends_set (free_of_advance stop)
  induction parts generalizing here with
  | nil => cases stop
  | cons part rest ih =>
    rw [advance] at stop ⊢
    split at stop
    · next still =>
      rw [if_pos still]
      exact ih stop
    next moves =>
    rw [if_neg moves]
    split at stop
    · next up =>
      rw [if_pos up]
      exact ih stop
    next down =>
    rw [if_neg down]
    split at stop
    · cases stop
    next short =>
    rw [if_neg short]
    dsimp only at stop ⊢
    cases node : t.node? (here ++ [part]) with
    | none =>
      rw [node] at stop
      dsimp only at stop
      split at stop
      · next last =>
        cases stop
        rw [node?_set_self (by simp)]
        exact if_pos last
      · cases stop
    | some n =>
      rw [more _ _ node]
      rw [node] at stop
      cases n with
      | directory => exact ih stop
      | link | file =>
        dsimp only at stop
        split at stop <;> cases stop

theorem findFrom_new_file (found : t.findFrom follow links here parts = .ok (.vacant dir name)) :
    (t.set (dir ++ [name]) (.file content executable)).findFrom follow links here parts =
      .ok (.found (dir ++ [name])) := by
  have more : Extends (t.set (dir ++ [name]) (.file content executable)) t :=
    extends_set (free_of_findFrom found)
  induction links using Nat.strongRecOn generalizing here parts with
  | ind links ih =>
    rcases findFrom_eq_vacant found with stop | ⟨fewer, from', target, rest, rfl, stop, further⟩
    · exact findFrom_of_found (advance_new_file stop)
    · have reached : (t.advance follow here parts).reached := by
        rw [stop]
        trivial
      rw [findFrom_succ_of_link ((advance_of_extends more reached).trans stop)]
      exact ih fewer (Nat.lt_succ_self fewer) further

/-! ## Old files -/

/-- Walks do not look into files. -/
theorem advance_rewritten {old : Text.Utf8.Bytes} {mode : Bool}
    (file : t.node? at' = some (.file old mode)) :
    (t.set at' (.file content executable)).advance follow here parts = t.advance follow here parts := by
  have below : at' ≠ [] := by
    rintro rfl
    cases file
  induction parts generalizing here with
  | nil => rfl
  | cons part rest ih =>
    rw [advance, advance, ih, ih]
    dsimp only
    by_cases there : here ++ [part] = at'
    · rw [there, node?_set_self below, file]
    · rw [node?_set_of_ne there, ih]

theorem findFrom_rewritten {old : Text.Utf8.Bytes} {mode : Bool}
    (file : t.node? at' = some (.file old mode)) :
    (t.set at' (.file content executable)).findFrom follow links here parts =
      t.findFrom follow links here parts := by
  induction links generalizing here parts with
  | zero => rw [findFrom, findFrom, advance_rewritten file]
  | succ links ih =>
    rw [findFrom, findFrom, advance_rewritten file]
    cases t.advance follow here parts with
    | link dir target rest => exact ih
    | found | vacant | failed => rfl

/-- An old file keeps its place and whether it may be run. -/
theorem write_child_of_file {p : Path} {old : Text.Utf8.Bytes} (ordinary : Ordinary name)
    (found : t.stat p = .ok (dir, .directory))
    (file : t.node? (dir ++ [name]) = some (.file old executable)) :
    t.write (p.child name) content = .ok (t.set (dir ++ [name]) (.file content executable)) := by
  have there : t.stat (p.child name) = .ok (dir ++ [name], .file old executable) :=
    stat_child ordinary found file nofun
  rw [write, find, (find_of_stat there).1]
  simp only [file]

/-! ## Any file -/

/-- A file that was written holds what was written. -/
theorem read_of_write {p : Path} (written : t.write p content = .ok u) : u.read p = .ok content := by
  unfold write find at written
  split at written
  · cases written
  · next dir name place =>
    cases written
    unfold read stat find
    rw [findFrom_new_file place]
    dsimp only
    rw [node?_set_self (by simp)]
  · next at' place =>
    split at written
    · next old mode file =>
      cases written
      have below : at' ≠ [] := by
        rintro rfl
        cases file
      unfold read stat find
      rw [findFrom_rewritten file, place]
      dsimp only
      rw [node?_set_self below]
    · cases written

/-- What is written does not matter to whether a file can be written. -/
theorem write_of_write {p : Path} (written : t.write p content = .ok u) (other : Text.Utf8.Bytes) :
    ∃ u', t.write p other = .ok u' := by
  unfold write at written ⊢
  split at written
  · cases written
  · exact ⟨_, rfl⟩
  · split at written
    · exact ⟨_, rfl⟩
    · cases written

end ParserHost.FileTree
