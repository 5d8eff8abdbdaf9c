import Mathlib.Order.WellFounded
import ParserHost.Glob.Braces
import ParserHost.Proofs.Text.Pieces

/-!
# Replacing groups one after the other

The first group without inner braces is replaced until none is left. Every replacement takes away an
opening brace (`wellFounded_replaces`), an expansion is what the replacements expand to
(`expansions_of_group`), and no group is left in the end (`free_of_mem_expansions`).
-/

namespace ParserHost.Glob

variable {cs before body after w : List Char} {g : Group}

/-! ## Groups -/

def HasGroup (cs : List Char) : Prop :=
  ∃ before body after, cs = before ++ '\x7b' :: body ++ '\x7d' :: after ∧
    ∀ c ∈ body, isBrace c = false

theorem closed?_append (plain : ∀ c ∈ body, isBrace c = false) (after : List Char) :
    closed? (body ++ '\x7d' :: after) = some (body, after) := by
  induction body with
  | nil => simp [closed?]
  | cons c body ih =>
    have first : isBrace c = false := plain c (.head _)
    simp only [isBrace, Bool.or_eq_false_iff, decide_eq_false_iff_not] at first
    rw [List.cons_append, closed?, ih fun d member => plain d (.tail _ member)]
    simp [first]

theorem hasGroup_of_group? (found : group? cs = some g) : HasGroup cs :=
  ⟨g.before, g.body, g.after, eq_of_group? found⟩

theorem group?_of_hasGroup (group : HasGroup cs) : ∃ g, group? cs = some g := by
  obtain ⟨before, body, after, rfl, plain⟩ := group
  induction before with
  | nil => exact ⟨⟨[], body, after⟩, by simp [group?, closed?_append plain]⟩
  | cons c before ih =>
    obtain ⟨g, found⟩ := ih
    simp only [List.cons_append, List.append_assoc] at found ⊢
    rw [group?, found]
    split
    · exact ⟨_, rfl⟩
    · exact ⟨_, rfl⟩

theorem group?_eq_none_iff : group? cs = none ↔ ¬ HasGroup cs := by
  constructor
  · intro none_found group
    obtain ⟨g, found⟩ := group?_of_hasGroup group
    cases none_found.symm.trans found
  · intro free
    cases found : group? cs with
    | none => rfl
    | some g => exact absurd (hasGroup_of_group? found) free

/-- A brace is closed in front of the next opening one, or it stays open. -/
theorem closed?_eq_none (unclosed : ¬ HasGroup ('\x7b' :: before)) (after : List Char) :
    closed? (before ++ '\x7b' :: after) = none := by
  cases closes : closed? (before ++ '\x7b' :: after) with
  | none => rfl
  | some parts =>
    obtain ⟨inside, rest⟩ := parts
    obtain ⟨split, plain⟩ := eq_of_closed? closes
    rcases List.append_eq_append_iff.1 split with ⟨left, whole, more⟩ | ⟨left, whole, more⟩
    · cases left with
      | nil => simp at more
      | cons c left =>
        obtain ⟨rfl, -⟩ := List.cons.inj more
        exact absurd (plain '\x7b' (by simp [whole])) (by decide)
    · cases left with
      | nil => simp at more
      | cons c left =>
        obtain ⟨rfl, -⟩ := List.cons.inj more
        exact absurd ⟨[], inside, left, by simp [whole], plain⟩ unclosed

/-- The group behind a text without groups is the first one. -/
theorem group?_of_free (free : ¬ HasGroup before) (plain : ∀ c ∈ body, isBrace c = false)
    (after : List Char) :
    group? (before ++ '\x7b' :: body ++ '\x7d' :: after) = some ⟨before, body, after⟩ := by
  induction before with
  | nil => simp [group?, closed?_append plain]
  | cons c before ih =>
    have free_later : ¬ HasGroup before := by
      rintro ⟨first, inside, rest, rfl, free_inside⟩
      exact free ⟨c :: first, inside, rest, rfl, free_inside⟩
    have unclosed : (if c = '\x7b' then
        closed? (before ++ '\x7b' :: body ++ '\x7d' :: after) else none) = none := by
      rw [ite_eq_right_iff]
      rintro rfl
      rw [List.append_assoc]
      exact closed?_eq_none free _
    simp only [List.cons_append, group?]
    rw [unclosed, ih free_later]
    rfl

/-- A character that is no closing brace closes no group. -/
theorem not_hasGroup_snoc (free : ¬ HasGroup cs) {c : Char} (other : c ≠ '\x7d') :
    ¬ HasGroup (cs ++ [c]) := by
  rintro ⟨before, body, after, split, plain⟩
  rcases List.eq_nil_or_concat after with rfl | ⟨more, d, rfl⟩
  · exact other (by simpa using (List.append_inj' split rfl).2)
  · refine free ⟨before, body, more, ?_, plain⟩
    rw [List.concat_eq_append, ← List.cons_append, ← List.append_assoc] at split
    exact (List.append_inj' split rfl).1

theorem not_hasGroup_append (free : ¬ HasGroup cs) (others : '\x7d' ∉ w) :
    ¬ HasGroup (cs ++ w) := by
  induction w generalizing cs with
  | nil => rwa [List.append_nil]
  | cons c w ih =>
    obtain ⟨other, others⟩ := not_or.1 (mt List.mem_cons.2 others)
    rw [← List.singleton_append, ← List.append_assoc]
    exact ih (not_hasGroup_snoc free (Ne.symm other)) others

theorem not_hasGroup_of_not_mem (others : '\x7d' ∉ cs) : ¬ HasGroup cs := by
  rintro ⟨before, body, after, rfl, -⟩
  exact others (by simp)

/-! ## Replacements -/

/-- A text with its first group replaced by one of its alternatives. -/
def Replaces (cs ds : List Char) : Prop :=
  ∃ g, group? cs = some g ∧ ∃ option ∈ Text.splitAt ',' g.body, ds = g.before ++ option ++ g.after

theorem opens_of_replaces {ds : List Char} (replaces : Replaces cs ds) :
    opens ds + 1 = opens cs := by
  obtain ⟨g, found, option, among, rfl⟩ := replaces
  obtain ⟨-, plain⟩ := eq_of_group? found
  have free : opens option = 0 :=
    opens_of_noBrace fun c member => plain c (Text.mem_of_mem_splitAt among member)
  simp only [opens_of_group? found, opens_append, free, Nat.add_zero]

theorem wellFounded_replaces : WellFounded fun ds cs => Replaces cs ds :=
  Subrelation.wf (fun replaces => Nat.lt_of_succ_le (opens_of_replaces replaces).le)
    (measure opens).wf

def expansions (cs : List Char) : List (List Char) :=
  expandChars (opens cs) cs

theorem expansions_of_free (free : ¬ HasGroup cs) : expansions cs = [cs] := by
  rw [expansions]
  cases opens cs with
  | zero => rfl
  | succ n => rw [expandChars, group?_eq_none_iff.2 free]

theorem expansions_of_group (found : group? cs = some g) :
    expansions cs = (Text.splitAt ',' g.body).flatMap fun option =>
      expansions (g.before ++ option ++ g.after) := by
  have fewer := opens_of_group? found
  rw [expansions, fewer, expandChars, found]
  refine List.flatMap_congr fun option among => ?_
  have left := opens_of_replaces ⟨g, found, option, among, rfl⟩
  rw [expansions, Nat.succ.inj (left.trans fewer)]

/-- An induction that follows the replacements. -/
theorem replacement_induction {P : List Char → Prop} (free : ∀ cs, ¬ HasGroup cs → P cs)
    (group : ∀ cs g, group? cs = some g →
      (∀ option ∈ Text.splitAt ',' g.body, P (g.before ++ option ++ g.after)) → P cs)
    (cs : List Char) : P cs := by
  induction cs using wellFounded_replaces.induction with
  | h cs ih =>
    cases found : group? cs with
    | none => exact free cs (group?_eq_none_iff.1 found)
    | some g => exact group cs g found fun option among => ih _ ⟨g, found, option, among, rfl⟩

theorem free_of_mem_expansions (member : w ∈ expansions cs) : ¬ HasGroup w := by
  induction cs using replacement_induction with
  | free cs free =>
    rw [expansions_of_free free, List.mem_singleton] at member
    rwa [member]
  | group cs g found ih =>
    rw [expansions_of_group found, List.mem_flatMap] at member
    obtain ⟨option, among, member⟩ := member
    exact ih option among member

end ParserHost.Glob
