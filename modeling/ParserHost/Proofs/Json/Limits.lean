import ParserHost.Proofs.Json.Readable

/-!
# Texts beyond the limits of the reader

What the reader leaves is the end of what it was given (`restsWith`). So a text that goes beyond a limit
shows it: an integer of too many digits stands in it, or it opens too many brackets (`exceeds_of_read`).
-/

namespace ParserHost.Json

open Literal (spanDigits EndsDigits)

variable {d : Dialect} {fuel room left : Nat} {limit : Limit} {opening cs rest : List Char}

/-! ## What is left over -/

theorem skipSpace_suffix (cs : List Char) : skipSpace cs <:+ cs :=
  List.dropWhile_suffix _

theorem units_suffix {us acc : List Nat} {text : List Char}
    (read : units opening text acc = .ok (us, rest)) : rest <:+ text := by
  have past (front : List Char) {text : List Char} (inner : rest <:+ text) : rest <:+ front ++ text :=
    inner.trans (List.suffix_append _ _)
  fun_induction units opening text acc with
  | case2 rest acc =>
    cases read
    exact List.suffix_cons _ _
  | case5 a b c e rest acc n value _ ih => exact past ['\\', 'u', a, b, c, e] (ih read)
  | case7 c rest acc _ _ e _ ih => exact past ['\\', c] (ih read)
  | case11 c rest acc _ _ _ _ _ _ ih => exact past [c] (ih read)
  | case1 | case3 | case4 | case6 | case8 | case9 | case10 => cases read

theorem string_suffix {codes : List Nat} {text : List Char}
    (read : string d text = .ok (codes, rest)) : rest <:+ text := by
  unfold string at read
  split at read
  · next taken =>
    dsimp only at read
    split at read
    · cases read
    · cases read
      exact units_suffix taken
  · cases read

theorem spanDigits_suffix (cs : List Char) : (spanDigits cs).2 <:+ cs := by
  rw [spanDigits, List.span_eq_takeWhile_dropWhile]
  exact List.dropWhile_suffix _

theorem wholePart_suffix (cs : List Char) : (wholePart cs).2 <:+ cs := by
  unfold wholePart
  split
  · exact List.suffix_cons _ _
  · exact spanDigits_suffix _

theorem fraction_none (none : (fraction cs).1 = none) : (fraction cs).2 = cs := by
  unfold fraction at none ⊢
  split at none
  · split at none
    · cases none
    · next other => rw [if_neg other]
  · rfl

theorem fraction_suffix (cs : List Char) : (fraction cs).2 <:+ cs := by
  unfold fraction
  split
  · next c rest =>
    split
    · exact (spanDigits_suffix rest).trans (List.suffix_append ['.', c] rest)
    · exact List.suffix_rfl
  · exact List.suffix_rfl

theorem sign_suffix (cs : List Char) : (Literal.sign cs).2 <:+ cs := by
  unfold Literal.sign
  split
  · exact List.suffix_cons _ _
  · exact List.suffix_cons _ _
  · exact List.suffix_rfl

theorem exponent_suffix (cs : List Char) : (exponent cs).2 <:+ cs := by
  unfold exponent
  split
  · next c rest =>
    split
    · dsimp only
      split
      · exact List.suffix_rfl
      · exact (spanDigits_suffix _).trans ((sign_suffix rest).trans (List.suffix_cons c rest))
    · exact List.suffix_rfl
  · exact List.suffix_rfl

theorem number_suffix {negative : Bool} {start : List Char} {v : Json}
    (read : number d negative start cs = .ok (v, rest)) : rest <:+ cs := by
  have parts : (exponent (fraction (wholePart cs).2).2).2 <:+ cs :=
    (exponent_suffix _).trans ((fraction_suffix _).trans (wholePart_suffix cs))
  rw [number_eq] at read
  split at read
  · cases read
  · dsimp only at read
    split at read
    · cases read
    · split at read
      · cases read
        exact parts
      · cases read
        exact parts

theorem atom_suffix {v : Json} (read : atom d cs = .ok (v, rest)) : rest <:+ cs := by
  obtain ⟨word, -, rfl⟩ | ⟨more, rfl, read⟩ | read := atom_eq_ok read
  · exact List.suffix_append _ _
  · exact (number_suffix read).trans (List.suffix_cons _ _)
  · exact number_suffix read

structure RestsWith (d : Dialect) (fuel : Nat) : Prop where
  value : ∀ {room cs v rest}, value d fuel room cs = .ok (v, rest) → rest <:+ cs
  items : ∀ {room cs vs rest}, items d fuel room cs = .ok (vs, rest) → rest <:+ cs
  members : ∀ {room cs e rest}, members d fuel room cs = .ok (e, rest) → rest <:+ cs

/-- What follows a character, perhaps after blanks, is the end of a text. -/
theorem suffix_of_next {c : Char} {after more : List Char} (next : skipSpace after = c :: more)
    (inside : after <:+ cs) : more <:+ cs := by
  have skipped := skipSpace_suffix after
  rw [next] at skipped
  exact ((List.suffix_cons c more).trans skipped).trans inside

theorem value_suffix_succ (before : RestsWith d fuel) {v : Json}
    (read : value d (fuel + 1) room cs = .ok (v, rest)) : rest <:+ cs := by
  unfold value at read
  split at read
  · split at read
    · next taken =>
      cases read
      exact (string_suffix taken).trans (List.suffix_cons _ _)
    · cases read
  · dsimp only at read
    split at read
    · next closed =>
      split at read
      · cases read
      · cases read
        exact suffix_of_next closed (List.suffix_cons _ _)
    · split at read
      · cases read
      · split at read
        · next taken =>
          cases read
          exact (before.items taken).trans ((skipSpace_suffix _).trans (List.suffix_cons _ _))
        · cases read
  · dsimp only at read
    split at read
    · next closed =>
      split at read
      · cases read
      · cases read
        exact suffix_of_next closed (List.suffix_cons _ _)
    · split at read
      · cases read
      · split at read
        · next taken =>
          cases read
          exact (before.members taken).trans ((skipSpace_suffix _).trans (List.suffix_cons _ _))
        · cases read
  · exact atom_suffix read

theorem items_suffix_succ (before : RestsWith d fuel) {vs : List Json}
    (read : items d (fuel + 1) room cs = .ok (vs, rest)) : rest <:+ cs := by
  unfold items at read
  split at read
  · cases read
  · next first =>
    have inside := before.value first
    split at read
    · next closed =>
      cases read
      exact suffix_of_next closed inside
    · next comma =>
      split at read
      · next taken =>
        cases read
        exact (before.items taken).trans ((skipSpace_suffix _).trans (suffix_of_next comma inside))
      · cases read
    · cases read

theorem members_suffix_succ (before : RestsWith d fuel) {e : Entries}
    (read : members d (fuel + 1) room cs = .ok (e, rest)) : rest <:+ cs := by
  unfold members at read
  split at read
  · split at read
    · cases read
    · next key =>
      have inside := (string_suffix key).trans (List.suffix_cons '"' _)
      split at read
      · next colon =>
        have inside := (skipSpace_suffix _).trans (suffix_of_next colon inside)
        split at read
        · cases read
        · next first =>
          have inside := (before.value first).trans inside
          split at read
          · next closed =>
            cases read
            exact suffix_of_next closed inside
          · next comma =>
            split at read
            · next taken =>
              cases read
              exact (before.members taken).trans
                ((skipSpace_suffix _).trans (suffix_of_next comma inside))
            · cases read
          · cases read
      · cases read
  · cases read

theorem restsWith (d : Dialect) (fuel : Nat) : RestsWith d fuel := by
  induction fuel with
  | zero => exact ⟨nofun, nofun, nofun⟩
  | succ fuel ih => exact ⟨value_suffix_succ ih, items_suffix_succ ih, members_suffix_succ ih⟩

/-! ## Beyond a limit -/

def opensBracket (c : Char) : Bool :=
  c = '[' || c = '\x7b'

def HoldsInteger (n : Nat) (cs : List Char) : Prop :=
  ∃ before ds after, cs = before ++ (ds ++ after) ∧ Whole ds ∧ ds.length = n ∧ EndsDigits after ∧
    (fraction after).1 = none ∧ (exponent after).1 = none

/-- A text shows that it is beyond a limit, where so many brackets could still be inside each other. -/
def Exceeds (room : Nat) (cs : List Char) : Limit → Prop
  | .digits n => digitLimit < n ∧ HoldsInteger n cs
  | .depth => room < cs.countP opensBracket

theorem Exceeds.of_suffix (exceeds : Exceeds room rest limit) (inside : rest <:+ cs) :
    Exceeds room cs limit := by
  cases limit with
  | digits n =>
    obtain ⟨long, before, ds, after, rfl, number⟩ := exceeds
    obtain ⟨front, rfl⟩ := inside
    exact ⟨long, front ++ before, ds, after, (List.append_assoc ..).symm, number⟩
  | depth => exact Nat.lt_of_lt_of_le exceeds inside.sublist.countP_le

theorem Exceeds.opened {c : Char} (opens : opensBracket c = true)
    (exceeds : Exceeds (room - 1) cs limit) : Exceeds room (c :: cs) limit := by
  cases limit with
  | digits n => exact exceeds.of_suffix (List.suffix_cons _ _)
  | depth =>
    have inner : room - 1 < cs.countP opensBracket := exceeds
    rw [Exceeds, List.countP_cons_of_pos opens]
    omega

theorem units_within {text : List Char} {acc : List Nat} :
    units opening text acc ≠ .error ⟨.within limit, left⟩ := by
  intro failed
  fun_induction units opening text acc with
  | case5 a b c e rest acc n value _ ih => exact ih failed
  | case7 c rest acc _ _ e _ ih => exact ih failed
  | case11 c rest acc _ _ _ _ _ _ ih => exact ih failed
  | case1 | case2 | case3 | case4 | case6 | case8 | case9 | case10 => cases failed

theorem string_within : string d cs ≠ .error ⟨.within limit, left⟩ := by
  intro failed
  unfold string at failed
  split at failed
  · dsimp only at failed
    split at failed <;> cases failed
  · next f stopped =>
    cases failed
    exact units_within stopped

theorem wholePart_split (cs : List Char) (many : 1 < (wholePart cs).1.length) :
    cs = (wholePart cs).1 ++ (wholePart cs).2 ∧ Whole (wholePart cs).1 ∧
      EndsDigits (wholePart cs).2 := by
  have digits := digits_wholePart cs
  unfold wholePart at many digits ⊢
  split at many
  · exact absurd many (Nat.lt_irrefl 1)
  · next noZero =>
    simp only [spanDigits, List.span_eq_takeWhile_dropWhile] at many digits ⊢
    have whole : cs.takeWhile Char.isDigit ++ cs.dropWhile Char.isDigit = cs :=
      List.takeWhile_append_dropWhile
    refine ⟨whole.symm, ?_, fun c more same => ?_⟩
    · cases taken : cs.takeWhile Char.isDigit with
      | nil => rw [taken] at many; cases many
      | cons c ds =>
        rw [taken] at digits whole
        refine .digits (fun zero => ?_) digits
        exact noZero _ (by rw [← whole, zero]; rfl)
    · have stopped := List.head?_dropWhile_not Char.isDigit cs
      rw [same] at stopped
      simpa using stopped

theorem exceeds_of_number {negative : Bool} {start : List Char}
    (failed : number lenient negative start cs = .error ⟨.within limit, left⟩) :
    Exceeds room cs limit := by
  rw [number_eq] at failed
  split at failed
  · cases failed
  · dsimp only at failed
    split at failed
    · next long =>
      cases failed
      rw [Bool.and_eq_true, decide_eq_true_eq, Bool.or_eq_true, Bool.and_eq_true] at long
      obtain ⟨long, ⟨noPoint, noPower⟩ | short⟩ := long
      · have many : 1 < (wholePart cs).1.length := Nat.lt_trans (by decide) long
        obtain ⟨split, whole, stops⟩ := wholePart_split cs many
        rw [Option.isNone_iff_eq_none] at noPoint noPower
        rw [fraction_none noPoint] at noPower
        exact ⟨long, [], _, _, split, whole, rfl, stops, noPoint, noPower⟩
      · cases short
    · split at failed <;> cases failed

theorem exceeds_of_atom (failed : atom lenient cs = .error ⟨.within limit, left⟩) :
    Exceeds room cs limit := by
  unfold atom at failed
  split at failed
  case h_7 => exact (exceeds_of_number failed).of_suffix (List.suffix_cons _ _)
  case h_8 => exact exceeds_of_number failed
  all_goals cases failed

structure ExceedsWith (fuel : Nat) : Prop where
  value : ∀ {room cs limit left}, value lenient fuel room cs = .error ⟨.within limit, left⟩ →
    Exceeds room cs limit
  items : ∀ {room cs limit left}, items lenient fuel room cs = .error ⟨.within limit, left⟩ →
    Exceeds room cs limit
  members : ∀ {room cs limit left}, members lenient fuel room cs = .error ⟨.within limit, left⟩ →
    Exceeds room cs limit

theorem exceeds_value_succ (before : ExceedsWith fuel)
    (failed : value lenient (fuel + 1) room cs = .error ⟨.within limit, left⟩) :
    Exceeds room cs limit := by
  have full {c : Char} {rest : List Char} (opens : opensBracket c = true) (none : room = 0) :
      Exceeds room (c :: rest) .depth := by
    rw [none, Exceeds, List.countP_cons_of_pos opens]
    exact Nat.succ_pos _
  unfold value at failed
  split at failed
  · split at failed
    · cases failed
    · next stopped =>
      cases failed
      exact absurd stopped string_within
  · dsimp only at failed
    split at failed
    · split at failed
      · next none =>
        cases failed
        exact full rfl (by simpa [lenient] using none)
      · cases failed
    · split at failed
      · next none =>
        cases failed
        exact full rfl none
      · split at failed
        · cases failed
        · next inner =>
          cases failed
          exact ((before.items inner).of_suffix (skipSpace_suffix _)).opened rfl
  · dsimp only at failed
    split at failed
    · split at failed
      · next none =>
        cases failed
        exact full rfl (by simpa [lenient] using none)
      · cases failed
    · split at failed
      · next none =>
        cases failed
        exact full rfl none
      · split at failed
        · cases failed
        · next inner =>
          cases failed
          exact ((before.members inner).of_suffix (skipSpace_suffix _)).opened rfl
  · exact exceeds_of_atom failed

theorem exceeds_items_succ (before : ExceedsWith fuel)
    (failed : items lenient (fuel + 1) room cs = .error ⟨.within limit, left⟩) :
    Exceeds room cs limit := by
  unfold items at failed
  split at failed
  · next first =>
    cases failed
    exact before.value first
  · next first =>
    have inside := (restsWith lenient fuel).value first
    split at failed
    · cases failed
    · next comma =>
      split at failed
      · cases failed
      · next others =>
        cases failed
        exact (before.items others).of_suffix
          ((skipSpace_suffix _).trans (suffix_of_next comma inside))
    · cases failed

theorem exceeds_members_succ (before : ExceedsWith fuel)
    (failed : members lenient (fuel + 1) room cs = .error ⟨.within limit, left⟩) :
    Exceeds room cs limit := by
  unfold members at failed
  split at failed
  · split at failed
    · next stopped =>
      cases failed
      exact absurd stopped string_within
    · next key =>
      have inside := (string_suffix key).trans (List.suffix_cons '"' _)
      split at failed
      · next colon =>
        have inside := (skipSpace_suffix _).trans (suffix_of_next colon inside)
        split at failed
        · next first =>
          cases failed
          exact (before.value first).of_suffix inside
        · next first =>
          have inside := ((restsWith lenient fuel).value first).trans inside
          split at failed
          · cases failed
          · next comma =>
            split at failed
            · cases failed
            · next others =>
              cases failed
              exact (before.members others).of_suffix
                ((skipSpace_suffix _).trans (suffix_of_next comma inside))
          · cases failed
      · cases failed
  · cases failed

theorem exceedsWith (fuel : Nat) : ExceedsWith fuel := by
  induction fuel with
  | zero => exact ⟨nofun, nofun, nofun⟩
  | succ fuel ih =>
    exact ⟨exceeds_value_succ ih, exceeds_items_succ ih, exceeds_members_succ ih⟩

/-- A text shows that it goes beyond a limit: it holds an integer with too many digits, or opens more
brackets than there is room for. -/
theorem exceeds_of_read {s : String} (beyond : read s = .error ⟨.within limit, left⟩) :
    Exceeds lenient.depth s.toList limit := by
  unfold Json.read readChars at beyond
  split at beyond
  · cases beyond
  · split at beyond
    · next failed =>
      cases beyond
      exact ((exceedsWith _).value failed).of_suffix (skipSpace_suffix _)
    · split at beyond <;> cases beyond

end ParserHost.Json
