import Mathlib.Data.List.Chain
import ParserHost.Json.Writer
import ParserHost.Proofs.Json.Reading

/-!
# Strings in text

What stands between the quotes of a string is read unit by unit (`Body`, `units_of_body`). Code points are
read from their escapes (`quoted_stringText`), provided that no surrogate among them could still join the
next one (`Paired`). Text has no surrogates (`paired_text`), and what the reader comes to
has joined all that can be joined (`paired_of_string`).
-/

namespace ParserHost.Json

variable {d : Dialect} {opening rest : List Char} {acc cs us : List Nat} {n : Nat}

/-! ## Escapes -/

theorem hexValue?_digitChar : ∀ k < 16, hexValue? (Nat.digitChar k) = some k := by
  decide

theorem escapeUnit_eq (small : n < 0x10000) :
    escapeUnit n = ['\\', 'u', Nat.digitChar (n / 4096), Nat.digitChar (n / 256 % 16),
      Nat.digitChar (n / 16 % 16), Nat.digitChar (n % 16)] := by
  have zero : Nat.digitChar 0 = '0' := rfl
  rw [escapeUnit, Nat.toDigits_eq_if (by decide)]
  by_cases one : n < 16
  · have a : n / 4096 = 0 := by omega
    have b : n / 256 % 16 = 0 := by omega
    have c : n / 16 % 16 = 0 := by omega
    have e : n % 16 = n := by omega
    rw [if_pos one, a, b, c, e, zero]
    rfl
  rw [if_neg one, Nat.toDigits_eq_if (by decide)]
  by_cases two : n / 16 < 16
  · have a : n / 4096 = 0 := by omega
    have b : n / 256 % 16 = 0 := by omega
    have c : n / 16 % 16 = n / 16 := by omega
    rw [if_pos two, a, b, c, zero]
    rfl
  rw [if_neg two, Nat.toDigits_eq_if (by decide)]
  by_cases three : n / 16 / 16 < 16
  · have a : n / 4096 = 0 := by omega
    have b : n / 256 % 16 = n / 16 / 16 := by omega
    rw [if_pos three, a, b, zero]
    rfl
  rw [if_neg three, Nat.toDigits_of_lt_base (by omega)]
  have a : n / 4096 = n / 16 / 16 / 16 := by omega
  have b : n / 256 % 16 = n / 16 / 16 % 16 := by omega
  rw [a, b]
  rfl

theorem hex4?_digits (small : n < 0x10000) :
    hex4? (Nat.digitChar (n / 4096)) (Nat.digitChar (n / 256 % 16))
      (Nat.digitChar (n / 16 % 16)) (Nat.digitChar (n % 16)) = some n := by
  unfold hex4?
  rw [hexValue?_digitChar _ (by omega), hexValue?_digitChar _ (by omega),
    hexValue?_digitChar _ (by omega), hexValue?_digitChar _ (by omega)]
  dsimp only
  congr 1
  omega

/-! ## The inside of a string -/

inductive Body : List Nat → List Char → Prop
  | nil : Body [] []
  | plain {c : Char} {us : List Nat} {text : List Char} (quote : c ≠ '\x22') (slash : c ≠ '\\')
      (visible : 0x20 ≤ c.toNat) : Body us text → Body (c.toNat :: us) (c :: text)
  | simple {c e : Char} {us : List Nat} {text : List Char} (escape : simpleEscape? c = some e) :
      Body us text → Body (e.toNat :: us) ('\\' :: c :: text)
  | unit {a b c e : Char} {n : Nat} {us : List Nat} {text : List Char}
      (value : hex4? a b c e = some n) :
      Body us text → Body (n :: us) ('\\' :: 'u' :: a :: b :: c :: e :: text)

theorem units_of_body {text : List Char} (body : Body us text) (acc : List Nat) :
    units opening (text ++ '\x22' :: rest) acc = .ok (acc.reverse ++ us, rest) := by
  induction body generalizing acc with
  | nil => rw [List.nil_append, units, List.append_nil]
  | @plain c us text quote slash visible _ ih =>
    rw [List.cons_append, units, if_neg (by omega), ih, List.reverse_cons, List.append_assoc,
      List.singleton_append]
    · exact quote
    · exact fun _ _ _ _ _ same => absurd same slash
    · exact fun _ same => absurd same slash
    · exact fun _ _ same => absurd same slash
    · exact fun same => absurd same slash
  | @simple c e us text escape _ ih =>
    have noUnit : c ≠ 'u' := by
      rintro rfl
      cases escape
    rw [List.cons_append, List.cons_append, units, escape]
    · dsimp only
      rw [ih, List.reverse_cons, List.append_assoc, List.singleton_append]
    · exact fun _ _ _ _ _ same => absurd same noUnit
    · exact fun same => absurd same noUnit
  | @unit a b c e n us text value _ ih =>
    have follows : ¬ (text ++ '\x22' :: rest).isEmpty = true := by simp
    simp only [List.cons_append]
    rw [units, value]
    dsimp only
    rw [if_neg follows, ih, List.reverse_cons, List.append_assoc, List.singleton_append]

theorem Body.append {us vs : List Nat} {text more : List Char} (first : Body us text)
    (second : Body vs more) : Body (us ++ vs) (text ++ more) := by
  induction first with
  | nil => exact second
  | plain quote slash visible _ ih => exact .plain quote slash visible ih
  | simple escape _ ih => exact .simple escape ih
  | unit value _ ih => exact .unit value ih

def unitsOf (n : Nat) : List Nat :=
  if n < 0x10000 then [n] else [0xd800 + (n - 0x10000) / 1024, 0xdc00 + (n - 0x10000) % 1024]

theorem toNat_ofNat (small : n < 0xd800) : (Char.ofNat n).toNat = n := by
  have valid : n.isValidChar := .inl small
  rw [Char.ofNat, dif_pos valid]
  rfl

theorem unitsOf_basic (basic : n < 0x10000) : unitsOf n = [n] :=
  if_pos basic

theorem body_escapeUnit (small : n < 0x10000) : Body [n] (escapeUnit n) := by
  rw [escapeUnit_eq small]
  exact .unit (hex4?_digits small) .nil

theorem body_simple {c e : Char} (escape : simpleEscape? c = some e) (code : n = e.toNat) :
    Body [n] ['\\', c] := by
  rw [code]
  exact .simple escape .nil

theorem body_plain (low : 0x20 ≤ n) (high : n < 0x7f) (quote : n ≠ 0x22) (slash : n ≠ 0x5c) :
    Body [n] [Char.ofNat n] := by
  have same : (Char.ofNat n).toNat = n := toNat_ofNat (by omega)
  have other {c : Char} (differs : n ≠ c.toNat) : Char.ofNat n ≠ c := by
    rintro rfl
    exact differs same.symm
  have body : Body [(Char.ofNat n).toNat] [Char.ofNat n] :=
    .plain (other quote) (other slash) (by rw [same]; exact low) .nil
  rwa [same] at body

theorem body_escapeCode (range : n < 0x110000) : Body (unitsOf n) (escapeCode n) := by
  by_cases basic : n < 0x10000
  · rw [unitsOf_basic basic]
    unfold escapeCode
    iterate 7
      split
      · next code => exact body_simple rfl code
    · next quote slash _ _ _ _ _ =>
      split
      · next plain =>
        simp only [Bool.and_eq_true, decide_eq_true_eq] at plain
        exact body_plain plain.1 plain.2 quote slash
      · exact body_escapeUnit basic
  · have pair : unitsOf n = [0xd800 + (n - 0x10000) / 1024, 0xdc00 + (n - 0x10000) % 1024] :=
      if_neg basic
    have written : escapeCode n = escapeUnit (0xd800 + (n - 0x10000) / 1024) ++
        escapeUnit (0xdc00 + (n - 0x10000) % 1024) := by
      have unprintable : ¬ (0x20 ≤ n && n < 0x7f) = true := by
        simp only [Bool.and_eq_true, decide_eq_true_eq]
        omega
      rw [escapeCode]
      iterate 7 rw [if_neg (by omega)]
      rw [if_neg unprintable, if_neg basic]
    rw [written, pair]
    exact (body_escapeUnit (by omega)).append (body_escapeUnit (by omega))

theorem body_codes (range : ∀ n ∈ cs, n < 0x110000) :
    Body (cs.flatMap unitsOf) (cs.flatMap escapeCode) := by
  induction cs with
  | nil => exact .nil
  | cons n cs ih =>
    obtain ⟨first, others⟩ := List.forall_mem_cons.1 range
    rw [List.flatMap_cons, List.flatMap_cons]
    exact (body_escapeCode first).append (ih others)

/-! ## Pairs of surrogates -/

def Joins (n m : Nat) : Prop :=
  (isHigh n && isLow m) = true

/-- Code points as pairing leaves them: in range, and no two that would join. -/
structure Paired (cs : List Nat) : Prop where
  range : ∀ n ∈ cs, n < 0x110000
  apart : cs.IsChain fun n m => ¬ Joins n m

theorem joinPairs_cons {us : List Nat} (alone : ∀ m ∈ us.head?, ¬ Joins n m) :
    joinPairs (n :: us) = n :: joinPairs us := by
  cases us with
  | nil => rfl
  | cons m us =>
    have apart : ¬ (isHigh n && isLow m) = true := alone m rfl
    rw [joinPairs, if_neg apart]

theorem head?_unitsOf_not_low {c : Nat} (range : c < 0x110000) (beyond : ¬ c < 0x10000) :
    ∀ m ∈ (unitsOf c).head?, isLow m = false := by
  rw [unitsOf, if_neg beyond]
  rintro m ⟨⟩
  rw [isLow, Bool.and_eq_false_iff]
  left
  simp only [decide_eq_false_iff_not]
  omega

/-- What does not join the next code point does not join its units either. -/
theorem not_joins_units (range : ∀ c ∈ cs, c < 0x110000) (next : ∀ c ∈ cs.head?, ¬ Joins n c) :
    ∀ m ∈ (cs.flatMap unitsOf).head?, ¬ Joins n m := by
  cases cs with
  | nil => exact fun _ none => by cases none
  | cons c cs =>
    intro m head joins
    rw [List.flatMap_cons] at head
    by_cases basic : c < 0x10000
    · rw [unitsOf_basic basic] at head
      cases head
      exact next c rfl joins
    · have notLow := head?_unitsOf_not_low (range c List.mem_cons_self) basic m (by
        rw [unitsOf, if_neg basic] at head ⊢
        exact head)
      rw [Joins, notLow, Bool.and_false] at joins
      cases joins

/-- The two units of a code point beyond the basic plane join. -/
theorem joinPairs_units (range : n < 0x110000) (beyond : ¬ n < 0x10000) (us : List Nat) :
    joinPairs (unitsOf n ++ us) = n :: joinPairs us := by
  have high : isHigh (0xd800 + (n - 0x10000) / 1024) = true := by
    simp only [isHigh, Bool.and_eq_true, decide_eq_true_eq]
    omega
  have low : isLow (0xdc00 + (n - 0x10000) % 1024) = true := by
    simp only [isLow, Bool.and_eq_true, decide_eq_true_eq]
    omega
  have joined : pair (0xd800 + (n - 0x10000) / 1024) (0xdc00 + (n - 0x10000) % 1024) = n := by
    unfold pair
    omega
  rw [unitsOf, if_neg beyond, List.cons_append, List.cons_append, List.nil_append, joinPairs, high, low,
    Bool.and_self, if_pos rfl, joined]

theorem joinPairs_flatMap (paired : Paired cs) : joinPairs (cs.flatMap unitsOf) = cs := by
  obtain ⟨range, apart⟩ := paired
  induction cs with
  | nil => rfl
  | cons n cs ih =>
    obtain ⟨first, others⟩ := List.forall_mem_cons.1 range
    obtain ⟨next, more⟩ := List.isChain_cons.1 apart
    have rest := ih others more
    rw [List.flatMap_cons]
    by_cases basic : n < 0x10000
    · rw [unitsOf_basic basic, List.singleton_append, joinPairs_cons (not_joins_units others next), rest]
    · rw [joinPairs_units first basic, rest]

theorem le_pair (n m : Nat) : 0x10000 ≤ pair n m := by
  unfold pair
  omega

theorem head?_joinPairs (m : Nat) (us : List Nat) :
    ∀ h ∈ (joinPairs (m :: us)).head?, h = m ∨ 0x10000 ≤ h := by
  cases us with
  | nil =>
    rintro h ⟨⟩
    exact .inl rfl
  | cons n us =>
    rw [joinPairs]
    split
    · intro h head
      rw [List.head?_cons, Option.mem_some_iff] at head
      rw [← head]
      exact .inr (le_pair m n)
    · rintro h ⟨⟩
      exact .inl rfl

theorem Paired.cons {n : Nat} (range : n < 0x110000) (paired : Paired cs)
    (next : ∀ m ∈ cs.head?, ¬ Joins n m) : Paired (n :: cs) :=
  ⟨List.forall_mem_cons.2 ⟨range, paired.range⟩, List.isChain_cons.2 ⟨next, paired.apart⟩⟩

/-- What pairing leaves is paired. -/
theorem paired_joinPairs (range : ∀ n ∈ us, n < 0x110000) : Paired (joinPairs us) := by
  fun_induction joinPairs us with
  | case1 => exact ⟨nofun, .nil⟩
  | case2 n => exact ⟨range, .singleton n⟩
  | case3 n m rest joins ih =>
    have rest' := ih fun k member => range k (List.mem_cons_of_mem _ (List.mem_cons_of_mem _ member))
    simp only [isHigh, isLow, Bool.and_eq_true, decide_eq_true_eq] at joins
    have large : 0x10000 ≤ pair n m ∧ pair n m < 0x110000 := by
      unfold pair
      omega
    -- What a pair becomes lies beyond the basic plane, so it joins nothing.
    refine rest'.cons large.2 fun k _ joins' => ?_
    simp only [Joins, isHigh, Bool.and_eq_true, decide_eq_true_eq] at joins'
    omega
  | case4 n m rest apart ih =>
    obtain ⟨first, others⟩ := List.forall_mem_cons.1 range
    refine (ih others).cons first fun k head joins => ?_
    -- The next code point is the next unit, which did not join, or a pair, which is no low surrogate.
    rcases head?_joinPairs m rest k head with rfl | large
    · exact apart joins
    · simp only [Joins, isLow, Bool.and_eq_true, decide_eq_true_eq] at joins
      omega

/-! ## Units that are read -/

theorem hexValue?_lt {c : Char} {k : Nat} (value : hexValue? c = some k) : k < 16 := by
  unfold hexValue? at value
  dsimp only at value
  split at value
  · next digit =>
    cases value
    have bounds : 48 ≤ c.toNat ∧ c.toNat ≤ 57 := Char.isDigit_iff_toNat.1 digit
    omega
  · split at value
    · next lower =>
      cases value
      simp only [Bool.and_eq_true, decide_eq_true_eq] at lower
      omega
    · split at value
      · next upper =>
        cases value
        simp only [Bool.and_eq_true, decide_eq_true_eq] at upper
        omega
      · cases value

theorem hex4?_lt {a b c e : Char} (value : hex4? a b c e = some n) : n < 0x10000 := by
  unfold hex4? at value
  split at value
  · next one two three four =>
    cases value
    have := hexValue?_lt one
    have := hexValue?_lt two
    have := hexValue?_lt three
    have := hexValue?_lt four
    omega
  · cases value

theorem toNat_lt (c : Char) : c.toNat < 0x110000 := by
  rcases c.valid with small | large
  · change c.val.toNat < 0xd800 at small
    change c.val.toNat < 0x110000
    omega
  · exact large.2

theorem range_units {text : List Char} (read : units opening text acc = .ok (us, rest))
    (range : ∀ n ∈ acc, n < 0x110000) : ∀ n ∈ us, n < 0x110000 := by
  have more {n : Nat} (small : n < 0x110000) {acc : List Nat} (range : ∀ n ∈ acc, n < 0x110000) :
      ∀ k ∈ n :: acc, k < 0x110000 := List.forall_mem_cons.2 ⟨small, range⟩
  fun_induction units opening text acc with
  | case2 rest acc =>
    cases read
    exact fun n member => range n (List.mem_reverse.1 member)
  | case5 a b c e rest acc n value _ ih =>
    have small := hex4?_lt value
    exact ih read (more (by omega) range)
  | case7 c rest acc _ _ e _ ih => exact ih read (more (toNat_lt e) range)
  | case11 c rest acc _ _ _ _ _ _ ih => exact ih read (more (toNat_lt c) range)
  | case1 | case3 | case4 | case6 | case8 | case9 | case10 => cases read

/-! ## Strings as values -/

inductive Quoted (d : Dialect) : List Nat → List Char → Prop
  | intro {us : List Nat} {text : List Char} (body : Body us text)
      (kept : d.unpaired = true ∨ (joinPairs us).any isSurrogate = false) :
      Quoted d (joinPairs us) ('\x22' :: text ++ ['\x22'])

theorem string_of_body {text : List Char} (body : Body us text)
    (kept : d.unpaired = true ∨ (joinPairs us).any isSurrogate = false) :
    string d (text ++ '\x22' :: rest) = .ok (joinPairs us, rest) := by
  have none : ¬ (!d.unpaired && (joinPairs us).any isSurrogate) = true := by
    rcases kept with kept | none
    · simp [kept]
    · simp [none]
  rw [string, units_of_body body]
  exact if_neg none

theorem quoted_stringText (paired : Paired cs)
    (kept : d.unpaired = true ∨ cs.any isSurrogate = false) : Quoted d cs (stringText cs) := by
  have joined := joinPairs_flatMap paired
  have quoted : Quoted d (joinPairs (cs.flatMap unitsOf)) (stringText cs) :=
    .intro (body_codes paired.range) (by rwa [joined])
  rwa [joined] at quoted

theorem paired_of_string {text : List Char} (read : string d text = .ok (cs, rest)) : Paired cs := by
  unfold string at read
  split at read
  · next us rest' taken =>
    dsimp only at read
    split at read
    · cases read
    · cases read
      exact paired_joinPairs (range_units taken nofun)
  · cases read

theorem isSurrogate_text (c : Char) : isSurrogate c.toNat = false := by
  rw [isSurrogate, Bool.and_eq_false_iff, decide_eq_false_iff_not, decide_eq_false_iff_not]
  rcases c.valid with small | large
  · left
    change c.val.toNat < 0xd800 at small
    change ¬ 0xd800 ≤ c.val.toNat
    omega
  · right
    have above : 0xdfff < c.val.toNat := large.1
    change ¬ c.val.toNat < 0xe000
    omega

theorem paired_text (s : String) : Paired (s.toList.map Char.toNat) := by
  refine ⟨?_, ?_⟩
  · intro n member
    obtain ⟨c, -, rfl⟩ := List.mem_map.1 member
    exact toNat_lt c
  · have alone : ∀ n ∈ s.toList.map Char.toNat, isHigh n = false := by
      intro n member
      obtain ⟨c, -, rfl⟩ := List.mem_map.1 member
      have whole := isSurrogate_text c
      simp only [isSurrogate, isHigh, Bool.and_eq_false_iff, decide_eq_false_iff_not] at whole ⊢
      omega
    refine List.isChain_iff_forall_rel_of_append_cons_cons.2 fun n m before after split joins => ?_
    have member : n ∈ s.toList.map Char.toNat := by
      rw [split]
      simp
    rw [Joins, alone n member] at joins
    cases joins

theorem textOf_text (s : String) : textOf (s.toList.map Char.toNat) = s := by
  have each : (s.toList.map Char.toNat).map
      (fun n => if isSurrogate n then '\ufffd' else Char.ofNat n) = s.toList := by
    rw [List.map_map]
    conv_rhs => rw [← List.map_id s.toList]
    refine List.map_congr_left fun c _ => ?_
    rw [Function.comp_apply, isSurrogate_text, if_neg Bool.false_ne_true, Char.ofNat_toNat]
    rfl
  rw [textOf, each, String.ofList_toList]

theorem noSurrogate_text (s : String) : (s.toList.map Char.toNat).any isSurrogate = false := by
  simp [isSurrogate_text]

theorem stringOf_text (s : String) : stringOf (s.toList.map Char.toNat) = .str s := by
  rw [stringOf, noSurrogate_text, if_neg Bool.false_ne_true, textOf_text]

theorem quoted_keyText (s : String) : Quoted d (s.toList.map Char.toNat) (keyText s) :=
  quoted_stringText (paired_text s) (.inr (noSurrogate_text s))

end ParserHost.Json
