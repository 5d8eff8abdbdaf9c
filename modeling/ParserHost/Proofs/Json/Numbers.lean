import ParserHost.Json.Writer
import ParserHost.Proofs.Json.Reading
import ParserHost.Proofs.Number.Digits
import ParserHost.Proofs.Number.Shortest

/-!
# Numbers in text

How the reader takes a number apart (`number_eq`), and that it comes back from the text that is written
for it: an integer from its digits if they are not too many (`value_int`), a float from the fewest digits
that round to it, wherever their point stands (`number_write`, `value_float`).
-/

namespace ParserHost.Json

open Literal (natural spanDigits EndsDigits)
open Decimal (Scientific Format zeros digitList digitCount exponentText)

variable {d : Dialect} {negative : Bool} {start cs ds rest : List Char}

def Ends (rest : List Char) : Prop :=
  ∀ c more, rest = c :: more → isSpace c = true ∨ c = ',' ∨ c = ']' ∨ c = '\x7d'

theorem eq_of_isSpace {c : Char} (space : isSpace c = true) :
    c = ' ' ∨ c = '\t' ∨ c = '\n' ∨ c = '\r' := by
  simpa [isSpace, or_assoc] using space

theorem Ends.head {c : Char} {more : List Char} (ends : Ends (c :: more)) :
    c.isDigit = false ∧ c ≠ '.' ∧ c ≠ 'e' ∧ c ≠ 'E' := by
  rcases ends c more rfl with space | rfl | rfl | rfl
  · rcases eq_of_isSpace space with rfl | rfl | rfl | rfl <;> decide
  all_goals decide

theorem Ends.endsDigits (ends : Ends rest) : EndsDigits rest := by
  intro c more same
  subst same
  exact ends.head.1

/-! ## Parts of a number -/

theorem fraction_of_ends (ends : Ends rest) : fraction rest = (none, rest) := by
  unfold fraction
  split
  · exact absurd rfl ends.head.2.1
  · rfl

theorem exponent_of_ends (ends : Ends rest) : exponent rest = (none, rest) := by
  cases rest with
  | nil => rfl
  | cons c more =>
    obtain ⟨-, -, small, large⟩ := ends.head
    have other : ¬ (c = 'e' || c = 'E') = true := by simp [small, large]
    rw [exponent, if_neg other]

theorem fraction_digits (nonempty : ds ≠ []) (digits : ∀ x ∈ ds, x.isDigit = true)
    (ends : EndsDigits rest) : fraction ('.' :: ds ++ rest) = (some ds, rest) := by
  obtain ⟨c, more, rfl⟩ := List.exists_cons_of_ne_nil nonempty
  obtain ⟨first, others⟩ := List.forall_mem_cons.1 digits
  rw [List.cons_append, List.cons_append, fraction, if_pos first,
    Literal.spanDigits_append others ends]

theorem natural_zeros (n : Nat) (ds : List Char) : natural (zeros n ++ ds) = natural ds := by
  rw [Literal.natural_eq_ofDigitChars, Literal.natural_eq_ofDigitChars, Nat.ofDigitChars_append,
    zeros, Nat.ofDigitChars_replicate_zero, Nat.mul_zero]

theorem exponent_digits (nonempty : ds ≠ []) (digits : ∀ x ∈ ds, x.isDigit = true)
    (ends : EndsDigits rest) (below : Bool) :
    exponent ('e' :: (if below then '-' else '+') :: ds ++ rest) =
      (some (if below then -(natural ds : Int) else natural ds), rest) := by
  have spanned := Literal.spanDigits_append digits ends
  have more : ¬ ds.isEmpty = true := by simpa using nonempty
  cases below with
  | true =>
    change (if (spanDigits (ds ++ rest)).1.isEmpty = true then _ else
      (some (-(natural (spanDigits (ds ++ rest)).1 : Int)), (spanDigits (ds ++ rest)).2)) = _
    rw [spanned, if_neg more]
    rfl
  | false =>
    change (if (spanDigits (ds ++ rest)).1.isEmpty = true then _ else
      (some (natural (spanDigits (ds ++ rest)).1 : Int), (spanDigits (ds ++ rest)).2)) = _
    rw [spanned, if_neg more]
    rfl

theorem signed_natAbs (n : Int) :
    (if decide (n < 0) = true then -(n.natAbs : Int) else n.natAbs) = n := by
  by_cases below : n < 0
  · rw [if_pos (decide_eq_true below)]
    omega
  · rw [decide_eq_false below, if_neg Bool.false_ne_true]
    omega

theorem exponent_text (e : Int) (ends : EndsDigits rest) :
    exponent (exponentText e ++ rest) = (some e, rest) := by
  have written : zeros (2 - (digitList e.natAbs).length) ++ digitList e.natAbs ≠ [] := by
    simp [digitList, Nat.toDigits_ne_nil]
  have digits : ∀ c ∈ zeros (2 - (digitList e.natAbs).length) ++ digitList e.natAbs,
      c.isDigit = true := by
    intro c member
    rcases List.mem_append.1 member with member | member
    · rw [List.eq_of_mem_replicate member]
      rfl
    · exact Literal.isDigit_of_mem_toDigits member
  have value : natural (zeros (2 - (digitList e.natAbs).length) ++ digitList e.natAbs) = e.natAbs := by
    rw [natural_zeros]
    exact Literal.natural_toDigits _
  have read := exponent_digits written digits ends (decide (e < 0))
  rw [value] at read
  rw [signed_natAbs] at read
  rw [← read, exponentText]
  simp

def wholePart (cs : List Char) : List Char × List Char :=
  match cs with
  | '0' :: rest => (['0'], rest)
  | cs => spanDigits cs

/-- Digits that may stand in front of a point: a zero, or digits that do not start with one. -/
inductive Whole : List Char → Prop
  | zero : Whole ['0']
  | digits {c ds} (first : c ≠ '0') (digits : ∀ x ∈ c :: ds, x.isDigit = true) : Whole (c :: ds)

theorem wholePart_append (whole : Whole ds) (ends : EndsDigits rest) :
    wholePart (ds ++ rest) = (ds, rest) := by
  cases whole with
  | zero => rfl
  | digits first digits =>
    rw [wholePart]
    · exact Literal.spanDigits_append digits ends
    · intro more same
      injection same with same _
      exact first same

theorem number_eq (d : Dialect) (negative : Bool) (start cs : List Char) :
    number d negative start cs =
      if (wholePart cs).1.isEmpty then .error ⟨.value, start.length⟩
      else
        let f := fraction (wholePart cs).2
        let x := exponent f.2
        if digitLimit < (wholePart cs).1.length && (f.1.isNone && x.1.isNone || !d.longFloats) then
          .error ⟨.within (.digits (wholePart cs).1.length), start.length⟩
        else if f.1.isNone && x.1.isNone then
          .ok (int (if negative then -(natural (wholePart cs).1 : Int) else natural (wholePart cs).1), x.2)
        else .ok (float (Literal.decimal negative (wholePart cs).1 (f.1.getD []) (x.1.getD 0)), x.2) :=
  rfl

theorem Whole.isEmpty (whole : Whole ds) : ds.isEmpty = false := by
  cases whole <;> rfl

theorem number_int (whole : Whole ds) (ends : Ends rest) (short : ds.length ≤ digitLimit) :
    number d negative start (ds ++ rest) =
      .ok (int (if negative then -(natural ds : Int) else natural ds), rest) := by
  have few : decide (digitLimit < ds.length) = false := decide_eq_false (Nat.not_lt.2 short)
  simp only [number_eq, wholePart_append whole ends.endsDigits, fraction_of_ends ends,
    exponent_of_ends ends, whole.isEmpty, few, Bool.false_eq_true, if_false, Bool.false_and,
    Option.isNone_none, Bool.and_self, if_true]

theorem number_float {middle : List Char} {f : Option (List Char)} {x : Option Int}
    (whole : Whole ds) (long : d.longFloats = true) (stops : EndsDigits cs)
    (frac : fraction cs = (f, middle)) (exp : exponent middle = (x, rest))
    (isFloat : (f.isNone && x.isNone) = false) :
    number d negative start (ds ++ cs) =
      .ok (float (Literal.decimal negative ds (f.getD []) (x.getD 0)), rest) := by
  simp only [number_eq, wholePart_append whole stops, frac, exp, whole.isEmpty, isFloat, long,
    Bool.false_eq_true, if_false, Bool.not_true, Bool.or_self, Bool.and_false]

/-! ## Written numbers -/

theorem whole_toDigits (n : Nat) : Whole (Nat.toDigits 10 n) := by
  by_cases zero : n = 0
  · rw [zero]
    exact .zero
  · obtain ⟨c, ds, written⟩ := List.exists_cons_of_ne_nil (Nat.toDigits_ne_nil (n := n) (b := 10))
    have digits : ∀ x ∈ c :: ds, x.isDigit = true := by
      rw [← written]
      exact fun x member => Literal.isDigit_of_mem_toDigits member
    rw [written]
    exact .digits (Literal.head_toDigits_ne_zero (Nat.pos_of_ne_zero zero) written) digits

theorem digits_digitList (n : Nat) : ∀ x ∈ digitList n, x.isDigit = true :=
  fun _ member => Literal.isDigit_of_mem_toDigits member

theorem digits_zeros (n : Nat) : ∀ x ∈ zeros n, x.isDigit = true := by
  intro x member
  rw [List.eq_of_mem_replicate member]
  rfl

theorem natural_append_zeros (ds : List Char) (k : Nat) :
    natural (ds ++ zeros k) = natural ds * 10 ^ k := by
  rw [Literal.natural_eq_ofDigitChars, Literal.natural_eq_ofDigitChars, Nat.ofDigitChars_append,
    zeros, Nat.ofDigitChars_replicate_zero, Nat.mul_comm]

variable {units : Nat} {s : Scientific}

/-- Digits before and behind a point are those of a number that reads back, but for zeros at their
end. -/
theorem number_of_parts {middle : List Char} {f : Option (List Char)} {x : Option Int} {k : Nat}
    (reads : Decimal.Reads units s) (positive : 0 < units) (long : d.longFloats = true)
    (whole : Whole ds) (stops : EndsDigits cs) (frac : fraction cs = (f, middle))
    (exp : exponent middle = (x, rest)) (isFloat : (f.isNone && x.isNone) = false)
    (value : natural (ds ++ f.getD []) = s.digits * 10 ^ k)
    (scale : x.getD 0 - ((f.getD []).length : Int) + k = s.point - digitCount s.digits) :
    number d negative start (ds ++ cs) = .ok (float (.finite negative units), rest) := by
  have read : Literal.decimal negative ds (f.getD []) (x.getD 0) = .finite negative units := by
    rw [Literal.decimal, value, Double.ofDecimal_pow (reads.digits_pos positive), scale,
      Double.ofDecimal_signed, reads]
    rfl
  rw [number_float whole long stops frac exp isFloat, read]

theorem endsDigits_of_head {c : Char} (other : c.isDigit = false) (cs : List Char) :
    EndsDigits (c :: cs) := by
  rintro _ _ ⟨⟩
  exact other

def mantissa : List Char → List Char
  | [] => []
  | [d] => [d]
  | d :: rest => d :: '.' :: rest

theorem natural_digitList (n : Nat) : natural (digitList n) = n * 10 ^ 0 := by
  rw [Nat.pow_zero, Nat.mul_one]
  exact Literal.natural_toDigits n

theorem digitList_cons {n : Nat} (positive : 0 < n) :
    ∃ c ds, digitList n = c :: ds ∧ c ≠ '0' := by
  obtain ⟨c, ds, written⟩ := List.exists_cons_of_ne_nil (Nat.toDigits_ne_nil (n := n) (b := 10))
  exact ⟨c, ds, written, Literal.head_toDigits_ne_zero positive written⟩

/-- Digits with an exponent. -/
theorem number_scientific (reads : Decimal.Reads units s) (positive : 0 < units)
    (long : d.longFloats = true) (ends : Ends rest) :
    number d negative start
        (mantissa (digitList s.digits) ++ exponentText (s.point - 1) ++ rest) =
      .ok (float (.finite negative units), rest) := by
  have exponent := exponent_text (s.point - 1) ends.endsDigits
  have stops : EndsDigits (exponentText (s.point - 1) ++ rest) := endsDigits_of_head rfl _
  have value := natural_digitList s.digits
  have digits := digits_digitList s.digits
  have count : digitCount s.digits = (digitList s.digits).length := rfl
  obtain ⟨c, ds, written, other⟩ := digitList_cons (reads.digits_pos positive)
  rw [written] at digits value count ⊢
  obtain ⟨first, more⟩ := List.forall_mem_cons.1 digits
  have whole : Whole [c] := .digits other (by simpa using first)
  cases ds with
  | nil =>
    have none : fraction (exponentText (s.point - 1) ++ rest) =
        (.none, exponentText (s.point - 1) ++ rest) := rfl
    have scale : s.point - 1 - (([] : List Char).length : Int) + ((0 : Nat) : Int) =
        s.point - digitCount s.digits := by
      rw [count]
      simp
    change number d negative start ([c] ++ (exponentText (s.point - 1) ++ rest)) = _
    exact number_of_parts reads positive long whole stops none exponent rfl value scale
  | cons c' ds =>
    have frac := fraction_digits (List.cons_ne_nil c' ds) more stops
    have scale : s.point - 1 - ((c' :: ds).length : Int) + ((0 : Nat) : Int) =
        s.point - digitCount s.digits := by
      rw [count]
      simp only [List.length_cons]
      omega
    have parts : mantissa (c :: c' :: ds) ++ exponentText (s.point - 1) ++ rest =
        [c] ++ ('.' :: (c' :: ds) ++ (exponentText (s.point - 1) ++ rest)) := by
      simp [mantissa]
    rw [parts]
    exact number_of_parts reads positive long whole (endsDigits_of_head rfl _) frac exponent rfl
      value scale

/-- Digits behind a point. -/
theorem number_below (reads : Decimal.Reads units s) (positive : 0 < units)
    (long : d.longFloats = true) (ends : Ends rest) (below : s.point ≤ 0) :
    number d negative start ('0' :: '.' :: zeros (-s.point).toNat ++ digitList s.digits ++ rest) =
      .ok (float (.finite negative units), rest) := by
  have nonempty : zeros (-s.point).toNat ++ digitList s.digits ≠ [] := by
    simp [digitList, Nat.toDigits_ne_nil]
  have digits : ∀ x ∈ zeros (-s.point).toNat ++ digitList s.digits, x.isDigit = true := by
    intro x member
    rcases List.mem_append.1 member with member | member
    · exact digits_zeros _ x member
    · exact digits_digitList _ x member
  have frac := fraction_digits nonempty digits ends.endsDigits
  have value : natural (['0'] ++ (zeros (-s.point).toNat ++ digitList s.digits)) =
      s.digits * 10 ^ 0 := by
    change natural (zeros 1 ++ _) = _
    rw [natural_zeros, natural_zeros, natural_digitList]
  have scale : (0 : Int) - ((zeros (-s.point).toNat ++ digitList s.digits).length : Int) +
      ((0 : Nat) : Int) = s.point - digitCount s.digits := by
    have count : digitCount s.digits = (digitList s.digits).length := rfl
    rw [List.length_append, zeros, List.length_replicate, count]
    omega
  have parts : '0' :: '.' :: zeros (-s.point).toNat ++ digitList s.digits ++ rest =
      ['0'] ++ ('.' :: (zeros (-s.point).toNat ++ digitList s.digits) ++ rest) := by
    simp
  rw [parts]
  exact number_of_parts reads positive long .zero (endsDigits_of_head rfl _) frac
    (exponent_of_ends ends) rfl value scale

/-- A whole number, with a zero behind the point. -/
theorem number_whole (reads : Decimal.Reads units s) (positive : 0 < units)
    (long : d.longFloats = true) (ends : Ends rest) (large : (digitCount s.digits : Int) ≤ s.point) :
    number d negative start (digitList s.digits ++
        zeros (s.point - digitCount s.digits).toNat ++ ['.', '0'] ++ rest) =
      .ok (float (.finite negative units), rest) := by
  have frac : fraction ('.' :: ['0'] ++ rest) = (some ['0'], rest) :=
    fraction_digits (List.cons_ne_nil _ _) (by simp) ends.endsDigits
  have digits : ∀ x ∈ digitList s.digits ++ zeros (s.point - digitCount s.digits).toNat,
      x.isDigit = true := by
    intro x member
    rcases List.mem_append.1 member with member | member
    · exact digits_digitList _ x member
    · exact digits_zeros _ x member
  have front : Whole (digitList s.digits ++ zeros (s.point - digitCount s.digits).toNat) := by
    obtain ⟨c, ds, written, other⟩ := digitList_cons (reads.digits_pos positive)
    rw [written, List.cons_append] at digits ⊢
    exact .digits other digits
  have value : natural ((digitList s.digits ++ zeros (s.point - digitCount s.digits).toNat) ++ ['0']) =
      s.digits * 10 ^ ((s.point - digitCount s.digits).toNat + 1) := by
    change natural (_ ++ zeros 1) = _
    rw [natural_append_zeros, natural_append_zeros, natural_digitList, Nat.pow_succ]
    ring
  have scale : (0 : Int) - ((['0'] : List Char).length : Int) +
      (((s.point - digitCount s.digits).toNat + 1 : Nat) : Int) = s.point - digitCount s.digits := by
    simp only [List.length_singleton]
    omega
  rw [List.append_assoc _ ['.', '0']]
  exact number_of_parts reads positive long front (endsDigits_of_head rfl _) frac
    (exponent_of_ends ends) rfl value scale

/-- Digits on both sides of a point. -/
theorem number_inside (reads : Decimal.Reads units s) (positive : 0 < units)
    (long : d.longFloats = true) (ends : Ends rest) (some : 0 < s.point)
    (part : s.point < digitCount s.digits) :
    number d negative start ((digitList s.digits).take s.point.toNat ++
        '.' :: (digitList s.digits).drop s.point.toNat ++ rest) =
      .ok (float (.finite negative units), rest) := by
  have count : digitCount s.digits = (digitList s.digits).length := rfl
  have digits := digits_digitList s.digits
  have nonempty : (digitList s.digits).drop s.point.toNat ≠ [] := by
    rw [Ne, List.drop_eq_nil_iff]
    omega
  have frac := fraction_digits nonempty (fun x member => digits x (List.mem_of_mem_drop member))
    ends.endsDigits
  have front : Whole ((digitList s.digits).take s.point.toNat) := by
    obtain ⟨c, ds, written, other⟩ := digitList_cons (reads.digits_pos positive)
    obtain ⟨n, place⟩ : ∃ n, s.point.toNat = n + 1 := ⟨s.point.toNat - 1, by omega⟩
    rw [written] at digits
    rw [written, place, List.take_succ_cons]
    refine .digits other fun x member => digits x ?_
    rw [← List.take_succ_cons] at member
    exact List.mem_of_mem_take member
  have value : natural ((digitList s.digits).take s.point.toNat ++
      (digitList s.digits).drop s.point.toNat) = s.digits * 10 ^ 0 := by
    rw [List.take_append_drop, natural_digitList]
  have scale : (0 : Int) - (((digitList s.digits).drop s.point.toNat).length : Int) +
      ((0 : Nat) : Int) = s.point - digitCount s.digits := by
    rw [List.length_drop, count]
    omega
  rw [List.append_assoc]
  exact number_of_parts reads positive long front (endsDigits_of_head rfl _) frac
    (exponent_of_ends ends) rfl value scale

theorem number_write (reads : Decimal.Reads units s)
    (positive : 0 < units) (long : d.longFloats = true) (ends : Ends rest) :
    number d negative start (Format.plain.write s ++ rest) = .ok (float (.finite negative units), rest) := by
  have count : digitCount s.digits = (digitList s.digits).length := rfl
  rw [Format.write]
  dsimp only
  split
  · exact number_scientific reads positive long ends
  · split
    · next low => exact number_below reads positive long ends low
    · split
      · next whole => exact number_whole reads positive long ends whole
      · next high low part =>
        exact number_inside reads positive long ends (by omega) (by omega)

/-! ## Atoms -/

inductive Word : List Char → Json → Prop
  | null : Word ['n', 'u', 'l', 'l'] null
  | true : Word ['t', 'r', 'u', 'e'] (bool true)
  | false : Word ['f', 'a', 'l', 's', 'e'] (bool false)
  | nan : Word ['N', 'a', 'N'] (float .nan)
  | infinite : Word ['I', 'n', 'f', 'i', 'n', 'i', 't', 'y'] (float (.infinite false))
  | negative : Word ['-', 'I', 'n', 'f', 'i', 'n', 'i', 't', 'y'] (float (.infinite true))

/-- What is read without brackets and quotes is a word or a number. -/
theorem atom_eq_ok {v : Json} (read : atom d cs = .ok (v, rest)) :
    (∃ word, Word word v ∧ cs = word ++ rest) ∨
      (∃ more, cs = '-' :: more ∧ number d true cs more = .ok (v, rest)) ∨
        number d false cs cs = .ok (v, rest) := by
  unfold atom at read
  split at read
  case h_1 => cases read; exact .inl ⟨_, .null, rfl⟩
  case h_2 => cases read; exact .inl ⟨_, .true, rfl⟩
  case h_3 => cases read; exact .inl ⟨_, .false, rfl⟩
  case h_4 => cases read; exact .inl ⟨_, .nan, rfl⟩
  case h_5 => cases read; exact .inl ⟨_, .infinite, rfl⟩
  case h_6 => cases read; exact .inl ⟨_, .negative, rfl⟩
  case h_7 => exact .inr (.inl ⟨_, rfl, read⟩)
  case h_8 => exact .inr (.inr read)

/-! ## Numbers as values -/

theorem atom_digit {c : Char} (digit : c.isDigit = true) (more : List Char) :
    atom d (c :: more) = number d false (c :: more) (c :: more) := by
  rw [atom]
  all_goals
    rintro rest ⟨⟩
    exact absurd digit (by decide)

theorem atom_minus {c : Char} (digit : c.isDigit = true) (more : List Char) :
    atom d ('-' :: c :: more) = number d true ('-' :: c :: more) (c :: more) := by
  rw [atom]
  all_goals
    rintro rest ⟨⟩
    exact absurd digit (by decide)

theorem head_of_number {r : Json × List Char} (read : number d negative start cs = .ok r) :
    ∃ c more, cs = c :: more ∧ c.isDigit = true := by
  rw [number_eq] at read
  cases cs with
  | nil => cases read
  | cons c more =>
    refine ⟨c, more, rfl, ?_⟩
    by_contra other
    have none : (wholePart (c :: more)).1 = [] := by
      have head : c ≠ '0' := fun same => other (by rw [same]; rfl)
      rw [wholePart]
      · simp [Literal.spanDigits, List.span_eq_takeWhile_dropWhile, other]
      · intro rest same
        injection same with same _
        exact head same
    rw [none] at read
    cases read

theorem value_number {fuel room : Nat} {v : Json}
    (read : ∀ start, number d negative start cs = .ok (v, rest)) :
    value d (fuel + 1) room (if negative then '-' :: cs else cs) = .ok (v, rest) := by
  obtain ⟨c, more, rfl, digit⟩ := head_of_number (read [])
  cases negative with
  | true =>
    rw [if_pos rfl, value_atom (by simp) (by simp) (by simp), atom_minus digit, read]
  | false =>
    have other {x : Char} (symbol : x.isDigit = false) : ∀ rest, c :: more ≠ x :: rest := by
      rintro _ ⟨⟩
      rw [symbol] at digit
      cases digit
    rw [if_neg Bool.false_ne_true, value_atom (other rfl) (other rfl) (other rfl), atom_digit digit,
      read]

theorem value_int {fuel room : Nat} {n : Int}
    (short : (Nat.toDigits 10 n.natAbs).length ≤ digitLimit) (ends : Ends rest) :
    value d (fuel + 1) room (intText n ++ rest) = .ok (int n, rest) := by
  have text : intText n ++ rest = if decide (n < 0) = true then
      '-' :: (Nat.toDigits 10 n.natAbs ++ rest) else Nat.toDigits 10 n.natAbs ++ rest := by
    rw [intText]
    by_cases below : n < 0
    · simp [below]
    · simp [below]
  rw [text]
  refine value_number fun start => ?_
  rw [number_int (whole_toDigits _) ends short, Literal.natural_toDigits, signed_natAbs]

/-- A float that text can name: where it is finite, it is one that rounding gives. -/
def Named : Double → Prop
  | .finite _ units => Double.Representable units
  | _ => True

theorem value_float {fuel room : Nat} {x : Double} (named : Named x) (long : d.longFloats = true)
    (ends : Ends rest) :
    value d (fuel + 1) room ((Decimal.text "Infinity" "NaN" x).toList ++ rest) =
      .ok (float x, rest) := by
  have text (negative : Bool) (cs : List Char) : (Decimal.sign negative cs).toList ++ rest =
      if negative = true then '-' :: (cs ++ rest) else cs ++ rest := by
    rw [Decimal.sign, String.toList_ofList]
    cases negative <;> rfl
  cases x with
  | finite negative units =>
    cases units with
    | zero =>
      have frac : fraction ('.' :: ['0'] ++ rest) = (some ['0'], rest) :=
        fraction_digits (List.cons_ne_nil _ _) (by simp) ends.endsDigits
      rw [Decimal.text, text]
      refine value_number fun start => ?_
      exact number_float .zero long (endsDigits_of_head rfl _) frac (exponent_of_ends ends) rfl
    | succ units =>
      rw [Decimal.text, text]
      · refine value_number fun start => ?_
        exact number_write (Decimal.reads_shortest named units.succ_pos) units.succ_pos long ends
      · exact Nat.succ_ne_zero units
  | infinite negative =>
    rw [Decimal.text, text, value_atom]
    all_goals cases negative <;> first | rfl | simp
  | nan => rfl

end ParserHost.Json
