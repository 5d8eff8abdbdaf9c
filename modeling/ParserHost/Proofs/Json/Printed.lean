import ParserHost.Proofs.Json.Strings
import ParserHost.Proofs.Text.Lines
import ParserHost.Proofs.Text.Utf8

/-!
# Written text is ASCII

What `compact` writes is one line of printable ASCII characters (`printed_compactChars`): digits, signs,
names, and strings in which everything else is escaped. So ends of lines do not matter to it
(`unifyNewlines_compact`).
-/

namespace ParserHost.Json

open Decimal (Format zeros digitList exponentText)

def Printed (cs : List Char) : Prop :=
  ∀ c ∈ cs, 0x20 ≤ c.toNat ∧ c.toNat < 0x7f

instance (cs : List Char) : Decidable (Printed cs) :=
  List.decidableBAll (fun c : Char => 0x20 ≤ c.toNat ∧ c.toNat < 0x7f) cs

@[simp] theorem printed_nil : Printed [] := nofun

@[simp] theorem printed_cons {c : Char} {cs : List Char} :
    Printed (c :: cs) ↔ (0x20 ≤ c.toNat ∧ c.toNat < 0x7f) ∧ Printed cs :=
  List.forall_mem_cons

@[simp] theorem printed_append {cs ds : List Char} : Printed (cs ++ ds) ↔ Printed cs ∧ Printed ds :=
  List.forall_mem_append

theorem Printed.of_sublist {cs ds : List Char} (printed : Printed ds) (sub : cs.Sublist ds) :
    Printed cs :=
  fun c member => printed c (sub.subset member)

theorem printed_digitChar : ∀ k < 16, 0x20 ≤ (Nat.digitChar k).toNat ∧ (Nat.digitChar k).toNat < 0x7f := by
  decide

theorem printed_toDigits {b : Nat} (one : 1 < b) (few : b ≤ 16) (n : Nat) :
    Printed (Nat.toDigits b n) := by
  induction n using Nat.strongRecOn with
  | ind n ih =>
    rw [Nat.toDigits_eq_if one]
    split
    · next small =>
      exact printed_cons.2 ⟨printed_digitChar n (by omega), printed_nil⟩
    · next large =>
      have less : n / b < n := Nat.div_lt_self (by omega) one
      have digit : n % b < 16 := (Nat.mod_lt n (by omega)).trans_le few
      exact printed_append.2 ⟨ih _ less, printed_cons.2 ⟨printed_digitChar _ digit, printed_nil⟩⟩

theorem printed_zeros (n : Nat) : Printed (zeros n) := by
  intro c member
  rw [List.eq_of_mem_replicate member]
  decide

theorem printed_digitList (n : Nat) : Printed (digitList n) :=
  printed_toDigits (by decide) (by decide) n

/-! ## Strings -/

theorem printed_escapeUnit (n : Nat) : Printed (escapeUnit n) :=
  printed_cons.2 ⟨by decide, printed_cons.2 ⟨by decide,
    printed_append.2 ⟨printed_zeros _, printed_toDigits (by decide) (by decide) n⟩⟩⟩

theorem printed_escapeCode (n : Nat) : Printed (escapeCode n) := by
  unfold escapeCode
  iterate 7
    split
    · decide
  split
  · next plain =>
    simp only [Bool.and_eq_true, decide_eq_true_eq] at plain
    refine printed_cons.2 ⟨?_, printed_nil⟩
    rw [toNat_ofNat (by omega)]
    exact plain
  · split
    · exact printed_escapeUnit n
    · exact printed_append.2 ⟨printed_escapeUnit _, printed_escapeUnit _⟩

theorem printed_stringText (codes : List Nat) : Printed (stringText codes) := by
  refine printed_append.2 ⟨printed_cons.2 ⟨by decide, fun c member => ?_⟩, by decide⟩
  obtain ⟨n, -, member⟩ := List.mem_flatMap.1 member
  exact printed_escapeCode n c member

/-! ## Numbers -/

theorem printed_intText (n : Int) : Printed (intText n) := by
  have digits := printed_toDigits (b := 10) (by decide) (by decide) n.natAbs
  unfold intText
  split
  · exact printed_cons.2 ⟨by decide, digits⟩
  · exact digits

theorem printed_exponentText (e : Int) : Printed (exponentText e) := by
  have sign : Printed ['e', if e < 0 then '-' else '+'] := by
    split <;> decide
  exact printed_append.2 ⟨sign, printed_append.2 ⟨printed_zeros _, printed_digitList _⟩⟩

theorem printed_write (f : Format) (s : Decimal.Scientific) : Printed (f.write s) := by
  have digits := printed_digitList s.digits
  have point : Printed ['.'] := by decide
  unfold Format.write
  dsimp only
  split
  · refine printed_append.2 ⟨?_, printed_exponentText _⟩
    split
    · exact printed_nil
    · next d written => exact written ▸ digits
    · next d rest written =>
      rw [written] at digits
      obtain ⟨first, more⟩ := printed_cons.1 digits
      exact printed_cons.2 ⟨first, printed_append.2 ⟨point, more⟩⟩
  · split
    · have front : Printed ['0', '.'] := by decide
      exact printed_append.2 ⟨printed_append.2 ⟨front, printed_zeros _⟩, digits⟩
    · split
      · refine printed_append.2 ⟨printed_append.2 ⟨digits, printed_zeros _⟩, ?_⟩
        split <;> decide
      · refine printed_append.2 ⟨digits.of_sublist (List.take_sublist ..), ?_⟩
        exact printed_append.2 ⟨point, digits.of_sublist (List.drop_sublist ..)⟩

theorem printed_sign {cs : List Char} (printed : Printed cs) (negative : Bool) :
    Printed (Decimal.sign negative cs).toList := by
  rw [Decimal.sign, String.toList_ofList]
  cases negative with
  | false => exact printed
  | true => exact printed_cons.2 ⟨by decide, printed⟩

theorem printed_text (x : Double) : Printed (Decimal.text "Infinity" "NaN" x).toList := by
  unfold Decimal.text
  split
  · exact printed_sign (by decide) _
  · exact printed_sign (printed_write _ _) _
  · exact printed_sign (by decide) _
  · decide

/-! ## Values -/

theorem printed_keyText (key : String) : Printed (keyText key) :=
  printed_stringText _

mutual
theorem printed_compactChars : (v : Json) → Printed (compactChars v)
  | arr (v :: rest) => by
    rw [compactChars]
    simp [printed_compactChars v, printed_compactItems rest]
  | obj ((k, v) :: rest) => by
    rw [compactChars]
    simp [printed_keyText, printed_compactChars v, printed_compactMembers rest]
  | null | bool true | bool false | arr [] | obj [] => by decide
  | int n => printed_intText n
  | float x => printed_text x
  | str s => printed_keyText s
  | broken codes => printed_stringText codes

theorem printed_compactItems : (vs : List Json) → Printed (compactItems vs)
  | [] => by decide
  | v :: rest => by
    rw [compactItems]
    simp [printed_compactChars v, printed_compactItems rest]

theorem printed_compactMembers : (e : Entries) → Printed (compactMembers e)
  | [] => by decide
  | (k, v) :: rest => by
    rw [compactMembers]
    simp [printed_keyText, printed_compactChars v, printed_compactMembers rest]
end

theorem unifyNewlines_compact (v : Json) : Text.unifyNewlines (compact v) = compact v := by
  refine Text.unifyNewlines_eq fun member => ?_
  rw [compact, String.toList_ofList] at member
  have := (printed_compactChars v _ member).1
  exact absurd this (by decide)

theorem getLast?_compactMembers (e : Entries) : (compactMembers e).getLast? = some '\x7d' := by
  induction e with
  | nil => rfl
  | cons m e ih =>
    obtain ⟨k, v⟩ := m
    rw [compactMembers, List.getLast?_append, ih, Option.some_or]

theorem trim_compact_obj (m : String × Json) (e : Entries) :
    Text.trim (compact (obj (m :: e))) = compact (obj (m :: e)) := by
  obtain ⟨k, v⟩ := m
  refine Text.trim_of_ends (fun c first => ?_) fun c last => ?_
  · rw [compact, String.toList_ofList, compactChars] at first
    cases first
    decide
  · rw [compact, String.toList_ofList, compactChars, List.getLast?_append, getLast?_compactMembers,
      Option.some_or] at last
    cases last
    decide

end ParserHost.Json
