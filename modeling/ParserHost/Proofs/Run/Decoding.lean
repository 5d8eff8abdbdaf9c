import ParserHost.Proofs.Json.Numbers
import ParserHost.Proofs.Run.Faults

/-!
# Standard output that is decoded

What comes of the text on standard output: a value that the exit status has no part in, a refusal that
names the exit status unless it is 0, or the fault of a text that is beyond a limit of the reader
(`decode_of_read`, `decode_of_malformed`, `decode_of_beyond`).
-/

namespace ParserHost

def Mentions (text : String) (status : Int) : Prop :=
  s!"Parser exited with code {status}".toList <:+: text.toList

-- The phrase starts with a capital P, and no other part of a refusal has one. So its absence is shown
-- character by character, without a search through the text.
theorem not_mentions {text : String} (without : 'P' ∉ text.toList) (status : Int) :
    ¬ Mentions text status := by
  intro mentions
  refine without (mentions.subset ?_)
  rw [String.toList_append]
  exact List.mem_append_left _ (by decide)

/-! ## Refusals -/

namespace RunError

variable {reason : String} {status : Int} {hint : Option String}

theorem malformedText_of_zero :
    malformedText reason (some 0) hint = "Error returned from parser: " ++ reason := by
  have dropped : (some (0 : Int)).filter (· != 0) = none := rfl
  rw [malformedText, dropped]
  rfl

theorem malformedText_of_nonzero (nonzero : status ≠ 0) :
    ∃ more, malformedText reason (some status) hint = s!"Parser exited with code {status}" ++ more := by
  have kept : (some status).filter (· != 0) = some status := by simp [nonzero]
  rw [malformedText, kept]
  cases given? hint with
  | none => exact ⟨s!" ({reason})", by simp [String.append_assoc]⟩
  | some text => exact ⟨s!": {text} ({reason})", by simp [String.append_assoc]⟩

theorem mentions_malformed (without : 'P' ∉ reason.toList) :
    Mentions (malformedResponse reason (some status) hint).message status ↔ status ≠ 0 := by
  change Mentions (malformedText reason (some status) hint) status ↔ status ≠ 0
  by_cases zero : status = 0
  · refine iff_of_false (not_mentions ?_ status) (not_not.2 zero)
    rw [zero, malformedText_of_zero, String.toList_append, List.mem_append]
    exact not_or.2 ⟨by decide, without⟩
  · obtain ⟨more, text⟩ : ∃ more, malformedText reason (some status) hint = _ ++ more :=
      malformedText_of_nonzero zero
    refine iff_of_true ?_ zero
    rw [Mentions, text, String.toList_append (t := more)]
    exact (List.prefix_append _ _).isInfix

end RunError

/-! ## What is wrong with a text -/

theorem not_mem_nat {c : Char} (other : c.isDigit = false) (n : Nat) : c ∉ (toString n).toList := by
  intro member
  have digit := Literal.isDigit_of_mem_toDigits (n := n) (by simpa using member)
  rw [other] at digit
  cases digit

theorem Json.Expected.text_without {expected : Expected} (inside : ∀ limit, expected ≠ .within limit) :
    'P' ∉ expected.text.toList := by
  cases expected with
  | within limit => exact absurd rfl (inside limit)
  | _ => decide

theorem Modules.faultText_without {f : Json.Fault} (inside : ∀ limit, f.expected ≠ .within limit)
    (text : String) : 'P' ∉ (faultText f text).toList := by
  have line := not_mem_nat (c := 'P') rfl (f.position text.toList).1
  have column := not_mem_nat (c := 'P') rfl (f.position text.toList).2
  have expected := Json.Expected.text_without inside
  have at' : 'P' ∉ " at line ".toList ∧ 'P' ∉ " column ".toList := by decide
  simp only [faultText, String.toList_append, List.mem_append, not_or]
  exact ⟨⟨⟨⟨expected, at'.1⟩, line⟩, at'.2⟩, column⟩

/-! ## Integers that are too long -/

def digitsAndLetter (n : Nat) : String :=
  String.ofList (List.replicate n '1' ++ ['x'])

theorem trim_digitsAndLetter (n : Nat) : Text.trim (digitsAndLetter n) = digitsAndLetter n := by
  have clean : ∀ c ∈ (digitsAndLetter n).toList, Text.isBlank c = false := by
    intro c member
    rw [digitsAndLetter, String.toList_ofList] at member
    rcases List.mem_append.1 member with member | member
    · rw [List.eq_of_mem_replicate member]
      rfl
    · rw [List.mem_singleton.1 member]
      rfl
  exact Text.trim_of_ends (fun c first => clean c (List.mem_of_mem_head? first))
    fun c last => clean c (List.mem_of_mem_getLast? last)

namespace Json

theorem number_of_long {d : Dialect} {negative : Bool} {start ds rest : List Char} (whole : Whole ds)
    (stops : Literal.EndsDigits rest) (point : fraction rest = (none, rest))
    (power : exponent rest = (none, rest)) (long : digitLimit < ds.length) :
    number d negative start (ds ++ rest) = .error ⟨.within (.digits ds.length), start.length⟩ := by
  simp [number_eq, wholePart_append whole stops, whole.isEmpty, point, power, long]

theorem read_digitsAndLetter {n : Nat} (long : digitLimit < n) :
    read (digitsAndLetter n) = .error ⟨.within (.digits n), n + 1⟩ := by
  obtain ⟨k, rfl⟩ : ∃ k, n = k + 1 := ⟨n - 1, by unfold digitLimit at long; omega⟩
  have digits : List.replicate (k + 1) '1' ++ ['x'] = '1' :: (List.replicate k '1' ++ ['x']) := rfl
  have whole : Whole (List.replicate (k + 1) '1') := by
    refine .digits (by decide) fun c member => ?_
    rw [List.eq_of_mem_replicate (n := k + 1) member]
    rfl
  have stops : Literal.EndsDigits ['x'] := by
    rintro c more ⟨⟩
    rfl
  have number (start : List Char) : number lenient false start _ = _ :=
    number_of_long whole stops rfl rfl (by simpa using long)
  have mark : ∀ more, List.replicate (k + 1) '1' ++ ['x'] ≠ '\ufeff' :: more := by
    rintro more ⟨⟩
  rw [digitsAndLetter, read, String.toList_ofList, readChars_eq mark, digits, skipSpace_cons rfl,
    value_atom (by simp) (by simp) (by simp), atom_digit rfl, ← digits, number]
  simp

end Json

/-! ## Decoding -/

namespace Invocation

variable {output : String} {status : Int} {hint : Option String}

theorem visible_of_read {r : Except Json.Fault Json} (read : Json.read (Text.trim output) = r)
    (other : r ≠ .error ⟨.value, 0⟩) : (Text.trim output).isEmpty = false := by
  have empty : Json.read "" = .error ⟨.value, 0⟩ := rfl
  by_contra blank
  have nothing : Text.trim output = "" := by simpa using blank
  rw [nothing, empty] at read
  exact other read.symm

theorem decode_of_blank (blank : Text.trim output = "") :
    decode output status hint =
      .error (.run (.malformedResponse "no response on standard output" (some status) hint)) := by
  have empty : (Text.trim output).isEmpty = true := by simpa using blank
  rw [decode, if_pos empty]

theorem decode_of_read {v : Json} (read : Json.read (Text.trim output) = .ok v) :
    decode output status hint = .ok v := by
  have visible := visible_of_read read (by simp)
  simp only [decode, visible, Bool.false_eq_true, if_false, read]

theorem decode_of_beyond {limit : Json.Limit} {left : Nat}
    (beyond : Json.read (Text.trim output) = .error ⟨.within limit, left⟩) :
    decode output status hint = .error (.fault (.beyond limit)) := by
  have visible := visible_of_read beyond (by simp)
  simp only [decode, visible, Bool.false_eq_true, if_false, beyond]

theorem decode_of_malformed {f : Json.Fault} (malformed : Json.read (Text.trim output) = .error f)
    (inside : ∀ limit, f.expected ≠ .within limit) :
    ∃ reason, 'P' ∉ reason.toList ∧ ∀ status hint,
      decode output status hint = .error (.run (.malformedResponse reason (some status) hint)) := by
  by_cases blank : Text.trim output = ""
  · exact ⟨_, by decide, fun _ _ => decode_of_blank blank⟩
  · have visible : (Text.trim output).isEmpty = false := by simpa using blank
    refine ⟨s!"invalid JSON on standard output: {Modules.faultText f (Text.trim output)}", ?_,
      fun status hint => ?_⟩
    · rw [String.toList_append, List.mem_append]
      exact not_or.2 ⟨by decide, Modules.faultText_without inside _⟩
    · simp only [decode, visible, Bool.false_eq_true, if_false, malformed]
      split
      · next same => cases same
      · next limit left same =>
        cases same
        exact absurd rfl (inside limit)
      · next same =>
        cases same
        rfl

theorem decode_digitsAndLetter {n : Nat} (long : Json.digitLimit < n) :
    decode (digitsAndLetter n) status hint = .error (.fault (.beyond (.digits n))) := by
  have read := Json.read_digitsAndLetter long
  rw [← trim_digitsAndLetter] at read
  exact decode_of_beyond read

/-- A text that is not JSON fails without a word on the exit status, because it starts with an integer
that is too long. -/
theorem unmentioned_of_long_integer :
    decode (digitsAndLetter 4301) 3 none = .error (.fault (.beyond (.digits 4301))) ∧
      ¬ Mentions (Failure.message (.fault (.beyond (.digits 4301)))) 3 :=
  ⟨decode_digitsAndLetter (by decide), not_mentions (by decide +kernel) 3⟩

end Invocation

end ParserHost
