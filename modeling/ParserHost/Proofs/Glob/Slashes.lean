import Mathlib.Data.List.TakeDrop
import ParserHost.Glob.Wildcard

/-!
# Slashes in patterns

A pattern is read in front of a slash as it is alone, unless a bracket runs over the slash
(`wilds_append_slash`). A text that it accepts then has as many slashes as it has
(`count_le_of_accepts`, `count_wilds`).
-/

namespace ParserHost.Glob

/-! ## Brackets -/

/-- The start of a bracket, where a closing bracket does not close. -/
def opening : List Char → List Char
  | '!' :: ']' :: _ => ['!', ']']
  | '!' :: _ => ['!']
  | ']' :: _ => [']']
  | _ => []

theorem opening_append_drop (cs : List Char) : opening cs ++ cs.drop (opening cs).length = cs := by
  unfold opening
  split <;> rfl

theorem bracket?_eq (cs : List Char) : bracket? cs =
    ((cs.drop (opening cs).length).dropWhile (· != ']')).tail?.map fun after =>
      (opening cs ++ (cs.drop (opening cs).length).takeWhile (· != ']'), after) := by
  match cs with
  | [] => rfl
  | c :: cs =>
    by_cases mark : c = '!'
    · subst mark
      match cs with
      | [] => rfl
      | d :: cs =>
        by_cases close : d = ']' <;> simp [bracket?, opening, close]
        all_goals cases cs.dropWhile (· != ']') <;> rfl
    · by_cases close : c = ']' <;> simp [bracket?, opening, mark, close]
      all_goals cases cs.dropWhile (· != ']') <;> rfl

/-- The inside of a bracket is its opening and all up to the next closing bracket. -/
theorem bracket?_eq_some_iff {cs inside after : List Char} :
    bracket? cs = some (inside, after) ↔
      cs = inside ++ ']' :: after ∧ ∃ body, inside = opening cs ++ body ∧ ']' ∉ body := by
  rw [bracket?_eq]
  generalize left : cs.drop (opening cs).length = rest
  have whole : cs = opening cs ++ rest := by rw [← left, opening_append_drop]
  have cut := List.takeWhile_append_dropWhile (p := (· != ']')) (l := rest)
  have free : ']' ∉ rest.takeWhile (· != ']') := fun mem => by
    simpa using List.all_eq_true.1 List.all_takeWhile _ mem
  constructor
  · intro found
    cases tail : rest.dropWhile (· != ']') with
    | nil => simp [tail] at found
    | cons d more =>
      obtain ⟨rfl, rfl⟩ : opening cs ++ rest.takeWhile (· != ']') = inside ∧ more = after := by
        simpa [tail] using found
      have closing : d = ']' := by
        simpa [tail] using List.head_dropWhile_not (p := (· != ']')) (l := rest) (by simp [tail])
      refine ⟨?_, _, rfl, free⟩
      subst closing
      rw [List.append_assoc, ← tail, cut, ← whole]
  · rintro ⟨split, body, rfl, free⟩
    have rest_eq : rest = body ++ ']' :: after := by
      have same : opening cs ++ rest = opening cs ++ (body ++ ']' :: after) :=
        whole.symm.trans (split.trans (List.append_assoc ..))
      exact List.append_cancel_left same
    have front : rest.takeWhile (· != ']') = body := by
      rw [rest_eq, List.takeWhile_append_of_pos]
      · simp
      · intro c mem
        simpa using ne_of_mem_of_not_mem mem free
    have back : rest.dropWhile (· != ']') = ']' :: after := by
      rw [front] at cut
      exact List.append_cancel_left (cut.trans rest_eq)
    rw [front, back]
    rfl

theorem opening_append_closing {inside : List Char} (some_inside : inside ≠ [])
    (after more : List Char) :
    opening (inside ++ ']' :: after) = opening (inside ++ ']' :: more) := by
  match inside with
  | [] => exact absurd rfl some_inside
  | [c] =>
    by_cases mark : c = '!'
    · subst mark
      rfl
    · by_cases close : c = ']' <;> simp [opening, mark, close]
  | c :: d :: inside =>
    by_cases mark : c = '!'
    · subst mark
      by_cases close : d = ']' <;> simp [opening, close]
    · by_cases close : c = ']' <;> simp [opening, mark, close]

/-- What follows a closing bracket has no say in that it closes. -/
theorem bracket?_closed {cs inside after : List Char} (found : bracket? cs = some (inside, after))
    (more : List Char) : bracket? (inside ++ ']' :: more) = some (inside, more) := by
  obtain ⟨rfl, body, front, free⟩ := bracket?_eq_some_iff.1 found
  have some_inside : inside ≠ [] := by
    rintro rfl
    obtain ⟨nothing, -⟩ := List.append_eq_nil_iff.1 front.symm
    exact absurd nothing (by simp [opening])
  refine bracket?_eq_some_iff.2 ⟨rfl, body, ?_, free⟩
  rw [← opening_append_closing some_inside after more, ← front]

theorem bracket?_append {cs inside after : List Char} (found : bracket? cs = some (inside, after))
    (more : List Char) : bracket? (cs ++ more) = some (inside, after ++ more) := by
  obtain ⟨split, -⟩ := bracket?_eq_some_iff.1 found
  rw [split, List.append_assoc, List.cons_append]
  exact bracket?_closed found (after ++ more)

/-- A bracket that holds no slash closes in front of the first one. -/
theorem bracket?_before_slash {part more inside after : List Char}
    (found : bracket? (part ++ '/' :: more) = some (inside, after)) (free : '/' ∉ inside) :
    ∃ left, after = left ++ '/' :: more ∧ bracket? part = some (inside, left) := by
  obtain ⟨split, -⟩ := bracket?_eq_some_iff.1 found
  rcases List.append_eq_append_iff.1 split with ⟨extra, whole, rest⟩ | ⟨left, whole, rest⟩
  · cases extra with
    | nil => simp at rest
    | cons c extra =>
      obtain ⟨rfl, -⟩ := List.cons.inj rest
      exact absurd (by simp [whole]) free
  · cases left with
    | nil => simp at rest
    | cons c left =>
      obtain ⟨rfl, after_eq⟩ := List.cons.inj rest
      exact ⟨left, after_eq, whole ▸ bracket?_closed found left⟩

/-! ## Reading without fuel -/

def wilds (cs : List Char) : List Wild :=
  parseChars cs.length cs

theorem length_after_bracket {cs inside after : List Char}
    (found : bracket? cs = some (inside, after)) : after.length ≤ cs.length := by
  obtain ⟨rfl, -⟩ := bracket?_eq_some_iff.1 found
  simp
  omega

theorem length_dropStars (cs : List Char) : (cs.dropWhile (· = '*')).length ≤ cs.length :=
  (List.dropWhile_suffix _).length_le

theorem parseChars_stable {fuel more : Nat} {cs : List Char} (enough : cs.length ≤ fuel)
    (enough' : cs.length ≤ more) : parseChars fuel cs = parseChars more cs := by
  induction fuel generalizing more cs with
  | zero =>
    obtain rfl := List.length_eq_zero_iff.1 (Nat.le_zero.1 enough)
    cases more <;> rfl
  | succ fuel ih =>
    match cs, more with
    | [], 0 | [], _ + 1 => rfl
    | c :: rest, more + 1 =>
      simp only [List.length_cons, Nat.add_le_add_iff_right] at enough enough'
      have stars := length_dropStars rest
      simp only [parseChars]
      rw [ih enough enough', ih (Nat.le_trans stars enough) (Nat.le_trans stars enough')]
      cases found : bracket? rest with
      | none => rfl
      | some parts =>
        have short := length_after_bracket found
        simp only [ih (Nat.le_trans short enough) (Nat.le_trans short enough')]

theorem parseChars_eq_wilds {fuel : Nat} {cs : List Char} (enough : cs.length ≤ fuel) :
    parseChars fuel cs = wilds cs :=
  parseChars_stable enough (Nat.le_refl _)

def unbracketed (c : Char) (next : Option Char) : List Wild :=
  if c = '*' then if next = some '*' then [] else [.star]
  else if c = '?' then [.one]
  else [.char c]

theorem wilds_other {c : Char} (shut : c ≠ '[') (rest : List Char) :
    wilds (c :: rest) = unbracketed c rest.head? ++ wilds rest := by
  by_cases star : c = '*'
  · subst star
    cases rest with
    | nil => rfl
    | cons d rest =>
      by_cases again : d = '*'
      · subst again
        have short := length_dropStars rest
        simp [wilds, parseChars, unbracketed, parseChars_eq_wilds short,
          parseChars_eq_wilds (Nat.le_succ_of_le short)]
      · simp [wilds, parseChars, unbracketed, again]
  · by_cases single : c = '?'
    · subst single
      rfl
    · simp [wilds, parseChars, unbracketed, star, single, shut]

theorem unbracketed_append_slash (c : Char) (part more : List Char) :
    unbracketed c (part ++ '/' :: more).head? = unbracketed c part.head? := by
  cases part with
  | nil => simp [unbracketed]
  | cons d part => rfl

theorem count_unbracketed (c : Char) (next : Option Char) :
    (unbracketed c next).count (.char '/') = [c].count '/' := by
  unfold unbracketed
  split
  · next star => subst star; split <;> rfl
  · split
    · next single => subst single; rfl
    · simp [List.count_cons]

theorem wilds_unclosed {rest : List Char} (unclosed : bracket? rest = none) :
    wilds ('[' :: rest) = .char '[' :: wilds rest := by
  simp [wilds, parseChars, unclosed]

theorem wilds_set {rest inside after : List Char} (found : bracket? rest = some (inside, after)) :
    wilds ('[' :: rest) = setOf inside :: wilds after := by
  simp [wilds, parseChars, found]
  exact parseChars_eq_wilds (length_after_bracket found)

/-! ## Patterns in front of a slash -/

inductive Unbroken : List Char → Prop
  | nil : Unbroken []
  | other {c : Char} {rest : List Char} (shut : c ≠ '[') : Unbroken rest → Unbroken (c :: rest)
  | unclosed {rest : List Char} (unclosed : bracket? rest = none) :
    Unbroken rest → Unbroken ('[' :: rest)
  | set {rest inside after : List Char} (found : bracket? rest = some (inside, after))
    (free : '/' ∉ inside) : Unbroken after → Unbroken ('[' :: rest)

theorem unbroken_of_not_mem {cs : List Char} (free : '[' ∉ cs) : Unbroken cs := by
  induction cs with
  | nil => exact .nil
  | cons c rest ih =>
    obtain ⟨first, others⟩ := not_or.1 (mt List.mem_cons.2 free)
    exact .other (Ne.symm first) (ih others)

theorem wilds_append_slash {part more : List Char} (free : '/' ∉ part)
    (unbroken : Unbroken (part ++ '/' :: more)) :
    wilds (part ++ '/' :: more) = wilds part ++ .char '/' :: wilds more ∧ Unbroken more := by
  generalize whole : part ++ '/' :: more = cs at unbroken
  induction unbroken generalizing part with
  | nil => simp at whole
  | @other c rest shut unbroken ih =>
    cases part with
    | nil =>
      simp only [List.nil_append, List.cons.injEq] at whole
      obtain ⟨rfl, rfl⟩ := whole
      exact ⟨wilds_other shut more, unbroken⟩
    | cons d part =>
      simp only [List.cons_append, List.cons.injEq] at whole
      obtain ⟨rfl, rfl⟩ := whole
      obtain ⟨read, tail⟩ := ih (fun mem => free (.tail _ mem)) rfl
      rw [wilds_other shut, wilds_other shut, unbracketed_append_slash, read, List.append_assoc]
      exact ⟨rfl, tail⟩
  | @unclosed rest unclosed unbroken ih =>
    cases part with
    | nil => simp at whole
    | cons d part =>
      simp only [List.cons_append, List.cons.injEq] at whole
      obtain ⟨rfl, rfl⟩ := whole
      obtain ⟨read, tail⟩ := ih (fun mem => free (.tail _ mem)) rfl
      have alone : bracket? part = none := by
        cases found : bracket? part with
        | none => rfl
        | some parts => cases unclosed.symm.trans (bracket?_append found ('/' :: more))
      rw [wilds_unclosed unclosed, wilds_unclosed alone, read, List.cons_append]
      exact ⟨rfl, tail⟩
  | @set rest inside after found inner unbroken ih =>
    cases part with
    | nil => simp at whole
    | cons d part =>
      simp only [List.cons_append, List.cons.injEq] at whole
      obtain ⟨rfl, rfl⟩ := whole
      obtain ⟨left, rfl, alone⟩ := bracket?_before_slash found inner
      have free_left : '/' ∉ left := by
        obtain ⟨rfl, -⟩ := bracket?_eq_some_iff.1 alone
        exact fun mem => free (by simp [mem])
      obtain ⟨read, tail⟩ := ih free_left rfl
      rw [wilds_set found, wilds_set alone, read, List.cons_append]
      exact ⟨rfl, tail⟩

theorem setOf_ne_char (inside : List Char) (c : Char) : setOf inside ≠ .char c := by
  simp only [setOf]
  split <;> simp

/-- The slashes of a pattern stand for themselves. -/
theorem count_wilds {cs : List Char} (unbroken : Unbroken cs) :
    (wilds cs).count (.char '/') = cs.count '/' := by
  induction unbroken with
  | nil => rfl
  | @other c rest shut unbroken ih =>
    rw [wilds_other shut, List.count_append, count_unbracketed, ih, ← List.count_append]
    rfl
  | unclosed unclosed unbroken ih =>
    rw [wilds_unclosed unclosed, List.count_cons_of_ne (by simp), List.count_cons_of_ne (by decide),
      ih]
  | @set rest inside after found free unbroken ih =>
    obtain ⟨rfl, -⟩ := bracket?_eq_some_iff.1 found
    rw [wilds_set found, List.count_cons_of_ne (setOf_ne_char inside '/'), ih]
    simp [List.count_eq_zero.2 free]

/-! ## Accepted texts -/

theorem accepts_cons {w : Wild} {ws : List Wild} {c : Char} {cs : List Char} (single : w ≠ .star) :
    accepts (w :: ws) (c :: cs) = (w.acceptsChar c && accepts ws cs) := by
  cases w with
  | star => exact absurd rfl single
  | one | char | set => rfl

theorem accepts_append {ws vs : List Wild} {cs ds : List Char} (first : accepts ws cs = true)
    (second : accepts vs ds = true) : accepts (ws ++ vs) (cs ++ ds) = true := by
  induction ws generalizing cs with
  | nil =>
    obtain rfl : cs = [] := by simpa [accepts] using first
    exact second
  | cons w ws ih =>
    by_cases star : w = .star
    · subst star
      obtain ⟨before, after, rfl, taken⟩ := anyTail_iff.1 first
      rw [List.append_assoc, List.cons_append]
      exact anyTail_iff.2 ⟨before, after ++ ds, rfl, ih taken⟩
    · cases cs with
      | nil => cases w <;> first | exact absurd rfl star | cases first
      | cons c cs =>
        rw [accepts_cons star, Bool.and_eq_true] at first
        rw [List.cons_append, List.cons_append, accepts_cons star, Bool.and_eq_true]
        exact ⟨first.1, ih first.2⟩

theorem accepts_star (cs : List Char) : accepts [.star] cs = true :=
  anyTail_iff.2 ⟨cs, [], (List.append_nil cs).symm, rfl⟩

theorem accepts_slash {ws : List Wild} {cs : List Char} (accepted : accepts ws cs = true) :
    accepts (.char '/' :: ws) ('/' :: cs) = true := by
  simpa [accepts, Wild.acceptsChar] using accepted

/-- Every character that a pattern asks for stands in the text. -/
theorem count_le_of_accepts {ws : List Wild} {cs : List Char} (accepted : accepts ws cs = true)
    (c : Char) : ws.count (.char c) ≤ cs.count c := by
  induction ws generalizing cs with
  | nil => simp
  | cons w ws ih =>
    by_cases star : w = .star
    · subst star
      obtain ⟨before, after, rfl, taken⟩ := anyTail_iff.1 accepted
      have rest := ih taken
      rw [List.count_cons_of_ne (by simp), List.count_append]
      omega
    · cases cs with
      | nil => cases w <;> first | exact absurd rfl star | cases accepted
      | cons d cs =>
        rw [accepts_cons star, Bool.and_eq_true] at accepted
        have rest := ih accepted.2
        by_cases same : w = .char c
        · subst same
          obtain rfl : c = d := by simpa [Wild.acceptsChar] using accepted.1
          simpa using rest
        · rw [List.count_cons_of_ne same]
          exact Nat.le_trans rest List.count_le_count_cons

end ParserHost.Glob
