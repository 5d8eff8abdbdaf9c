import ParserHost.Proofs.Json.Numbers
import ParserHost.Proofs.Json.Strings

/-!
# Spelled values

The texts of a value, with any layout between its parts and any escapes in its strings (`Spells`). The
reader comes to the value from each of them (`readChars_of_spells`).
-/

namespace ParserHost.Json

variable {d : Dialect} {fuel room : Nat} {cs rest : List Char} {v : Json}

/-! ## Layout -/

def Layout (cs : List Char) : Prop :=
  ∀ c ∈ cs, isSpace c = true

theorem layout_nil : Layout [] := nofun

theorem layout_blank : Layout [' '] := by
  intro c member
  rw [List.mem_singleton.1 member]
  rfl

theorem skipSpace_layout {before : List Char} (layout : Layout before) (rest : List Char) :
    skipSpace (before ++ rest) = skipSpace rest := by
  induction before with
  | nil => rfl
  | cons c before ih =>
    obtain ⟨first, others⟩ := List.forall_mem_cons.1 layout
    rw [List.cons_append, skipSpace, List.dropWhile_cons_of_pos first]
    exact ih others

theorem ends_nil : Ends [] := nofun

theorem ends_cons {c : Char} (goesOn : c = ',' ∨ c = ']' ∨ c = '\x7d') (rest : List Char) :
    Ends (c :: rest) := by
  rintro c more ⟨⟩
  exact .inr goesOn

theorem Ends.layout {after : List Char} (ends : Ends rest) (layout : Layout after) :
    Ends (after ++ rest) := by
  cases after with
  | nil => exact ends
  | cons c after =>
    rintro c more ⟨⟩
    exact .inl (layout _ (.head _))

structure Begins (cs : List Char) : Prop where
  head : ∃ c more, cs = c :: more ∧ isSpace c = false ∧ c ≠ ']' ∧ c ≠ '\ufeff'

theorem begins_digit {c : Char} (digit : c.isDigit = true) (more : List Char) :
    Begins (c :: more) := by
  have other {x : Char} (symbol : x.isDigit = false) : c ≠ x := by
    rintro rfl
    rw [symbol] at digit
    cases digit
  refine ⟨c, more, rfl, ?_, other rfl, other rfl⟩
  rw [isSpace, Bool.or_eq_false_iff, Bool.or_eq_false_iff, Bool.or_eq_false_iff]
  simp only [decide_eq_false_iff_not]
  exact ⟨⟨⟨other rfl, other rfl⟩, other rfl⟩, other rfl⟩

theorem begins_of_atom {r : Json × List Char} (read : atom d cs = .ok r) : Begins cs := by
  obtain ⟨v, rest⟩ := r
  obtain ⟨word, named, rfl⟩ | ⟨more, rfl, -⟩ | read := atom_eq_ok read
  · cases named <;> exact ⟨_, _, rfl, by decide, by decide, by decide⟩
  · exact ⟨_, _, rfl, by decide, by decide, by decide⟩
  · obtain ⟨c, more, rfl, digit⟩ := head_of_number read
    exact begins_digit digit more

theorem begins_of_value {r : Json × List Char} (read : value d fuel room cs = .ok r) :
    Begins cs := by
  cases fuel with
  | zero => cases read
  | succ fuel =>
    unfold value at read
    split at read
    case h_4 => exact begins_of_atom read
    all_goals exact ⟨_, _, rfl, by decide, by decide, by decide⟩

theorem Begins.skipSpace (begins : Begins cs) : skipSpace cs = cs := by
  obtain ⟨c, more, rfl, visible, -, -⟩ := begins.head
  exact skipSpace_cons visible more

theorem Begins.noBracket (begins : Begins cs) (more : List Char) : cs ≠ ']' :: more := by
  obtain ⟨c, _, rfl, -, other, -⟩ := begins.head
  rintro ⟨⟩
  exact other rfl

theorem Begins.noMark (begins : Begins cs) (more : List Char) : cs ≠ '\ufeff' :: more := by
  obtain ⟨c, _, rfl, -, -, other⟩ := begins.head
  rintro ⟨⟩
  exact other rfl

theorem Begins.append (begins : Begins cs) (rest : List Char) : Begins (cs ++ rest) := by
  obtain ⟨c, more, rfl, head⟩ := begins.head
  exact ⟨c, more ++ rest, rfl, head⟩

/-! ## Texts of values -/

mutual
/-- A text of a value, with so many brackets inside each other. -/
inductive Spells (d : Dialect) : Nat → Json → List Char → Prop
  | null {room : Nat} : Spells d room null ['n', 'u', 'l', 'l']
  | true {room : Nat} : Spells d room (bool true) ['t', 'r', 'u', 'e']
  | false {room : Nat} : Spells d room (bool false) ['f', 'a', 'l', 's', 'e']
  | int {room : Nat} {n : Int} (short : (Nat.toDigits 10 n.natAbs).length ≤ digitLimit) :
    Spells d room (int n) (intText n)
  | float {room : Nat} {x : Double} (named : Named x) (long : d.longFloats = true) :
    Spells d room (float x) (Decimal.text "Infinity" "NaN" x).toList
  | string {room : Nat} {codes : List Nat} {text : List Char} (quoted : Quoted d codes text) :
    Spells d room (stringOf codes) text
  | noItems {room : Nat} {layout : List Char} (blank : Layout layout) :
    Spells d (room + 1) (arr []) ('[' :: layout ++ [']'])
  | items {room : Nat} {vs : List Json} {text : List Char} (items : SpellsItems d room vs text) :
    Spells d (room + 1) (arr vs) ('[' :: text)
  | noMembers {room : Nat} {layout : List Char} (blank : Layout layout) :
    Spells d (room + 1) (obj []) ('\x7b' :: layout ++ ['\x7d'])
  | members {room : Nat} {e : Entries} {text : List Char} (members : SpellsMembers d room e text) :
    Spells d (room + 1) (obj (d.entries e)) ('\x7b' :: text)

inductive SpellsItem (d : Dialect) : Nat → Json → List Char → Prop
  | intro {room : Nat} {v : Json} {before text after : List Char} (blank : Layout before)
    (spelled : Spells d room v text) (blank' : Layout after) :
    SpellsItem d room v (before ++ (text ++ after))

inductive SpellsItems (d : Dialect) : Nat → List Json → List Char → Prop
  | last {room : Nat} {v : Json} {text : List Char} (item : SpellsItem d room v text) :
    SpellsItems d room [v] (text ++ [']'])
  | cons {room : Nat} {v : Json} {vs : List Json} {text more : List Char}
    (item : SpellsItem d room v text) (others : SpellsItems d room vs more) :
    SpellsItems d room (v :: vs) (text ++ ',' :: more)

inductive SpellsMember (d : Dialect) : Nat → String × Json → List Char → Prop
  | intro {room : Nat} {codes : List Nat} {v : Json} {before key next text : List Char}
    (blank : Layout before) (quoted : Quoted d codes key) (blank' : Layout next)
    (item : SpellsItem d room v text) :
    SpellsMember d room (textOf codes, v) (before ++ (key ++ (next ++ ':' :: text)))

inductive SpellsMembers (d : Dialect) : Nat → Entries → List Char → Prop
  | last {room : Nat} {m : String × Json} {text : List Char} (member : SpellsMember d room m text) :
    SpellsMembers d room [m] (text ++ ['\x7d'])
  | cons {room : Nat} {m : String × Json} {e : Entries} {text more : List Char}
    (member : SpellsMember d room m text) (others : SpellsMembers d room e more) :
    SpellsMembers d room (m :: e) (text ++ ',' :: more)
end

theorem Spells.begins (spells : Spells d room v cs) : Begins cs := by
  cases spells with
  | int short =>
    have read : value d 1 0 _ = _ := value_int short ends_nil
    rw [List.append_nil] at read
    exact begins_of_value read
  | float named long =>
    have read : value d 1 0 _ = _ := value_float named long ends_nil
    rw [List.append_nil] at read
    exact begins_of_value read
  | string quoted =>
    cases quoted
    exact ⟨_, _, rfl, by decide, by decide, by decide⟩
  | null | true | false | noItems | items | noMembers | members =>
    exact ⟨_, _, rfl, by decide, by decide, by decide⟩

theorem skipSpace_item {text : List Char} (item : SpellsItem d room v text) :
    ∃ inner after, Spells d room v inner ∧ Layout after ∧ inner.length ≤ text.length ∧
      ∀ rest, skipSpace (text ++ rest) = inner ++ (after ++ rest) := by
  cases item with
  | @intro _ _ before inner after blank spelled blank' =>
    refine ⟨inner, after, spelled, blank', by simp; omega, fun rest => ?_⟩
    rw [List.append_assoc, skipSpace_layout blank, List.append_assoc]
    exact (spelled.begins.append _).skipSpace

theorem SpellsItems.begins {vs : List Json} (spells : SpellsItems d room vs cs) (rest : List Char) :
    Begins (skipSpace (cs ++ rest)) := by
  cases spells with
  | last item | cons item others =>
    obtain ⟨inner, after, spelled, -, -, skipped⟩ := skipSpace_item item
    rw [List.append_assoc, skipped]
    exact spelled.begins.append _

theorem SpellsMembers.quote {e : Entries} (spells : SpellsMembers d room e cs) (rest : List Char) :
    ∃ more, skipSpace (cs ++ rest) = '\x22' :: more := by
  cases spells with
  | last member | cons member others =>
    obtain ⟨blank, quoted, _, _⟩ := member
    cases quoted
    rw [List.append_assoc, List.append_assoc, skipSpace_layout blank]
    exact ⟨_, skipSpace_cons rfl _⟩

/-! ## Reading them -/

structure ReadsSpelled (d : Dialect) (fuel : Nat) : Prop where
  value : ∀ {room v text rest}, Spells d room v text → Ends rest → 2 * text.length < fuel →
    value d fuel room (text ++ rest) = .ok (v, rest)
  items : ∀ {room vs text rest}, SpellsItems d room vs text → 2 * text.length + 1 < fuel →
    items d fuel room (skipSpace (text ++ rest)) = .ok (vs, rest)
  members : ∀ {room e text rest}, SpellsMembers d room e text → 2 * text.length + 1 < fuel →
    members d fuel room (skipSpace (text ++ rest)) = .ok (e, rest)

theorem value_quoted {codes : List Nat} (quoted : Quoted d codes cs) :
    value d (fuel + 1) room (cs ++ rest) = .ok (stringOf codes, rest) := by
  cases quoted with
  | @intro us text body kept =>
    have split : '\x22' :: text ++ ['\x22'] ++ rest = '\x22' :: (text ++ '\x22' :: rest) := by simp
    rw [split, value_string, string_of_body body kept]
    rfl

theorem value_succ (before : ReadsSpelled d fuel) (spells : Spells d room v cs) (ends : Ends rest)
    (enough : 2 * cs.length < fuel + 1) :
    value d (fuel + 1) room (cs ++ rest) = .ok (v, rest) := by
  cases spells with
  | null | true | false => rfl
  | int short => exact value_int short ends
  | float named long => exact value_float named long ends
  | string quoted => exact value_quoted quoted
  | noItems blank =>
    rw [List.cons_append, List.cons_append, List.append_assoc, value, skipSpace_layout blank]
    rfl
  | items spelled =>
    rw [List.length_cons] at enough
    rw [List.cons_append, value_array (spelled.begins rest).noBracket,
      before.items spelled (by omega)]
    rfl
  | noMembers blank =>
    rw [List.cons_append, List.cons_append, List.append_assoc, value, skipSpace_layout blank]
    rfl
  | @members _ e text spelled =>
    have open' : ∀ more, skipSpace (text ++ rest) ≠ '\x7d' :: more := by
      obtain ⟨more, quote⟩ := spelled.quote rest
      rw [quote]
      intro more same
      cases same
    rw [List.length_cons] at enough
    rw [List.cons_append, value_object open', before.members spelled (by omega)]
    rfl

theorem value_item (before : ReadsSpelled d fuel) (item : SpellsItem d room v cs) (ends : Ends rest)
    (enough : 2 * cs.length < fuel) :
    ∃ after, Layout after ∧ value d fuel room (skipSpace (cs ++ rest)) = .ok (v, after ++ rest) := by
  obtain ⟨inner, after, spelled, blank, short, skipped⟩ := skipSpace_item item
  refine ⟨after, blank, ?_⟩
  rw [skipped]
  exact before.value spelled (ends.layout blank) (by omega)

theorem items_succ (before : ReadsSpelled d fuel) {vs : List Json} (spells : SpellsItems d room vs cs)
    (enough : 2 * cs.length < fuel + 1) :
    items d (fuel + 1) room (skipSpace (cs ++ rest)) = .ok (vs, rest) := by
  cases spells with
  | last item =>
    rw [List.length_append, List.length_singleton] at enough
    rw [List.append_assoc, List.singleton_append]
    obtain ⟨after, blank, read⟩ :=
      value_item before item (ends_cons (.inr (.inl rfl)) rest) (by omega)
    refine items_last read ?_
    rw [skipSpace_layout blank]
    exact skipSpace_cons rfl rest
  | @cons _ _ _ text more item others =>
    rw [List.length_append, List.length_cons] at enough
    rw [List.append_assoc, List.cons_append]
    obtain ⟨after, blank, read⟩ :=
      value_item before item (ends_cons (.inl rfl) (more ++ rest)) (by omega)
    rw [items_comma read, before.items others (by omega)]
    · rfl
    · rw [skipSpace_layout blank]
      exact skipSpace_cons rfl _

/-- The key of a member, up to its colon, and its value. -/
theorem member_read (before : ReadsSpelled d fuel) {m : String × Json} (member : SpellsMember d room m cs)
    (ends : Ends rest) (enough : 2 * cs.length < fuel) :
    ∃ codes inner next more after, skipSpace (cs ++ rest) = '\x22' :: inner ∧
      string d inner = .ok (codes, next) ∧ skipSpace next = ':' :: more ∧ textOf codes = m.1 ∧
      value d fuel room (skipSpace more) = .ok (m.2, after ++ rest) ∧ Layout after := by
  cases member with
  | @intro _ codes v blank key next text blank quoted blank' item =>
    cases quoted with
    | @intro us inner body kept =>
      simp only [List.length_append, List.length_cons] at enough
      obtain ⟨after, blank'', read⟩ := value_item before item ends (by omega)
      refine ⟨joinPairs us, inner ++ '\x22' :: (next ++ ':' :: (text ++ rest)),
        next ++ ':' :: (text ++ rest), text ++ rest, after, ?_, string_of_body body kept, ?_, rfl,
        read, blank''⟩
      · rw [List.append_assoc, skipSpace_layout blank]
        simp only [List.append_assoc, List.cons_append, List.nil_append]
        exact skipSpace_cons rfl _
      · rw [skipSpace_layout blank']
        exact skipSpace_cons rfl _

theorem members_succ (before : ReadsSpelled d fuel) {e : Entries} (spells : SpellsMembers d room e cs)
    (enough : 2 * cs.length < fuel + 1) :
    members d (fuel + 1) room (skipSpace (cs ++ rest)) = .ok (e, rest) := by
  cases spells with
  | last member =>
    rw [List.length_append, List.length_singleton] at enough
    rw [List.append_assoc, List.singleton_append]
    obtain ⟨codes, inner, next, more, after, quote, key, colon, same, read, blank⟩ :=
      member_read before member (ends_cons (.inr (.inr rfl)) rest) (by omega)
    rw [quote, members_last key colon read, same]
    rw [skipSpace_layout blank]
    exact skipSpace_cons rfl rest
  | @cons _ _ _ text others' member others =>
    rw [List.length_append, List.length_cons] at enough
    rw [List.append_assoc, List.cons_append]
    obtain ⟨codes, inner, next, more, after, quote, key, colon, same, read, blank⟩ :=
      member_read before member (ends_cons (.inl rfl) (others' ++ rest)) (by omega)
    rw [quote, members_comma key colon read, before.members others (by omega), same]
    · rfl
    · rw [skipSpace_layout blank]
      exact skipSpace_cons rfl _

theorem readsSpelled (d : Dialect) (fuel : Nat) : ReadsSpelled d fuel := by
  -- A value takes one unit of fuel for its first character, and the list that it starts one for its
  -- last; each field of the hypothesis is used for shorter text only.
  induction fuel with
  | zero =>
    refine ⟨fun _ _ enough => ?_, fun _ enough => ?_, fun _ enough => ?_⟩ <;>
      exact absurd enough (Nat.not_lt_zero _)
  | succ fuel ih =>
    refine ⟨value_succ ih, fun spells enough => ?_, fun spells enough => ?_⟩
    · exact items_succ ih spells (by omega)
    · exact members_succ ih spells (by omega)

/-- Every text of a value is read as that value, with any layout around it. -/
theorem readChars_of_spells {before after : List Char} (blank : Layout before)
    (spells : Spells d d.depth v cs) (blank' : Layout after) :
    readChars d (before ++ (cs ++ after)) = .ok v := by
  have enough : 2 * cs.length < 2 * (before ++ (cs ++ after)).length + 2 := by simp; omega
  have taken := (readsSpelled d _).value spells (ends_nil.layout blank') enough
  rw [List.append_nil] at taken
  have noMark : ∀ more, before ++ (cs ++ after) ≠ '\ufeff' :: more := by
    cases before with
    | nil => exact (spells.begins.append after).noMark
    | cons c before =>
      rintro more ⟨⟩
      exact absurd (blank _ (.head _)) (by decide)
  have nothing : skipSpace after = [] := by
    have skipped := skipSpace_layout blank' []
    rw [List.append_nil] at skipped
    exact skipped
  rw [readChars_eq noMark, skipSpace_layout blank, (spells.begins.append after).skipSpace, taken]
  dsimp only
  rw [nothing]

end ParserHost.Json
