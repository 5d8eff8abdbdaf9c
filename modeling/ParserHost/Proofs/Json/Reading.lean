import ParserHost.Json.Reader

/-!
# The reader, case by case

What the reader does with a value, by the first characters of the text. It gives up a text that opens
more brackets than its dialect has room for, whether or not they are closed (`read_of_brackets`).
-/

namespace ParserHost.Json

variable {d : Dialect} {fuel room : Nat} {cs rest : List Char} {v : Json}

theorem skipSpace_cons {c : Char} (visible : isSpace c = false) (rest : List Char) :
    skipSpace (c :: rest) = c :: rest := by
  rw [skipSpace, List.dropWhile_cons_of_neg (by rw [visible]; exact Bool.false_ne_true)]

/-! ## Values -/

/-- An array that is not closed at once has items. -/
theorem value_array (items' : ∀ more, skipSpace rest ≠ ']' :: more) :
    value d (fuel + 1) (room + 1) ('[' :: rest) =
      (items d fuel room (skipSpace rest)).map fun r => (arr r.1, r.2) := by
  rw [value]
  split
  · next more closed => exact absurd closed (items' more)
  · rw [if_neg (Nat.succ_ne_zero room), Nat.add_sub_cancel]
    cases items d fuel room (skipSpace rest) <;> rfl

/-- An object that is not closed at once has members. -/
theorem value_object (members' : ∀ more, skipSpace rest ≠ '\x7d' :: more) :
    value d (fuel + 1) (room + 1) ('\x7b' :: rest) =
      (members d fuel room (skipSpace rest)).map fun r => (obj (d.entries r.1), r.2) := by
  rw [value]
  split
  · next more closed => exact absurd closed (members' more)
  · rw [if_neg (Nat.succ_ne_zero room), Nat.add_sub_cancel]
    cases members d fuel room (skipSpace rest) <;> rfl

theorem value_string : value d (fuel + 1) room ('\x22' :: rest) =
    (string d rest).map fun r => (stringOf r.1, r.2) := by
  rw [value]
  cases string d rest <;> rfl

/-- Anything that starts neither a string nor an array nor an object is read as an atom. -/
theorem value_atom (noString : ∀ more, cs ≠ '\x22' :: more) (noArray : ∀ more, cs ≠ '[' :: more)
    (noObject : ∀ more, cs ≠ '\x7b' :: more) : value d (fuel + 1) room cs = atom d cs := by
  rw [value]
  · exact fun more same => noString more same
  · exact fun more same => noArray more same
  · exact fun more same => noObject more same

theorem readChars_eq (noMark : ∀ more, cs ≠ '\ufeff' :: more) :
    readChars d cs =
      match value d (2 * cs.length + 2) d.depth (skipSpace cs) with
      | .error f => .error f
      | .ok (v, rest) =>
        match skipSpace rest with
        | [] => .ok v
        | rest => .error ⟨.end', rest.length⟩ := by
  unfold readChars
  split
  · next more => exact absurd rfl (noMark more)
  · rfl

/-! ## Items and members -/

section
variable {left : List Char}

theorem items_last (read : value d fuel room cs = .ok (v, left))
    (closed : skipSpace left = ']' :: rest) : items d (fuel + 1) room cs = .ok ([v], rest) := by
  rw [items, read]
  dsimp only
  rw [closed]
  rfl

theorem items_comma (read : value d fuel room cs = .ok (v, left))
    (comma : skipSpace left = ',' :: rest) :
    items d (fuel + 1) room cs =
      (items d fuel room (skipSpace rest)).map fun r => (v :: r.1, r.2) := by
  rw [items, read]
  dsimp only
  rw [comma]
  split
  · next closed => cases closed
  · next same =>
    cases same
    cases items d fuel room (skipSpace rest) <;> rfl
  · next other => exact absurd rfl (other rest)

variable {codes : List Nat} {next more : List Char}

theorem members_last (key : string d cs = .ok (codes, next)) (colon : skipSpace next = ':' :: more)
    (read : value d fuel room (skipSpace more) = .ok (v, left))
    (closed : skipSpace left = '\x7d' :: rest) :
    members d (fuel + 1) room ('\x22' :: cs) = .ok ([(textOf codes, v)], rest) := by
  rw [members, key]
  dsimp only
  rw [colon]
  split
  · next same =>
    cases same
    rw [read]
    dsimp only
    rw [closed]
    rfl
  · next other => exact absurd rfl (other more)

theorem members_comma (key : string d cs = .ok (codes, next)) (colon : skipSpace next = ':' :: more)
    (read : value d fuel room (skipSpace more) = .ok (v, left))
    (comma : skipSpace left = ',' :: rest) :
    members d (fuel + 1) room ('\x22' :: cs) =
      (members d fuel room (skipSpace rest)).map fun r => ((textOf codes, v) :: r.1, r.2) := by
  rw [members, key]
  dsimp only
  rw [colon]
  split
  · next same =>
    cases same
    rw [read]
    dsimp only
    rw [comma]
    split
    · next closed => cases closed
    · next same =>
      cases same
      cases members d fuel room (skipSpace rest) <;> rfl
    · next other => exact absurd rfl (other rest)
  · next other => exact absurd rfl (other more)

end

/-! ## Brackets inside each other -/

theorem value_of_brackets (spare : d.spareEmpty = false) (enough : 2 * room + 1 ≤ fuel)
    (rest : List Char) :
    ∃ left, value d fuel room (List.replicate (room + 1) '[' ++ rest) =
      .error ⟨.within .depth, left⟩ := by
  induction room generalizing fuel with
  | zero =>
    obtain ⟨fuel, rfl⟩ : ∃ k, fuel = k + 1 := ⟨fuel - 1, by omega⟩
    refine ⟨('[' :: rest).length, ?_⟩
    change value d (fuel + 1) 0 ('[' :: rest) = _
    rw [value]
    split
    · rw [spare]
      rfl
    · rfl
  | succ room ih =>
    obtain ⟨fuel, rfl⟩ : ∃ k, fuel = k + 2 := ⟨fuel - 2, by omega⟩
    obtain ⟨left, inner⟩ := @ih fuel (by omega)
    refine ⟨left, ?_⟩
    have brackets : List.replicate (room + 1 + 1) '[' ++ rest =
        '[' :: (List.replicate (room + 1) '[' ++ rest) := rfl
    have visible : skipSpace (List.replicate (room + 1) '[' ++ rest) =
        List.replicate (room + 1) '[' ++ rest := skipSpace_cons rfl _
    have nested : ∀ more, skipSpace (List.replicate (room + 1) '[' ++ rest) ≠ ']' :: more := by
      intro more
      rw [visible, List.replicate_succ, List.cons_append]
      simp
    rw [brackets, value_array nested, visible, items, inner]
    rfl

theorem read_of_brackets {n : Nat} (deep : lenient.depth < n) (tail : List Char) :
    ∃ left, read (String.ofList (List.replicate n '[' ++ tail)) =
      .error ⟨.within .depth, left⟩ := by
  obtain ⟨more, rfl⟩ : ∃ more, n = lenient.depth + 1 + more :=
    ⟨n - (lenient.depth + 1), by omega⟩
  have text : List.replicate (lenient.depth + 1 + more) '[' ++ tail =
      List.replicate (lenient.depth + 1) '[' ++ (List.replicate more '[' ++ tail) := by
    rw [← List.replicate_append_replicate, List.append_assoc]
  have enough : 2 * lenient.depth + 1 ≤
      2 * (List.replicate (lenient.depth + 1 + more) '[' ++ tail).length + 2 := by
    rw [List.length_append, List.length_replicate]
    omega
  obtain ⟨left, beyond⟩ := value_of_brackets (d := lenient) rfl enough (List.replicate more '[' ++ tail)
  have noMark : ∀ more', List.replicate (lenient.depth + 1) '[' ++
      (List.replicate more '[' ++ tail) ≠ '\ufeff' :: more' := by
    intro more' same
    rw [List.replicate_succ, List.cons_append] at same
    injection same with mark _
    exact absurd mark (by decide)
  have visible : skipSpace (List.replicate (lenient.depth + 1) '[' ++
      (List.replicate more '[' ++ tail)) = List.replicate (lenient.depth + 1) '[' ++
      (List.replicate more '[' ++ tail) := skipSpace_cons rfl _
  refine ⟨left, ?_⟩
  rw [text] at beyond
  rw [read, String.toList_ofList, text, readChars_eq noMark, visible, beyond]

end ParserHost.Json
