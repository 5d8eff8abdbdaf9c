import ParserHost.Proofs.Exchange.Parts

/-!
# Checking what was written

Lists, dictionaries and records pass their check when their parts do. A record that was written has
each field under its wire name, or not at all (`required_of_written`, `optional_of_written`).
-/

namespace ParserHost.Schema

variable {α β : Type} {check : Json → Checked α} {write : α → Json}

/-! ## Lists and dictionaries -/

theorem tuple_of_rewritten {as : List α} {f : α → β} {check : Json → Checked β}
    (back : ∀ a ∈ as, check (write a) = .ok (f a)) :
    tuple check (.arr (as.map write)) = .ok (as.map f) := by
  rw [tuple_eq_ok]
  induction as with
  | nil => exact .nil
  | cons a as ih =>
    rw [List.forall_mem_cons] at back
    exact .cons back.1 (ih back.2)

theorem tuple_of_written {as : List α} (back : ∀ a ∈ as, check (write a) = .ok a) :
    tuple check (.arr (as.map write)) = .ok as := by
  simpa using tuple_of_rewritten (f := id) back

theorem eachEntry_of_written {e : List (String × α)}
    (back : ∀ m ∈ e, check (write m.2) = .ok m.2) :
    eachEntry check (e.map fun (k, a) => (k, write a)) = .ok e := by
  induction e with
  | nil => rfl
  | cons m e ih =>
    obtain ⟨k, a⟩ := m
    rw [List.forall_mem_cons] at back
    rw [List.map_cons, eachEntry, back.1, ih back.2]
    rfl

/-! ## Records -/

@[simp] theorem word_wire (s : String) : (word s).wire = s := by rw [word]

@[simp] theorem word_plain (s : String) : (word s).plain = s := by rw [word]

@[simp] theorem get?_record_nil (key : String) : Json.get? key (Json.record []) = none := by
  rw [Json.record, Json.get?]

@[simp] theorem get?_record_cons (key k : String) (o : Option Json) (rest : List (String × Option Json)) :
    Json.get? key (Json.record ((k, o) :: rest)) =
      if k = key then o.or (Json.get? key (Json.record rest))
      else Json.get? key (Json.record rest) := by
  cases o with
  | none => simp [Json.record]
  | some v => simp [Json.record, Json.get?]

theorem seq_eq_ok {f : Checked (α → β)} {x : Checked α} {g : α → β} {a : α} (first : f = .ok g)
    (second : x = .ok a) : (f <*> x) = .ok (g a) :=
  seq_eq_ok_iff.2 ⟨g, a, first, second, rfl⟩

theorem fmap_eq_ok {x : Checked α} {g : α → β} {a : α} (given : x = .ok a) :
    (g <$> x) = .ok (g a) :=
  fmap_eq_ok_iff.2 ⟨a, given, rfl⟩

section
variable {e : Json.Entries} {n : Name}

theorem find?_of_wire {v : Json} (found : Json.get? n.wire e = some v) :
    n.find? e = some (n.wire, v) := by
  rw [Name.find?, found]

theorem find?_of_absent (wire : Json.get? n.wire e = none) (plain : Json.get? n.plain e = none) :
    n.find? e = none := by
  rw [Name.find?, wire, plain]
  rfl

theorem required_of_written {v : Json} {a : α} (found : Json.get? n.wire e = some v)
    (back : check v = .ok a) : required e n check = .ok a := by
  rw [required, find?_of_wire found]
  exact below_eq_ok.2 back

theorem withDefault_of_written {v : Json} {a default : α} (found : Json.get? n.wire e = some v)
    (back : check v = .ok a) : withDefault e n default check = .ok a := by
  rw [withDefault, find?_of_wire found]
  exact below_eq_ok.2 back

/-- A field that may be left out stands under its wire name if there is a value for it, and then not as
null; else under neither of its names. -/
theorem optional_of_written (write : α → Json) {o : Option α}
    (wire : Json.get? n.wire e = o.map write) (plain : o = none → Json.get? n.plain e = none)
    (given : ∀ a, write a ≠ .null) (back : ∀ a ∈ o, check (write a) = .ok a) :
    optional e n check = .ok o := by
  cases o with
  | none => rw [optional, withDefault, find?_of_absent wire (plain rfl)]
  | some a =>
    have passed : nullable check (write a) = .ok (some a) := by
      unfold nullable
      split
      · next isNull => exact absurd isNull (given a)
      · rw [back a rfl]
        rfl
    exact withDefault_of_written wire passed

end

end ParserHost.Schema
