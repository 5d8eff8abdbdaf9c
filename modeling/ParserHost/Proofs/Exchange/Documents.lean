import ParserHost.Proofs.Exchange.Parts
import ParserHost.Proofs.Json.Distinct
import ParserHost.Proofs.Json.Portable

/-!
# Documents from text

A document that was taken from a value that text can name has a payload that text can name
(`nameable_of_check`, `readable_toJson`): its data of free form is part of that value, its line is an
integer with few enough digits (`short_of_integer`), and no variant comes twice.
-/

namespace ParserHost

open Json (Short digitLimit)

/-! ## Finite values -/

namespace Json

theorem keys_finiteEntries (e : Entries) : keys (finiteEntries e) = keys e := by
  induction e with
  | nil => rfl
  | cons m rest ih => exact congrArg (m.1 :: ·) ih

mutual
theorem readable_finiteOnly {room : Nat} :
    {v : Json} → v.Readable room → (finiteOnly v).Readable room
  | null, _ | bool _, _ | str _, _ => trivial
  | int _, readable => readable
  | float _, readable => by
    rw [finiteOnly]
    split
    · exact readable
    · trivial
  | broken _, readable => readable
  | arr _, readable => ⟨readable.1, readable_finiteItems readable.2⟩
  | obj _, readable => readable_finiteEntries readable

theorem readable_finiteItems {room : Nat} :
    {vs : List Json} → ReadableItems vs room → ReadableItems (finiteItems vs) room
  | [], _ => trivial
  | _ :: _, readable => ⟨readable_finiteOnly readable.1, readable_finiteItems readable.2⟩

theorem readable_finiteMembers {room : Nat} :
    {e : Entries} → ReadableMembers e room → ReadableMembers (finiteEntries e) room
  | [], _ => trivial
  | (_, _) :: _, readable => ⟨readable_finiteOnly readable.1, readable_finiteMembers readable.2⟩

theorem readable_finiteEntries {room : Nat} {e : Entries} (readable : (obj e).Readable room) :
    (obj (finiteEntries e)).Readable room := by
  refine ⟨readable.1, ?_, readable_finiteMembers readable.2.2⟩
  rw [keys_finiteEntries]
  exact readable.2.1
end

end Json

/-! ## Integers -/

theorem short_of_lt {n : Int} {digits : Nat} (below : n.natAbs < 10 ^ digits) (some : 0 < digits)
    (few : digits ≤ digitLimit) : Short n :=
  ((Nat.length_toDigits_le_iff (by decide) some).2 below).trans few

theorem short_unknownLine : Short unknownLine :=
  short_of_lt (by decide : (1 : Nat) < 10 ^ 1) Nat.one_pos (by decide)

theorem short_of_digits {negative : Bool} {body : List Char} {n : Int}
    (read : (if Literal.integerDigits < (Literal.spanDigits body).1.length then .error .tooLong
      else if (Literal.spanDigits body).1.isEmpty || !(Literal.spanDigits body).2.isEmpty then
        .error .malformed
      else .ok (if negative then -(Literal.natural (Literal.spanDigits body).1 : Int)
        else Literal.natural (Literal.spanDigits body).1) : Except Literal.IntegerFault Int) = .ok n) :
    Short n := by
  split at read
  · cases read
  next few =>
  split at read
  · cases read
  next some =>
  cases read
  simp only [Bool.or_eq_true, not_or, List.isEmpty_iff] at some
  have digits : ∀ c ∈ (Literal.spanDigits body).1, c.isDigit = true := by
    rw [Literal.spanDigits, List.span_eq_takeWhile_dropWhile]
    exact List.all_eq_true.1 List.all_takeWhile
  have bound := Json.natural_lt digits
  refine short_of_lt ?_ (List.length_pos_of_ne_nil some.1) (Nat.le_of_not_lt few)
  split <;> simpa using bound

theorem short_of_shortestInteger {cs : List Char} {n : Int}
    (read : Literal.shortestInteger cs = .ok n) : Short n := by
  unfold Literal.shortestInteger at read
  dsimp only at read
  split at read
  · split at read
    · cases read
      exact short_of_lt (by decide : (0 : Nat) < 10 ^ 1) Nat.one_pos (by decide)
    · cases read
  · exact short_of_digits read

theorem short_of_integerText {s : String} {n : Int} (read : Literal.integer s = .ok n) : Short n := by
  unfold Literal.integer at read
  split at read
  · split at read
    · exact short_of_shortestInteger read
    · cases read
  · exact short_of_shortestInteger read

/-- What passes for an integer has few enough digits if the value itself was read from a text. -/
theorem short_of_integer {v : Json} {room : Nat} {n : Int} (readable : v.Readable room)
    (fits : Schema.integer v = .ok n) : Short n := by
  cases v with
  | int k =>
    cases fits
    exact readable
  | bool b =>
    cases fits
    cases b <;> exact short_of_lt (by decide : (_ : Nat) < 10 ^ 1) Nat.one_pos (by decide)
  | float x =>
    rw [Schema.integer] at fits
    split at fits
    · cases fits
    · split at fits
      · next k whole =>
        cases fits
        obtain ⟨-, small⟩ := Option.filter_eq_some_iff.1 whole
        have below : n.natAbs < 10 ^ 19 := (of_decide_eq_true small).trans (by decide)
        exact short_of_lt below (by decide) (by decide)
      · cases fits
  | str s =>
    rw [Schema.integer] at fits
    split at fits
    · next read =>
      cases fits
      exact short_of_integerText read
    all_goals cases fits
  | null | broken | arr | obj => cases fits

/-! ## Fields -/

namespace Schema

variable {α β : Type} {room : Nat} {e : Json.Entries} {n : Name} {check : Json → Checked α}

theorem mem_of_find? {used : String} {v : Json} (found : n.find? e = some (used, v)) : (used, v) ∈ e := by
  unfold Name.find? at found
  split at found
  · next wire =>
    cases found
    exact Json.mem_of_get? wire
  · obtain ⟨_, plain, same⟩ := Option.map_eq_some_iff.1 found
    cases same
    exact Json.mem_of_get? plain

theorem of_required (each : ∀ m ∈ e, m.2.Readable room) {a : α} (fits : required e n check = .ok a) :
    ∃ v, v.Readable room ∧ check v = .ok a := by
  unfold required at fits
  split at fits
  · next found => exact ⟨_, each _ (mem_of_find? found), below_eq_ok.1 fits⟩
  · cases fits

theorem of_withDefault (each : ∀ m ∈ e, m.2.Readable room) {a default : α}
    (fits : withDefault e n default check = .ok a) : a = default ∨ ∃ v, v.Readable room ∧ check v = .ok a := by
  unfold withDefault at fits
  split at fits
  · next found => exact .inr ⟨_, each _ (mem_of_find? found), below_eq_ok.1 fits⟩
  · cases fits
    exact .inl rfl

theorem of_optional (each : ∀ m ∈ e, m.2.Readable room) {o : Option α} (fits : optional e n check = .ok o) :
    ∀ a ∈ o, ∃ v, v.Readable room ∧ check v = .ok a := by
  rintro a rfl
  rcases of_withDefault each fits with none | ⟨v, given, fits⟩
  · cases none
  · unfold nullable at fits
    split at fits
    · cases fits
    · obtain ⟨b, fits, same⟩ := map_eq_checked.1 fits
      cases same
      exact ⟨v, given, fits⟩

theorem keys_of_eachEntry {as : List (String × α)} (fits : eachEntry check e = .ok as) :
    as.map Prod.fst = Json.keys e := by
  induction e generalizing as with
  | nil =>
    cases fits
    rfl
  | cons m e ih =>
    obtain ⟨k, v⟩ := m
    obtain ⟨f, rest, first, more, rfl⟩ := Checked.both_eq_ok_iff.1 fits
    obtain ⟨a, -, rfl⟩ := map_eq_checked.1 first
    exact congrArg (k :: ·) (ih more)

end Schema

/-! ## Documents -/

namespace Document

variable {d : Document} {v : Json} {room : Nat}

structure Nameable (d : Document) (room : Nat) : Prop where
  data : (Json.obj d.templateData).Readable room
  line : Short d.sourceLocation.line
  variants : ∀ vs ∈ d.variant, (vs.map Prod.fst).Nodup

theorem short_of_checkLocation {l : SourceLocation} (readable : v.Readable (room + 1))
    (fits : checkLocation v = .ok l) : Short l.line := by
  unfold checkLocation at fits
  split at fits
  · cases fits
    exact short_unknownLine
  · cases v with
    | obj e =>
      obtain ⟨n, given, rfl⟩ := fmap_eq_ok_iff.1 fits
      rcases Schema.of_withDefault (Json.readable_of_entry readable) given with rfl | ⟨w, named, fits⟩
      · exact short_unknownLine
      · exact short_of_integer named fits
    | null | bool | int | float | str | broken | arr => cases fits

theorem nameable_of_check (readable : v.Readable (room + 2)) (fits : check v = .ok d) :
    d.Nameable (room + 1) := by
  cases v with
  | null | bool | int | float | str | broken | arr => cases fits
  | obj e =>
    have each := Json.readable_of_entry readable
    change fields e = .ok d at fits
    simp only [fields, seq_eq_ok_iff, fmap_eq_ok_iff] at fits
    obtain ⟨_, metadata, ⟨_, links, ⟨_, location, ⟨_, source, ⟨_, variant, ⟨_, component,
      ⟨_, data, ⟨_, template, ⟨_, language, ⟨_, label, ⟨node, -, rfl⟩, -, rfl⟩, -, rfl⟩, -, rfl⟩,
      given, rfl⟩, -, rfl⟩, varied, rfl⟩, -, rfl⟩, located, rfl⟩, -, rfl⟩, -, rfl⟩ := fits
    refine ⟨?_, ?_, fun vs same => ?_⟩
    · obtain ⟨w, named, fits⟩ := Schema.of_required each given
      cases w with
      | obj e =>
        cases fits
        exact named
      | null | bool | int | float | str | broken | arr => cases fits
    · rcases Schema.of_withDefault each located with rfl | ⟨w, named, fits⟩
      · exact short_unknownLine
      · exact short_of_checkLocation named fits
    · obtain ⟨w, named, fits⟩ := Schema.of_optional each varied vs same
      cases w with
      | obj e =>
        rw [Schema.keys_of_eachEntry fits]
        exact named.2.1
      | null | bool | int | float | str | broken | arr => cases fits

theorem readable_settings {vs : List (String × Schema.Setting)} (once : (vs.map Prod.fst).Nodup)
    (some : 0 < room) : (Json.obj (vs.map fun (k, s) => (k, s.toJson))).Readable room := by
  refine ⟨some, ?_, Json.readableMembers_iff.2 fun m member => ?_⟩
  · have same : Json.keys (vs.map fun (k, s) => (k, s.toJson)) = vs.map Prod.fst := by
      simp [Json.keys, Function.comp_def]
    rwa [same]
  · obtain ⟨⟨k, s⟩, -, rfl⟩ := List.mem_map.1 member
    cases s <;> trivial

theorem readable_links (ls : List DocumentLink) (deep : 2 ≤ room) :
    (Json.arr (ls.map DocumentLink.toJson)).Readable room := by
  refine ⟨by omega, Json.readableItems_iff.2 fun v member => ?_⟩
  obtain ⟨l, -, rfl⟩ := List.mem_map.1 member
  have once : ["name", "url"].Nodup := by decide
  exact ⟨by omega, once, trivial, trivial, trivial⟩

theorem readable_toJson (nameable : d.Nameable room) (deep : 2 ≤ room) :
    d.toJson.Readable (room + 1) := by
  have names : ["figmaNode", "label", "language", "template", "templateData", "component", "variant",
      "source", "sourceLocation", "links", "metadata"].Nodup := by decide
  have some : 0 < room := by omega
  refine ⟨Nat.succ_pos _, names.sublist (Json.keys_record _), Json.readableMembers_record ?_⟩
  simp only [List.forall_mem_cons, Option.mem_def, Option.some.injEq, forall_eq']
  refine ⟨trivial, trivial, trivial, trivial, Json.readable_finiteEntries nameable.data,
    fun v given => ?component, fun v given => ?variant, trivial, ?location, fun v given => ?links,
    fun v given => ?metadata, nofun⟩
  case component =>
    obtain ⟨s, -, rfl⟩ := Option.map_eq_some_iff.1 given
    trivial
  case variant =>
    obtain ⟨vs, here, rfl⟩ := Option.map_eq_some_iff.1 given
    exact readable_settings (nameable.variants vs here) some
  case location => exact ⟨some, List.pairwise_singleton _ _, nameable.line, trivial⟩
  case links =>
    obtain ⟨ls, -, rfl⟩ := Option.map_eq_some_iff.1 given
    exact readable_links ls deep
  case metadata =>
    obtain ⟨m, -, rfl⟩ := Option.map_eq_some_iff.1 given
    exact ⟨some, List.pairwise_singleton _ _, trivial, trivial⟩

end Document

end ParserHost
