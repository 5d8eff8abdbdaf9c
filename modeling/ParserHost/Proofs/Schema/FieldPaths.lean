import ParserHost.Proofs.Firsts
import ParserHost.Proofs.Schema.Issues
import ParserHost.Proofs.Text.Trimming

/-!
# What a field path tells

A path that is written with plain keys and with indices is read in one way only (`render_injective`): a key ends
where a dot or an opening bracket comes, an index where its bracket is closed. So the issues of reports at such
places are told apart by place and kind, and each is named at its first report (`ofReports_eq_firsts`).
-/

namespace ParserHost.Schema

def Segment.Plain : Segment → Prop
  | .index _ => True
  | .key name => name ≠ "" ∧ '.' ∉ name.toList ∧ '[' ∉ name.toList ∧ ']' ∉ name.toList

structure Location.Plain (l : Location) : Prop where
  nonempty : l ≠ []
  segments : ∀ s ∈ l, s.Plain

instance : (s : Segment) → Decidable s.Plain
  | .index _ => .isTrue trivial
  | .key name => inferInstanceAs
      (Decidable (name ≠ "" ∧ '.' ∉ name.toList ∧ '[' ∉ name.toList ∧ ']' ∉ name.toList))

instance (l : Location) : Decidable l.Plain :=
  decidable_of_iff (l ≠ [] ∧ ∀ s ∈ l, s.Plain) ⟨fun h => ⟨h.1, h.2⟩, fun h => ⟨h.1, h.2⟩⟩

/-! ## One segment -/

def Segment.start : Segment → List Char
  | .index n => '[' :: ((toString n).toList ++ [']'])
  | .key name => name.toList

def Segment.mark : Segment → List Char
  | .index _ => []
  | .key _ => ['.']

def Follows (rest : List Char) : Prop :=
  ∀ c ∈ rest.head?, c = '.' ∨ c = '['

variable {s s' : Segment} {l l' : Location} {rest rest' : List Char}

/-- Two texts that end where the same kind of character comes for the first time. -/
theorem append_inj_of_stop {p : Char → Bool} {a b : List Char} (free : ∀ c ∈ a, p c = false)
    (free' : ∀ c ∈ b, p c = false) (stop : ∀ c ∈ rest.head?, p c = true)
    (stop' : ∀ c ∈ rest'.head?, p c = true) (same : a ++ rest = b ++ rest') : a = b ∧ rest = rest' := by
  have front {a rest : List Char} (free : ∀ c ∈ a, p c = false) (stop : ∀ c ∈ rest.head?, p c = true) :
      (a ++ rest).takeWhile (fun c => !p c) = a := by
    rw [List.takeWhile_append_of_pos (by simpa using free), Text.takeWhile_of_head (by simpa using stop),
      List.append_nil]
  have equal : a = b := by rw [← front free stop, same, front free' stop']
  exact ⟨equal, List.append_cancel_left (equal ▸ same)⟩

theorem toList_ofNat (n : Nat) : (toString (Int.ofNat n)).toList = Nat.toDigits 10 n :=
  Nat.toList_repr

theorem toList_negSucc (n : Nat) : (toString (Int.negSucc n)).toList = '-' :: Nat.toDigits 10 (n + 1) := by
  change ("-" ++ Nat.repr (n + 1)).toList = _
  rw [String.toList_append, Nat.toList_repr]
  rfl

theorem isDigit_or_minus {n : Int} {c : Char} (member : c ∈ (toString n).toList) :
    c.isDigit = true ∨ c = '-' := by
  cases n with
  | ofNat n =>
    rw [toList_ofNat] at member
    exact .inl (Literal.isDigit_of_mem_toDigits member)
  | negSucc n =>
    rw [toList_negSucc, List.mem_cons] at member
    exact member.symm.imp_left Literal.isDigit_of_mem_toDigits

theorem toDigits_injective {m n : Nat} (same : Nat.toDigits 10 m = Nat.toDigits 10 n) : m = n := by
  rw [← Literal.natural_toDigits m, same, Literal.natural_toDigits]

theorem minus_ne_toDigits {n : Nat} {ds : List Char} : '-' :: ds ≠ Nat.toDigits 10 n := by
  intro same
  have digit : '-'.isDigit = true :=
    Literal.isDigit_of_mem_toDigits (n := n) (same ▸ List.mem_cons_self)
  exact absurd digit (by decide)

theorem toString_int_injective {m n : Int} (same : (toString m).toList = (toString n).toList) : m = n := by
  cases m <;> cases n <;> simp only [toList_ofNat, toList_negSucc] at same
  case ofNat.ofNat => rw [toDigits_injective same]
  case ofNat.negSucc => exact absurd same.symm minus_ne_toDigits
  case negSucc.ofNat => exact absurd same minus_ne_toDigits
  case negSucc.negSucc =>
    rw [List.cons_inj_right] at same
    rw [Nat.succ.inj (toDigits_injective same)]

theorem key_start_ne_index {name : String} {n : Int} (plain : (Segment.key name).Plain) :
    (Segment.key name).start ++ rest ≠ (Segment.index n).start ++ rest' := by
  intro same
  obtain ⟨named, -, unopened, -⟩ := plain
  obtain ⟨c, more, chars⟩ := List.exists_cons_of_ne_nil (mt String.toList_eq_nil_iff.1 named)
  simp only [Segment.start, chars, List.cons_append, List.cons.injEq] at same
  exact unopened (chars ▸ same.1 ▸ List.mem_cons_self)

theorem start_injective (plain : s.Plain) (plain' : s'.Plain) (follows : Follows rest)
    (follows' : Follows rest') (same : s.start ++ rest = s'.start ++ rest') : s = s' ∧ rest = rest' := by
  cases s with
  | key name =>
    cases s' with
    | index n => exact absurd same (key_start_ne_index plain)
    | key name' =>
      obtain ⟨-, undotted, unopened, -⟩ := plain
      obtain ⟨-, undotted', unopened', -⟩ := plain'
      have free {name : String} (undotted : '.' ∉ name.toList) (unopened : '[' ∉ name.toList) :
          ∀ c ∈ name.toList, (c == '.' || c == '[') = false := by
        intro c member
        rw [Bool.or_eq_false_iff, beq_eq_false_iff_ne, beq_eq_false_iff_ne]
        exact ⟨fun dot => undotted (dot ▸ member), fun bracket => unopened (bracket ▸ member)⟩
      obtain ⟨names, rests⟩ := append_inj_of_stop (free undotted unopened) (free undotted' unopened')
        (by simpa [Follows] using follows) (by simpa [Follows] using follows') same
      exact ⟨congrArg Segment.key (String.toList_injective names), rests⟩
  | index n =>
    cases s' with
    | key name => exact absurd same.symm (key_start_ne_index plain')
    | index n' =>
      have unclosed (n : Int) : ∀ c ∈ (toString n).toList, (c == ']') = false := by
        intro c member
        rw [beq_eq_false_iff_ne]
        rintro rfl
        exact absurd (isDigit_or_minus member) (by decide)
      simp only [Segment.start, List.cons_append, List.append_assoc, List.cons_inj_right] at same
      obtain ⟨numbers, rests⟩ := append_inj_of_stop (unclosed n) (unclosed n') (by simp) (by simp) same
      exact ⟨congrArg Segment.index (toString_int_injective numbers), (List.cons_inj_right _).1 rests⟩

theorem start_of_mark (same : s.mark ++ (s.start ++ rest) = s'.mark ++ (s'.start ++ rest')) :
    s.start ++ rest = s'.start ++ rest' := by
  cases s with
  | key name =>
    cases s' with
    | key name' => exact List.append_cancel_left same
    | index n' => simp [Segment.mark, Segment.start] at same
  | index n =>
    cases s' with
    | key name' => simp [Segment.mark, Segment.start] at same
    | index n' => exact same

/-! ## Locations -/

theorem toList_segment_suffix (s : Segment) : s.suffix.toList = s.mark ++ s.start := by
  cases s <;> simp [Segment.suffix, Segment.mark, Segment.start]

theorem toList_suffix_cons (s : Segment) (l : Location) :
    (Location.suffix (s :: l)).toList = s.mark ++ (s.start ++ l.suffix.toList) := by
  rw [Location.suffix, String.toList_append, toList_segment_suffix, List.append_assoc]

theorem toList_suffix_cons_ne_nil (s : Segment) (l : Location) : (Location.suffix (s :: l)).toList ≠ [] := by
  rw [toList_suffix_cons]
  cases s <;> simp [Segment.mark, Segment.start]

theorem follows_suffix (l : Location) : Follows l.suffix.toList := by
  cases l with
  | nil => simp [Location.suffix, Follows]
  | cons s rest =>
    rw [toList_suffix_cons]
    cases s <;> simp [Segment.mark, Segment.start, Follows]

theorem suffix_injective (plain : ∀ s ∈ l, s.Plain) (plain' : ∀ s ∈ l', s.Plain)
    (same : l.suffix.toList = l'.suffix.toList) : l = l' := by
  induction l generalizing l' with
  | nil =>
    cases l' with
    | nil => rfl
    | cons s' rest' => exact absurd same.symm (toList_suffix_cons_ne_nil s' rest')
  | cons s rest ih =>
    cases l' with
    | nil => exact absurd same (toList_suffix_cons_ne_nil s rest)
    | cons s' rest' =>
      rw [List.forall_mem_cons] at plain plain'
      rw [toList_suffix_cons, toList_suffix_cons] at same
      obtain ⟨rfl, rests⟩ := start_injective plain.1 plain'.1 (follows_suffix rest)
        (follows_suffix rest') (start_of_mark same)
      rw [ih plain.2 plain'.2 rests]

theorem toList_addTo_index (n : Int) :
    (Segment.addTo "" (.index n)).toList = (Segment.index n).start := by
  change ("" ++ "[" ++ toString n ++ "]").toList = _
  simp [Segment.start]

theorem toList_render_cons (plain : s.Plain) (l : Location) :
    (Location.render (s :: l)).toList = s.start ++ l.suffix.toList := by
  cases s with
  | key name =>
    rw [render_key plain.1, String.toList_append]
    rfl
  | index n =>
    have begun : Segment.addTo "" (.index n) ≠ "" := by
      intro empty
      have chars := toList_addTo_index n
      rw [empty] at chars
      exact List.cons_ne_nil _ _ chars.symm
    have longer : (Segment.addTo "" (.index n) ++ Location.suffix l).isEmpty = false := by simp [begun]
    rw [Location.render, List.foldl_cons, foldl_addTo begun]
    simp only [longer, Bool.false_eq_true, if_false, String.toList_append, toList_addTo_index]

theorem render_injective (plain : l.Plain) (plain' : l'.Plain) (same : l.render = l'.render) : l = l' := by
  obtain ⟨s, rest, rfl⟩ := List.exists_cons_of_ne_nil plain.nonempty
  obtain ⟨s', rest', rfl⟩ := List.exists_cons_of_ne_nil plain'.nonempty
  obtain ⟨first, others⟩ := List.forall_mem_cons.1 plain.segments
  obtain ⟨first', others'⟩ := List.forall_mem_cons.1 plain'.segments
  have texts := congrArg String.toList same
  rw [toList_render_cons first, toList_render_cons first'] at texts
  obtain ⟨rfl, rests⟩ :=
    start_injective first first' (follows_suffix rest) (follows_suffix rest') texts
  rw [suffix_injective others others' rests]

/-! ## Reports -/

def Report.subject (r : Report) : Location × IssueKind :=
  (r.location.withoutTags, IssueKind.ofType r.type)

theorem label_ofReport_iff {r r' : Report} (plain : r.location.withoutTags.Plain)
    (plain' : r'.location.withoutTags.Plain) :
    (Issue.ofReport r).label = (Issue.ofReport r').label ↔ r.subject = r'.subject := by
  simp only [Issue.label, Issue.ofReport, Report.subject, Prod.mk.injEq]
  refine and_congr_left fun _ => ⟨render_injective plain plain', fun same => by rw [same]⟩

theorem ofReports_eq_firsts {reports : List Report} (plain : ∀ r ∈ reports, r.location.withoutTags.Plain) :
    Issue.ofReports reports = (firsts Report.subject reports).map Issue.ofReport := by
  rw [Issue.ofReports]
  induction reports with
  | nil => rfl
  | cons r rest ih =>
    obtain ⟨here, later⟩ := List.forall_mem_cons.1 plain
    rw [List.map_cons, unique_of_not_mem List.not_mem_nil, unique_eq_filter, ih later, firsts_cons, List.map_cons,
      List.filter_map]
    refine congrArg (fun kept => Issue.ofReport r :: kept.map Issue.ofReport) (List.filter_congr fun r' member => ?_)
    have told := label_ofReport_iff (later r' (mem_of_mem_firsts member)) here
    simp [told]

/-- Plain places have paths of their own, so of reports at such places those are named, in order, in front of which
no report has the same place and kind; there are some if there are any reports. -/
theorem Issue.named_by_place {reports : List Report} (plain : ∀ r ∈ reports, r.location.withoutTags.Plain) :
    (∀ l l' : Location, l.Plain → l'.Plain → (l.render = l'.render ↔ l = l')) ∧
      Issue.ofReports reports = ((List.finRange reports.length).filter fun i =>
        decide (∀ j < i, (reports.get j).subject ≠ (reports.get i).subject)).map
          (fun i => Issue.ofReport (reports.get i)) ∧
      (reports ≠ [] → Issue.ofReports reports ≠ []) := by
  refine ⟨fun l l' here there => ⟨render_injective here there, congrArg _⟩, ?_, fun some => ?_⟩
  · rw [ofReports_eq_firsts plain, firsts, List.map_map]
    rfl
  · obtain ⟨r, rest, rfl⟩ := List.exists_cons_of_ne_nil some
    exact unique_ne_nil (rest.map Issue.ofReport)

def repeating : List Report :=
  [⟨[.key "docs", .index 0, .key "variant", .key "Size", .key "str"], "string_type", "a"⟩,
    ⟨[.key "docs", .index 0, .key "variant", .key "Size", .key "bool"], "bool_type", "b"⟩,
    ⟨[.key "docs", .index (-1)], "missing", "c"⟩]

theorem Issue.named_by_place_of_repeating : (∀ r ∈ repeating, r.location.withoutTags.Plain) ∧
    Issue.ofReports repeating =
      [⟨"docs[0].variant.Size", .invalidType, "a"⟩, ⟨"docs[-1]", .required, "c"⟩] := by
  have plain : ∀ r ∈ repeating, r.location.withoutTags.Plain := by decide +kernel
  obtain ⟨-, named, -⟩ := Issue.named_by_place plain
  refine ⟨plain, named.trans ?_⟩
  decide +kernel

end ParserHost.Schema
