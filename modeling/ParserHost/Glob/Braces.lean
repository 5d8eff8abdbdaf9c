import ParserHost.Text.Search

/-!
Brace alternatives in glob patterns. `group?` finds the first group without inner braces;
`expand` replaces such groups one after the other by each of their alternatives, in order.

Main statements: a group found is part of the pattern (`eq_of_group?`), and replacing it takes away
one opening brace (`opens_of_group?`), so the expansion ends.
-/
namespace ParserHost.Glob

def isBrace (c : Char) : Bool :=
  c = '\x7b' || c = '\x7d'

structure Group where
  before : List Char
  body : List Char
  after : List Char
  deriving DecidableEq, Repr

def closed? : List Char → Option (List Char × List Char)
  | [] => none
  | c :: rest =>
    if c = '\x7d' then some ([], rest)
    else if c = '\x7b' then none
    else (closed? rest).map fun (body, after) => (c :: body, after)

def group? : List Char → Option Group
  | [] => none
  | c :: rest =>
    match (if c = '\x7b' then closed? rest else none) with
    | some (body, after) => some ⟨[], body, after⟩
    | none => (group? rest).map fun g => { g with before := c :: g.before }

def opens (cs : List Char) : Nat :=
  cs.count '\x7b'

/-- The patterns that a pattern stands for, when at most `fuel` of its groups are replaced. -/
def expandChars : Nat → List Char → List (List Char)
  | 0, cs => [cs]
  | fuel + 1, cs =>
    match group? cs with
    | none => [cs]
    | some g => (Text.splitAt ',' g.body).flatMap fun option =>
        expandChars fuel (g.before ++ option ++ g.after)

/-- The patterns without groups that a pattern stands for, in the order of its alternatives. -/
def expand (pattern : String) : List String :=
  (expandChars (opens pattern.toList) pattern.toList).map String.ofList

theorem eq_of_closed? {cs body after : List Char} (h : closed? cs = some (body, after)) :
    cs = body ++ '\x7d' :: after ∧ ∀ c ∈ body, isBrace c = false := by
  induction cs generalizing body with
  | nil => simp [closed?] at h
  | cons c rest ih =>
    simp only [closed?] at h
    split at h
    · next hc =>
      simp only [Option.some.injEq, Prod.mk.injEq] at h
      obtain ⟨rfl, rfl⟩ := h
      simp [hc]
    · next hc =>
      split at h
      · simp at h
      · next ho =>
        simp only [Option.map_eq_some_iff, Prod.mk.injEq] at h
        obtain ⟨⟨b, a⟩, hba, rfl, rfl⟩ := h
        obtain ⟨rfl, hb⟩ := ih hba
        refine ⟨by simp, ?_⟩
        intro d hd
        rcases List.mem_cons.1 hd with rfl | hd
        · simp [isBrace, hc, ho]
        · exact hb d hd

theorem eq_of_group? {cs : List Char} {g : Group} (h : group? cs = some g) :
    cs = g.before ++ '\x7b' :: g.body ++ '\x7d' :: g.after ∧ ∀ c ∈ g.body, isBrace c = false := by
  induction cs generalizing g with
  | nil => simp [group?] at h
  | cons c rest ih =>
    simp only [group?] at h
    split at h
    · next body after hm =>
      simp only [Option.some.injEq] at h
      subst h
      split at hm
      · next hc =>
        obtain ⟨hcs, hb⟩ := eq_of_closed? hm
        exact ⟨by simp [hc, hcs], hb⟩
      · simp at hm
    · simp only [Option.map_eq_some_iff] at h
      obtain ⟨g', hg', rfl⟩ := h
      obtain ⟨hcs, hb⟩ := ih hg'
      exact ⟨by simpa using hcs, hb⟩

theorem opens_append (cs ds : List Char) : opens (cs ++ ds) = opens cs + opens ds := by
  simp [opens]

theorem opens_of_noBrace {cs : List Char} (h : ∀ c ∈ cs, isBrace c = false) : opens cs = 0 := by
  rw [opens, List.count_eq_zero]
  intro hm
  simpa [isBrace] using h _ hm

theorem opens_of_group? {cs : List Char} {g : Group} (h : group? cs = some g) :
    opens cs = opens (g.before ++ g.after) + 1 := by
  obtain ⟨rfl, hb⟩ := eq_of_group? h
  have hbody := opens_of_noBrace hb
  simp only [opens_append] at hbody ⊢
  simp only [opens, List.count_cons] at hbody ⊢
  simp
  omega

end ParserHost.Glob
