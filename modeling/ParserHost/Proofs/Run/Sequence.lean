import ParserHost.Run.Journal

/-!
# Steps in sequence

How results combine (`bind_eq_ok`, `bind_eq_error`), and how a chain of steps comes out by what its
first step comes out with (`bind_of_ok`, beside `bind_error`).
-/

namespace ParserHost

/-! ## Results -/

section
variable {α β ε φ : Type} {x : Except ε α}

theorem map_eq_ok {f : α → β} {b : β} : x.map f = .ok b ↔ ∃ a, x = .ok a ∧ f a = b := by
  cases x <;> simp [Except.map]

theorem map_eq_error {f : α → β} {e : ε} : x.map f = .error e ↔ x = .error e := by
  cases x <;> simp [Except.map]

@[simp] theorem mapError_ok (f : ε → φ) (a : α) : (Except.ok a).mapError f = .ok a := rfl

theorem mapError_eq_ok {f : ε → φ} {a : α} : x.mapError f = .ok a ↔ x = .ok a := by
  cases x with
  | ok _ => simp
  | error e => exact iff_of_false (fun same : Except.error (f e) = .ok a => nomatch same) nofun

theorem mapError_eq_error {f : ε → φ} {u : φ} :
    x.mapError f = .error u ↔ ∃ e, x = .error e ∧ f e = u := by
  cases x with
  | ok _ => simp
  | error e =>
    refine ⟨fun same => ⟨e, rfl, Except.error.inj same⟩, fun ⟨_, same, image⟩ => ?_⟩
    cases same
    exact congrArg Except.error image

@[simp] theorem mapError_error (f : ε → φ) (e : ε) :
    (Except.error e : Except ε α).mapError f = .error (f e) :=
  mapError_eq_error.2 ⟨e, rfl, rfl⟩

theorem toOption_eq_some {a : α} : x.toOption = some a ↔ x = .ok a := by
  cases x <;> simp [Except.toOption]

theorem bind_eq_ok {f : α → Except ε β} {b : β} :
    (x >>= f) = .ok b ↔ ∃ a, x = .ok a ∧ f a = .ok b := by
  cases x <;> simp [Bind.bind, Except.bind]

theorem bind_eq_error {f : α → Except ε β} {e : ε} :
    (x >>= f) = .error e ↔ x = .error e ∨ ∃ a, x = .ok a ∧ f a = .error e := by
  cases x <;> simp [Bind.bind, Except.bind]

end

end ParserHost

namespace ParserHost.Act

variable {α β : Type} {x : Act α} {f : α → Act β} {t : FileTree}

/-! ## Single steps -/

@[simp] theorem pure_apply (a : α) (t : FileTree) : (Pure.pure a : Act α) t = ⟨.ok a, t, []⟩ := by
  simp only [Pure.pure, Act.pure]

@[simp] theorem read_apply (r : FileTree → Except Failure α) (t : FileTree) :
    read r t = ⟨r t, t, []⟩ := rfl

@[simp] theorem lift_apply (r : Except Failure α) (t : FileTree) : lift r t = ⟨r, t, []⟩ := rfl

@[simp] theorem note_apply (e : Event) (t : FileTree) : note e t = ⟨.ok (), t, [e]⟩ := rfl

@[simp] theorem notes_apply (es : List Event) (t : FileTree) : notes es t = ⟨.ok (), t, es⟩ := rfl

@[simp] theorem refuse_ok (a : α) (t : FileTree) : refuse (.ok a) t = ⟨.ok a, t, []⟩ := rfl

@[simp] theorem refuse_error (e : RunError) (t : FileTree) :
    (refuse (.error e) : Act α) t = ⟨.error (.run e), t, []⟩ := rfl

theorem change_of_ok {g : FileTree → Except Fault α × FileTree} {a : α} {u : FileTree}
    (made : g t = (.ok a, u)) : change g t = ⟨.ok a, u, []⟩ := by
  simp [change, made]

theorem change_of_error {g : FileTree → Except Fault α × FileTree} {e : Fault} {u : FileTree}
    (refused : g t = (.error e, u)) : change g t = ⟨.error (.fault e), u, []⟩ := by
  simp [change, refused]

/-! ## Two steps -/

theorem bind_of_ok {a : α} {u : FileTree} {journal : List Event} (h : x t = ⟨.ok a, u, journal⟩) :
    (x >>= f) t = ⟨(f a u).result, (f a u).tree, journal ++ (f a u).journal⟩ := by
  simp [Bind.bind, bind, h]

/-! ## Failures as results -/

theorem attempt_of_ok {a : α} {u : FileTree} {journal : List Event}
    (h : x t = ⟨.ok a, u, journal⟩) :
    attempt x t = ⟨.ok (.ok a, messagesOf journal), u, journal⟩ := by
  simp [attempt, h]

theorem attempt_of_run {e : RunError} {u : FileTree} {journal : List Event}
    (h : x t = ⟨.error (.run e), u, journal⟩) :
    attempt x t = ⟨.ok (.error e, messagesOf journal), u, journal⟩ := by
  simp [attempt, h]

theorem attempt_of_fault {f : Fault} {u : FileTree} {journal : List Event}
    (h : x t = ⟨.error (.fault f), u, journal⟩) :
    attempt x t = ⟨.error (.fault f), u, journal⟩ := by
  simp [attempt, h]

end ParserHost.Act

namespace ParserHost

/-! ## Messages -/

@[simp] theorem messagesOf_append (a b : List Event) :
    messagesOf (a ++ b) = messagesOf a ++ messagesOf b := by
  simp [messagesOf]

@[simp] theorem messagesOf_launched (words : List String) (rest : List Event) :
    messagesOf (.launched words :: rest) = messagesOf rest :=
  List.filterMap_cons_none rfl

@[simp] theorem messagesOf_map_message (ms : List Message) :
    messagesOf (ms.map .message) = ms := by
  induction ms with
  | nil => rfl
  | cons m ms ih =>
    change m :: messagesOf (ms.map .message) = m :: ms
    rw [ih]

end ParserHost
