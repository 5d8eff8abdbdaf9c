import ParserHost.Config.Section

/-!
Handlers, parsers that run in the host's own process. The registry holds at most one for each kind of
parser that may run so; handlers are told apart by their identity, not by their name.

Main statements: a registered handler is found (`handler?_register_self`) and no other kind is
affected (`handler?_register_of_ne`); removing one leaves the others (`handler?_unregister`).
-/
namespace ParserHost

inductive Answer where
  | response (value : Json)
  /-- It ends the run with a failure of the run's own. -/
  | refused (error : RunError)
  | failed (failure : HandlerFailure)
  deriving Repr, Inhabited

/-- What tells a handler from any other. Handlers of one name have different numbers. -/
structure HandlerIdentity where
  name : String
  number : Nat
  deriving DecidableEq, Repr, Inhabited

/-- The first handler of a name. -/
instance : Coe String HandlerIdentity := ⟨fun name => ⟨name, 0⟩⟩

/-- A function of a request and the directory in which it is asked. -/
structure Handler where
  identity : HandlerIdentity
  answer : Json → Path → Answer

def Handler.name (h : Handler) : String := h.identity.name

def ParserKind.inProcess : ParserKind → Bool
  | react | html => true
  | _ => false

abbrev Registry := List (ParserKind × Handler)

namespace Registry

def handler? (kind : ParserKind) : Registry → Option Handler
  | [] => none
  | (k, h) :: rest => if k = kind then some h else handler? kind rest

def unregister (kind : ParserKind) : Registry → Registry
  | [] => []
  | (k, h) :: rest => if k = kind then unregister kind rest else (k, h) :: unregister kind rest

/-- Makes a handler the one of a kind. Nothing changes if the kind does not run in process, or if
another handler holds it. -/
def register (kind : ParserKind) (h : Handler) (r : Registry) : Except Fault Registry :=
  if !kind.inProcess then .error (.notInProcess kind.text)
  else
    match r.handler? kind with
    | some held =>
      if held.identity = h.identity then .ok ((kind, h) :: unregister kind r)
      else .error (.handlerTaken kind.text)
    | none => .ok ((kind, h) :: unregister kind r)

theorem handler?_unregister (kind other : ParserKind) (r : Registry) :
    (r.unregister kind).handler? other = if kind = other then none else r.handler? other := by
  induction r with
  | nil => simp [unregister, handler?]
  | cons e rest ih =>
    obtain ⟨k, h⟩ := e
    by_cases hk : k = kind
    · subst hk
      simp only [unregister, if_true, ih]
      by_cases ho : k = other
      · simp [ho]
      · simp [handler?, ho]
    · by_cases ho : k = other
      · subst ho
        simp [unregister, handler?, hk, Ne.symm hk]
      · simp [unregister, handler?, hk, ho, ih]

theorem handler?_register_self {kind : ParserKind} {h : Handler} {r r' : Registry}
    (hr : r.register kind h = .ok r') : r'.handler? kind = some h := by
  unfold register at hr
  split at hr
  · simp at hr
  · split at hr
    · split at hr
      · simp only [Except.ok.injEq] at hr
        subst hr
        simp [handler?]
      · simp at hr
    · simp only [Except.ok.injEq] at hr
      subst hr
      simp [handler?]

theorem handler?_register_of_ne {kind other : ParserKind} {h : Handler} {r r' : Registry}
    (hr : r.register kind h = .ok r') (hne : kind ≠ other) :
    r'.handler? other = r.handler? other := by
  unfold register at hr
  split at hr
  · simp at hr
  · split at hr
    · split at hr
      · simp only [Except.ok.injEq] at hr
        subst hr
        simp [handler?, handler?_unregister, hne]
      · simp at hr
    · simp only [Except.ok.injEq] at hr
      subst hr
      simp [handler?, handler?_unregister, hne]

end Registry

end ParserHost
