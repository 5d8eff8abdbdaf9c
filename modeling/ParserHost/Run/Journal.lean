import ParserHost.Exchange.Message
import ParserHost.Failure.Fault
import ParserHost.Launch.Child

/-!
Journals, the record of what a run did that others can see, in order. A step of a run starts from a
file tree and leaves a result, a tree and a journal; steps are chained by `Act`.

Main statements: the journal of two steps is that of the first followed by that of the second
(`journal_bind_ok`), and nothing follows a step that failed (`bind_error`).
-/
namespace ParserHost

inductive Event where
  /-- A message of the parser was taken up. -/
  | message (m : Message)
  /-- The run itself had something to say. -/
  | log (level : Level) (text : String)
  /-- A handler was called. -/
  | called (request : Json) (cwd : Path)
  /-- A parser process was asked for. -/
  | launched (words : List String)
  /-- The repository of a directory was looked up. -/
  | lookedUp (directory : Path) (remoteUrl : Option String)
  deriving Repr, Inhabited

def Event.message? : Event → Option Message
  | message m => some m
  | _ => none

def messagesOf (journal : List Event) : List Message :=
  journal.filterMap Event.message?

structure Done (α : Type) where
  result : Except Failure α
  tree : FileTree
  journal : List Event

/-- A step of a run. -/
def Act (α : Type) := FileTree → Done α

namespace Act

variable {α β : Type}

def pure (a : α) : Act α :=
  fun t => ⟨.ok a, t, []⟩

def bind (x : Act α) (f : α → Act β) : Act β :=
  fun t =>
    match x t with
    | ⟨.error e, t, journal⟩ => ⟨.error e, t, journal⟩
    | ⟨.ok a, t, journal⟩ =>
      match f a t with
      | ⟨result, t, more⟩ => ⟨result, t, journal ++ more⟩

instance : Monad Act where
  pure := pure
  bind := bind

def fail (e : Failure) : Act α :=
  fun t => ⟨.error e, t, []⟩

def lift (r : Except Failure α) : Act α :=
  fun t => ⟨r, t, []⟩

def refuse (r : Except RunError α) : Act α :=
  lift (r.mapError .run)

def read (f : FileTree → Except Failure α) : Act α :=
  fun t => ⟨f t, t, []⟩

def change (f : FileTree → Except Fault α × FileTree) : Act α :=
  fun t => ⟨(f t).1.mapError .fault, (f t).2, []⟩

def note (e : Event) : Act Unit :=
  fun t => ⟨.ok (), t, [e]⟩

def notes (es : List Event) : Act Unit :=
  fun t => ⟨.ok (), t, es⟩

def log (level : Level) (text : String) : Act Unit :=
  note (.log level text)

/-- A step whose orderly failures become results, together with the messages of its journal. -/
def attempt (x : Act α) : Act (Except RunError α × List Message) :=
  fun t =>
    match x t with
    | ⟨.ok a, t, journal⟩ => ⟨.ok (.ok a, messagesOf journal), t, journal⟩
    | ⟨.error (.run e), t, journal⟩ => ⟨.ok (.error e, messagesOf journal), t, journal⟩
    | ⟨.error (.fault f), t, journal⟩ => ⟨.error (.fault f), t, journal⟩

/-- A step after which the tree is changed, whatever its result. -/
def afterwards (x : Act α) (f : FileTree → FileTree) : Act α :=
  fun t => { x t with tree := f (x t).tree }

theorem journal_bind_ok {x : Act α} {f : α → Act β} {t t' : FileTree} {a : α}
    {journal : List Event} (h : x t = ⟨.ok a, t', journal⟩) :
    ((x >>= f) t).journal = journal ++ (f a t').journal := by
  simp [Bind.bind, bind, h]

theorem bind_error {x : Act α} {f : α → Act β} {t t' : FileTree} {e : Failure}
    {journal : List Event} (h : x t = ⟨.error e, t', journal⟩) :
    (x >>= f) t = ⟨.error e, t', journal⟩ := by
  simp [Bind.bind, bind, h]

end Act

end ParserHost
