import ParserHost.Console.Reporter

/-!
# What a reporter shows

A reporter that is not verbose prints of a journal what a verbose one prints of it without debugging
(`print_eq_print_surfacing`), and nothing else is left out, since every line that is printed ends
(`report_eq_empty_iff`). A collector in front of it keeps everything (`takeAll_eq`).
-/

namespace ParserHost

namespace Event

def level? : Event → Option Level
  | message m => some m.level
  | log level _ => some level
  | _ => none

def surfaces (verbose : Bool) (e : Event) : Bool :=
  verbose || e.level? != some .debug

theorem filter_surfaces_messages (verbose : Bool) (ms : List Message) :
    (ms.map message).filter (surfaces verbose) = (Message.surfaced verbose ms).map message := by
  rw [List.filter_map]
  rfl

end Event

namespace Reporter

variable {r : Reporter} {m : Message}

/-! ## One event -/

theorem log_eq (r : Reporter) (level : Level) (text : String) :
    r.log level text =
      if r.verbose || level != .debug then Console.lineText (.level level) text r.useEmoji else "" := by
  rw [log]
  cases r.verbose <;> cases level <;> rfl

theorem lineText_ne_empty (tone : Console.Tone) (text : String) (emoji : Bool) :
    Console.lineText tone text emoji ≠ "" := by
  intro empty
  rw [Console.lineText, Console.printed] at empty
  have ends := congrArg String.toList empty
  rw [String.toList_append] at ends
  exact List.cons_ne_nil _ _ (List.append_eq_nil_iff.1 ends).2

theorem report_eq_empty_iff : r.report m = "" ↔ Message.surfaced r.verbose [m] = [] := by
  rw [report, log_eq]
  cases shown : r.verbose || m.level != .debug <;> simp [lineText_ne_empty, Message.surfaced, shown]

theorem eventText_eq (r : Reporter) (e : Event) :
    r.eventText e = if e.surfaces r.verbose then eventText ⟨true, r.useEmoji⟩ e else "" := by
  cases e with
  | message m =>
    rw [eventText, eventText, report, report, log_eq, log_eq]
    rfl
  | log level text =>
    rw [eventText, eventText, log_eq, log_eq]
    rfl
  | called | launched | lookedUp =>
    rw [eventText, eventText, ite_self]
    all_goals nofun

/-! ## Journals -/

theorem print_eq_print_surfacing (r : Reporter) (journal : List Event) :
    r.print journal = print ⟨true, r.useEmoji⟩ (journal.filter (Event.surfaces r.verbose)) := by
  induction journal with
  | nil => rfl
  | cons e rest ih =>
    rw [print, ih, eventText_eq]
    by_cases shown : e.surfaces r.verbose = true
    · rw [if_pos shown, List.filter_cons_of_pos shown, print]
    · rw [if_neg shown, List.filter_cons_of_neg shown, String.empty_append]

theorem print_verbose (emoji : Bool) (ms : List Message) : print ⟨true, emoji⟩ (ms.map .message) =
    String.join (ms.map fun m => Console.lineText (.level m.level) m.display emoji) := by
  induction ms with
  | nil => rfl
  | cons m rest ih =>
    have first : eventText ⟨true, emoji⟩ (.message m) = Console.lineText (.level m.level) m.display emoji :=
      log_eq _ _ _
    rw [List.map_cons, print, first, ih, List.map_cons, String.join_cons]

end Reporter

namespace Collector

/-- A collector keeps every message, and prints what its reporter makes of them. -/
theorem takeAll_eq (c : Collector) (ms : List Message) :
    c.takeAll ms = ({ c with messages := c.messages ++ ms },
      match c.sink with
      | some r => r.print (ms.map .message)
      | none => "") := by
  induction ms generalizing c with
  | nil => obtain ⟨_ | r, messages⟩ := c <;> simp [takeAll, Reporter.print]
  | cons m rest ih =>
    obtain ⟨_ | r, messages⟩ := c <;> simp [takeAll, take, ih, Reporter.print, Reporter.eventText]

end Collector

/-- What a reporter prints of messages is what a verbose one prints of those that surface, one line or more for
each of these and nothing for the others; what it prints of two sequences, it prints of one after the other;
and a collector in front of it keeps all of them. -/
theorem Reporter.verbosity_law (verbose emoji : Bool) (ms : List Message) :
    print ⟨verbose, emoji⟩ (ms.map .message) =
        print ⟨true, emoji⟩ ((Message.surfaced verbose ms).map .message) ∧
      print ⟨verbose, emoji⟩ (ms.map .message) = String.join ((Message.surfaced verbose ms).map fun m =>
        Console.lineText (.level m.level) m.display emoji) ∧
      (∀ m, report ⟨verbose, emoji⟩ m = "" ↔ Message.surfaced verbose [m] = []) ∧
      (∀ more, print ⟨verbose, emoji⟩ ((ms ++ more).map .message) =
        print ⟨verbose, emoji⟩ (ms.map .message) ++ print ⟨verbose, emoji⟩ (more.map .message)) ∧
      ∀ c : Collector, (c.takeAll ms).1 = ⟨c.sink, c.messages ++ ms⟩ ∧
        (c.sink = some ⟨verbose, emoji⟩ → (c.takeAll ms).2 = print ⟨verbose, emoji⟩ (ms.map .message)) ∧
        (c.sink = none → (c.takeAll ms).2 = "") := by
  have surfacing : print ⟨verbose, emoji⟩ (ms.map .message) =
      print ⟨true, emoji⟩ ((Message.surfaced verbose ms).map .message) := by
    rw [print_eq_print_surfacing, Event.filter_surfaces_messages]
  refine ⟨surfacing, surfacing.trans (print_verbose emoji _), fun m => report_eq_empty_iff, fun more => ?_,
    fun c => ?_⟩
  · rw [List.map_append, print_append]
  · rw [Collector.takeAll_eq]
    exact ⟨rfl, fun sink => by rw [sink], fun sink => by rw [sink]⟩

end ParserHost
