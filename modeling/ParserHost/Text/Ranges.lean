/-!
Character classes as tables: closed ranges of code points in increasing order.
-/
namespace ParserHost.Text

abbrev Ranges := List (Nat × Nat)

/-- Whether one of the ranges holds a code point. The ranges are in increasing order, so the search
ends at the first one that lies above it. -/
def Ranges.holds : Ranges → Nat → Bool
  | [], _ => false
  | (low, high) :: rest, n => if n < low then false else n ≤ high || Ranges.holds rest n

end ParserHost.Text
