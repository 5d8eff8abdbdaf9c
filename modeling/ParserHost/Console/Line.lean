import ParserHost.Exchange.Message
import ParserHost.Text.Width

/-!
Lines on the console. A line has a tone, which decides its mark and its style; control characters
that would move the cursor are dropped from it, and tabs lead to the next multiple of eight columns.
-/
namespace ParserHost.Console

/-- A style for the characters from `start` up to `stop`. -/
structure Span where
  start : Nat
  stop : Nat
  style : String
  deriving DecidableEq, Repr, Inhabited

structure Styled where
  plain : String
  style : String
  spans : List Span
  deriving DecidableEq, Repr, Inhabited

/-- Characters that no line keeps: bell, backspace, vertical tab, form feed, carriage return. -/
def isDropped (c : Char) : Bool :=
  let n := c.toNat
  n = 7 || n = 8 || n = 11 || n = 12 || n = 13

def clean (cs : List Char) : List Char :=
  cs.filter fun c => !isDropped c

inductive Tone where
  | level (l : Level)
  | success
  deriving DecidableEq, Repr

namespace Tone

/-- The mark in front of a line; one for debugging has none. -/
def mark : Tone → String
  | level .debug => ""
  | level .info => "ℹ️ "
  | level .warn => "⚠️ "
  | level .error => "❌ "
  | success => "✅ "

def style : Tone → String
  | level .debug => "dim"
  | level .info => "cyan"
  | level .warn => "yellow"
  | level .error => "red"
  | success => "green"

end Tone

/-- A line with its mark, if marks are wanted, and in its style, if styles are. -/
def Styled.ofLine (tone : Tone) (text : String) (emoji color : Bool) : Styled :=
  let plain := String.ofList (clean (if emoji then tone.mark ++ text else text).toList)
  ⟨plain, "", if color && !plain.isEmpty then [⟨0, plain.length, tone.style⟩] else []⟩

def tabWidth : Nat := 8

/-- How far a column is from the next stop; none if it is at one. -/
def toStop (column : Nat) : Nat :=
  if column % tabWidth = 0 then 0 else tabWidth - column % tabWidth

/-- The pieces of a line between tabs, each but the last filled up to a stop after one blank. -/
def fillPieces : Nat → List (List Char) → List Char
  | _, [] => []
  | _, [piece] => piece
  | column, piece :: rest =>
    let piece := piece ++ [' ']
    let column := column + Text.columns piece
    let fill := toStop column
    piece ++ List.replicate fill ' ' ++ fillPieces (column + fill) rest

def expandTabs (line : List Char) : List Char :=
  fillPieces 0 (Text.splitAt '\t' line)

/-- What is printed for a text: its lines without tabs, and a line end. -/
def printed (plain : String) : String :=
  let lines := (Text.splitAt '\n' plain.toList).map fun l => String.ofList (expandTabs l)
  Text.join "\n" lines ++ "\n"

def lineText (tone : Tone) (text : String) (emoji : Bool) : String :=
  printed (Styled.ofLine tone text emoji false).plain

end ParserHost.Console
