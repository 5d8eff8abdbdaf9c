import ParserHost.Text.Printable
import ParserHost.Text.Utf8

/-!
Quoted text, the form in which a message shows a value it was given. The quote is a single one
unless the text holds single quotes and no double ones; the quote and the backslash are escaped, and
so is every character that does not print.
-/
namespace ParserHost.Text

/-- The quote that needs the fewest escapes; of the two, the single one wins a tie. -/
def quoteFor (cs : List Char) : Char :=
  if cs.contains '\'' && !cs.contains '"' then '"' else '\''

def escapeChar (quote c : Char) : List Char :=
  if c = quote || c = '\\' then ['\\', c]
  else if c = '\t' then ['\\', 't']
  else if c = '\n' then ['\\', 'n']
  else if c = '\r' then ['\\', 'r']
  else if isPrintable c then [c]
  else
    let n := c.toNat
    if n < 0x100 then '\\' :: 'x' :: (Utf8.hex 2 n).toList
    else if n < 0x10000 then '\\' :: 'u' :: (Utf8.hex 4 n).toList
    else '\\' :: 'U' :: (Utf8.hex 8 n).toList

def quote (s : String) : String :=
  let cs := s.toList
  let q := quoteFor cs
  String.ofList (q :: cs.flatMap (escapeChar q) ++ [q])

end ParserHost.Text
