import ParserHost.Json.Writer
import ParserHost.Text.Quoted

/-!
A value as messages show it: a text at the top stands for itself, one inside a list or an object is
quoted.
-/
namespace ParserHost.Json

def shownAtom : Json → String
  | null => "None"
  | bool true => "True"
  | bool false => "False"
  | int n => toString n
  | float x => Decimal.shown x
  | str s => Text.quote s
  | broken codes => Text.quote (textOf codes)
  | arr _ => "[]"
  | obj _ => "\x7b\x7d"

mutual
def shownPart : Json → String
  | arr (v :: rest) => "[" ++ shownPart v ++ shownItems rest
  | obj ((k, v) :: rest) => "\x7b" ++ Text.quote k ++ ": " ++ shownPart v ++ shownMembers rest
  | v => shownAtom v

def shownItems : List Json → String
  | [] => "]"
  | v :: rest => ", " ++ shownPart v ++ shownItems rest

def shownMembers : Entries → String
  | [] => "\x7d"
  | (k, v) :: rest => ", " ++ Text.quote k ++ ": " ++ shownPart v ++ shownMembers rest
end

def shown : Json → String
  | str s => s
  | v => shownPart v

end ParserHost.Json
