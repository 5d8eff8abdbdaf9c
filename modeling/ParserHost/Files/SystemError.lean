import ParserHost.Text.Quoted

/-!
What the operating system answers when it refuses a request.

Main statement: a refusal has the number of a missing entry only if it is one (`code_eq_noEntry_iff`).
-/
namespace ParserHost

/-- The numbers of the refusals that have a name here. -/
def namedErrors : List Nat :=
  [2, 8, 13, 17, 20, 21, 36, 39, 40]

inductive Errno where
  | noEntry
  | execFormat
  | permission
  | exists
  | notDirectory
  | isDirectory
  | nameTooLong
  | directoryNotEmpty
  | linkLoop
  /-- Any other number, with its text. -/
  | other (number : { n : Nat // n ∉ namedErrors }) (text : String)
  deriving DecidableEq, Repr, Inhabited

namespace Errno

def code : Errno → Nat
  | noEntry => 2
  | execFormat => 8
  | permission => 13
  | «exists» => 17
  | notDirectory => 20
  | isDirectory => 21
  | nameTooLong => 36
  | directoryNotEmpty => 39
  | linkLoop => 40
  | other number _ => number

def text : Errno → String
  | noEntry => "No such file or directory"
  | execFormat => "Exec format error"
  | permission => "Permission denied"
  | «exists» => "File exists"
  | notDirectory => "Not a directory"
  | isDirectory => "Is a directory"
  | nameTooLong => "File name too long"
  | directoryNotEmpty => "Directory not empty"
  | linkLoop => "Too many levels of symbolic links"
  | other _ text => text

theorem code_eq_noEntry_iff {e : Errno} : e.code = noEntry.code ↔ e = noEntry := by
  cases e with
  | other number text =>
    refine iff_of_false (fun same => number.2 ?_) nofun
    have two : (number : Nat) = 2 := same
    rw [two]
    decide
  | _ => decide

end Errno

/-- What the system says of a refusal: nothing, a text, or a number with a text and perhaps a file. -/
inductive SystemReport where
  | silent
  | said (text : String)
  | numbered (code : Int) (text : String) (file : Option String)
  deriving DecidableEq, Repr, Inhabited

namespace SystemReport

def message : SystemReport → String
  | silent => ""
  | said text => text
  | numbered code text none => s!"[Errno {code}] {text}"
  | numbered code text (some file) => s!"[Errno {code}] {text}: {Text.quote file}"

/-- The text of the number, or the whole message where there is none. -/
def reason (r : SystemReport) : String :=
  match r with
  | numbered _ text _ => if text.isEmpty then r.message else text
  | r => r.message

end SystemReport

structure SystemError where
  errno : Errno
  file : String
  deriving DecidableEq, Repr, Inhabited

namespace SystemError

def report (e : SystemError) : SystemReport :=
  .numbered e.errno.code e.errno.text (some e.file)

def message (e : SystemError) : String :=
  e.report.message

end SystemError

end ParserHost
