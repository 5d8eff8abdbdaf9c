import ParserHost.Files.Tree
import ParserHost.Number.Double

/-!
Child processes as their parent sees them. A launch says what to start and how long to wait; the
system answers with a refusal or with how the child ended, and the child may have changed files.
-/
namespace ParserHost

open Text.Utf8 (Bytes)

structure Launch where
  /-- The program and its arguments. -/
  words : List String
  directory : Option Path
  environment : List (String × String)
  /-- What the child reads; nothing at all if there is no text. -/
  input : Option String
  /-- Whether the parent reads what the child writes. -/
  captured : Bool
  timeout : Option Double
  deriving Repr, Inhabited

structure Ended where
  /-- The exit status, or a signal as a negative number. -/
  status : Int
  output : Bytes
  errors : Bytes
  timedOut : Bool
  /-- Whether the child was gone before it had read all of its input. -/
  inputUnread : Bool
  deriving DecidableEq, Repr, Inhabited

def Ended.killed (e : Ended) : Bool :=
  e.status < 0

abbrev Launcher := Launch → FileTree → Except SystemError Ended × FileTree

structure Host where
  directory : Path
  environment : List (String × String)
  /-- Where temporary directories are made. -/
  scratch : Path
  launch : Launcher

def Host.absolute (h : Host) (p : Path) : Path :=
  h.directory.join p

end ParserHost
