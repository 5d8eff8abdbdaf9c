import ParserHost.Failure.RunError
import ParserHost.Files.Tree
import ParserHost.Glob.Selection
import ParserHost.Json.Payload

/-!
Faults, the failures that no run turns into an orderly end: the caller sees them as they are.
`Failure` is either of the two.
-/
namespace ParserHost

inductive Fault where
  /-- A pattern that selects nothing because it is no pattern. -/
  | pattern (refusal : Glob.Refusal)
  /-- A text that goes beyond what a reader takes. -/
  | beyond (limit : Json.Limit)
  /-- A value that goes beyond what is written. -/
  | unwritten (excess : Json.Excess)
  | system (error : SystemError)
  | executableNotFound (message : String)
  | emptyCommand
  /-- A NUL in a path, in a word of a command or in its environment. -/
  | embeddedNul
  /-- A name in the environment of a command that holds an equals sign. -/
  | environmentName
  | linkLoop (file : String)
  | notUnicode (fault : Text.Utf8.Fault)
  | notEncodable (codes : Text.Utf8.Unencodable)
  | workspaceInactive
  /-- A remote whose address has fewer parts than its host's addresses have. -/
  | shortRemote (parts : Nat)
  | handlerTaken (parser : String)
  | notInProcess (parser : String)
  | invalid (violations : List Schema.Violation)
  deriving DecidableEq, Repr

namespace Fault

def patternText : Glob.Refusal → String
  | .absolute => "Non-relative patterns are unsupported"
  | .noParts => "tuple index out of range"
  | .onlySlash => "'_TerminatingSelector' object has no attribute 'select_from'"
  | .starsInPart => "Invalid pattern: '**' can only be an entire path component"

def message : Fault → String
  | pattern refusal => patternText refusal
  | beyond limit => limit.text
  | unwritten excess => excess.text
  | system e => e.message
  | executableNotFound text => text
  | emptyCommand => "subprocess command requires at least one argument"
  | embeddedNul => "embedded null byte"
  | environmentName => "illegal environment variable name"
  | linkLoop file => s!"Symlink loop from {Text.quote file}"
  | notUnicode f => f.text
  | notEncodable u => u.text
  | workspaceInactive => "InvocationWorkspace used outside of its context"
  | shortRemote n => s!"not enough values to unpack (expected 3, got {n})"
  | handlerTaken parser => s!"in-process parser '{parser}' is already registered"
  | notInProcess parser => s!"parser '{parser}' is not executed in-process"
  | invalid _ => ""

def ofUnresolved : FileTree.Unresolved → Fault
  | .loop file => linkLoop file
  | .nul => embeddedNul

end Fault

inductive Failure where
  | run (error : RunError)
  | fault (fault : Fault)
  deriving DecidableEq, Repr

def Failure.message : Failure → String
  | run e => e.message
  | fault f => f.message

instance : Coe RunError Failure := ⟨.run⟩

instance : Coe Fault Failure := ⟨.fault⟩

end ParserHost
