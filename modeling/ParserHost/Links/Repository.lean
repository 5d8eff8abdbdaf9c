import ParserHost.Launch.Query

/-!
The repository that a project lives in: where it can be cloned from, where it is checked out, and its
default branch. `detect` asks for these one after the other; `fileUrl` links a file of the checkout.
-/
namespace ParserHost

structure Repository where
  remoteUrl : String
  root : Path
  defaultBranch : String
  deriving DecidableEq, Repr, Inhabited

namespace Repository

def fallbackBranch : String := "master"

def mainBranch : String := "main"

def branchOf (listing : String) : String :=
  let lines := (Text.splitLines listing).map Text.trim
  if lines.contains ("origin/" ++ mainBranch) then mainBranch else fallbackBranch

/-! ## Detection -/

inductive Question where
  | remote
  | topLevel
  | branches
  deriving DecidableEq, Repr, Inhabited

def Question.words : Question → List String
  | remote => ["git", "config", "--get", "remote.origin.url"]
  | topLevel => ["git", "rev-parse", "--show-toplevel"]
  | branches => ["git", "branch", "-r"]

def isNotFound : Fault → Bool
  | .executableNotFound _ => true
  | .system e => e.errno = .noEntry
  | _ => false

/-- What is known when a question cannot be asked because its program is missing. -/
def unasked (directory : Path) (given : Option String) (f : Fault) :
    Except Fault (Option Repository) :=
  if isNotFound f then .ok (given.map fun url => ⟨url, directory, fallbackBranch⟩) else .error f

section
variable {m : Type → Type} [Monad m]

def describe (ask : Question → Path → m (Except Fault String)) (directory : Path)
    (given : Option String) (url : String) : m (Except Fault (Option Repository)) := do
  match ← ask .topLevel directory with
  | .error f => return unasked directory given f
  | .ok top =>
    let root := if top.isEmpty then directory else Path.parse top
    match ← ask .branches root with
    | .error f => return unasked directory given f
    | .ok listing => return .ok (some ⟨url, root, branchOf listing⟩)

/-- The repository that holds a directory; a URL that is given stands for that of the remote. -/
def detect (ask : Question → Path → m (Except Fault String)) (directory : Path)
    (given : Option String) : m (Except Fault (Option Repository)) := do
  match given.filter fun url => !url.isEmpty with
  | some url => describe ask directory given url
  | none =>
    match ← ask .remote directory with
    | .error f => return unasked directory given f
    | .ok url => if url.isEmpty then return .ok none else describe ask directory given url

end

/-- Asks by running the command of a question; one that fails answers with nothing. -/
def ask (h : Host) (q : Question) (directory : Path) : StateM FileTree (Except Fault String) :=
  fun t =>
    match Query.run h q.words ⟨some directory, none, true, true, none⟩ t with
    | (.error f, t) => (.error f, t)
    | (.ok c, t) =>
      (.ok (if c.status = 0 then Text.trim (c.output.text?.getD "") else ""), t)

/-! ## Links -/

def sshMark : String := "git@"

/-- The address of a remote as a web page's: by HTTPS, without the ending of a clone. -/
def normalizeUrl (url : String) : String :=
  let trimmed := Text.trim url
  let web :=
    if Text.startsWith sshMark trimmed then
      Text.replaceFirst sshMark "https://" (Text.replaceFirst ":" "/" trimmed)
    else trimmed
  Text.dropSuffix ".git" web

/-- The part of a text after the first occurrence of another; the whole text if there is none. -/
def afterFirst (part s : String) : String :=
  match Text.findPart part.toList s.toList with
  | some (_, after) => String.ofList after
  | none => s

/-- A link to a file on Azure, whose remotes name organisation, project and repository. -/
def azureUrl (raw relative branch : String) : Except Fault String :=
  if Text.startsWith sshMark raw then
    match (Text.splitOn '/' raw).reverse with
    | name :: project :: org :: _ =>
      .ok s!"https://dev.azure.com/{org}/{project}/_git/{name}?path={relative}&branch={branch}"
    | parts => .error (.shortRemote parts.length)
  else
    let page := afterFirst "@" raw
    .ok s!"https://{page}?path={relative}&branch={branch}"

/-- A link to a file, by the host that the remote's address names first in this order. -/
def hostUrl (remote relative branch : String) : Except Fault String :=
  let raw := Text.trim remote
  let url := normalizeUrl raw
  if Text.contains "github.com" url then .ok s!"{url}/blob/{branch}{relative}"
  else if Text.contains "gitlab.com" url then .ok s!"{url}/-/blob/{branch}{relative}"
  else if Text.contains "bitbucket.org" url then .ok s!"{url}/src/{branch}{relative}"
  else if Text.contains "dev.azure.com" url then azureUrl raw relative branch
  else .ok s!"{url}/blob/{branch}{relative}"

/-- Where a file is in a checkout, both without links; nothing if it is outside. -/
def relative? (t : FileTree) (file root : Path) : Except Fault (Option Path) :=
  match t.resolve file with
  | .error .nul => .ok none
  | .error u => .error (.ofUnresolved u)
  | .ok file =>
    match t.resolve root with
    | .error .nul => .ok none
    | .error u => .error (.ofUnresolved u)
    | .ok root => .ok (file.relativeTo? root)

/-- The link to a file of a repository; it is empty for a file outside. -/
def fileUrl (t : FileTree) (r : Repository) (file : Path) : Except Fault String :=
  match relative? t file r.root with
  | .error f => .error f
  | .ok none => .ok ""
  | .ok (some p) => hostUrl r.remoteUrl ("/" ++ p.text) r.defaultBranch

end Repository

end ParserHost
