import ParserHost.CommandLine.Command
import ParserHost.Shell.Machine

/-!
The command line. The files below the current directory, and below the absolute paths among the
arguments, are read into a tree; the command runs on that tree, in which the tools of the shell are
installed; what it changed is written back. Only this module reads or writes anything.
-/
namespace ParserHost.Main

def isScript (content : Text.Utf8.Bytes) : Bool :=
  content.take 2 = [35, 33]

def parts (written : String) : List String :=
  (Path.parse written).parts

def orElse (action : IO FileTree) (t : FileTree) : IO FileTree :=
  try action catch _ => pure t

partial def snapshot (entry : IO.FS.DirEntry) (t : FileTree) : IO FileTree := do
  let l := parts entry.path.toString
  let t ← orElse (do
    let content := (← IO.FS.readBinFile entry.path).toList
    return t.set l (.file content (isScript content))) t
  match t.node? l with
  | some (.file ..) => return t
  | _ =>
    orElse (do
      let entries ← entry.path.readDir
      entries.foldlM (fun t e => snapshot e t) (t.set l .directory)) t

def withParents (written : String) (t : FileTree) : FileTree :=
  match t.makeDirectories (Path.absolute []) .slash (parts written).dropLast.reverse with
  | .ok t => t
  | .error _ => t

/-- Writes what is new or different in a tree, and removes the files that are gone. -/
def writeBack (old new : FileTree) : IO Unit := do
  for (l, node) in new.nodes do
    let written := (Path.absolute l).text
    if old.node? l != some node then
      match node with
      | .file content _ => IO.FS.writeBinFile written (ByteArray.mk content.toArray)
      | .directory => IO.FS.createDirAll written
      | .link _ => pure ()
  for (l, node) in old.nodes do
    if (new.node? l).isNone then
      match node with
      | .file .. => IO.FS.removeFile (Path.absolute l).text
      | _ => pure ()

def environment : IO (List (String × String)) := do
  let names := ["PATH", "HOME", Settings.timeoutVariable]
  let found ← names.mapM fun name => do return (name, ← IO.getEnv name)
  return found.filterMap fun (name, value) => value.map (name, ·)

def run (arguments : List String) : IO UInt32 := do
  let here ← IO.FS.realPath "."
  let given := arguments.filter fun a => (Path.parse a).isAbsolute
  let mut t : FileTree := ⟨Shell.Program.systemFiles⟩
  for written in here.toString :: given do
    t ← snapshot ⟨"/", written⟩ (withParents written t)
  let scratch := Path.parse "/tmp"
  let start := if t.isDirectory scratch then t else t.set scratch.parts .directory
  let directory := Path.parse here.toString
  let host : Host := ⟨directory, ← environment, scratch, Shell.Machine.launch directory⟩
  let f := CommandLine.run host arguments start
  writeBack start f.tree
  IO.print f.output
  IO.eprint f.errors
  match f.escaped with
  | some e => IO.eprintln e.message
  | none => pure ()
  return UInt32.ofNat (f.exitCode % 256).toNat

end ParserHost.Main

def main (arguments : List String) : IO UInt32 :=
  ParserHost.Main.run arguments
