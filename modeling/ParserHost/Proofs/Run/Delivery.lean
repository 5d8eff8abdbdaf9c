import ParserHost.Proofs.Exchange.Requests
import ParserHost.Proofs.Files.Writing
import ParserHost.Proofs.Json.Printed
import ParserHost.Proofs.Launch.Plans
import ParserHost.Proofs.Launch.Workspaces
import ParserHost.Proofs.Run.Exchange

/-!
# Delivering a request

A command finds one and the same text in its request file or on its standard input
(`handed_of_delivered`), and what is read from that text is the request (`delivery_round_trip`). A request
with a part that is too deep has no text (`result_of_deep`).
-/

namespace ParserHost.Invocation

variable {c : Context} {request : Request} {t t₁ t₂ : FileTree} {w : Workspace} {plan : Plan}
  {input : Option String}

def textAt (t : FileTree) (file : Path) : Option String :=
  (t.read file).toOption.bind fun content => (Text.Utf8.decode content).toOption

/-- The text that is handed to a command: on its standard input, or else in its request file. -/
def handed (w : Workspace) (input : Option String) (t : FileTree) : Option String :=
  input.or (w.requestFile.toOption.bind (textAt t))

theorem textAt_of_written {text : String} {file : Path} (requestFile : w.requestFile = .ok file)
    (written : w.writeRequest (text.toList.map Char.toNat) t = (.ok (), t₁)) :
    textAt t₁ file = some text := by
  simp only [Workspace.writeRequest, requestFile, Text.Utf8.encodeCodes_toNat] at written
  split at written
  · cases written
  · next u wrote =>
    cases written
    obtain ⟨-, wrote⟩ := Workspace.asked_eq_ok.1 wrote
    rw [textAt, FileTree.read_of_write wrote]
    simp [Except.toOption, Text.Utf8.decode_encode]

theorem handed_of_delivered (delivered : Delivered c request t w plan input t₂) :
    ∃ text, request.serialized = .ok text ∧ handed w input t₂ = some text := by
  cases delivered with
  | piped planned command transport serialized => exact ⟨_, serialized, rfl⟩
  | filed planned transport serialized written =>
    refine ⟨_, serialized, ?_⟩
    cases requestFile : w.requestFile with
    | error f =>
      rw [Workspace.writeRequest, requestFile] at written
      cases written
    | ok file =>
      rw [handed, requestFile]
      exact textAt_of_written requestFile written

/-- Only a command for Gradle has its request in a file. -/
theorem input_of_delivered (delivered : Delivered c request t w plan input t₂) :
    input = none ↔ c.config.parser = .compose := by
  cases delivered with
  | piped planned command pipes serialized =>
    rcases Plan.ofConfig_ok planned.planned with
      ⟨-, h, rfl⟩ | ⟨-, -, -, files⟩ | ⟨-, other, -, -, -⟩
    · exact absurd rfl command
    · cases pipes.symm.trans files
    · exact iff_of_false nofun other
  | filed planned files serialized written =>
    rcases Plan.ofConfig_ok planned.planned with
      ⟨-, h, rfl⟩ | ⟨compose, -, -, -⟩ | ⟨-, -, -, -, pipes⟩
    · cases files
    · exact iff_of_true rfl compose
    · cases files.symm.trans pipes

theorem exists_delivered {text : String} (rooted : t.Rooted) (planned : Planned c request t w t₁ plan)
    (command : plan.kind ≠ .inProcess) (serialized : request.serialized = .ok text) :
    ∃ input t₂, Delivered c request t w plan input t₂ := by
  cases transport : plan.transport with
  | pipes => exact ⟨_, _, .piped planned command transport serialized⟩
  | files =>
    obtain ⟨at', name, -, opens, -, output, rfl, rfl⟩ :=
      (Workspace.enter_eq_ok rooted).1 planned.entered
    exact ⟨_, _, .filed planned transport serialized
      (Workspace.writeRequest_of_free (opens.rooted_made true) (opens.sits true)
        (Workspace.node?_made_root true t at' name) (opens.free_request true) output)⟩

theorem result_of_deep (planned : Planned c request t w t₁ plan) (command : plan.kind ≠ .inProcess)
    (deep : ¬ Json.Shallow request.freeForm) :
    (run c request t).result = .error (.fault (.unwritten .levels)) :=
  result_eq_error_iff.2 ⟨_, .unwritten planned command (Request.serialized_of_deep deep)⟩

def assorted : Request :=
  .create {
    destinationDir := "src/été"
    component := {
      figmaNodeUrl := "https://figma.com/file/1?node-id=2"
      id := "1:2"
      name := "Button \"large\""
      normalizedName := "ButtonLarge"
      type := .component
      properties := [
        ("Disabled", ⟨.boolean, .flag false, none⟩),
        ("Size", ⟨.variant, .text "large", some ["large", "small"]⟩)] }
    config := [
      ("depth", .obj [("inner", .arr [.null, .int (-12), .bool true, .arr []])]),
      ("zero", .float (.finite true 0)),
      ("least", .float (.finite false 1)),
      ("text", .str "line\n\x00 😀")]
    destinationFile := some "Button.figma.kt"
    sourceFilepath := none
    sourceExport := none
    propMapping := some [("Disabled", .null)]
    verbose := true }

theorem portable_assorted : assorted.Portable := by
  have zero : (Json.float (.finite true 0)).Portable := ⟨rfl, by decide +kernel, Nat.dvd_zero _⟩
  have least : (Json.float (.finite false 1)).Portable := ⟨rfl, by decide +kernel, by decide +kernel⟩
  refine ⟨⟨by simp [Json.keys], ?_, zero, least, trivial, trivial⟩, ?_, by simp⟩
  · simp only [Json.Portable, Json.PortableEntries, Json.PortableItems, Json.keys]
    decide
  · rintro _ ⟨⟩
    exact ⟨by simp [Json.keys], trivial, trivial⟩

def wrapped : FileTree :=
  ⟨[(["home"], .directory), (["home", "gradlew"], .file [] true), (["tmp"], .directory)]⟩

theorem rooted_wrapped : wrapped.Rooted :=
  FileTree.rooted_of_nodes (by decide)

def asking (parser : ParserKind) : Context where
  host := ⟨Path.absolute ["home"], [], Path.absolute ["tmp"], fun _ t => (.ok ⟨0, [], [], false, false⟩, t)⟩
  handlers := []
  config := ⟨parser, none, none, none, none, none, none, none, none, none, none, []⟩
  cwd := Path.absolute ["home"]
  verbose := false
  timeout := none

theorem planned_asking {parser : ParserKind} (external : parser = .compose ∨ parser = .swift)
    (request : Request) :
    ∃ w t₁ plan, Planned (asking parser) request wrapped w t₁ plan ∧ plan.kind ≠ .inProcess := by
  rcases external with rfl | rfl
  · exact ⟨_, _, _, ⟨rfl, rfl⟩, nofun⟩
  · exact ⟨_, _, _, ⟨rfl, rfl⟩, nofun⟩

theorem shallow_assorted : Json.Shallow assorted.freeForm := by
  decide

end ParserHost.Invocation
