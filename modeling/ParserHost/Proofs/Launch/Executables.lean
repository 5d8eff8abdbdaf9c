import ParserHost.Proofs.Run.Sequence
import ParserHost.Launch.Executable

/-!
# Programs that commands name

Where a relative name is looked for depends on how many parts it has (`resolve_below`, `resolve_of_slash`). With
more than one it is seen from the directory in which the command will run, and neither the search path nor the
caller's own directory matters. Slashes and single dots make no part (`parts_slash`), so a single part stays
one with any number of them around it: it is then seen from the caller's own directory.
-/

namespace ParserHost

/-! ## Parts of a written path -/

namespace Text

theorem splitAt_append (sep : Char) (xs ys : List Char) :
    splitAt sep (xs ++ sep :: ys) = splitAt sep xs ++ splitAt sep ys := by
  induction xs with
  | nil => simp [splitAt]
  | cons c cs ih =>
    rw [List.cons_append, splitAt, splitAt, ih]
    split
    · rfl
    · -- the first piece takes the character, and it is a piece of the first text
      cases cut : splitAt sep cs with
      | nil => exact absurd cut (splitAt_ne_nil sep cs)
      | cons piece pieces => rfl

end Text

namespace Path

theorem partsOf_append (xs ys : List Char) :
    partsOf (xs ++ '/' :: ys) = partsOf xs ++ partsOf ys := by
  rw [partsOf, Text.splitAt_append, List.map_append, List.filter_append]
  rfl

theorem parts_slash (above below : String) :
    (parse (above ++ "/" ++ below)).parts = (parse above).parts ++ (parse below).parts := by
  have written : (above ++ "/" ++ below).toList = above.toList ++ '/' :: below.toList := by
    simp [String.toList_append]
  change partsOf _ = _
  rw [written, partsOf_append]
  rfl

end Path

namespace FileTree

variable {t : FileTree} {p : Path}

theorem answered_of_exists (there : t.exists? p = true) : t.unanswered? p = none := by
  rw [exists?, Bool.and_eq_true] at there
  unfold unanswered?
  cases found : t.stat p with
  | ok node => rfl
  | error e =>
    rw [found] at there
    cases there.2

theorem nameTooLong_of_unanswered {e : SystemError} (unanswered : t.unanswered? p = some e) :
    e.errno = .nameTooLong := by
  unfold unanswered? at unanswered
  split at unanswered
  · split at unanswered
    · cases unanswered
    · cases unanswered
      rfl
  · cases unanswered

end FileTree

namespace Executable

variable {t : FileTree} {h h' : Host} {cwd : Option Path} {head : String} {arguments : List String}
  {e : SystemError}

theorem exists_of_isProgram {written : String} (program : isProgram t h written = true) :
    t.exists? (h.absolute (Path.parse written)) = true := by
  unfold isProgram at program
  simp only [Bool.and_eq_true] at program
  obtain ⟨⟨-, clean⟩, node⟩ := program
  rw [FileTree.exists?, clean, Bool.true_and]
  cases found : t.stat (h.absolute (Path.parse written)) with
  | ok node => rfl
  | error e =>
    rw [found] at node
    cases node

/-! ## Three kinds of names -/

theorem resolve_absolute (absolute : (Path.parse head).isAbsolute = true) :
    resolve t h cwd (head :: arguments) = .ok ((Path.parse head).text :: arguments) := by
  simp only [resolve]
  rw [if_pos absolute]

section Below

def candidate (h : Host) (cwd : Option Path) (head : String) : Path :=
  (cwd.getD h.directory).join (Path.parse head)

def notBelowText (h : Host) (cwd : Option Path) (head : String) : String :=
  s!"Executable '{head}' was not found relative to {(cwd.getD h.directory).text}"

variable (relative : (Path.parse head).isAbsolute = false) (several : 1 < (Path.parse head).parts.length)
include relative several

theorem resolve_below :
    resolve t h cwd (head :: arguments) =
      match t.unanswered? (h.absolute (candidate h cwd head)) with
      | some e => .error (.system ⟨e.errno, (candidate h cwd head).text⟩)
      | none =>
        if t.exists? (h.absolute (candidate h cwd head)) then
          .ok ((candidate h cwd head).text :: arguments)
        else .error (.executableNotFound (notBelowText h cwd head)) := by
  simp only [resolve]
  rw [relative, if_neg Bool.false_ne_true, if_pos several]
  rfl

theorem resolve_below_ok (there : t.exists? (h.absolute (candidate h cwd head)) = true) :
    resolve t h cwd (head :: arguments) = .ok ((candidate h cwd head).text :: arguments) := by
  rw [resolve_below relative several, FileTree.answered_of_exists there]
  exact if_pos there

theorem resolve_below_missing (missing : t.exists? (h.absolute (candidate h cwd head)) = false)
    (answered : t.unanswered? (h.absolute (candidate h cwd head)) = none) :
    resolve t h cwd (head :: arguments) =
      .error (.executableNotFound (notBelowText h cwd head)) := by
  rw [resolve_below relative several, answered, missing]
  rfl

theorem resolve_below_unanswered (unanswered : t.unanswered? (h.absolute (candidate h cwd head)) = some e) :
    resolve t h cwd (head :: arguments) = .error (.system ⟨e.errno, (candidate h cwd head).text⟩) := by
  rw [resolve_below relative several, unanswered]

theorem resolve_below_of_directory (same : h'.directory = h.directory) :
    resolve t h' cwd (head :: arguments) = resolve t h cwd (head :: arguments) := by
  have place : candidate h' cwd head = candidate h cwd head := by rw [candidate, same, candidate]
  have text : notBelowText h' cwd head = notBelowText h cwd head := by rw [notBelowText, same, notBelowText]
  have seen : h'.absolute (candidate h cwd head) = h.absolute (candidate h cwd head) := by
    rw [Host.absolute, same, Host.absolute]
  rw [resolve_below relative several, resolve_below relative several, place, text, seen]

theorem resolve_below_of_absolute {base : Path} (absolute : base.isAbsolute = true) :
    resolve t h' (some base) (head :: arguments) = resolve t h (some base) (head :: arguments) := by
  -- the place is absolute itself, so the caller's directory drops out
  have seen (h : Host) : h.absolute (candidate h (some base) head) = base.join (Path.parse head) := by
    refine Path.join_absolute ?_
    change (base.join (Path.parse head)).isAbsolute = true
    rw [Path.join, relative, if_neg Bool.false_ne_true]
    exact absolute
  rw [resolve_below relative several, resolve_below relative several, seen, seen]
  rfl

end Below

def notOnPathText (head : String) : String :=
  s!"Executable '{head}' was not found on PATH"

section Single

variable (relative : (Path.parse head).isAbsolute = false) (single : (Path.parse head).parts.length ≤ 1)
include relative single

theorem resolve_single_found {program : String} (found : find? t h head = some program) :
    resolve t h cwd (head :: arguments) = .ok (program :: arguments) := by
  simp only [resolve]
  rw [relative, if_neg Bool.false_ne_true, if_neg (Nat.not_lt.2 single), found]

theorem resolve_single_missing (unfound : find? t h head = none) :
    resolve t h cwd (head :: arguments) = .error (.executableNotFound (notOnPathText head)) := by
  simp only [resolve]
  rw [relative, if_neg Bool.false_ne_true, if_neg (Nat.not_lt.2 single), unfound, notOnPathText]

end Single

theorem find?_of_slash (slash : Text.contains "/" head = true) :
    find? t h head = if isProgram t h head then some head else none := by
  unfold find?
  rw [if_pos slash]

/-- A single part with a slash somewhere is seen from the caller's own directory. -/
theorem resolve_of_slash (relative : (Path.parse head).isAbsolute = false)
    (slash : Text.contains "/" head = true) (single : (Path.parse head).parts.length ≤ 1) :
    resolve t h cwd (head :: arguments) =
      if isProgram t h head then .ok (head :: arguments)
      else .error (.executableNotFound (notOnPathText head)) := by
  have seen := find?_of_slash (t := t) (h := h) slash
  cases program : isProgram t h head with
  | true =>
    rw [program] at seen
    exact resolve_single_found relative single seen
  | false =>
    rw [program] at seen
    exact resolve_single_missing relative single seen

theorem isProgram_congr (same : h'.directory = h.directory) (written : String) :
    isProgram t h' written = isProgram t h written := by
  simp only [isProgram, Host.absolute, same]

/-! ## What a name comes to -/

/-- The program that a name leads to. An absolute name leads to its place, whether or not there is
something; any other leads to what is there. -/
inductive Leads (t : FileTree) (h : Host) (cwd : Option Path) (head : String) : String → Prop where
  | absolute (absolute : (Path.parse head).isAbsolute = true) :
      Leads t h cwd head (Path.parse head).text
  | below (relative : (Path.parse head).isAbsolute = false) (several : 1 < (Path.parse head).parts.length)
      (there : t.exists? (h.absolute (candidate h cwd head)) = true) :
      Leads t h cwd head (candidate h cwd head).text
  | single {program : String} (relative : (Path.parse head).isAbsolute = false)
      (single : (Path.parse head).parts.length ≤ 1) (found : find? t h head = some program) :
      Leads t h cwd head program

inductive Missing (t : FileTree) (h : Host) (cwd : Option Path) (head : String) : Prop where
  | below (relative : (Path.parse head).isAbsolute = false) (several : 1 < (Path.parse head).parts.length)
      (missing : t.exists? (h.absolute (candidate h cwd head)) = false)
      (answered : t.unanswered? (h.absolute (candidate h cwd head)) = none)
  | single (relative : (Path.parse head).isAbsolute = false)
      (single : (Path.parse head).parts.length ≤ 1) (unfound : find? t h head = none)

inductive Overlong (t : FileTree) (h : Host) (cwd : Option Path) (head : String) : SystemError → Prop where
  | below {u : SystemError} (relative : (Path.parse head).isAbsolute = false)
      (several : 1 < (Path.parse head).parts.length)
      (unanswered : t.unanswered? (h.absolute (candidate h cwd head)) = some u) :
      Overlong t h cwd head ⟨.nameTooLong, (candidate h cwd head).text⟩

inductive Resolved (t : FileTree) (h : Host) (cwd : Option Path) (head : String)
    (arguments : List String) : Except Fault (List String) → Prop where
  | found {program : String} (leads : Leads t h cwd head program) :
      Resolved t h cwd head arguments (.ok (program :: arguments))
  | missing {text : String} (missing : Missing t h cwd head) :
      Resolved t h cwd head arguments (.error (.executableNotFound text))
  | overlong {e : SystemError} (overlong : Overlong t h cwd head e) :
      Resolved t h cwd head arguments (.error (.system e))

theorem resolved (t : FileTree) (h : Host) (cwd : Option Path) (head : String) (arguments : List String) :
    Resolved t h cwd head arguments (resolve t h cwd (head :: arguments)) := by
  cases relative : (Path.parse head).isAbsolute with
  | true =>
    rw [resolve_absolute relative]
    exact .found (.absolute relative)
  | false =>
    rcases Nat.lt_or_ge 1 (Path.parse head).parts.length with several | single
    · cases answered : t.unanswered? (h.absolute (candidate h cwd head)) with
      | some e =>
        rw [resolve_below_unanswered relative several answered,
          FileTree.nameTooLong_of_unanswered answered]
        exact .overlong (.below relative several answered)
      | none =>
        cases there : t.exists? (h.absolute (candidate h cwd head)) with
        | true =>
          rw [resolve_below_ok relative several there]
          exact .found (.below relative several there)
        | false =>
          rw [resolve_below_missing relative several there answered]
          exact .missing (.below relative several there answered)
    · cases found : find? t h head with
      | some program =>
        rw [resolve_single_found relative single found]
        exact .found (.single relative single found)
      | none =>
        rw [resolve_single_missing relative single found]
        exact .missing (.single relative single found)

theorem resolve_of_leads {program : String} (arguments : List String) (leads : Leads t h cwd head program) :
    resolve t h cwd (head :: arguments) = .ok (program :: arguments) := by
  cases leads with
  | absolute absolute => exact resolve_absolute absolute
  | below relative several there => exact resolve_below_ok relative several there
  | single relative single found => exact resolve_single_found relative single found

theorem resolve_of_missing (arguments : List String) (missing : Missing t h cwd head) :
    ∃ text, resolve t h cwd (head :: arguments) = .error (.executableNotFound text) := by
  cases missing with
  | below relative several missing answered =>
    exact ⟨_, resolve_below_missing relative several missing answered⟩
  | single relative single unfound => exact ⟨_, resolve_single_missing relative single unfound⟩

theorem resolve_of_overlong (arguments : List String) (overlong : Overlong t h cwd head e) :
    resolve t h cwd (head :: arguments) = .error (.system e) := by
  cases overlong with
  | below relative several unanswered =>
    rw [resolve_below_unanswered relative several unanswered,
      FileTree.nameTooLong_of_unanswered unanswered]

theorem resolve_eq_ok_iff {words : List String} :
    resolve t h cwd (head :: arguments) = .ok words ↔
      ∃ program, Leads t h cwd head program ∧ words = program :: arguments := by
  constructor
  · intro found
    have ended := resolved t h cwd head arguments
    rw [found] at ended
    cases ended with
    | found leads => exact ⟨_, leads, rfl⟩
  · rintro ⟨program, leads, rfl⟩
    exact resolve_of_leads arguments leads

theorem resolve_eq_error {f : Fault} (failed : resolve t h cwd (head :: arguments) = .error f) :
    (∃ text, f = .executableNotFound text ∧ Missing t h cwd head) ∨
      ∃ e, f = .system e ∧ Overlong t h cwd head e := by
  have ended := resolved t h cwd head arguments
  rw [failed] at ended
  cases ended with
  | missing missing => exact .inl ⟨_, rfl, missing⟩
  | overlong overlong => exact .inr ⟨_, rfl, overlong⟩

/-- A relative name that is written with a slash. The number of its parts, to which slashes and single dots
add nothing, decides. With several parts it stands for a place below the directory in which the command will
run, if there is something, and neither the search path nor, for an absolute directory, the caller's own
matters. A single part is seen from the caller's own directory instead, and the command's does not matter. -/
theorem relative_executables (t : FileTree) (head : String) (arguments : List String)
    (relative : (Path.parse head).isAbsolute = false) (slash : Text.contains "/" head = true) :
    (∀ above below, head = above ++ "/" ++ below →
      (Path.parse head).parts = (Path.parse above).parts ++ (Path.parse below).parts) ∧
    (1 < (Path.parse head).parts.length → ∀ h cwd,
      (t.exists? (h.absolute (candidate h cwd head)) = true →
        resolve t h cwd (head :: arguments) = .ok ((candidate h cwd head).text :: arguments)) ∧
      (t.exists? (h.absolute (candidate h cwd head)) = false →
        t.unanswered? (h.absolute (candidate h cwd head)) = none →
          resolve t h cwd (head :: arguments) =
            .error (.executableNotFound (notBelowText h cwd head))) ∧
      (∀ e, t.unanswered? (h.absolute (candidate h cwd head)) = some e →
        resolve t h cwd (head :: arguments) =
          .error (.system ⟨.nameTooLong, (candidate h cwd head).text⟩)) ∧
      ∀ h', (∃ base, cwd = some base ∧ base.isAbsolute = true) ∨ h'.directory = h.directory →
        resolve t h' cwd (head :: arguments) = resolve t h cwd (head :: arguments)) ∧
    ((Path.parse head).parts.length ≤ 1 → ∀ h cwd,
      (isProgram t h head = true → t.exists? (h.absolute (Path.parse head)) = true ∧
        resolve t h cwd (head :: arguments) = .ok (head :: arguments)) ∧
      (isProgram t h head = false → resolve t h cwd (head :: arguments) =
        .error (.executableNotFound (notOnPathText head))) ∧
      ∀ h' cwd', h'.directory = h.directory →
        resolve t h' cwd' (head :: arguments) = resolve t h cwd (head :: arguments)) := by
  refine ⟨?_, fun several h cwd => ⟨resolve_below_ok relative several,
    resolve_below_missing relative several, fun e unanswered => ?_, fun h' seen => ?_⟩,
    fun single h cwd => ⟨fun program => ⟨exists_of_isProgram program, ?_⟩, fun program => ?_,
      fun h' cwd' same => ?_⟩⟩
  · rintro above below rfl
    exact Path.parts_slash above below
  · rw [resolve_below_unanswered relative several unanswered,
      FileTree.nameTooLong_of_unanswered unanswered]
  · obtain ⟨base, rfl, absolute⟩ | same := seen
    · exact resolve_below_of_absolute relative several absolute
    · exact resolve_below_of_directory relative several same
  · rw [resolve_of_slash relative slash single, program]
    rfl
  · rw [resolve_of_slash relative slash single, program]
    rfl
  · rw [resolve_of_slash relative slash single, resolve_of_slash relative slash single,
      isProgram_congr same]

def workshop : FileTree :=
  ⟨[(["proj"], .directory), (["proj", "bin"], .directory), (["proj", "bin", "saw"], .file [] true),
    (["proj", "plane"], .file [] true)]⟩

def standing (directory : Path) (path : String) : Host :=
  ⟨directory, [("PATH", path)], Path.absolute ["tmp"], fun _ t => (.error ⟨.noEntry, ""⟩, t)⟩

theorem relative_executables_of_workshop :
    (Path.parse "./bin//saw").isAbsolute = false ∧ Text.contains "/" "./bin//saw" = true ∧
    (∀ directory path, resolve workshop (standing directory path) (some (Path.absolute ["proj"]))
      ["./bin//saw", "-x"] = .ok ["/proj/bin/saw", "-x"]) ∧
    (Path.parse "./plane/").isAbsolute = false ∧ Text.contains "/" "./plane/" = true ∧
    ∀ path cwd, resolve workshop (standing (Path.absolute ["proj"]) path) cwd ["./plane/"] =
      .error (.executableNotFound "Executable './plane/' was not found on PATH") := by
  have relative : (Path.parse "./bin//saw").isAbsolute = false := by decide
  have slash : Text.contains "/" "./bin//saw" = true := by decide
  have relative' : (Path.parse "./plane/").isAbsolute = false := by decide
  have slash' : Text.contains "/" "./plane/" = true := by decide
  obtain ⟨-, below, -⟩ := relative_executables workshop "./bin//saw" ["-x"] relative slash
  obtain ⟨-, -, single⟩ := relative_executables workshop "./plane/" [] relative' slash'
  refine ⟨relative, slash, fun directory path => ?_, relative', slash', fun path cwd => ?_⟩
  · obtain ⟨found, -⟩ := below (by decide) (standing directory path) (some (Path.absolute ["proj"]))
    have there : workshop.exists? (Path.absolute ["proj", "bin", "saw"]) = true := by decide +kernel
    exact found there
  · obtain ⟨-, missing, -⟩ :=
      single (by decide) (standing (Path.absolute ["proj"]) path) cwd
    exact missing ((isProgram_congr rfl _).trans
      (by decide +kernel : isProgram workshop (standing (Path.absolute ["proj"]) "") "./plane/" = false))

/-- A tool that is there, in the directory in which the command will run, is not found with a dot and a slash
in front of its name, and it is found from the caller's own directory. -/
theorem tool_behind_dot :
    workshop.exists? (Path.absolute ["proj", "plane"]) = true ∧
      resolve workshop (standing (Path.absolute ["home"]) "/bin") (some (Path.absolute ["proj"]))
        ["./plane", "-x"] =
          .error (.executableNotFound "Executable './plane' was not found on PATH") ∧
      resolve workshop (standing (Path.absolute ["proj"]) "/bin") (some (Path.absolute ["proj"]))
        ["./plane", "-x"] = .ok ["./plane", "-x"] := by
  have relative : (Path.parse "./plane").isAbsolute = false := by decide
  have slash : Text.contains "/" "./plane" = true := by decide
  have single : (Path.parse "./plane").parts.length ≤ 1 := by decide
  have lost : isProgram workshop (standing (Path.absolute ["home"]) "/bin") "./plane" = false := by
    decide +kernel
  have found : isProgram workshop (standing (Path.absolute ["proj"]) "/bin") "./plane" = true := by
    decide +kernel
  refine ⟨by decide +kernel, ?_, ?_⟩
  · rw [resolve_of_slash relative slash single, lost]
    rfl
  · rw [resolve_of_slash relative slash single, found]
    rfl

end Executable

end ParserHost
