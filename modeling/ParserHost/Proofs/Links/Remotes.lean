import ParserHost.Links.Repository
import ParserHost.Proofs.Text.Occurrences

/-!
# Remotes and their links

Both ways to write a remote lead to one page (`normalizeUrl_of_written`). Which service the page belongs to is
decided by its host and by its path together, whichever comes first in the order of the services
(`style_of_page`), so the links of two remotes on one host may differ in form (`style_of_link`).
-/

namespace ParserHost.Repository

/-! ## Addresses -/

def page (host path : String) : String :=
  "https://" ++ host ++ "/" ++ Text.dropSuffix ".git" path

def Tidy (s : String) : Prop :=
  ∀ c ∈ s.toList.getLast?, Text.isBlank c = false

variable {host path : String}

theorem trim_append {front rest : String} (start : ∀ c ∈ front.toList.head?, Text.isBlank c = false)
    (last : ∃ c ∈ front.toList.getLast?, Text.isBlank c = false) (tidy : Tidy rest) :
    Text.trim (front ++ rest) = front ++ rest := by
  obtain ⟨c, ends, clear⟩ := last
  refine Text.trim_of_ends (fun d first => ?_) fun d final => ?_
  · cases opened : front.toList with
    | nil => simp [opened] at ends
    | cons e more =>
      rw [String.toList_append, opened] at first
      exact start d (by simpa [opened] using first)
  · rw [String.toList_append, List.getLast?_append, ends] at final
    cases finished : rest.toList.getLast? with
    | none =>
      obtain rfl : c = d := by simpa [finished] using final
      exact clear
    | some e =>
      obtain rfl : e = d := by simpa [finished] using final
      exact tidy e finished

/-- A scheme before a host and a mark behind it, neither of them blank, leave nothing to trim. -/
theorem trim_joined {scheme mark : String} {b c : Char} {more : List Char}
    (opens : scheme.toList = b :: more) (seen : Text.isBlank b = false) (single : mark.toList = [c])
    (clear : Text.isBlank c = false) (tidy : Tidy path) :
    Text.trim (scheme ++ host ++ mark ++ path) = scheme ++ host ++ mark ++ path := by
  refine trim_append (fun d first => ?_) ⟨c, ?_, clear⟩ tidy
  · obtain rfl : b = d := by simpa [String.toList_append, opens] using first
    exact seen
  · rw [String.toList_append, single, List.getLast?_append]
    rfl

theorem slash : "/".toList = ['/'] := rfl

theorem colon : ":".toList = [':'] := rfl

theorem startsWith_web (rest : String) : Text.startsWith sshMark ("https://" ++ rest) = false := by
  simp [Text.startsWith, sshMark, String.toList_append, Text.dropPart?]

theorem startsWith_ssh (rest : String) : Text.startsWith sshMark ("git@" ++ rest) = true := by
  simp [Text.startsWith, sshMark, String.toList_append, Text.dropPart?]

theorem normalizeUrl_web (tidy : Tidy path) :
    normalizeUrl ("https://" ++ host ++ "/" ++ path) = page host path := by
  have other : Text.startsWith sshMark ("https://" ++ host ++ "/" ++ path) = false := by
    rw [String.append_assoc, String.append_assoc]
    exact startsWith_web _
  rw [normalizeUrl, trim_joined rfl (by decide) slash (by decide) tidy]
  simp only [other, Bool.false_eq_true, if_false]
  exact Text.dropSuffix_joined slash (by decide) _ _

theorem normalizeUrl_ssh (tidy : Tidy path) (colonless : ':' ∉ host.toList) :
    normalizeUrl ("git@" ++ host ++ ":" ++ path) = page host path := by
  have ssh : Text.startsWith sshMark ("git@" ++ host ++ ":" ++ path) = true := by
    rw [String.append_assoc, String.append_assoc]
    exact startsWith_ssh _
  have slashed : Text.replaceFirst ":" "/" ("git@" ++ host ++ ":" ++ path) =
      "git@" ++ host ++ "/" ++ path := by
    refine Text.replaceFirst_char colon ?_ _ _
    simpa [String.toList_append] using colonless
  have web : Text.replaceFirst sshMark "https://" ("git@" ++ host ++ "/" ++ path) =
      "https://" ++ host ++ "/" ++ path := by
    have front := Text.replaceFirst_front sshMark "https://" (host ++ "/" ++ path)
    simpa only [sshMark, String.append_assoc] using front
  rw [normalizeUrl, trim_joined rfl (by decide) colon (by decide) tidy]
  simp only [ssh, if_true, slashed, web]
  exact Text.dropSuffix_joined slash (by decide) _ _

/-! ## Styles -/

inductive Style where
  | github
  | gitlab
  | bitbucket
  | azure
  | enterprise
  deriving DecidableEq, Repr

namespace Style

def domains : List (String × Style) :=
  [("github.com", github), ("gitlab.com", gitlab), ("bitbucket.org", bitbucket), ("dev.azure.com", azure)]

def among (text : String) : List (String × Style) → Style
  | [] => enterprise
  | (domain, style) :: rest => if Text.contains domain text then style else among text rest

def of (text : String) : Style :=
  among text domains

def rank : Style → Nat
  | github => 0
  | gitlab => 1
  | bitbucket => 2
  | azure => 3
  | enterprise => 4

def first (a b : Style) : Style :=
  if a.rank ≤ b.rank then a else b

/-- The link to a file, from the page of its repository or, on Azure, from the address of its remote. -/
def link (remote page relative branch : String) : Style → Except Fault String
  | github | enterprise => .ok (page ++ "/blob/" ++ branch ++ relative)
  | gitlab => .ok (page ++ "/-/blob/" ++ branch ++ relative)
  | bitbucket => .ok (page ++ "/src/" ++ branch ++ relative)
  | azure => azureUrl remote relative branch

variable {text a b : String} {ds : List (String × Style)}

theorem first_of_le {s s' : Style} (earlier : s.rank ≤ s'.rank) : first s s' = s :=
  if_pos earlier

theorem first_of_ge {s s' : Style} (later : s'.rank ≤ s.rank) : first s s' = s' := by
  unfold first
  split
  · next earlier => cases s <;> cases s' <;> simp_all [rank]
  · rfl

theorem first_eq_left_iff {s s' : Style} : first s s' = s ↔ s.rank ≤ s'.rank := by
  constructor
  · intro same
    rcases Nat.le_total s.rank s'.rank with earlier | later
    · exact earlier
    · rw [first_of_ge later] at same
      rw [same]
  · exact first_of_le

def Ordered (ds : List (String × Style)) : Prop :=
  ds.Pairwise fun d d' => d.2.rank ≤ d'.2.rank

theorem ordered_domains : Ordered domains := by
  unfold Ordered
  decide

theorem rank_le_among_iff {s : Style} (ordered : Ordered ds) :
    s.rank ≤ (among text ds).rank ↔
      ∀ d ∈ ds, d.2.rank < s.rank → Text.contains d.1 text = false := by
  induction ds with
  | nil => cases s <;> simp [among, rank]
  | cons d rest ih =>
    obtain ⟨least, ordered⟩ := List.pairwise_cons.1 ordered
    rw [among, List.forall_mem_cons]
    cases here : Text.contains d.1 text with
    | false => simpa using ih ordered
    | true =>
      simp only [if_true]
      constructor
      · intro earlier
        refine ⟨fun later => absurd later (Nat.not_lt.2 earlier), fun d' member later => ?_⟩
        exact absurd later (Nat.not_lt.2 (earlier.trans (least d' member)))
      · rintro ⟨none, -⟩
        by_contra later
        simp at none
        omega

/-- The service of a text in two parts is the earlier one of those of the parts. -/
theorem among_parts (ordered : Ordered ds)
    (parts : ∀ d ∈ ds, Text.contains d.1 text = (Text.contains d.1 a || Text.contains d.1 b)) :
    among text ds = first (among a ds) (among b ds) := by
  induction ds with
  | nil => rfl
  | cons d rest ih =>
    obtain ⟨least, ordered⟩ := List.pairwise_cons.1 ordered
    obtain ⟨here, later⟩ := List.forall_mem_cons.1 parts
    have below (part : String) : d.2.rank ≤ (among part rest).rank :=
      (rank_le_among_iff ordered).2 fun d' member later =>
        absurd later (Nat.not_lt.2 (least d' member))
    rw [among, among, among, here, ih ordered later]
    cases Text.contains d.1 a <;> cases Text.contains d.1 b <;>
      simp [first_of_le, first_of_ge, below]

end Style

theorem hostUrl_eq (remote relative branch : String) :
    hostUrl remote relative branch =
      (Style.of (normalizeUrl (Text.trim remote))).link (Text.trim remote)
        (normalizeUrl (Text.trim remote)) relative branch := by
  rw [hostUrl, Style.of]
  simp only [Style.among, Style.domains]
  split
  · rfl
  · split
    · rfl
    · split
      · rfl
      · split
        · rfl
        · rfl

/-! ## Links by host -/

inductive Written (host path : String) : String → Prop where
  | web : Written host path ("https://" ++ host ++ "/" ++ path)
  | ssh (colonless : ':' ∉ host.toList) : Written host path ("git@" ++ host ++ ":" ++ path)

theorem trim_of_written {remote : String} (written : Written host path remote) (tidy : Tidy path) :
    Text.trim remote = remote := by
  cases written with
  | web => exact trim_joined rfl (by decide) slash (by decide) tidy
  | ssh => exact trim_joined rfl (by decide) colon (by decide) tidy

theorem normalizeUrl_of_written {remote : String} (written : Written host path remote)
    (tidy : Tidy path) : normalizeUrl remote = page host path := by
  cases written with
  | web => exact normalizeUrl_web tidy
  | ssh colonless => exact normalizeUrl_ssh tidy colonless

theorem contains_page {d : String × Style} (member : d ∈ Style.domains) :
    Text.contains d.1 (page host path) =
      (Text.contains d.1 host || Text.contains d.1 (Text.dropSuffix ".git" path)) := by
  have slashless : ∀ d ∈ Style.domains, '/' ∉ d.1.toList := by decide
  have scheme : ∀ d ∈ Style.domains, Text.contains d.1 "https:/" = false := by decide
  have opened : "https://" ++ host = "https:/" ++ "/" ++ host := rfl
  rw [page, Text.contains_joined slash (slashless d member), opened,
    Text.contains_joined slash (slashless d member), scheme d member, Bool.false_or]

theorem style_of_page (host path : String) :
    Style.of (page host path) =
      Style.first (Style.of host) (Style.of (Text.dropSuffix ".git" path)) :=
  Style.among_parts Style.ordered_domains fun _ => contains_page

theorem fileUrl_of_inside {t : FileTree} {r : Repository} {file p : Path}
    (inside : relative? t file r.root = .ok (some p)) :
    fileUrl t r file = hostUrl r.remoteUrl ("/" ++ p.text) r.defaultBranch := by
  rw [fileUrl, inside]

/-- The link to a file takes the form of the first service, in the order of `Style.domains`, whose domain occurs
in the host of the remote or in its path. It is the form of the host by itself exactly when no domain of an
earlier service occurs in the path. -/
theorem style_of_link {host path remote branch : String} {t : FileTree} {root file p : Path}
    (written : Written host path remote) (tidy : Tidy path)
    (inside : relative? t file root = .ok (some p)) :
    fileUrl t ⟨remote, root, branch⟩ file =
      (Style.first (Style.of host) (Style.of (Text.dropSuffix ".git" path))).link remote
        (page host path) ("/" ++ p.text) branch ∧
    (Style.first (Style.of host) (Style.of (Text.dropSuffix ".git" path)) = Style.of host ↔
      ∀ d ∈ Style.domains, d.2.rank < (Style.of host).rank →
        Text.contains d.1 (Text.dropSuffix ".git" path) = false) := by
  constructor
  · rw [fileUrl_of_inside inside, hostUrl_eq, trim_of_written written tidy,
      normalizeUrl_of_written written tidy, style_of_page]
  · rw [Style.first_eq_left_iff]
    exact Style.rank_le_among_iff Style.ordered_domains

theorem style_of_link_of_gitlab :
    Written "gitlab.com" "acme/widgets.git" "git@gitlab.com:acme/widgets.git" ∧
    Tidy "acme/widgets.git" ∧
    relative? FileTree.empty (.absolute ["repo", "src", "Button.tsx"]) (.absolute ["repo"]) =
      .ok (some ⟨.relative, ["src", "Button.tsx"]⟩) ∧
    fileUrl FileTree.empty ⟨"git@gitlab.com:acme/widgets.git", .absolute ["repo"], "main"⟩
        (.absolute ["repo", "src", "Button.tsx"]) =
      .ok "https://gitlab.com/acme/widgets/-/blob/main/src/Button.tsx" := by
  have written : Written "gitlab.com" "acme/widgets.git" "git@gitlab.com:acme/widgets.git" :=
    .ssh (by decide)
  have tidy : Tidy "acme/widgets.git" := by
    intro c last
    obtain rfl : 't' = c := Option.some.inj last
    rfl
  have inside : relative? FileTree.empty (.absolute ["repo", "src", "Button.tsx"]) (.absolute ["repo"]) =
      .ok (some ⟨.relative, ["src", "Button.tsx"]⟩) := by
    decide +kernel
  refine ⟨written, tidy, inside, ?_⟩
  rw [(style_of_link written tidy inside).1]
  decide +kernel

/-- Two remotes of one host get links of different forms: the name of the second repository is a domain. -/
theorem two_styles_of_gitlab :
    Written "gitlab.com" "acme/widgets" "https://gitlab.com/acme/widgets" ∧
    Written "gitlab.com" "x/github.com" "https://gitlab.com/x/github.com" ∧
    hostUrl "https://gitlab.com/acme/widgets" "/src/Button.tsx" "main" =
      .ok "https://gitlab.com/acme/widgets/-/blob/main/src/Button.tsx" ∧
    hostUrl "https://gitlab.com/x/github.com" "/src/Button.tsx" "main" =
      .ok "https://gitlab.com/x/github.com/blob/main/src/Button.tsx" :=
  ⟨.web, .web, by decide +kernel, by decide +kernel⟩

end ParserHost.Repository
