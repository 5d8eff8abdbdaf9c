import ParserHost.Proofs.Links.Remotes

/-!
# Repositories on Azure

A repository on Azure has three addresses to clone it from. Two of them lead to its page (`azureUrl_ssh`,
`azureUrl_user`). The third names no user, and its scheme stays behind a second one (`azureUrl_plain`).
-/

namespace ParserHost.Repository

def Unclaimed (s : String) : Prop :=
  ∀ d ∈ Style.domains, d.2 ≠ .azure → Text.contains d.1 s = false

structure AzureName (name : String) : Prop where
  slashless : '/' ∉ name.toList
  userless : '@' ∉ name.toList
  unbroken : ∀ c ∈ name.toList, Text.isBlank c = false
  unclaimed : Unclaimed name

def azurePath (org project name : String) : String :=
  org ++ "/" ++ project ++ "/_git/" ++ name

def azureLink (org project name relative branch : String) : String :=
  "https://dev.azure.com/" ++ azurePath org project name ++ "?path=" ++ relative ++ "&branch=" ++ branch

def azureSshPath (org project name : String) : String :=
  "v3" ++ "/" ++ org ++ "/" ++ project ++ "/" ++ name

variable {org project name host path remote relative branch : String}

/-! ## Remotes on Azure -/

theorem Unclaimed.joined {mark a b : String} {sep : Char} (single : mark.toList = [sep])
    (free : ∀ d ∈ Style.domains, sep ∉ d.1.toList) (first : Unclaimed a) (second : Unclaimed b) :
    Unclaimed (a ++ mark ++ b) := by
  intro d member other
  rw [Text.contains_joined single (free d member), first d member other, second d member other]
  rfl

theorem Unclaimed.below {a b : String} (first : Unclaimed a) (second : Unclaimed b) :
    Unclaimed (a ++ "/" ++ b) :=
  first.joined slash (by decide) second

theorem Unclaimed.stem (whole : Unclaimed path) : Unclaimed (Text.dropSuffix ".git" path) := by
  intro d member other
  rw [← Bool.not_eq_true, Text.contains_iff]
  intro found
  have inside := found.trans (Text.dropSuffix_prefix ".git" path).isInfix
  rw [← Text.contains_iff, whole d member other] at inside
  cases inside

theorem style_of_unclaimed {s : String} (whole : Unclaimed s)
    (azure : Text.contains "dev.azure.com" s = true) : Style.of s = .azure := by
  simp only [Unclaimed, Style.domains, List.forall_mem_cons] at whole
  simp [Style.of, Style.among, Style.domains, whole, azure]

theorem hostUrl_azure (written : Written host path remote) (tidy : Tidy path) (unclaimed : Unclaimed host)
    (azure : Text.contains "dev.azure.com" host = true) (unclaimed' : Unclaimed path)
    (relative branch : String) : hostUrl remote relative branch = azureUrl remote relative branch := by
  have style : Style.first (Style.of host) (Style.of (Text.dropSuffix ".git" path)) = .azure := by
    rw [style_of_unclaimed unclaimed azure, Style.first_eq_left_iff, Style.of,
      Style.rank_le_among_iff Style.ordered_domains]
    intro d member earlier
    refine unclaimed'.stem d member ?_
    rintro same
    simp [same] at earlier
  rw [hostUrl_eq, trim_of_written written tidy, normalizeUrl_of_written written tidy, style_of_page, style]
  rfl

theorem AzureName.tidy {s front : String} (n : AzureName name) (ends : s = front ++ "/" ++ name) :
    Tidy s := by
  intro c last
  rw [ends, String.toList_append, List.getLast?_append] at last
  cases final : name.toList.getLast? with
  | none =>
    rw [final, String.toList_append, List.getLast?_append] at last
    obtain rfl : '/' = c := Option.some.inj last
    rfl
  | some d =>
    obtain rfl : d = c := by simpa [final] using last
    exact n.unbroken d (List.mem_of_getLast? final)

theorem unclaimed_azure : Unclaimed "dev.azure.com" := by
  unfold Unclaimed
  decide

/-! ## The three addresses -/

theorem azureUrl_ssh (o : AzureName org) (p : AzureName project) (n : AzureName name) :
    azureUrl ("git@" ++ "ssh.dev.azure.com" ++ ":" ++ azureSshPath org project name) relative branch =
      .ok (azureLink org project name relative branch) := by
  have ssh : Text.startsWith sshMark
      ("git@" ++ "ssh.dev.azure.com" ++ ":" ++ azureSshPath org project name) = true := by
    rw [String.append_assoc, String.append_assoc]
    exact startsWith_ssh _
  have pieces : Text.splitOn '/' ("git@" ++ "ssh.dev.azure.com" ++ ":" ++ azureSshPath org project name) =
      ["git@ssh.dev.azure.com:v3", org, project, name] := by
    have opened : '/' ∉ "git@ssh.dev.azure.com:v3".toList := by decide
    have written : ("git@" ++ "ssh.dev.azure.com" ++ ":" ++ azureSshPath org project name).toList =
        "git@ssh.dev.azure.com:v3".toList ++
          '/' :: (org.toList ++ '/' :: (project.toList ++ '/' :: name.toList)) := by
      simp [String.toList_append, azureSshPath]
    rw [Text.splitOn, written, Text.splitAt_append_cons opened, Text.splitAt_append_cons o.slashless,
      Text.splitAt_append_cons p.slashless, Text.splitAt_of_not_mem n.slashless]
    simp only [List.map_cons, List.map_nil, String.ofList_toList]
  have shown : s!"https://dev.azure.com/{org}/{project}/_git/{name}?path={relative}&branch={branch}" =
      azureLink org project name relative branch := by
    unfold azureLink azurePath
    simp only [toString, String.append_assoc]
  rw [azureUrl, if_pos ssh, pieces, ← shown]
  rfl

theorem userMark : "@".toList = ['@'] := rfl

theorem afterFirst_char {mark a : String} {sep : Char} (single : mark.toList = [sep])
    (free : sep ∉ a.toList) (b : String) : afterFirst mark (a ++ mark ++ b) = b := by
  have written : (a ++ mark ++ b).toList = a.toList ++ sep :: b.toList := by
    simp [String.toList_append, single]
  simp only [afterFirst, single, written, Text.findPart_char free, String.ofList_toList]

theorem afterFirst_absent {mark a : String} {sep : Char} (single : mark.toList = [sep])
    (free : sep ∉ a.toList) : afterFirst mark a = a := by
  simp only [afterFirst, single, Text.findPart_char_none free]

theorem azureUrl_of_web (rest : String) :
    azureUrl ("https://" ++ rest) relative branch =
      .ok ("https://" ++ afterFirst "@" ("https://" ++ rest) ++ "?path=" ++ relative ++ "&branch=" ++
        branch) := by
  rw [azureUrl, startsWith_web]
  rfl

theorem azure_append (path : String) :
    "https://" ++ ("dev.azure.com/" ++ path) = "https://dev.azure.com/" ++ path := by
  simp [← String.toList_inj, String.toList_append]

theorem azureUrl_user (o : AzureName org) :
    azureUrl ("https://" ++ (org ++ "@" ++ "dev.azure.com") ++ "/" ++ path) relative branch =
      .ok ("https://dev.azure.com/" ++ path ++ "?path=" ++ relative ++ "&branch=" ++ branch) := by
  have opened : "https://" ++ (org ++ "@" ++ "dev.azure.com") ++ "/" ++ path =
      "https://" ++ (org ++ "@" ++ ("dev.azure.com/" ++ path)) := by
    simp [← String.toList_inj, String.toList_append]
  have front : "https://" ++ (org ++ "@" ++ ("dev.azure.com/" ++ path)) =
      "https://" ++ org ++ "@" ++ ("dev.azure.com/" ++ path) := by
    simp only [String.append_assoc]
  have free : '@' ∉ ("https://" ++ org).toList := by
    simpa [String.toList_append] using o.userless
  rw [opened, azureUrl_of_web, front, afterFirst_char userMark free, azure_append]

theorem azureUrl_plain (free : '@' ∉ path.toList) :
    azureUrl ("https://" ++ "dev.azure.com" ++ "/" ++ path) relative branch =
      .ok ("https://" ++ ("https://dev.azure.com/" ++ path ++ "?path=" ++ relative ++ "&branch=" ++
        branch)) := by
  have opened : "https://" ++ "dev.azure.com" ++ "/" ++ path = "https://" ++ ("dev.azure.com/" ++ path) := by
    simp [← String.toList_inj, String.toList_append]
  have free' : '@' ∉ ("https://" ++ ("dev.azure.com/" ++ path)).toList := by
    simpa [String.toList_append] using free
  rw [opened, azureUrl_of_web, afterFirst_absent userMark free', azure_append]
  simp only [String.append_assoc]

/-! ## Their links -/

theorem unclaimed_azurePath (o : AzureName org) (p : AzureName project) (n : AzureName name) :
    Unclaimed (azurePath org project name) := by
  have mark : Unclaimed "_git" := by
    unfold Unclaimed
    decide
  have same : azurePath org project name = org ++ "/" ++ project ++ "/" ++ "_git" ++ "/" ++ name := by
    unfold azurePath
    simp [← String.toList_inj, String.toList_append]
  rw [same]
  exact ((o.unclaimed.below p.unclaimed).below mark).below n.unclaimed

theorem unclaimed_azureSshPath (o : AzureName org) (p : AzureName project) (n : AzureName name) :
    Unclaimed (azureSshPath org project name) := by
  have version : Unclaimed "v3" := by
    unfold Unclaimed
    decide
  exact ((version.below o.unclaimed).below p.unclaimed).below n.unclaimed

theorem tidy_azurePath (n : AzureName name) : Tidy (azurePath org project name) := by
  have same : azurePath org project name = org ++ "/" ++ project ++ "/_git" ++ "/" ++ name := by
    unfold azurePath
    simp [← String.toList_inj, String.toList_append]
  exact n.tidy same

theorem tidy_azureSshPath (n : AzureName name) : Tidy (azureSshPath org project name) :=
  n.tidy rfl

/-- Of the three addresses of a repository on Azure, that by SSH and that with a user give the same link to a
file, on the page of the repository. The one without a user gives this link with a second scheme in front. -/
theorem azure_links {t : FileTree} {root file below : Path} (branch : String) (o : AzureName org)
    (p : AzureName project) (n : AzureName name) (inside : relative? t file root = .ok (some below)) :
    fileUrl t ⟨"git@" ++ "ssh.dev.azure.com" ++ ":" ++ azureSshPath org project name, root, branch⟩ file =
      .ok (azureLink org project name ("/" ++ below.text) branch) ∧
    fileUrl t ⟨"https://" ++ (org ++ "@" ++ "dev.azure.com") ++ "/" ++ azurePath org project name, root,
        branch⟩ file =
      .ok (azureLink org project name ("/" ++ below.text) branch) ∧
    fileUrl t ⟨"https://" ++ "dev.azure.com" ++ "/" ++ azurePath org project name, root, branch⟩ file =
      .ok ("https://" ++ azureLink org project name ("/" ++ below.text) branch) := by
  refine ⟨?ssh, ?user, ?plain⟩
  case ssh =>
    have host : Unclaimed "ssh.dev.azure.com" := by
      unfold Unclaimed
      decide
    have address := hostUrl_azure (.ssh (by decide)) (tidy_azureSshPath n) host (by decide)
      (unclaimed_azureSshPath o p n) ("/" ++ below.text) branch
    exact (fileUrl_of_inside inside).trans (address.trans (azureUrl_ssh o p n))
  case user =>
    have host : Unclaimed (org ++ "@" ++ "dev.azure.com") :=
      o.unclaimed.joined userMark (by decide) unclaimed_azure
    have azure : Text.contains "dev.azure.com" (org ++ "@" ++ "dev.azure.com") = true := by
      have itself : Text.contains "dev.azure.com" "dev.azure.com" = true := by decide
      rw [Text.contains_joined userMark (by decide), itself, Bool.or_true]
    have address := hostUrl_azure .web (tidy_azurePath n) host azure (unclaimed_azurePath o p n)
      ("/" ++ below.text) branch
    exact (fileUrl_of_inside inside).trans (address.trans (azureUrl_user o))
  case plain =>
    have free : '@' ∉ (azurePath org project name).toList := by
      simp [azurePath, String.toList_append, o.userless, p.userless, n.userless]
    have address := hostUrl_azure .web (tidy_azurePath n) unclaimed_azure (by decide)
      (unclaimed_azurePath o p n) ("/" ++ below.text) branch
    exact (fileUrl_of_inside inside).trans (address.trans (azureUrl_plain free))

theorem azure_links_of_widgets :
    AzureName "acme" ∧ AzureName "design" ∧ AzureName "widgets" ∧
    relative? FileTree.empty (.absolute ["repo", "src", "Button.tsx"]) (.absolute ["repo"]) =
      .ok (some ⟨.relative, ["src", "Button.tsx"]⟩) ∧
    fileUrl FileTree.empty ⟨"git@ssh.dev.azure.com:v3/acme/design/widgets", .absolute ["repo"], "main"⟩
        (.absolute ["repo", "src", "Button.tsx"]) =
      .ok "https://dev.azure.com/acme/design/_git/widgets?path=/src/Button.tsx&branch=main" ∧
    fileUrl FileTree.empty ⟨"https://acme@dev.azure.com/acme/design/_git/widgets", .absolute ["repo"], "main"⟩
        (.absolute ["repo", "src", "Button.tsx"]) =
      .ok "https://dev.azure.com/acme/design/_git/widgets?path=/src/Button.tsx&branch=main" ∧
    fileUrl FileTree.empty ⟨"https://dev.azure.com/acme/design/_git/widgets", .absolute ["repo"], "main"⟩
        (.absolute ["repo", "src", "Button.tsx"]) =
      .ok "https://https://dev.azure.com/acme/design/_git/widgets?path=/src/Button.tsx&branch=main" := by
  have unclaimed : Unclaimed "acme" ∧ Unclaimed "design" ∧ Unclaimed "widgets" := by
    unfold Unclaimed
    decide
  have org : AzureName "acme" :=
    ⟨by decide, by decide, by simp [Text.isBlank, Text.isWhite], unclaimed.1⟩
  have project : AzureName "design" :=
    ⟨by decide, by decide, by simp [Text.isBlank, Text.isWhite], unclaimed.2.1⟩
  have name : AzureName "widgets" :=
    ⟨by decide, by decide, by simp [Text.isBlank, Text.isWhite], unclaimed.2.2⟩
  have inside : relative? FileTree.empty (.absolute ["repo", "src", "Button.tsx"]) (.absolute ["repo"]) =
      .ok (some ⟨.relative, ["src", "Button.tsx"]⟩) := by
    decide +kernel
  obtain ⟨ssh, user, plain⟩ := azure_links "main" org project name inside
  exact ⟨org, project, name, inside, ssh, user, plain⟩

/-- The address of a repository that names no user does not lead to the page of the repository. -/
theorem scheme_doubled :
    hostUrl "https://dev.azure.com/acme/design/_git/widgets" "/src/Button.tsx" "main" =
      .ok "https://https://dev.azure.com/acme/design/_git/widgets?path=/src/Button.tsx&branch=main" ∧
    azureLink "acme" "design" "widgets" "/src/Button.tsx" "main" =
      "https://dev.azure.com/acme/design/_git/widgets?path=/src/Button.tsx&branch=main" := by
  constructor <;> decide +kernel

end ParserHost.Repository
