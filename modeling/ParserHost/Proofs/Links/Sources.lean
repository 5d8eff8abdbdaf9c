import ParserHost.Links.Publication
import ParserHost.Proofs.Files.Resolving
import ParserHost.Proofs.Links.Remotes

/-!
# Sources inside and outside a repository

The source of a document that is published (`local_sources`): a source that is not one of a file stays what it
is, a file outside the repository leaves nothing, and a file inside gets a link of its own. There is no such
link for a remote that is taken for one on Azure without naming organisation, project and repository.
-/

namespace ParserHost.Repository

/-! ## Links around a path -/

/-- The links of a repository to its files: the path of the file is the end of the link or, on Azure, a value in
its query. -/
inductive Form (branch : String) : Style → (String → String) → Prop
  | path (style : Style) (address : String) (other : style ≠ .azure) :
      Form branch style fun relative => address ++ branch ++ relative
  | query (address : String) :
      Form branch .azure fun relative => address ++ "?path=" ++ relative ++ "&branch=" ++ branch

variable {remote relative branch : String} {style : Style} {link : String → String}

theorem Form.injective (form : Form branch style link) : Function.Injective link := by
  intro a b same
  cases form with
  | path => simpa [← String.toList_inj, String.toList_append] using same
  | query => simpa [← String.toList_inj, String.toList_append] using same

theorem Form.ne_empty (form : Form branch style link) (below : String) : link ("/" ++ below) ≠ "" := by
  cases form <;> simp [String.append_eq_empty_iff]

theorem azureUrl_form (raw branch : String) :
    (∃ n, ∀ relative, azureUrl raw relative branch = .error (.shortRemote n)) ∨
    ∃ link, Form branch .azure link ∧ ∀ relative, azureUrl raw relative branch = .ok (link relative) := by
  unfold azureUrl
  split
  · split
    · next name project org _ _ =>
      exact .inr ⟨_, .query ("https://dev.azure.com/" ++ org ++ "/" ++ project ++ "/_git/" ++ name),
        fun relative => by simp only [toString, String.append_assoc]⟩
    · exact .inl ⟨_, fun _ => rfl⟩
  · exact .inr ⟨_, .query ("https://" ++ afterFirst "@" raw),
      fun relative => by simp only [toString, String.append_assoc]⟩

theorem link_form (remote page branch : String) (style : Style) :
    (∃ n, ∀ relative, style.link remote page relative branch = .error (.shortRemote n)) ∨
    ∃ link, Form branch style link ∧
      ∀ relative, style.link remote page relative branch = .ok (link relative) := by
  cases style with
  | azure => exact azureUrl_form remote branch
  | github => exact .inr ⟨_, .path .github (page ++ "/blob/") nofun, fun _ => rfl⟩
  | gitlab => exact .inr ⟨_, .path .gitlab (page ++ "/-/blob/") nofun, fun _ => rfl⟩
  | bitbucket => exact .inr ⟨_, .path .bitbucket (page ++ "/src/") nofun, fun _ => rfl⟩
  | enterprise => exact .inr ⟨_, .path .enterprise (page ++ "/blob/") nofun, fun _ => rfl⟩

def service (remote : String) : Style :=
  .of (normalizeUrl (Text.trim remote))

theorem hostUrl_form (named : ¬ ShortRemote remote) (branch : String) :
    ∃ link, Form branch (service remote) link ∧
      ∀ relative, hostUrl remote relative branch = .ok (link relative) := by
  have linked (relative : String) := hostUrl_eq remote relative branch
  rcases link_form (Text.trim remote) (normalizeUrl (Text.trim remote)) branch (service remote) with
    ⟨n, failed⟩ | ⟨link, form, shown⟩
  · exact absurd (hostUrl_fault_iff.1 ⟨_, (linked "").trans (failed "")⟩) named
  · exact ⟨link, form, fun relative => (linked relative).trans (shown relative)⟩

theorem hostUrl_short (short : ShortRemote remote) (relative branch : String) :
    ∃ n, hostUrl remote relative branch = .error (.shortRemote n) := by
  have linked := hostUrl_eq remote relative branch
  rcases link_form (Text.trim remote) (normalizeUrl (Text.trim remote)) branch (service remote) with
    ⟨n, failed⟩ | ⟨link, -, shown⟩
  · exact ⟨n, linked.trans (failed relative)⟩
  · obtain ⟨f, failed⟩ := hostUrl_fault_iff.2 short
    rw [linked.trans (shown relative)] at failed
    cases failed

end ParserHost.Repository

namespace ParserHost.Publication
open Repository (Form ShortRemote hostUrl_form hostUrl_short service)

variable {t : FileTree} {cwd root file file' : Path} {r : Repository} {source source' : String}
  {below below' : List String}

/-! ## Sources -/

def Web (source : String) : Prop :=
  ∃ scheme ∈ ["http://", "https://"], scheme.toList <+: source.toList.map Char.toLower

theorem isWebUrl_iff : isWebUrl source = true ↔ Web source := by
  simp only [isWebUrl, Bool.or_eq_true, Text.startsWith_iff, String.toList_ofList, Literal.lower, Web,
    List.mem_cons, List.not_mem_nil, or_false, exists_eq_or_imp, exists_eq_left]

structure Local (t : FileTree) (cwd : Path) (source : String) (file : Path) : Prop where
  given : source ≠ ""
  notWeb : ¬ Web source
  resolved : t.resolve (cwd.join (Path.parse source)) = .ok file

theorem resolveSource_of_local (named : Local t cwd source file) (checkout : t.resolve r.root = .ok root) :
    resolveSource t cwd (some r) source =
      match file.relativeTo? root with
      | none => .ok ""
      | some p => Repository.hostUrl r.remoteUrl ("/" ++ p.text) r.defaultBranch := by
  have given : source.isEmpty = false := by simpa using named.given
  have notWeb : isWebUrl source = false := by
    simpa [← isWebUrl_iff] using named.notWeb
  simp only [resolveSource, given, notWeb, Bool.or_self, Bool.false_eq_true, if_false,
    Repository.fileUrl, Repository.relative?, named.resolved, checkout]
  cases file.relativeTo? root <;> rfl

theorem relativeTo?_of_resolved {p q : Path} (resolved : t.resolve p = .ok file)
    (checkout : t.resolve q = .ok root) :
    file.relativeTo? root = (Path.dropParts? root.parts file.parts).map (⟨.relative, ·⟩) := by
  rw [Path.relativeTo?, if_pos (FileTree.root_eq_of_resolve resolved checkout)]

theorem resolveSource_inside (named : Local t cwd source file) (checkout : t.resolve r.root = .ok root)
    (inside : file.parts = root.parts ++ below) :
    resolveSource t cwd (some r) source =
      Repository.hostUrl r.remoteUrl ("/" ++ Path.text ⟨.relative, below⟩) r.defaultBranch := by
  rw [resolveSource_of_local named checkout, relativeTo?_of_resolved named.resolved checkout,
    Path.dropParts?_eq_some_iff.2 inside]
  rfl

theorem resolveSource_outside (named : Local t cwd source file) (checkout : t.resolve r.root = .ok root)
    (outside : ¬ root.parts <+: file.parts) : resolveSource t cwd (some r) source = .ok "" := by
  have apart : Path.dropParts? root.parts file.parts = none := by
    by_contra some
    obtain ⟨below, dropped⟩ := Option.ne_none_iff_exists'.1 some
    exact outside ⟨below, (Path.dropParts?_eq_some_iff.1 dropped).symm⟩
  rw [resolveSource_of_local named checkout, relativeTo?_of_resolved named.resolved checkout, apart]
  rfl

theorem resolveSource_eq_empty_iff (named : Local t cwd source file) (checkout : t.resolve r.root = .ok root) :
    resolveSource t cwd (some r) source = .ok "" ↔ ¬ root.parts <+: file.parts := by
  refine ⟨?_, resolveSource_outside named checkout⟩
  -- a file inside has a link or leads to an error, and no link is empty
  rintro none ⟨below, inside⟩
  rw [resolveSource_inside named checkout inside.symm] at none
  by_cases short : ShortRemote r.remoteUrl
  · obtain ⟨n, failed⟩ := hostUrl_short short ("/" ++ Path.text ⟨.relative, below⟩) r.defaultBranch
    cases failed.symm.trans none
  · obtain ⟨link, form, shown⟩ := hostUrl_form short r.defaultBranch
    rw [shown, Except.ok.injEq] at none
    exact form.ne_empty _ none

theorem proper_below (named : Local t cwd source file) (inside : file.parts = root.parts ++ below) :
    ∀ part ∈ below, FileTree.Proper part := fun part member =>
  (FileTree.absolute_of_resolve named.resolved).2 part (inside ▸ List.mem_append_right _ member)

theorem slashless_below (plain : Path.Slashless cwd.parts) (named : Local t cwd source file)
    (inside : file.parts = root.parts ++ below) : Path.Slashless below := fun part member =>
  FileTree.slashless_of_resolve named.resolved (Path.slashless_join plain (Path.slashless_parse source)) part
    (inside ▸ List.mem_append_right _ member)

theorem text_below_inj (plain : Path.Slashless cwd.parts) (named : Local t cwd source file)
    (named' : Local t cwd source' file') (inside : file.parts = root.parts ++ below)
    (inside' : file'.parts = root.parts ++ below') :
    Path.text ⟨.relative, below⟩ = Path.text ⟨.relative, below'⟩ ↔ file = file' := by
  constructor
  · intro same
    have written := Path.partsOf_text (slashless_below plain named inside) (proper_below named inside)
    have written' := Path.partsOf_text (slashless_below plain named' inside') (proper_below named' inside')
    rw [same, written'] at written
    have parts : file.parts = file'.parts := by rw [inside, inside', written]
    have start := FileTree.root_eq_of_resolve named.resolved named'.resolved
    cases file
    cases file'
    simp_all
  · rintro rfl
    rw [List.append_cancel_left (inside.symm.trans inside')]

theorem local_or_circular (clear : FileTree.hasNul cwd = false) (free : '\x00' ∉ source.toList)
    (given : source ≠ "") (notWeb : ¬ Web source) :
    (∃ file, Local t cwd source file) ∨
      ∃ l, t.resolve (cwd.join (Path.parse source)) = .error (.loop l) := by
  have joined := FileTree.hasNul_join clear (FileTree.hasNul_parse free)
  rcases FileTree.resolve_of_clear (t := t) joined with ⟨file, resolved⟩ | circular
  · exact .inl ⟨file, given, notWeb, resolved⟩
  · exact .inr circular

/-- What is published as the source of a document: what names no file stays, and a source that names one is
resolved unless links run in a circle. A file then has a link exactly if it is in the repository and the remote
is not one on Azure that leaves out a name, and the links of two files are different. -/
theorem local_sources (plain : Path.Slashless cwd.parts) (clear : FileTree.hasNul cwd = false)
    (checkout : t.resolve r.root = .ok root) :
    (∀ source, resolveSource t cwd none source = .ok source) ∧
    (∀ source, source = "" ∨ Web source → resolveSource t cwd (some r) source = .ok source) ∧
    (∀ source, '\x00' ∉ source.toList → source ≠ "" → ¬ Web source →
      (∃ file, Local t cwd source file) ∨
        ∃ l, t.resolve (cwd.join (Path.parse source)) = .error (.loop l)) ∧
    (∀ source file, Local t cwd source file →
      (resolveSource t cwd (some r) source = .ok "" ↔ ¬ root.parts <+: file.parts)) ∧
    (ShortRemote r.remoteUrl → ∀ source file, Local t cwd source file → root.parts <+: file.parts →
      ∃ n, resolveSource t cwd (some r) source = .error (.shortRemote n)) ∧
    (¬ ShortRemote r.remoteUrl → ∃ link, Form r.defaultBranch (service r.remoteUrl) link ∧
      (∀ source file below, Local t cwd source file → file.parts = root.parts ++ below →
        ".." ∉ below ∧
        resolveSource t cwd (some r) source = .ok (link ("/" ++ Path.text ⟨.relative, below⟩))) ∧
      ∀ source source' file file', Local t cwd source file → Local t cwd source' file' →
        root.parts <+: file.parts → root.parts <+: file'.parts →
        (resolveSource t cwd (some r) source = resolveSource t cwd (some r) source' ↔ file = file')) := by
  refine ⟨fun _ => rfl, ?unchanged, fun _ => local_or_circular clear, ?outside, ?short, ?linked⟩
  case unchanged =>
    rintro source (rfl | web)
    · rfl
    · rw [← isWebUrl_iff] at web
      simp [resolveSource, web]
  case outside => exact fun source file named => resolveSource_eq_empty_iff named checkout
  case short =>
    rintro short source file named ⟨below, inside⟩
    rw [resolveSource_inside named checkout inside.symm]
    exact hostUrl_short short _ _
  case linked =>
    intro named
    -- one function makes the links of all files, and it is injective
    obtain ⟨link, form, shown⟩ := hostUrl_form named r.defaultBranch
    have placed {source file below} (named : Local t cwd source file)
        (inside : file.parts = root.parts ++ below) :
        resolveSource t cwd (some r) source = .ok (link ("/" ++ Path.text ⟨.relative, below⟩)) :=
      (resolveSource_inside named checkout inside).trans (shown _)
    refine ⟨link, form, fun source file below named inside => ⟨?_, placed named inside⟩, ?_⟩
    · exact fun up => (proper_below named inside _ up).notUp rfl
    · rintro source source' file file' named named' ⟨below, inside⟩ ⟨below', inside'⟩
      rw [placed named inside.symm, placed named' inside'.symm,
        ← text_below_inj plain named named' inside.symm inside'.symm, Except.ok.injEq, form.injective.eq_iff]
      simp

def linkedCheckout : FileTree :=
  ⟨[(["repo"], .directory), (["repo", "src"], .directory), (["repo", "src", "A.kt"], .file [] false),
    (["repo", "main"], .link "src"), (["repo2"], .directory), (["repo2", "A.kt"], .file [] false)]⟩

theorem local_sources_of_linkedCheckout :
    Path.Slashless (Path.absolute ["repo"]).parts ∧ FileTree.hasNul (.absolute ["repo"]) = false ∧
    linkedCheckout.resolve (.absolute ["repo"]) = .ok (.absolute ["repo"]) ∧
    Local linkedCheckout (.absolute ["repo"]) "src/A.kt" (.absolute ["repo", "src", "A.kt"]) ∧
    Local linkedCheckout (.absolute ["repo"]) "main/./A.kt" (.absolute ["repo", "src", "A.kt"]) ∧
    Local linkedCheckout (.absolute ["repo"]) "../repo2/A.kt" (.absolute ["repo2", "A.kt"]) ∧
    (let published := resolveSource linkedCheckout (.absolute ["repo"])
      (some ⟨"git@gitlab.com:acme/widgets.git", .absolute ["repo"], "main"⟩)
    published "src/A.kt" = published "main/./A.kt" ∧ published "../repo2/A.kt" = .ok "" ∧
    published "HTTPS://acme.com" = .ok "HTTPS://acme.com") := by
  have plain : Path.Slashless (Path.absolute ["repo"]).parts := by
    unfold Path.Slashless
    decide
  have checkout : linkedCheckout.resolve (.absolute ["repo"]) = .ok (.absolute ["repo"]) := by
    decide +kernel
  have here (source : String) (web : isWebUrl source = false) : ¬ Web source := by
    simp [← isWebUrl_iff, web]
  have direct : Local linkedCheckout (.absolute ["repo"]) "src/A.kt" (.absolute ["repo", "src", "A.kt"]) :=
    ⟨by decide, here _ (by decide), by decide +kernel⟩
  have linked : Local linkedCheckout (.absolute ["repo"]) "main/./A.kt" (.absolute ["repo", "src", "A.kt"]) :=
    ⟨by decide, here _ (by decide), by decide +kernel⟩
  have beside : Local linkedCheckout (.absolute ["repo"]) "../repo2/A.kt" (.absolute ["repo2", "A.kt"]) :=
    ⟨by decide, here _ (by decide), by decide +kernel⟩
  have named : ¬ ShortRemote "git@gitlab.com:acme/widgets.git" := fun short =>
    Bool.false_ne_true ((short.other "gitlab.com" (by decide)).symm.trans (by decide +kernel))
  obtain ⟨-, unchanged, -, outside, -, inside⟩ := local_sources (r := ⟨"git@gitlab.com:acme/widgets.git",
    .absolute ["repo"], "main"⟩) plain (by decide) checkout
  obtain ⟨-, -, -, same⟩ := inside named
  refine ⟨plain, by decide, checkout, direct, linked, beside, ?_, ?_, ?_⟩
  · exact (same _ _ _ _ direct linked (by decide) (by decide)).2 rfl
  · exact (outside _ _ beside).2 (by decide)
  · exact unchanged _ (.inr (isWebUrl_iff.1 (by decide)))

/-- A file of a repository that is not on Azure may have no link: the address of its remote by SSH holds the
domain of Azure in the name of the repository. -/
theorem mirror_without_link :
    Repository.Written "git.acme.internal" "mirrors/dev.azure.com.git"
      "git@git.acme.internal:mirrors/dev.azure.com.git" ∧
    Repository.Style.of "git.acme.internal" = .enterprise ∧
    Local FileTree.empty (.absolute ["repo"]) "src/A.kt" (.absolute ["repo", "src", "A.kt"]) ∧
    FileTree.empty.resolve (.absolute ["repo"]) = .ok (.absolute ["repo"]) ∧
    resolveSource FileTree.empty (.absolute ["repo"])
        (some ⟨"git@git.acme.internal:mirrors/dev.azure.com.git", .absolute ["repo"], "main"⟩) "src/A.kt" =
      .error (.shortRemote 2) := by
  have notWeb : ¬ Web "src/A.kt" := by
    rw [← isWebUrl_iff]
    decide
  exact ⟨.ssh (by decide), by decide, ⟨by decide, notWeb, by decide +kernel⟩, by decide +kernel,
    by decide +kernel⟩

end ParserHost.Publication
