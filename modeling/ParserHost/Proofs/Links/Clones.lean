import ParserHost.Proofs.Links.Remotes

/-!
# Addresses for a clone

A repository is cloned by SSH or by HTTPS, with the ending of a clone in its address or without. All four
addresses lead to one page (`normalizeUrl_of_clone`), and unless they are addresses on Azure all that matters
for a link is the page (`hostUrl_of_other`). So it makes no difference which of them is configured
(`clones_interchangeable`).
-/

namespace ParserHost.Repository

variable {host path remote given given' : String}

def clones (host path : String) : List String :=
  ["git@" ++ host ++ ":" ++ path, "git@" ++ host ++ ":" ++ path ++ ".git",
    "https://" ++ host ++ "/" ++ path, "https://" ++ host ++ "/" ++ path ++ ".git"]

theorem written_of_clone (colonless : ':' ∉ host.toList) (clone : remote ∈ clones host path) :
    ∃ ending ∈ ["", ".git"], Written host (path ++ ending) remote := by
  have ssh (ending : String) : Written host (path ++ ending) ("git@" ++ host ++ ":" ++ path ++ ending) := by
    rw [String.append_assoc]
    exact .ssh colonless
  have web (ending : String) : Written host (path ++ ending) ("https://" ++ host ++ "/" ++ path ++ ending) := by
    rw [String.append_assoc]
    exact .web
  simp only [clones, List.mem_cons, List.not_mem_nil, or_false] at clone
  rcases clone with rfl | rfl | rfl | rfl
  · exact ⟨"", .head _, by simpa using ssh ""⟩
  · exact ⟨".git", .tail _ (.head _), ssh ".git"⟩
  · exact ⟨"", .head _, by simpa using web ""⟩
  · exact ⟨".git", .tail _ (.head _), web ".git"⟩

/-! ## The page -/

theorem tidy_of_trimmed (trimmed : Text.trim path = path) (ending : String) (member : ending ∈ ["", ".git"]) :
    Tidy (path ++ ending) := by
  simp only [List.mem_cons, List.not_mem_nil, or_false] at member
  intro c last
  rcases member with rfl | rfl
  · rw [String.append_empty] at last
    rw [← trimmed, Text.trim, String.toList_ofList] at last
    exact Text.last_trimBy last
  · rw [String.toList_append, List.getLast?_append] at last
    obtain rfl : 't' = c := Option.some.inj last
    rfl

theorem page_of_ending (unended : Text.endsWith ".git" path = false) (ending : String)
    (member : ending ∈ ["", ".git"]) : page host (path ++ ending) = "https://" ++ host ++ "/" ++ path := by
  simp only [List.mem_cons, List.not_mem_nil, or_false] at member
  rcases member with rfl | rfl
  · rw [String.append_empty, page, Text.dropSuffix_of_other unended]
  · rw [page, Text.dropSuffix_append]

theorem normalizeUrl_of_trim {a b : String} (same : Text.trim a = Text.trim b) :
    normalizeUrl a = normalizeUrl b := by
  rw [normalizeUrl, normalizeUrl, same]

theorem normalizeUrl_of_clone (colonless : ':' ∉ host.toList) (trimmed : Text.trim path = path)
    (unended : Text.endsWith ".git" path = false) (clone : remote ∈ clones host path)
    (padded : Text.Padded remote given) :
    normalizeUrl given = "https://" ++ host ++ "/" ++ path := by
  obtain ⟨ending, member, written⟩ := written_of_clone colonless clone
  have tidy := tidy_of_trimmed trimmed ending member
  have clear := trim_of_written written tidy
  have trimmed' : Text.trim given = Text.trim remote := by
    rw [Text.trim_of_padded padded clear, clear]
  rw [normalizeUrl_of_trim trimmed', normalizeUrl_of_written written tidy, page_of_ending unended _ member]

/-! ## Links from the page -/

theorem Style.exists_domain {text : String} {ds : List (String × Style)} (named : among text ds ≠ .enterprise) :
    ∃ d ∈ ds, d.2 = among text ds ∧ Text.contains d.1 text = true := by
  induction ds with
  | nil => exact absurd rfl named
  | cons d rest ih =>
    rw [among] at named ⊢
    cases here : Text.contains d.1 text with
    | true => exact ⟨d, .head _, by simp, here⟩
    | false =>
      rw [here] at named
      obtain ⟨d', member, same, there⟩ := ih (by simpa using named)
      exact ⟨d', .tail _ member, by simpa using same, there⟩

theorem Style.contains_of_azure {text : String} (azure : Style.of text = .azure) :
    Text.contains "dev.azure.com" text = true := by
  have only : ∀ d ∈ domains, d.2 = .azure → d.1 = "dev.azure.com" := by decide
  have named : among text domains ≠ .enterprise := fun none => nomatch none.symm.trans azure
  obtain ⟨d, member, same, here⟩ := exists_domain named
  rwa [← only d member (same.trans azure)]

theorem Style.link_of_other {style : Style} (other : style ≠ .azure)
    (remote remote' page relative branch : String) :
    style.link remote page relative branch = style.link remote' page relative branch := by
  cases style with
  | azure => exact absurd rfl other
  | github | gitlab | bitbucket | enterprise => rfl

theorem normalizeUrl_trim (url : String) : normalizeUrl (Text.trim url) = normalizeUrl url :=
  normalizeUrl_of_trim (Text.trim_trim url)

theorem hostUrl_of_other (same : normalizeUrl given = normalizeUrl given')
    (other : Text.contains "dev.azure.com" (normalizeUrl given) = false) (relative branch : String) :
    hostUrl given relative branch = hostUrl given' relative branch := by
  have style : Style.of (normalizeUrl given) ≠ .azure := fun azure =>
    Bool.false_ne_true (other.symm.trans (Style.contains_of_azure azure))
  rw [hostUrl_eq, hostUrl_eq, normalizeUrl_trim, normalizeUrl_trim, ← same]
  exact Style.link_of_other style _ _ _ _ _

theorem fileUrl_of_hostUrl {branch : String}
    (same : ∀ relative, hostUrl given relative branch = hostUrl given' relative branch)
    (t : FileTree) (root file : Path) :
    fileUrl t ⟨given, root, branch⟩ file = fileUrl t ⟨given', root, branch⟩ file := by
  simp only [fileUrl, same]

/-! ## One repository -/

theorem contains_of_written {part : String} (written : Written host path remote)
    (found : Text.contains part host = true ∨ Text.contains part path = true) :
    Text.contains part remote = true := by
  simp only [Text.contains_iff] at found ⊢
  cases written with
  | web =>
    rcases found with inside | inside
    · exact inside.trans ⟨"https://".toList, '/' :: path.toList, by simp [String.toList_append]⟩
    · exact inside.trans ⟨"https://".toList ++ host.toList ++ ['/'], [], by simp [String.toList_append]⟩
  | ssh =>
    rcases found with inside | inside
    · exact inside.trans ⟨"git@".toList, ':' :: path.toList, by simp [String.toList_append]⟩
    · exact inside.trans ⟨"git@".toList ++ host.toList ++ [':'], [], by simp [String.toList_append]⟩

theorem contains_of_page {d : String × Style} (member : d ∈ Style.domains) (written : Written host path remote)
    (found : Text.contains d.1 (page host path) = true) : Text.contains d.1 remote = true := by
  rw [contains_page member, Bool.or_eq_true] at found
  refine contains_of_written written (found.imp_right fun inside => ?_)
  rw [Text.contains_iff] at inside ⊢
  exact inside.trans (Text.dropSuffix_prefix ".git" path).isInfix

/-- The four addresses that a repository is cloned from, with any blanks around them, lead to one page. Unless
they hold the domain of Azure, every file has the same link whichever of them is configured. -/
theorem clones_interchangeable (colonless : ':' ∉ host.toList) (trimmed : Text.trim path = path)
    (unended : Text.endsWith ".git" path = false) :
    (∀ remote ∈ clones host path, ∀ given, Text.Padded remote given →
      normalizeUrl given = "https://" ++ host ++ "/" ++ path) ∧
    ∀ remote ∈ clones host path, ∀ given, Text.Padded remote given →
      ∀ remote' ∈ clones host path, ∀ given', Text.Padded remote' given' →
        Text.contains "dev.azure.com" given = false → ∀ t root branch file,
          fileUrl t ⟨given, root, branch⟩ file = fileUrl t ⟨given', root, branch⟩ file := by
  refine ⟨fun _ clone _ padded => normalizeUrl_of_clone colonless trimmed unended clone padded, ?_⟩
  intro remote clone given padded remote' clone' given' padded' other t root branch file
  have leads := normalizeUrl_of_clone colonless trimmed unended clone padded
  have leads' := normalizeUrl_of_clone colonless trimmed unended clone' padded'
  have other' : Text.contains "dev.azure.com" (normalizeUrl given) = false := by
    rw [← Bool.not_eq_true] at other ⊢
    intro found
    obtain ⟨ending, member, written⟩ := written_of_clone colonless clone
    rw [leads, ← page_of_ending unended ending member] at found
    have azure : ("dev.azure.com", .azure) ∈ Style.domains := by decide
    exact other (padded.contains (contains_of_page azure written found))
  exact fileUrl_of_hostUrl (fun _ => hostUrl_of_other (leads.trans leads'.symm) other' _ _) t root file

theorem clones_interchangeable_of_userPath :
    ':' ∉ "git.acme.internal".toList ∧ Text.trim "ui:git@x/widgets" = "ui:git@x/widgets" ∧
    Text.endsWith ".git" "ui:git@x/widgets" = false ∧
    Text.Padded "git@git.acme.internal:ui:git@x/widgets.git"
      " git@git.acme.internal:ui:git@x/widgets.git\n" ∧
    normalizeUrl " git@git.acme.internal:ui:git@x/widgets.git\n" =
      "https://git.acme.internal/ui:git@x/widgets" ∧
    ∀ t root branch file,
      fileUrl t ⟨" git@git.acme.internal:ui:git@x/widgets.git\n", root, branch⟩ file =
        fileUrl t ⟨"https://git.acme.internal/ui:git@x/widgets", root, branch⟩ file := by
  have colonless : ':' ∉ "git.acme.internal".toList := by decide
  have trimmed : Text.trim "ui:git@x/widgets" = "ui:git@x/widgets" := by decide
  have unended : Text.endsWith ".git" "ui:git@x/widgets" = false := by decide
  have clone : "git@git.acme.internal:ui:git@x/widgets.git" ∈
      clones "git.acme.internal" "ui:git@x/widgets" := by decide
  have clone' : "https://git.acme.internal/ui:git@x/widgets" ∈
      clones "git.acme.internal" "ui:git@x/widgets" := by decide
  have padded : Text.Padded "git@git.acme.internal:ui:git@x/widgets.git"
      " git@git.acme.internal:ui:git@x/widgets.git\n" := .intro " " "\n" (by decide) (by decide)
  have plain : Text.Padded "https://git.acme.internal/ui:git@x/widgets"
      "https://git.acme.internal/ui:git@x/widgets" := .intro "" "" rfl rfl
  obtain ⟨leads, links⟩ := clones_interchangeable colonless trimmed unended
  refine ⟨colonless, trimmed, unended, padded, leads _ clone _ padded, ?_⟩
  exact links _ clone _ padded _ clone' _ plain (by decide +kernel)

end ParserHost.Repository
