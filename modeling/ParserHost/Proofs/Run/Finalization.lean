import ParserHost.Proofs.Links.Detection
import ParserHost.Proofs.Run.Documents
import ParserHost.Proofs.Run.Faults
import ParserHost.Proofs.Text.Replacement

/-!
# Finalized documents

What finalizing does to one document is a relation between the parser's document and the published one
(`Stamped`), which leaves alone all that it does not name. Documents are finalized one by one, in their order, and
it comes to no result exactly if there is one whose source has no link (`finalization_law`).
-/

namespace ParserHost

namespace Publication

variable {t : FileTree} {s : Stamp} {d d' d'' : Document} {node last : String}
  {substitutions : List (String × String)} {documents stamped : List Document}

/-! ## Single documents -/

inductive Substituted : List (String × String) → String → String → Prop
  | done (node : String) : Substituted [] node node
  | step {part by' node next last : String} {rest : List (String × String)}
      (first : Text.Replaced part by' node next) (more : Substituted rest next last) :
      Substituted ((part, by') :: rest) node last

theorem substitute_eq_iff : substitute substitutions node = last ↔ Substituted substitutions node last := by
  induction substitutions generalizing node with
  | nil =>
    constructor
    · rintro rfl
      exact .done node
    · intro substituted
      cases substituted
      rfl
  | cons pair rest ih =>
    rw [substitute, List.foldl_cons, ← substitute, ih]
    constructor
    · exact fun more => .step (Text.replaced_replaceFirst _ _ _) more
    · intro substituted
      cases substituted with
      | step first more => rwa [← Text.replaceFirst_of_replaced first] at more

structure Stamped (t : FileTree) (s : Stamp) (d d' : Document) : Prop where
  figmaNode : Substituted s.substitutions d.figmaNode d'.figmaNode
  replaced : ∀ text, s.label = some text → text ≠ "" → d'.label = text
  kept : Unset s.label → d'.label = d.label
  source : resolveSource t s.cwd s.repository d.source = .ok d'.source
  metadata : d'.metadata = some ⟨s.cliVersion⟩
  component : d'.component = d.component
  variant : d'.variant = d.variant
  language : d'.language = d.language
  template : d'.template = d.template
  templateData : d'.templateData = d.templateData
  sourceLocation : d'.sourceLocation = d.sourceLocation
  links : d'.links = d.links

theorem getD_given_eq_iff {label : Option String} {own chosen : String} :
    (RunError.given? label).getD own = chosen ↔
      (∀ text, label = some text → text ≠ "" → chosen = text) ∧ (Unset label → chosen = own) := by
  cases set : RunError.given? label with
  | some text =>
    obtain ⟨rfl, named⟩ := RunError.given?_eq_some_iff.1 set
    simp [Unset, named, eq_comm]
  | none =>
    have unset := RunError.given?_eq_none_iff.1 set
    have ungiven (text : String) (given : label = some text) : text = "" := by
      rcases unset with rfl | rfl
      · cases given
      · exact (Option.some.inj given).symm
    constructor
    · rintro rfl
      exact ⟨fun text given named => absurd (ungiven text given) named, fun _ => rfl⟩
    · exact fun law => (law.2 unset).symm

theorem stampOne_eq_ok_iff : stampOne t s d = .ok d' ↔ Stamped t s d d' := by
  rw [stampOne, map_eq_ok]
  constructor
  · rintro ⟨source, resolved, rfl⟩
    obtain ⟨replaced, kept⟩ := getD_given_eq_iff.1 (rfl : (RunError.given? s.label).getD d.label = _)
    exact ⟨substitute_eq_iff.1 rfl, replaced, kept, resolved, rfl, rfl, rfl, rfl, rfl, rfl, rfl, rfl⟩
  · intro stamped
    refine ⟨d'.source, stamped.source, ?_⟩
    rw [substitute_eq_iff.2 stamped.figmaNode, getD_given_eq_iff.2 ⟨stamped.replaced, stamped.kept⟩,
      ← stamped.metadata, ← stamped.language, ← stamped.template, ← stamped.templateData,
      ← stamped.component, ← stamped.variant, ← stamped.sourceLocation, ← stamped.links]

/-! ## Documents in sequence -/

theorem finalize_eq_ok_iff :
    finalize t s documents = .ok stamped ↔ List.Forall₂ (Stamped t s) documents stamped := by
  rw [finalize_eq_ok]
  simp only [stampOne_eq_ok_iff]

theorem finalize_ok_iff :
    (∃ stamped, finalize t s documents = .ok stamped) ↔ ∀ d ∈ documents, ¬ ∃ r, Unpublishable t s d r := by
  cases finalized : finalize t s documents with
  | ok stamped =>
    refine ⟨fun _ d member unpublishable => ?_, fun _ => ⟨stamped, rfl⟩⟩
    obtain ⟨f, failed⟩ := finalize_fault_iff.2 ⟨d, member, unpublishable⟩
    cases finalized.symm.trans failed
  | error f =>
    obtain ⟨d, member, unpublishable⟩ := finalize_fault_iff.1 ⟨f, finalized⟩
    constructor
    · rintro ⟨stamped, made⟩
      cases made
    · exact fun publishable => absurd unpublishable (publishable d member)

theorem finalize_append_eq (xs ys : List Document) :
    finalize t s (xs ++ ys) = do
      let front ← finalize t s xs
      let back ← finalize t s ys
      return front ++ back := by
  induction xs with
  | nil =>
    rw [List.nil_append]
    cases finalize t s ys <;> rfl
  | cons d rest ih =>
    rw [List.cons_append, finalize, finalize]
    cases stampOne t s d with
    | error f => rfl
    | ok d' =>
      dsimp only
      rw [ih]
      cases finalize t s rest with
      | error f => rfl
      | ok front => cases finalize t s ys <;> rfl

/-- Documents at one place of two lists are finalized alike. -/
theorem getElem?_of_finalize {documents' stamped' : List Document}
    (finalized : finalize t s documents = .ok stamped) (finalized' : finalize t s documents' = .ok stamped')
    {i : Nat} (same : documents[i]? = documents'[i]?) : stamped[i]? = stamped'[i]? := by
  have each := finalize_eq_ok.1 finalized
  have each' := finalize_eq_ok.1 finalized'
  cases here : documents[i]? with
  | none =>
    have there := same.symm.trans here
    rw [List.getElem?_eq_none_iff] at here there
    rw [List.getElem?_eq_none (each.length_eq ▸ here), List.getElem?_eq_none (each'.length_eq ▸ there)]
  | some d =>
    obtain ⟨made, found, stampedOne⟩ := Engine.exists_getElem? each here
    obtain ⟨made', found', stampedOne'⟩ := Engine.exists_getElem? each' (same.symm.trans here)
    cases stampedOne.symm.trans stampedOne'
    rw [found, found']

end Publication

/-! ## The label of a run -/

/-- The label of a run is the one it was started with or, if none was given, that of the project. -/
structure Engine.Labels (e : Engine) (label : Option String) : Prop where
  run : ∀ text, e.settings.label = some text → text ≠ "" → label = some text
  project : Unset e.settings.label → ∀ text, e.config.label = some text → text ≠ "" → label = some text
  neither : Unset e.settings.label → Unset e.config.label → label = none

theorem Engine.labels_label (e : Engine) : e.Labels e.label := by
  refine ⟨fun text given named => ?_, fun unset text given named => ?_, fun unset unset' => ?_⟩
  · rw [label, RunError.given?_eq_some_iff.2 ⟨given, named⟩]
    rfl
  · rw [label, RunError.given?_eq_none_iff.2 unset, RunError.given?_eq_some_iff.2 ⟨given, named⟩]
    rfl
  · rw [label, RunError.given?_eq_none_iff.2 unset, RunError.given?_eq_none_iff.2 unset']
    rfl

/-! ## The law of finalizing -/

namespace Publication

/-- Finalized documents are the given ones, one by one: each is stamped by itself, whatever stands beside it, and
what a stamp does not name stays. There is no result exactly if one of them has no link. An empty part is
substituted in front. A run stamps with the repository that it finds, and with its own label before that of the
project. -/
theorem finalization_law (t : FileTree) (s : Stamp) :
    (∀ documents stamped, finalize t s documents = .ok stamped ↔
      List.Forall₂ (Stamped t s) documents stamped) ∧
    (∀ documents, (∃ stamped, finalize t s documents = .ok stamped) ↔
      ∀ d ∈ documents, ¬ ∃ r, Unpublishable t s d r) ∧
    (∀ documents documents' stamped stamped', finalize t s documents = .ok stamped →
      finalize t s documents' = .ok stamped' → ∀ i : Nat, documents[i]? = documents'[i]? →
        stamped[i]? = stamped'[i]?) ∧
    (∀ xs ys, finalize t s (xs ++ ys) = do
      let front ← finalize t s xs
      let back ← finalize t s ys
      return front ++ back) ∧
    (∀ front node, Substituted [("", front)] node (front ++ node)) ∧
    ∀ (e : Engine) (start : FileTree) (repository : Option Repository),
      e.lookUp e.settings.cwd e.settings.repositoryUrl start = (.ok repository, t) →
        e.Labels (e.stamp repository).label ∧
        ∀ documents, (e.finalize documents start).result =
          (finalize t (e.stamp repository) documents).mapError .fault := by
  refine ⟨fun _ _ => finalize_eq_ok_iff, fun _ => finalize_ok_iff, ?alike, finalize_append_eq, ?front, ?run⟩
  case alike => exact fun _ _ _ _ finalized finalized' _ same => getElem?_of_finalize finalized finalized' same
  case front => exact fun front node => .step (Text.replaced_empty front node) (.done _)
  case run =>
    exact fun e _ _ found => ⟨e.labels_label, fun _ => (Engine.finalize_of_found found).1⟩

def mirrored : Stamp :=
  ⟨.absolute ["repo"], "1.2.3",
    some ⟨"git@git.acme.internal:mirrors/dev.azure.com.git", .absolute ["repo"], "main"⟩, [], none⟩

/-- A single document without a link leaves no list of documents at all. -/
theorem documents_withheld :
    finalize FileTree.empty mirrored
        [⟨"n", "L", "raw", "t", [], none, none, "src/A.kt", .unknown, none, none⟩] =
      .error (.shortRemote 2) := by
  have withheld : resolveSource FileTree.empty mirrored.cwd mirrored.repository "src/A.kt" =
      .error (.shortRemote 2) := by
    decide +kernel
  rw [finalize, stampOne, withheld]
  rfl

end Publication

end ParserHost
