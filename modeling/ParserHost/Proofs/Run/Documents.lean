import ParserHost.Proofs.Exchange.Distinct
import ParserHost.Proofs.Run.Conclusion
import ParserHost.Proofs.Run.Origin

/-!
# The documents of a run

A run that succeeds publishes one document for each key among those of its response, in the order of
their first occurrence, and each is the finalized form of the first document with that key
(`documents_by_first_occurrence`). Label, substitutions and repository act on single documents only.
-/

namespace ParserHost

/-! ## Stamps -/

namespace Publication

variable {t : FileTree} {s : Stamp} {d d' : Document}

theorem finalize_eq_ok {documents stamped : List Document} :
    finalize t s documents = .ok stamped ↔
      List.Forall₂ (fun d d' => stampOne t s d = .ok d') documents stamped := by
  induction documents generalizing stamped with
  | nil => simp [finalize, eq_comm]
  | cons d rest ih =>
    rw [finalize]
    cases stampedOne : stampOne t s d with
    | error f =>
      constructor
      · intro absent
        cases absent
      · intro each
        cases each with
        | cons first more => rw [stampedOne] at first; cases first
    | ok d' =>
      simp only [map_eq_ok, ih]
      constructor
      · rintro ⟨more, each, rfl⟩
        exact .cons stampedOne each
      · intro each
        cases each with
        | cons first more =>
          cases stampedOne.symm.trans first
          exact ⟨_, more, rfl⟩

theorem key_stampOne (stamped : stampOne t s d = .ok d') (none : s.substitutions = []) :
    d'.key = d.key := by
  obtain ⟨source, -, rfl⟩ := map_eq_ok.1 stamped
  simp [Document.key, none, substitute]

end Publication

/-! ## Documents of a response -/

namespace Engine

variable {e : Engine} {t : FileTree} {o : Outcome} {R : List Document}

def Given (e : Engine) (t : FileTree) (R : List Document) : Prop :=
  ∃ request r ms, e.request t .parse = .ok request ∧ Replied e .parse t r ms ∧
    Origin e request t r ms ∧ R = r.documents

/-- How a run publishes a document: stamped, with the repository that is found once the parser is
done. -/
def Finalized (e : Engine) (t : FileTree) (first d : Document) : Prop :=
  ∃ repository u,
    e.lookUp e.settings.cwd e.settings.repositoryUrl (e.stages .parse t).tree =
      (.ok repository, u) ∧
    Publication.stampOne u (e.stamp repository) first = .ok d

def Represents (e : Engine) (t : FileTree) (R : List Document) (key : String × String)
    (d : Document) : Prop :=
  ∃ first, R.find? (fun x => x.key = key) = some first ∧ Finalized e t first d

theorem Given.unique {R' : List Document} (given : Given e t R) (given' : Given e t R') :
    R = R' := by
  obtain ⟨request, r, ms, -, replied, -, rfl⟩ := given
  obtain ⟨request', r', ms', -, replied', -, rfl⟩ := given'
  rw [(replied.unique replied').1]

theorem forall₂_trans {α β γ : Type} {P : α → β → Prop} {Q : β → γ → Prop} {as : List α}
    {bs : List β} {cs : List γ} (left : List.Forall₂ P as bs) (right : List.Forall₂ Q bs cs) :
    List.Forall₂ (fun a c => ∃ b, P a b ∧ Q b c) as cs := by
  induction left generalizing cs with
  | nil =>
    cases right
    exact .nil
  | cons first more ih =>
    cases right with
    | cons first' more' => exact .cons ⟨_, first, first'⟩ (ih more')

theorem given_of_returned (returned : (e.answer .parse t).result = .ok o)
    (succeeded : o.status ≠ .failure) :
    ∃ R, Given e t R ∧
      List.Forall₂ (Represents e t R) (R.map Document.key).eraseDups o.documents := by
  obtain ⟨-, -, r, ms, replied, -, published⟩ :=
    success_of_concluded (concluded_of_returned returned) succeeded
  obtain ⟨request, asked, origin⟩ := origin_of_replied replied
  refine ⟨r.documents, ⟨request, r, ms, asked, replied, origin, rfl⟩, ?_⟩
  generalize o.documents = documents at published
  cases published with
  | parsed found stamped =>
    have each := forall₂_trans (Document.forall₂_dedupe r.documents)
      (Publication.finalize_eq_ok.1 stamped)
    exact each.imp fun key d ⟨first, here, stampedOne⟩ => ⟨first, here, _, _, found, stampedOne⟩

/-! ## The law of documents -/

theorem exists_getElem? {α β : Type} {P : α → β → Prop} {as : List α} {bs : List β} {a : α} {i : Nat}
    (each : List.Forall₂ P as bs) (here : as[i]? = some a) : ∃ b, bs[i]? = some b ∧ P a b := by
  induction each generalizing i with
  | nil => cases here
  | cons first more ih =>
    cases i with
    | zero =>
      cases here
      exact ⟨_, rfl, first⟩
    | succ i => exact ih here

/-- Documents of two runs with one response match, whatever the runs stamp them with. -/
theorem matching_of_represents {e' : Engine} {t' : FileTree} {documents documents' : List Document}
    {keys : List (String × String)}
    (each : List.Forall₂ (Represents e t R) keys documents)
    (each' : List.Forall₂ (Represents e' t' R) keys documents') :
    List.Forall₂ (fun d d' => ∃ first ∈ R, Finalized e t first d ∧ Finalized e' t' first d')
      documents documents' := by
  refine (forall₂_trans each.flip each').imp ?_
  rintro d d' ⟨key, ⟨first, here, finalized⟩, ⟨first', here', finalized'⟩⟩
  cases here.symm.trans here'
  exact ⟨first, List.mem_of_find?_eq_some here, finalized, finalized'⟩

theorem exists_represents {d : Document} {documents : List Document} (given : d ∈ R)
    (each : List.Forall₂ (Represents e t R) (R.map Document.key).eraseDups documents) :
    ∃ (i : Nat) (x : Document), (R.map Document.key).eraseDups[i]? = some d.key ∧ documents[i]? = some x ∧
      Represents e t R d.key x := by
  have key : d.key ∈ (R.map Document.key).eraseDups :=
    List.mem_eraseDups.2 (List.mem_map.2 ⟨d, given, rfl⟩)
  obtain ⟨i, here⟩ := List.mem_iff_getElem?.1 key
  obtain ⟨x, there, represents⟩ := exists_getElem? each here
  exact ⟨i, x, here, there, represents⟩

theorem key_of_represents {key : String × String} {d : Document}
    (represents : Represents e t R key d) (none : e.config.substitutions.getD [] = []) :
    key = d.key := by
  obtain ⟨first, here, repository, u, -, stamped⟩ := represents
  have matching : first.key = key := by simpa using List.find?_some here
  rw [Publication.key_stampOne stamped none, matching]

theorem keys_of_represents {keys : List (String × String)} {documents : List Document}
    (each : List.Forall₂ (Represents e t R) keys documents)
    (none : e.config.substitutions.getD [] = []) : keys = documents.map Document.key := by
  induction each with
  | nil => rfl
  | cons first more ih => rw [List.map_cons, key_of_represents first none, ih]

/-- A run that succeeds publishes, for each key among the documents of its response and in the order
of first occurrence, the finalized first document with that key. So another run with the same response
publishes as many, of the same originals, whatever its label, its substitutions and its repository;
documents with different keys are both kept; and without substitutions the keys stay distinct. -/
theorem documents_by_first_occurrence (returned : (e.answer .parse t).result = .ok o)
    (succeeded : o.status ≠ .failure) :
    ∃ R, Given e t R ∧
      List.Forall₂
        (fun key d => ∃ first, R.find? (fun x => x.key = key) = some first ∧
          Finalized e t first d)
        (R.map Document.key).eraseDups o.documents ∧
      (∀ (e' : Engine) (t' : FileTree) (o' : Outcome), (e'.answer .parse t').result = .ok o' →
        o'.status ≠ .failure → Given e' t' R →
          List.Forall₂ (fun d d' => ∃ first ∈ R, Finalized e t first d ∧ Finalized e' t' first d')
            o.documents o'.documents) ∧
      (∀ a ∈ R, ∀ b ∈ R, a.key ≠ b.key →
        ∃ (i j : Nat) (x y : Document), i ≠ j ∧ o.documents[i]? = some x ∧ o.documents[j]? = some y ∧
          Represents e t R a.key x ∧ Represents e t R b.key y) ∧
      (e.config.substitutions.getD [] = [] → (o.documents.map Document.key).Nodup) := by
  obtain ⟨R, given, each⟩ := given_of_returned returned succeeded
  refine ⟨R, given, each, ?_, ?_, ?_⟩
  · intro e' t' o' returned' succeeded' given'
    obtain ⟨R', given'', each'⟩ := given_of_returned returned' succeeded'
    cases given'.unique given''
    exact matching_of_represents each each'
  · intro a ofA b ofB different
    obtain ⟨i, x, keyX, hereX, representsX⟩ := exists_represents ofA each
    obtain ⟨j, y, keyY, hereY, representsY⟩ := exists_represents ofB each
    refine ⟨i, j, x, y, ?_, hereX, hereY, representsX, representsY⟩
    rintro rfl
    rw [keyX] at keyY
    exact different (Option.some.inj keyY)
  · intro none
    rw [← keys_of_represents each none, ← Document.keys_dedupe]
    exact Document.nodup_keys_dedupe R

def repeating : Engine where
  host := ⟨Path.absolute ["home"], [], Path.absolute ["tmp"], fun _ t =>
    (.error ⟨.noEntry, ""⟩, t)⟩
  handlers := [(.react, ⟨"repeating", fun _ _ => .response (ParseResponse.toJson
    ⟨[⟨"b", "1", "", "", [], none, none, "", .unknown, none, none⟩,
      ⟨"a", "2", "", "", [], none, none, "", .unknown, none, none⟩,
      ⟨"b", "3", "", "", [], none, none, "", .unknown, none, none⟩], []⟩)⟩)]
  config := ⟨.react, none, none, none, none, none, none, none, none, none, none, []⟩
  settings := ⟨Path.absolute ["home"], false, none, none, none, "1", false⟩
  lookUp _ _ t := (.ok none, t)

theorem documents_by_first_occurrence_of_repeating :
    ∃ o R, (repeating.answer .parse bare).result = .ok o ∧ Given repeating bare R ∧
      o.documents.map Document.label = ["1", "2"] ∧ (o.documents.map Document.key).Nodup := by
  have computed : (((repeating.answer .parse bare).result.toOption).map fun o =>
      (o.status, o.documents.map Document.label)) = some (.success, ["1", "2"]) := by
    decide +kernel
  obtain ⟨o, found, facts⟩ := Option.map_eq_some_iff.1 computed
  rw [Prod.mk.injEq] at facts
  obtain ⟨status, labels⟩ := facts
  have returned := toOption_eq_some.1 found
  have succeeded : o.status ≠ .failure := by
    rw [status]
    decide
  obtain ⟨R, given, -, -, -, distinct⟩ := documents_by_first_occurrence returned succeeded
  exact ⟨o, R, returned, given, labels, distinct rfl⟩

end Engine

end ParserHost
