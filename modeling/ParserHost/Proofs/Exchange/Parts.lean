import Mathlib.Data.List.Forall2
import ParserHost.Proofs.Run.Sequence
import ParserHost.Exchange.Response
import ParserHost.Run.Modules

/-!
# Responses in parts

A list fits when each of its items fits, whatever its place (`tuple_eq_ok`). So the sum of the modules
of a parser fits exactly when every module by itself does, and the response is then that of the
modules one after the other (`check_sum`).
-/

namespace ParserHost

theorem Schema.find?_word (key : String) (e : Json.Entries) :
    (word key).find? e = (Json.get? key e).map fun v => (key, v) := by
  unfold Name.find? word
  cases Json.get? key e <;> rfl

open Schema

/-! ## Lists -/

theorem exists_of_mem_forall₂ {α β : Type} {R : α → β → Prop} {as : List α} {bs : List β}
    (related : List.Forall₂ R as bs) :
    (∀ b ∈ bs, ∃ a ∈ as, R a b) ∧ ∀ a ∈ as, ∃ b ∈ bs, R a b := by
  induction related with
  | nil => simp
  | cons first _ ih =>
    obtain ⟨left, right⟩ := ih
    constructor
    · intro b member
      rcases List.mem_cons.1 member with rfl | member
      · exact ⟨_, .head _, first⟩
      · obtain ⟨a, member, holds⟩ := left b member
        exact ⟨a, .tail _ member, holds⟩
    · intro a member
      rcases List.mem_cons.1 member with rfl | member
      · exact ⟨_, .head _, first⟩
      · obtain ⟨b, member, holds⟩ := right a member
        exact ⟨b, .tail _ member, holds⟩

section
variable {α : Type} {check : Json → Checked α}

def Fits (check : Json → Checked α) : List Json → List α → Prop :=
  List.Forall₂ fun v a => check v = .ok a

theorem below_eq_ok {s : Segment} {x : Checked α} {a : α} : x.below s = .ok a ↔ x = .ok a := by
  cases x <;> simp [Checked.below]

theorem map_eq_checked {β : Type} {f : α → β} {x : Checked α} {b : β} :
    x.map f = .ok b ↔ ∃ a, x = .ok a ∧ f a = b := by
  cases x <;> simp [Checked.map]

theorem seq_eq_ok_iff {β : Type} {f : Checked (α → β)} {x : Checked α} {b : β} :
    (f <*> x) = .ok b ↔ ∃ g a, f = .ok g ∧ x = .ok a ∧ g a = b :=
  Checked.both_eq_ok_iff

theorem fmap_eq_ok_iff {β : Type} {f : α → β} {x : Checked α} {b : β} :
    (f <$> x) = .ok b ↔ ∃ a, x = .ok a ∧ f a = b :=
  map_eq_checked

theorem eachFrom_eq_ok {n : Nat} {vs : List Json} {as : List α} :
    eachFrom check n vs = .ok as ↔ Fits check vs as := by
  induction vs generalizing n as with
  | nil => simp [eachFrom, Fits, eq_comm]
  | cons v vs ih =>
    simp only [eachFrom, Checked.both_eq_ok_iff, map_eq_checked, below_eq_ok, ih]
    constructor
    · rintro ⟨-, rest, ⟨a, first, rfl⟩, more, rfl⟩
      exact .cons first more
    · intro fits
      cases fits with
      | cons first more => exact ⟨_, _, ⟨_, first, rfl⟩, more, rfl⟩

theorem tuple_eq_ok {vs : List Json} {as : List α} :
    tuple check (.arr vs) = .ok as ↔ Fits check vs as :=
  eachFrom_eq_ok

theorem fits_append {vs ws : List Json} {cs : List α} :
    Fits check (vs ++ ws) cs ↔ ∃ as bs, Fits check vs as ∧ Fits check ws bs ∧ cs = as ++ bs := by
  induction vs generalizing cs with
  | nil => simp [Fits]
  | cons v vs ih =>
    constructor
    · intro fits
      cases fits with
      | cons first more =>
        obtain ⟨as, bs, left, right, rfl⟩ := ih.1 more
        exact ⟨_ :: as, bs, .cons first left, right, rfl⟩
    · rintro ⟨as, bs, left, right, rfl⟩
      cases left with
      | cons first more => exact .cons first (ih.2 ⟨_, bs, more, right, rfl⟩)

end

/-! ## Responses -/

namespace Modules

variable {mode : Mode} {t : FileTree} {directory : Path}

inductive Tells : Mode → Parts → Response → Prop
  | parse {p docs ms} (results : Fits Document.check p.results docs)
      (messages : Fits Message.check p.messages ms) : Tells .parse p (.parse ⟨docs, ms⟩)
  | create {p files ms} (results : Fits CreatedFile.check p.results files)
      (messages : Fits Message.check p.messages ms) : Tells .create p (.create ⟨files, ms⟩)

theorem required_eq_ok {α : Type} {check : Json → Checked α} {fields : Json.Entries} {n : Name}
    {used : String} {v : Json} {a : α} (found : n.find? fields = some (used, v)) :
    required fields n check = .ok a ↔ check v = .ok a := by
  rw [required, found]
  exact below_eq_ok

theorem fields_eq_ok {α β : Type} {mk : List α → List Message → β} {check : Json → Checked α}
    {fields : Json.Entries} {n : Name} {used : String} {p : Parts} {b : β}
    (results : n.find? fields = some (used, .arr p.results))
    (messages : (word "messages").find? fields = some (messagesKey, .arr p.messages)) :
    (mk <$> required fields n (tuple check) <*>
        required fields (word "messages") (tuple Message.check)) = .ok b ↔
      ∃ as ms, Fits check p.results as ∧ Fits Message.check p.messages ms ∧ b = mk as ms := by
  simp only [seq_eq_ok_iff, fmap_eq_ok_iff, required_eq_ok results, required_eq_ok messages,
    tuple_eq_ok]
  constructor
  · rintro ⟨-, ms, ⟨as, left, rfl⟩, right, rfl⟩
    exact ⟨as, ms, left, right, rfl⟩
  · rintro ⟨as, ms, left, right, rfl⟩
    exact ⟨mk as, ms, ⟨as, left, rfl⟩, right, rfl⟩

theorem check_payload {p : Parts} {r : Response} :
    Response.check mode (payload mode p) = .ok r ↔ Tells mode p r := by
  cases mode with
  | parse =>
    have fields (b : ParseResponse) : ParseResponse.check (payload .parse p) = .ok b ↔
        ∃ docs ms, Fits Document.check p.results docs ∧ Fits Message.check p.messages ms ∧
          b = ⟨docs, ms⟩ := fields_eq_ok rfl rfl
    rw [Response.check, map_eq_checked]
    constructor
    · rintro ⟨b, checked, rfl⟩
      obtain ⟨docs, ms, results, messages, rfl⟩ := (fields b).1 checked
      exact .parse results messages
    · intro told
      cases told with
      | parse results messages => exact ⟨_, (fields _).2 ⟨_, _, results, messages, rfl⟩, rfl⟩
  | create =>
    have fields (b : CreateResponse) : CreateResponse.check (payload .create p) = .ok b ↔
        ∃ files ms, Fits CreatedFile.check p.results files ∧ Fits Message.check p.messages ms ∧
          b = ⟨files, ms⟩ := fields_eq_ok rfl rfl
    rw [Response.check, map_eq_checked]
    constructor
    · rintro ⟨b, checked, rfl⟩
      obtain ⟨files, ms, results, messages, rfl⟩ := (fields b).1 checked
      exact .create results messages
    · intro told
      cases told with
      | create results messages => exact ⟨_, (fields _).2 ⟨_, _, results, messages, rfl⟩, rfl⟩

/-! ## Sums -/

def join (mode : Mode) (a b : Response) : Response :=
  match mode with
  | .parse => .parse ⟨a.documents ++ b.documents, a.messages ++ b.messages⟩
  | .create => .create ⟨a.createdFiles ++ b.createdFiles, a.messages ++ b.messages⟩

def concat (mode : Mode) (rs : List Response) : Response :=
  match mode with
  | .parse => .parse ⟨rs.flatMap Response.documents, rs.flatMap Response.messages⟩
  | .create => .create ⟨rs.flatMap Response.createdFiles, rs.flatMap Response.messages⟩

theorem concat_cons (r : Response) (rs : List Response) :
    concat mode (r :: rs) = join mode r (concat mode rs) := by
  cases mode <;> rfl

theorem messages_concat (rs : List Response) :
    (concat mode rs).messages = rs.flatMap Response.messages := by
  cases mode <;> rfl

theorem tells_nil {r : Response} : Tells mode ⟨[], []⟩ r ↔ r = concat mode [] := by
  constructor
  · intro told
    cases told with
    | parse results messages => cases results; cases messages; rfl
    | create results messages => cases results; cases messages; rfl
  · rintro rfl
    cases mode with
    | parse => exact .parse .nil .nil
    | create => exact .create .nil .nil

theorem tells_append {p q : Parts} {r : Response} :
    Tells mode (p.append q) r ↔ ∃ a b, Tells mode p a ∧ Tells mode q b ∧ r = join mode a b := by
  constructor
  · intro told
    cases told with
    | parse results messages =>
      obtain ⟨docs, docs', left, right, rfl⟩ := fits_append.1 results
      obtain ⟨ms, ms', left', right', rfl⟩ := fits_append.1 messages
      exact ⟨_, _, .parse left left', .parse right right', rfl⟩
    | create results messages =>
      obtain ⟨files, files', left, right, rfl⟩ := fits_append.1 results
      obtain ⟨ms, ms', left', right', rfl⟩ := fits_append.1 messages
      exact ⟨_, _, .create left left', .create right right', rfl⟩
  · rintro ⟨a, b, left, right, rfl⟩
    cases left with
    | parse results messages =>
      cases right with
      | parse results' messages' =>
        exact .parse (fits_append.2 ⟨_, _, results, results', rfl⟩)
          (fits_append.2 ⟨_, _, messages, messages', rfl⟩)
    | create results messages =>
      cases right with
      | create results' messages' =>
        exact .create (fits_append.2 ⟨_, _, results, results', rfl⟩)
          (fits_append.2 ⟨_, _, messages, messages', rfl⟩)

def Holds (t : FileTree) (mode : Mode) (directory : Path) (name : String) (r : Response) : Prop :=
  ∃ p, parts t mode (directory.child name) = .ok p ∧ Response.check mode (payload mode p) = .ok r

theorem check_sum {names : List String} {p : Parts} {r : Response}
    (summed : sum t mode directory names = .ok p)
    (checked : Response.check mode (payload mode p) = .ok r) :
    ∃ rs, List.Forall₂ (Holds t mode directory) names rs ∧
      r = concat mode rs := by
  induction names generalizing p r with
  | nil =>
    cases summed
    exact ⟨[], .nil, tells_nil.1 (check_payload.1 checked)⟩
  | cons name names ih =>
    obtain ⟨first, loaded, rest⟩ := bind_eq_ok.1 summed
    obtain ⟨more, summed', same⟩ := bind_eq_ok.1 rest
    cases same
    obtain ⟨a, b, told, told', rfl⟩ := tells_append.1 (check_payload.1 checked)
    obtain ⟨rs, each, rfl⟩ := ih summed' (check_payload.2 told')
    exact ⟨a :: rs, .cons ⟨first, loaded, check_payload.2 told⟩ each, (concat_cons a rs).symm⟩

/-! ## Listings -/

structure Listed (t : FileTree) (directory : Path) (files : List String) : Prop where
  sorted : files.Pairwise (· ≤ ·)
  visible : files.Perm
    ((entries t directory).filter fun n => !isHidden n && t.isFile (directory.child n))

theorem nameLe_iff {a b : String} : nameLe a b = true ↔ a ≤ b := by
  rw [nameLe, Bool.not_eq_true', decide_eq_false_iff_not, String.not_lt]

theorem pairwise_mergeSort_nameLe (names : List String) :
    (names.mergeSort nameLe).Pairwise (· ≤ ·) := by
  have sorted : (names.mergeSort nameLe).Pairwise fun a b => nameLe a b = true := by
    refine List.pairwise_mergeSort (fun a b c => ?_) (fun a b => ?_) names
    · rw [nameLe_iff, nameLe_iff, nameLe_iff]
      exact String.le_trans
    · rw [Bool.or_eq_true, nameLe_iff, nameLe_iff]
      exact String.le_total a b
  exact sorted.imp nameLe_iff.1

theorem listed_of_names {files : List String} (listed : names t directory = .ok files) :
    Listed t directory files := by
  simp only [names] at listed
  split at listed
  · cases listed
  · cases listed
    exact ⟨pairwise_mergeSort_nameLe _, List.mergeSort_perm _ _⟩

end Modules

end ParserHost
