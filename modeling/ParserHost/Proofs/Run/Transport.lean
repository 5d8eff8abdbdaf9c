import ParserHost.Proofs.Json.Printed
import ParserHost.Proofs.Json.RoundTrip
import ParserHost.Proofs.Run.Aggregation
import ParserHost.Proofs.Run.Stages

/-!
# One module instead of a response

A response that a request accepts as it is can also come as the only module of a directory. It tells
the same there, unless its created files go by the name that only a response of its own may use: the
sum of modules does not look there, and the files are lost (`validate_sole_module`).
-/

namespace ParserHost.Modules

open Schema

variable {t : FileTree} {mode : Mode} {directory : Path} {e : Json.Entries} {r : Response}

/-! ## Lists of a response -/

section
variable {α : Type} {check : Json → Checked α}

theorem required_ok {n : Name} {a : α} (checked : required e n check = .ok a) :
    ∃ used v, n.find? e = some (used, v) ∧ check v = .ok a := by
  cases found : n.find? e with
  | none =>
    rw [required, found] at checked
    cases checked
  | some m =>
    obtain ⟨used, v⟩ := m
    exact ⟨used, v, rfl, (required_eq_ok found).1 checked⟩

theorem required_list_ok {n : Name} {as : List α} (checked : required e n (tuple check) = .ok as) :
    ∃ used vs, n.find? e = some (used, .arr vs) ∧ Fits check vs as := by
  obtain ⟨used, v, found, fits⟩ := required_ok checked
  cases v with
  | arr vs => exact ⟨used, vs, found, tuple_eq_ok.1 fits⟩
  | null | bool _ | int _ | float _ | str _ | broken _ | obj _ => cases fits

theorem get?_of_word {s used : String} {v : Json} (found : (word s).find? e = some (used, v)) :
    Json.get? s e = some v := by
  rw [find?_word] at found
  obtain ⟨w, there, same⟩ := Option.map_eq_some_iff.1 found
  cases same
  exact there

theorem fields_ok {β : Type} {mk : List α → List Message → β} {n : Name} {b : β}
    (checked : (mk <$> required e n (tuple check) <*>
      required e (word messagesKey) (tuple Message.check)) = .ok b) :
    ∃ used p as ms, n.find? e = some (used, .arr (Parts.results p)) ∧
      Json.get? messagesKey e = some (.arr p.messages) ∧ Fits check p.results as ∧
      Fits Message.check p.messages ms ∧ b = mk as ms := by
  obtain ⟨_, ms, first, second, rfl⟩ := seq_eq_ok_iff.1 checked
  obtain ⟨as, results, rfl⟩ := fmap_eq_ok_iff.1 first
  obtain ⟨used, vs, found, fits⟩ := required_list_ok results
  obtain ⟨_, ws, found', fits'⟩ := required_list_ok second
  exact ⟨used, ⟨vs, ws⟩, as, ms, found, get?_of_word found', fits, fits', rfl⟩

end

def resultName : Mode → Name
  | .parse => word "docs"
  | .create => ⟨"createdFiles", "created_files"⟩

structure Consists (mode : Mode) (e : Json.Entries) (p : Parts) : Prop where
  results : ∃ used, (resultName mode).find? e = some (used, .arr p.results)
  messages : Json.get? messagesKey e = some (.arr p.messages)

theorem consists_of_check (fits : Response.check mode (.obj e) = .ok r) :
    ∃ p, Consists mode e p ∧ Tells mode p r := by
  cases mode with
  | parse =>
    obtain ⟨b, checked, rfl⟩ := map_eq_checked.1 fits
    obtain ⟨used, p, docs, ms, found, found', results, messages, rfl⟩ := fields_ok checked
    exact ⟨p, ⟨⟨used, found⟩, found'⟩, .parse results messages⟩
  | create =>
    obtain ⟨b, checked, rfl⟩ := map_eq_checked.1 fits
    obtain ⟨used, p, files, ms, found, found', results, messages, rfl⟩ := fields_ok checked
    exact ⟨p, ⟨⟨used, found⟩, found'⟩, .create results messages⟩

/-- The results stand under the key of their mode, unless they are created files under their other
name. -/
theorem Consists.named_or {p : Parts} (consists : Consists mode e p) :
    Json.get? (resultKey mode) e = some (.arr p.results) ∨
      mode = .create ∧ Json.get? "createdFiles" e = none := by
  obtain ⟨used, found⟩ := consists.results
  cases mode with
  | parse => exact .inl (get?_of_word found)
  | create =>
    cases named : Json.get? "createdFiles" e with
    | none => exact .inr ⟨rfl, rfl⟩
    | some v =>
      simp only [resultName, Name.find?, named] at found
      cases found
      exact .inl named

/-! ## The only module -/

theorem decodes_of_written {file : Path} {p : Parts} (readable : (Json.obj e).Readable Json.lenient.depth)
    (written : t.read file = .ok (Text.Utf8.encode (Json.compact (.obj e))))
    (results : Field (resultKey mode) e p.results) (messages : Field messagesKey e p.messages) :
    Decodes t mode file p := by
  refine ⟨_, _, e, written, Text.Utf8.decode_encode _, ?_, results, messages⟩
  rw [Json.unifyNewlines_compact]
  exact Json.read_compact readable

theorem aggregate_sole {name : String} {p : Parts} (modules : ModuleDirectory t directory)
    (alone : Enumerated t directory [name]) (decodes : Decodes t mode (directory.child name) p) :
    aggregate t directory mode = .ok ⟨payload mode p, [name]⟩ := by
  have listed := names_of_directory modules
  have files := alone.unique (enumerated_of_names modules listed) fun _ => Iff.rfl
  rw [← files] at listed
  rw [aggregate_of_names listed, sum_eq_ok (.cons decodes .nil)]
  simp [Except.map]

structure Transported (t : FileTree) (directory : Path) (mode : Mode) (name : String)
    (e : Json.Entries) (r : Response) : Prop where
  arrives : ∃ text, Json.read text = .ok (.obj e)
  fits : Engine.validate mode (.obj e) = .ok r
  modules : ModuleDirectory t directory
  alone : Enumerated t directory [name]
  written : t.read (directory.child name) = .ok (Text.Utf8.encode (Json.compact (.obj e)))

/-- A response that fits by itself also fits as the only module of a directory, with the same documents
and messages. It is the same response unless its created files go by their other name; then there are
none of them. -/
theorem validate_sole_module {name : String} (transported : Transported t directory mode name e r) :
    ∃ p r', aggregate t directory mode = .ok ⟨payload mode p, [name]⟩ ∧
      Engine.validate mode (payload mode p) = .ok r' ∧
      r'.messages = r.messages ∧ r'.documents = r.documents ∧
      (r' = r ↔ mode = .parse ∨ (Json.get? "createdFiles" e).isSome ∨ r.createdFiles = []) ∧
      (r' ≠ r → r'.createdFiles = []) := by
  obtain ⟨⟨text, arrives⟩, fits, modules, alone, written⟩ := transported
  have readable := Json.readable_of_read arrives
  obtain ⟨p, consists, told⟩ := consists_of_check (Engine.validate_eq_ok.1 fits)
  have agrees {p : Parts} {r : Response} (told : Tells mode p r) :
      Engine.validate mode (payload mode p) = .ok r := Engine.validate_eq_ok.2 (check_payload.2 told)
  rcases consists.named_or with named | ⟨rfl, unnamed⟩
  · -- The sum of modules looks where the check of the response did.
    have decodes := decodes_of_written readable written (.list named) (.list consists.messages)
    refine ⟨p, r, aggregate_sole modules alone decodes, agrees told, rfl, rfl, ?_,
      fun other => absurd rfl other⟩
    refine iff_of_true rfl ?_
    cases mode with
    | parse => exact .inl rfl
    | create =>
      have found : Json.get? "createdFiles" e = _ := named
      rw [found]
      exact .inr (.inl rfl)
  · -- It finds no key, and takes that for an empty list.
    have decodes : Decodes t .create (directory.child name) ⟨[], p.messages⟩ :=
      decodes_of_written readable written (.absent unnamed) (.list consists.messages)
    cases told with
    | create results messages =>
      refine ⟨_, _, aggregate_sole modules alone decodes, agrees (.create .nil messages), rfl, rfl, ?_,
        fun _ => rfl⟩
      rw [unnamed]
      simp [Response.createdFiles, eq_comm]

/-! ## Two responses as modules -/

theorem enumerated_sole (text : String) : Enumerated (sole text) (.absolute ["out"]) ["a.json"] :=
  enumerated_of_names (moduleDirectory_sole text) (names_sole text)

theorem transported_sole (readable : (Json.obj e).Readable Json.lenient.depth)
    (fits : Engine.validate mode (.obj e) = .ok r) :
    Transported (sole (Json.compact (.obj e))) (.absolute ["out"]) mode "a.json" e r :=
  ⟨⟨_, Json.read_compact readable⟩, fits, moduleDirectory_sole _, enumerated_sole _, rfl⟩

def wireNamed : Json.Entries :=
  [("createdFiles", .arr [.obj [("filePath", .str "/o/A.kt")]]),
    ("messages", .arr [.obj [("level", .str "WARN"), ("message", .str "été")]])]

def wireNamedResponse : Response :=
  .create ⟨[⟨"/o/A.kt"⟩], [.plain .warn "été"]⟩

theorem validate_sole_module_of_wireNamed :
    Transported (sole (Json.compact (.obj wireNamed))) (.absolute ["out"]) .create "a.json" wireNamed
        wireNamedResponse ∧
      ∃ p, aggregate (sole (Json.compact (.obj wireNamed))) (.absolute ["out"]) .create =
          .ok ⟨payload .create p, ["a.json"]⟩ ∧
        Engine.validate .create (payload .create p) = .ok wireNamedResponse := by
  have readable : (Json.obj wireNamed).Readable Json.lenient.depth := by
    simp [wireNamed, Json.Readable, Json.ReadableItems, Json.ReadableMembers, Json.keys, Json.lenient]
  have fits : Engine.validate .create (.obj wireNamed) = .ok wireNamedResponse := rfl
  have transported := transported_sole readable fits
  obtain ⟨p, r', aggregated, agrees, -, -, same, -⟩ := validate_sole_module transported
  rw [same.2 (.inr (.inl rfl))] at agrees
  exact ⟨transported, p, aggregated, agrees⟩

def otherNamed : Json.Entries :=
  [("created_files", .arr [.obj [("filePath", .str "/o/A.kt")]]), ("messages", .arr [])]

/-- The response by itself tells of a created file, its module does not. -/
theorem files_lost_of_otherNamed :
    Transported (sole (Json.compact (.obj otherNamed))) (.absolute ["out"]) .create "a.json" otherNamed
        (.create ⟨[⟨"/o/A.kt"⟩], []⟩) ∧
      ∃ p, aggregate (sole (Json.compact (.obj otherNamed))) (.absolute ["out"]) .create =
          .ok ⟨payload .create p, ["a.json"]⟩ ∧
        Engine.validate .create (payload .create p) = .ok (.create ⟨[], []⟩) := by
  have readable : (Json.obj otherNamed).Readable Json.lenient.depth := by
    simp [otherNamed, Json.Readable, Json.ReadableItems, Json.ReadableMembers, Json.keys, Json.lenient]
  have transported := @transported_sole .create otherNamed (.create ⟨[⟨"/o/A.kt"⟩], []⟩) readable rfl
  have decodes : Decodes (sole (Json.compact (.obj otherNamed))) .create
      ((Path.absolute ["out"]).child "a.json") ⟨[], []⟩ :=
    decodes_of_written readable transported.written (.absent rfl) (.list rfl)
  exact ⟨transported, _, aggregate_sole transported.modules transported.alone decodes, rfl⟩

end ParserHost.Modules
