import ParserHost.Proofs.Exchange.Documents
import ParserHost.Proofs.Run.Aggregation
import ParserHost.Proofs.Run.Documents

/-!
# Published documents as text

The documents that a run without handlers publishes have payloads that text can name
(`readable_of_returned`): what a process or its modules answer is read from text, and publishing changes
nothing but texts.
-/

namespace ParserHost

/-! ## Responses -/

theorem Document.nameable_of_fits {vs : List Json} {docs : List Document} {room : Nat}
    (readable : (Json.arr vs).Readable (room + 3)) (fits : Fits check vs docs) :
    ∀ d ∈ docs, d.Nameable (room + 1) := by
  intro d member
  obtain ⟨v, there, fit⟩ := (exists_of_mem_forall₂ fits).1 d member
  exact nameable_of_check (Json.readable_of_mem readable there) fit

namespace Response

variable {mode : Mode} {v : Json} {r : Response} {room : Nat}

theorem nameable_of_check (readable : v.Readable (room + 4)) (fits : check mode v = .ok r) :
    ∀ d ∈ r.documents, d.Nameable (room + 1) := by
  cases mode with
  | create =>
    obtain ⟨c, -, rfl⟩ := map_eq_checked.1 fits
    exact nofun
  | parse =>
    obtain ⟨p, whole, rfl⟩ := map_eq_checked.1 fits
    cases v with
    | null | bool | int | float | str | broken | arr => cases whole
    | obj e =>
      obtain ⟨_, ms, made, -, rfl⟩ := seq_eq_ok_iff.1 whole
      obtain ⟨docs, given, rfl⟩ := fmap_eq_ok_iff.1 made
      obtain ⟨w, named, items⟩ := Schema.of_required (Json.readable_of_entry readable) given
      cases w with
      | null | bool | int | float | str | broken | obj => cases items
      | arr vs => exact Document.nameable_of_fits named (tuple_eq_ok.1 items)

end Response

namespace Modules

variable {mode : Mode} {t : FileTree} {directory : Path} {name : String} {r : Response}

theorem nameable_of_holds (holds : Holds t mode directory name r) :
    ∀ d ∈ r.documents, d.Nameable 987 := by
  obtain ⟨p, taken, whole⟩ := holds
  obtain ⟨bytes, text, e, -, -, read, results, -⟩ := (parts_eq_ok.1 taken).object
  cases check_payload.1 whole with
  | create => exact nofun
  | parse fits =>
    generalize p.results = vs at results fits
    cases results with
    | absent missing =>
      cases fits
      exact nofun
    | list found =>
      have readable := Json.readable_of_entry (Json.readable_of_read read) _ (Json.mem_of_get? found)
      exact Document.nameable_of_fits readable fits

end Modules

/-! ## Runs -/

namespace Engine
open Invocation Modules

variable {e : Engine} {request : Request} {t : FileTree} {r : Response} {ms : List Message} {o : Outcome}

theorem nameable_of_origin (none : e.handlers = []) (origin : Origin e request t r ms) :
    ∀ d ∈ r.documents, d.Nameable 987 := by
  cases origin with
  | handler kind planned answered fits =>
    have held : e.handlers.handler? e.config.parser = some _ := Plan.handler?_of_call planned.planned
    rw [none] at held
    cases held
  | output kind ran written fits =>
    exact Response.nameable_of_check (Json.readable_of_read written) fits
  | @modules x directory files rs kind ran output listed each =>
    intro d member
    cases mode : request.mode with
    | create =>
      rw [mode] at member
      cases member
    | parse =>
      rw [mode] at member
      obtain ⟨r, here, member⟩ := List.mem_flatMap.1 member
      obtain ⟨name, -, holds⟩ := (exists_of_mem_forall₂ each).1 r here
      exact nameable_of_holds holds d member

theorem nameable_of_finalized {first d : Document} {room : Nat} (finalized : Finalized e t first d)
    (nameable : first.Nameable room) : d.Nameable room := by
  obtain ⟨repository, u, -, stamped⟩ := finalized
  obtain ⟨source, -, rfl⟩ := map_eq_ok.1 stamped
  exact ⟨nameable.data, nameable.line, nameable.variants⟩

/-- The payloads of the documents that a run publishes, as one array. -/
theorem readable_of_returned (none : e.handlers = []) (returned : (e.answer .parse t).result = .ok o)
    (succeeded : o.status ≠ .failure) :
    (Json.arr (o.documents.map Document.toJson)).Readable Json.lenient.depth := by
  obtain ⟨R, ⟨request, r, ms, -, -, origin, rfl⟩, each⟩ := given_of_returned returned succeeded
  refine ⟨by decide, Json.readableItems_iff.2 fun v member => ?_⟩
  obtain ⟨d, here, rfl⟩ := List.mem_map.1 member
  obtain ⟨key, -, first, found, finalized⟩ := (exists_of_mem_forall₂ each).1 d here
  have nameable := nameable_of_origin none origin first (List.mem_of_find?_eq_some found)
  have readable := Document.readable_toJson (nameable_of_finalized finalized nameable) (by decide)
  exact readable.mono (by decide)

end Engine

end ParserHost
