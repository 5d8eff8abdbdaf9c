import ParserHost.Number.Double

/-!
JSON values. Objects are ordered: a key that comes twice keeps its first place and takes its last
value (`put`). A string that an escape left with an unpaired surrogate is no text; it has a
constructor of its own, which holds its code points.

Main statement: no key comes twice after `put` (`nodup_keys_put`).
-/
namespace ParserHost

inductive Json where
  | null
  | bool (b : Bool)
  | int (n : Int)
  | float (x : Double)
  | str (s : String)
  | broken (codes : List Nat)
  | arr (items : List Json)
  | obj (entries : List (String × Json))
  deriving Inhabited, Repr, BEq

namespace Json

abbrev Entries := List (String × Json)

def get? (key : String) : Entries → Option Json
  | [] => none
  | (k, v) :: rest => if k = key then some v else get? key rest

def put {α : Type} (key : String) (value : α) : List (String × α) → List (String × α)
  | [] => [(key, value)]
  | (k, v) :: rest => if k = key then (key, value) :: rest else (k, v) :: put key value rest

def ofList {α : Type} (pairs : List (String × α)) : List (String × α) :=
  pairs.foldl (fun entries (k, v) => put k v entries) []

def erase (key : String) (entries : Entries) : Entries :=
  entries.filter fun (k, _) => k != key

def keys (entries : Entries) : List String :=
  entries.map Prod.fst

theorem mem_keys_put {key other : String} {value : Json} {entries : Entries} :
    other ∈ keys (put key value entries) ↔ other = key ∨ other ∈ keys entries := by
  induction entries with
  | nil => simp [put, keys]
  | cons e rest ih =>
    obtain ⟨k, v⟩ := e
    simp only [keys] at ih
    by_cases hk : k = key
    · subst hk
      simp [put, keys]
    · simp only [put, hk, if_false, keys, List.map_cons, List.mem_cons, ih]
      grind

theorem nodup_keys_put {key : String} {value : Json} {entries : Entries}
    (h : (keys entries).Nodup) : (keys (put key value entries)).Nodup := by
  induction entries with
  | nil => simp [put, keys]
  | cons e rest ih =>
    obtain ⟨k, v⟩ := e
    simp only [keys, List.map_cons, List.nodup_cons] at h
    by_cases hk : k = key
    · subst hk
      simpa [put, keys] using h
    · have : k ∈ keys (put key value rest) ↔ k = key ∨ k ∈ keys rest := mem_keys_put
      simp only [keys] at this ih
      simp only [put, hk, if_false, keys, List.map_cons, List.nodup_cons, this]
      exact ⟨by simp [h.1], ih h.2⟩

/-- The value under a key; there is none in a value that is no object. -/
def field? (key : String) : Json → Option Json
  | obj entries => get? key entries
  | _ => none

mutual
/-- The value as documents carry it: numbers that are not finite become null, at any depth. -/
def finiteOnly : Json → Json
  | float x => if x.isFinite then float x else null
  | arr items => arr (finiteItems items)
  | obj entries => obj (finiteEntries entries)
  | v => v

def finiteItems : List Json → List Json
  | [] => []
  | v :: rest => finiteOnly v :: finiteItems rest

def finiteEntries : Entries → Entries
  | [] => []
  | (k, v) :: rest => (k, finiteOnly v) :: finiteEntries rest
end

def record : List (String × Option Json) → Entries
  | [] => []
  | (key, some v) :: rest => (key, v) :: record rest
  | (_, none) :: rest => record rest

end Json

end ParserHost
