/-
Lists of records, where a record is replaced in place or appended, and finite maps from texts.

A map is kept as a list of entries in ascending key order, keys compared by code point. `SortedMap.insert` replaces the entry
of its key or makes one at its place, so a map built by it from the empty list has every key once and in order.
-/
namespace Telemetry

/-- the first record that is the same as a new one gives way to it; if there is none, the new one goes to the end -/
def putRecord {α : Type} (same : α → Bool) (new : α) : List α → List α
  | [] => [new]
  | old :: rest => if same old then new :: rest else old :: putRecord same new rest

theorem putRecord_cases {α : Type} (same : α → Bool) (new : α) (records : List α) :
    (∃ before old after, records = before ++ old :: after ∧ same old = true ∧
      putRecord same new records = before ++ new :: after) ∨
    ((∀ old ∈ records, same old = false) ∧ putRecord same new records = records ++ [new]) := by
  induction records with
  | nil => exact Or.inr ⟨by simp, rfl⟩
  | cons r records ih =>
    cases hr : same r with
    | true => exact Or.inl ⟨[], r, records, rfl, hr, by simp [putRecord, hr]⟩
    | false =>
      rcases ih with ⟨before, old, after, rfl, hold, hput⟩ | ⟨hnone, hput⟩
      · exact Or.inl ⟨r :: before, old, after, rfl, hold, by simp [putRecord, hr, hput]⟩
      · exact Or.inr ⟨List.forall_mem_cons.2 ⟨hr, hnone⟩, by simp [putRecord, hr, hput]⟩

/-! ## Sorted maps -/

/-- entries in ascending key order -/
abbrev SortedMap (α : Type) := List (String × α)

namespace SortedMap

variable {α : Type}

/-- the map with one entry set -/
def insert (key : String) (value : α) : SortedMap α → SortedMap α
  | [] => [(key, value)]
  | (k, v) :: rest =>
    if key < k then (key, value) :: (k, v) :: rest
    else if key = k then (key, value) :: rest
    else (k, v) :: insert key value rest

def get? (key : String) (m : SortedMap α) : Option α :=
  (m.find? (·.1 == key)).map (·.2)

def keys (m : SortedMap α) : List String :=
  m.map (·.1)

/-- entries inserted one after another; of two with one key the later stays -/
def ofList (entries : List (String × α)) : SortedMap α :=
  entries.foldl (fun m entry => m.insert entry.1 entry.2) []

end SortedMap

/-- distinct texts in ascending order -/
def sortedDistinct (names : List String) : List String :=
  (SortedMap.ofList (names.map fun name => (name, ()))).keys

end Telemetry
