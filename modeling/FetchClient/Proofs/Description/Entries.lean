import FetchClient.Api.Description
import Mathlib.Data.List.Basic

/-!
# The entries of a description

- `Description.Entry`, `Description.entries`: the entries of all path items, in document order;
- `Description.value_gather`: the operations are those of the entries, one by one;
- `Description.operations?_eq_some_iff`: a document tree has operations if it has an object of paths.
-/

namespace FetchClient.Description

/-- An entry of a path item, with the path that it stands under. -/
structure Entry where
  path : String
  key : String
  value : Value

/-- The entries of a path item, which has none if it is no object. -/
def entriesOf (item : String × Value) : List Entry :=
  match item.2 with
  | .object entries => entries.map fun entry => ⟨item.1, entry.1, entry.2⟩
  | _ => []

/-- The entries of all path items, in document order. -/
def entries (paths : List (String × Value)) : List Entry :=
  paths.flatMap entriesOf

/-- The operation that an entry is, if it is one. -/
def Entry.operation? (entry : Entry) : Option Operation :=
  match Verb.ofText? entry.key, entry.value with
  | some verb, .object members => some (.ofMembers entry.path verb members)
  | _, _ => none

theorem value_operationsAt (path : String) (entry : String × Value) :
    (operationsAt path entry).value = (Entry.operation? ⟨path, entry.1, entry.2⟩).toList := by
  obtain ⟨key, value⟩ := entry
  cases hverb : Verb.ofText? key <;> cases value <;>
    simp [operationsAt, Entry.operation?, Value.members?, hverb]

theorem value_operationsUnder (item : String × Value) :
    (operationsUnder item).value = (entriesOf item).filterMap Entry.operation? := by
  obtain ⟨path, value⟩ := item
  cases value with
  | object members =>
    show members.flatMap (fun entry => (operationsAt path entry).value) = _
    rw [entriesOf, List.filterMap_map, List.filterMap_eq_flatMap_toList]
    exact List.flatMap_congr fun entry _ => value_operationsAt path entry
  | _ => rfl

/-- The operations under paths are the entries that are operations. -/
theorem value_gather (paths : List (String × Value)) :
    (gather operationsUnder paths).value = (entries paths).filterMap Entry.operation? := by
  show paths.flatMap (fun item => (operationsUnder item).value) = _
  rw [entries, List.filterMap_flatMap]
  exact List.flatMap_congr fun item _ => value_operationsUnder item

/-- A document tree has operations exactly if it has an object of paths. -/
theorem operations?_eq_some_iff {root : Value} {found : Logged (List Operation)} :
    operations? root = some found ↔
      ∃ paths, root.member? "paths" = some (.object paths) ∧ found = gather operationsUnder paths := by
  rw [operations?]
  cases root.member? "paths" with
  | none => simp
  | some value => cases value <;> simp [Value.members?, eq_comm]

end FetchClient.Description
