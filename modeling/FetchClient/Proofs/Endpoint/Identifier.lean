import FetchClient.Proofs.Endpoint.Naming
import FetchClient.Proofs.MethodName.Identifier

/-!
# Which method names are identifiers

- `Endpoint.map_isIdentifier_methodName`: the name of a method is an identifier exactly when no
  letter of what it is made from gets a mark by a change of case.

Characters are dropped before letters change their case, and a few letters change into a letter with
a mark behind it that nothing drops any more. So not every name is an identifier.
-/

namespace FetchClient.Endpoint

open Text (isIdentifier fitsIdentifier)

theorem isIdentifier_of_getElem?_methodNames {ops : List Operation} {i : Nat} {op : Operation}
    {name : String} (hop : ops[i]? = some op) (hname : (methodNames ops)[i]? = some name) :
    isIdentifier name.toList = fitsIdentifier (MethodName.base op.verb op.path op.operationId) := by
  have hasked : (MethodName.ofOperation op).toList ≠ [] := MethodName.toList_resolve_ne_nil _ _ _
  obtain ⟨hvariant, -⟩ := getElem?_methodNames hop hname
  rw [MethodName.isIdentifier_of_isVariant hasked hvariant, MethodName.ofOperation,
    MethodName.isIdentifier_resolve]

/-- **Identifiers**: whether the name of a method is an identifier depends on nothing but what the
name is made from, and is told by `Text.fitsIdentifier`. Numbers put behind it do not matter. -/
theorem map_isIdentifier_methodName (ops : List Operation) :
    (ofOperations ops).value.map (fun endpoint => isIdentifier endpoint.methodName.toList) =
      ops.map fun op => fitsIdentifier (MethodName.base op.verb op.path op.operationId) := by
  have hnames : (ofOperations ops).value.map
      (fun endpoint => isIdentifier endpoint.methodName.toList) =
        (methodNames ops).map fun name => isIdentifier name.toList := by
    rw [← map_methodName_ofOperations, List.map_map]
    rfl
  rw [hnames]
  apply List.ext_getElem (by rw [List.length_map, List.length_map, length_methodNames])
  intro i hi hi'
  rw [List.length_map] at hi hi'
  rw [List.getElem_map, List.getElem_map]
  exact isIdentifier_of_getElem?_methodNames (List.getElem?_eq_getElem hi')
    (List.getElem?_eq_getElem hi)

/-- Two operations with names that are no identifiers: a capital I with a dot above gets a mark in
lower case, and a j with a caron behind a dropped character gets one in upper case. -/
theorem exists_methodName_not_isIdentifier :
    (ofOperations
        [⟨"/x", .get, some (String.ofList ['\u0130', 'd']), none, none, none⟩,
         ⟨"/y", .get, some (String.ofList ['a', '-', '\u01f0']), none, none, none⟩]).value.map
          (fun endpoint => (endpoint.methodName.toList, isIdentifier endpoint.methodName.toList)) =
      [(['i', '\u0307', 'd'], false), (['a', 'J', '\u030c'], false)] := by
  decide +kernel

end FetchClient.Endpoint
