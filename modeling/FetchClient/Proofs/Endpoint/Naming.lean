import FetchClient.Api.Endpoint
import FetchClient.Proofs.MethodName.Registry

/-!
# The names of a client's methods

- `Endpoint.methodNames`: the names that a list of operations is given;
- `Endpoint.value_ofOperations`: the endpoints are the operations, each with its name;
- `Endpoint.members_distinct`: no two members of the client class share a name, and an operation
  keeps the name that it asks for unless that is taken.
-/

namespace FetchClient.Endpoint

open MethodName (Registry)

/-- The names that a list of operations is given, in order. -/
def methodNames (ops : List Operation) : List String :=
  ((Registry.ofList MethodName.reserved).claimAll (ops.map MethodName.ofOperation)).value

theorem length_methodNames (ops : List Operation) : (methodNames ops).length = ops.length := by
  rw [methodNames, Registry.length_claimAll, List.length_map]

theorem value_named (registry : Registry) (ops : List Operation) :
    (named registry ops).value =
      List.zipWith ofOperation ops
        (registry.claimAll (ops.map MethodName.ofOperation)).value := by
  induction ops generalizing registry with
  | nil => rfl
  | cons op ops ih =>
    obtain ⟨given, hclaimed⟩ := Registry.exists_claimed registry (MethodName.ofOperation op)
    rw [List.map_cons, Registry.value_claimAll_cons _ hclaimed, List.zipWith_cons_cons, ← ih]
    show ofOperation op (registry.claim (MethodName.ofOperation op)).value.1 ::
      (named (registry.claim (MethodName.ofOperation op)).value.2 ops).value = _
    rw [hclaimed.value]

/-- The endpoints of a list of operations are these operations, each with its name. -/
theorem value_ofOperations (ops : List Operation) :
    (ofOperations ops).value = List.zipWith ofOperation ops (methodNames ops) :=
  value_named _ ops

theorem length_ofOperations (ops : List Operation) :
    (ofOperations ops).value.length = ops.length := by
  rw [value_ofOperations, List.length_zipWith, length_methodNames, Nat.min_self]

theorem map_methodName_ofOperations (ops : List Operation) :
    (ofOperations ops).value.map (·.methodName) = methodNames ops := by
  have hlength : (methodNames ops).length ≤ ops.length := Nat.le_of_eq (length_methodNames ops)
  rw [value_ofOperations, List.map_zipWith]
  calc List.zipWith (fun _ name => name) ops (methodNames ops)
      = (ops.zip (methodNames ops)).map Prod.snd := (List.map_zip_eq_zipWith (f := Prod.snd)).symm
    _ = methodNames ops := List.map_snd_zip hlength

theorem map_hasRequestBody_ofOperations (ops : List Operation) :
    (ofOperations ops).value.map (·.hasRequestBody) = ops.map Operation.hasRequestBody := by
  have hlength : ops.length ≤ (methodNames ops).length := Nat.le_of_eq (length_methodNames ops).symm
  rw [value_ofOperations, List.map_zipWith]
  calc List.zipWith (fun op _ => op.hasRequestBody) ops (methodNames ops)
      = (ops.zip (methodNames ops)).map (Operation.hasRequestBody ∘ Prod.fst) :=
        (List.map_zip_eq_zipWith (f := Operation.hasRequestBody ∘ Prod.fst)).symm
    _ = ops.map Operation.hasRequestBody := by rw [← List.map_map, List.map_fst_zip hlength]

/-- The endpoint at a position is made of the operation and the name there. -/
theorem getElem?_ofOperations {ops : List Operation} {i : Nat} {op : Operation}
    {endpoint : Endpoint} (hop : ops[i]? = some op)
    (hendpoint : (ofOperations ops).value[i]? = some endpoint) :
    (methodNames ops)[i]? = some endpoint.methodName ∧
      endpoint = ofOperation op endpoint.methodName := by
  rw [value_ofOperations, List.getElem?_zipWith_eq_some] at hendpoint
  obtain ⟨op', name, hop', hname, rfl⟩ := hendpoint
  obtain rfl : op' = op := by rw [hop'] at hop; exact Option.some.inj hop
  exact ⟨hname, rfl⟩

/-- The name at a position is a variant of the one that the operation there asks for. -/
theorem getElem?_methodNames {ops : List Operation} {i : Nat} {op : Operation} {name : String}
    (hop : ops[i]? = some op) (hname : (methodNames ops)[i]? = some name) :
    Registry.IsVariant (MethodName.ofOperation op) name ∧
      (name = MethodName.ofOperation op ↔
        MethodName.ofOperation op ∉ MethodName.reserved ∧
          MethodName.ofOperation op ∉ (methodNames ops).take i) := by
  have hasked : (ops.map MethodName.ofOperation)[i]? = some (MethodName.ofOperation op) := by
    rw [List.getElem?_map, hop, Option.map_some]
  exact Registry.getElem?_claimAll hasked hname

/-- The names that come before a position are those of the endpoints there. -/
theorem mem_take_methodNames {ops : List Operation} {i : Nat} {name : String} :
    name ∈ (methodNames ops).take i ↔
      ∃ earlier ∈ (ofOperations ops).value.take i, earlier.methodName = name := by
  rw [← map_methodName_ofOperations, ← List.map_take, List.mem_map]

/-- The members that the client class defines for itself and the methods of its endpoints have
different names. -/
theorem nodup_reserved_append_methodNames (ops : List Operation) :
    (MethodName.reserved ++ methodNames ops).Nodup := by
  rw [List.nodup_append]
  refine ⟨by decide, Registry.nodup_claimAll _ _, ?_⟩
  rintro own hown name hname rfl
  exact Registry.not_mem_taken_of_mem_claimAll hname hown

/-- **Distinct members**: the endpoints are the operations in order, each with its path, verb and
body flag. No two members of the client class have the same name, those included that the class
defines for itself. An operation is called what it asks to be called unless the class has such a
member or an earlier operation was given that name, even if that name was made up for it. -/
theorem members_distinct (ops : List Operation) :
    (ofOperations ops).value.length = ops.length ∧
    (["constructor", "request", "baseUrl", "defaultOptions"] ++
      (ofOperations ops).value.map (·.methodName)).Nodup ∧
    ∀ (i : Nat) (op : Operation) (endpoint : Endpoint),
      ops[i]? = some op → (ofOperations ops).value[i]? = some endpoint →
        endpoint.path = op.path ∧ endpoint.verb = op.verb ∧
        endpoint.hasRequestBody = op.hasRequestBody ∧
        (endpoint.methodName = MethodName.ofOperation op ↔
          MethodName.ofOperation op ∉ ["constructor", "request", "baseUrl", "defaultOptions"] ∧
          ∀ earlier ∈ (ofOperations ops).value.take i,
            earlier.methodName ≠ MethodName.ofOperation op) := by
  refine ⟨length_ofOperations ops, ?_, ?_⟩
  · rw [map_methodName_ofOperations]
    exact nodup_reserved_append_methodNames ops
  · intro i op endpoint hop hendpoint
    obtain ⟨hname, hmade⟩ := getElem?_ofOperations hop hendpoint
    obtain ⟨-, hkept⟩ := getElem?_methodNames hop hname
    refine ⟨by rw [hmade]; rfl, by rw [hmade]; rfl, by rw [hmade]; rfl, hkept.trans ?_⟩
    refine and_congr_right fun _ => ?_
    rw [mem_take_methodNames]
    push Not
    rfl

/-- Four operations of which the first asks for the name of a member of the class, the second for
what looks like a numbered name, and the last two for one and the same name. -/
def collidingOperations : List Operation :=
  [⟨"/send", .post, some "Request", none, none, none⟩,
   ⟨"/people", .get, some "getUsers2", none, none, none⟩,
   ⟨"/users", .get, none, none, none, none⟩,
   ⟨"/users/{id}", .get, none, none, none, none⟩]

/-- The last of the colliding operations has to skip the number that is taken. -/
theorem members_distinct_colliding :
    collidingOperations[3]? = some ⟨"/users/{id}", .get, none, none, none, none⟩ ∧
    (ofOperations collidingOperations).value[3]? =
      some ⟨"getUsers3", "/users/{id}", "/users/{id}", .get, false, none, []⟩ ∧
    ¬ (MethodName.ofOperation ⟨"/users/{id}", .get, none, none, none, none⟩ ∉
        ["constructor", "request", "baseUrl", "defaultOptions"] ∧
      ∀ earlier ∈ (ofOperations collidingOperations).value.take 3,
        earlier.methodName ≠
          MethodName.ofOperation ⟨"/users/{id}", .get, none, none, none, none⟩) := by
  have hop : collidingOperations[3]? =
      some ⟨"/users/{id}", .get, none, none, none, none⟩ := rfl
  have hendpoint : (ofOperations collidingOperations).value[3]? =
      some ⟨"getUsers3", "/users/{id}", "/users/{id}", .get, false, none, []⟩ := by
    decide +kernel
  have hkept := ((members_distinct collidingOperations).2.2 3 _ _ hop hendpoint).2.2.2
  refine ⟨hop, hendpoint, fun hfree => ?_⟩
  have hbare := hkept.mpr hfree
  revert hbare
  decide

end FetchClient.Endpoint
