import FetchClient.Proofs.Endpoint.Naming

/-!
# Operations behind others

Names are claimed in order, so what comes later has no say in what came before.

- `Endpoint.laterNames`: the names of operations that stand behind others;
- `Endpoint.methodNames_append`, `Endpoint.ofOperations_append`: the names and the endpoints of
  operations with others behind them.
-/

namespace FetchClient.Endpoint

open MethodName (Registry)

/-- What operations are answered when they claim their names behind others. -/
def laterClaims (ops more : List Operation) : Logged (List String) :=
  ((Registry.ofList MethodName.reserved).after (ops.map MethodName.ofOperation)).claimAll
    (more.map MethodName.ofOperation)

/-- The names of operations that stand behind others. -/
def laterNames (ops more : List Operation) : List String :=
  (laterClaims ops more).value

theorem methodNames_append (ops more : List Operation) :
    methodNames (ops ++ more) = methodNames ops ++ laterNames ops more := by
  rw [methodNames, List.map_append, Registry.claimAll_append]
  rfl

/-- Only claims are spoken of. -/
theorem lines_named (registry : Registry) (ops : List Operation) :
    (named registry ops).lines = (registry.claimAll (ops.map MethodName.ofOperation)).lines := by
  induction ops generalizing registry with
  | nil => rfl
  | cons op ops ih =>
    rw [named, List.map_cons, Registry.claimAll, Logged.lines_bind, Logged.lines_bind,
      Logged.lines_bind, Logged.lines_bind, ih]
    rfl

/-- The endpoints of operations with others behind them begin with the endpoints that these
operations have by themselves, and so do the warnings. -/
theorem ofOperations_append (ops more : List Operation) :
    ofOperations (ops ++ more) =
      ⟨(ofOperations ops).value ++ List.zipWith ofOperation more (laterNames ops more),
        (ofOperations ops).lines ++ (laterClaims ops more).lines⟩ := by
  have hvalue : (ofOperations (ops ++ more)).value =
      (ofOperations ops).value ++ List.zipWith ofOperation more (laterNames ops more) := by
    rw [value_ofOperations, value_ofOperations, methodNames_append,
      List.zipWith_append (length_methodNames ops).symm]
  have hlines : (ofOperations (ops ++ more)).lines =
      (ofOperations ops).lines ++ (laterClaims ops more).lines := by
    rw [ofOperations, lines_named, List.map_append, Registry.claimAll_append, ofOperations,
      lines_named]
    rfl
  rw [← hvalue, ← hlines]

end FetchClient.Endpoint
