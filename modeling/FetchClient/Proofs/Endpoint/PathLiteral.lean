import FetchClient.Proofs.Endpoint.Naming
import FetchClient.Proofs.Text.Quoted

/-!
# The paths of endpoints as literals

- `Endpoint.path_literals_read_back`: between single quotes the path of an endpoint is read back,
  whatever characters it has and whatever stands behind it.
-/

namespace FetchClient.Endpoint

open Text.Quoted

theorem toList_pathLiteral_ofOperation (op : Operation) (methodName : String) :
    (ofOperation op methodName).pathLiteral.toList = encode op.path.toList :=
  String.toList_ofList

/-- What is made of every endpoint without its name is made of the operations alone. -/
theorem map_ofOperations {α : Type} {f : Endpoint → α} {g : Operation → α}
    (h : ∀ op methodName, f (ofOperation op methodName) = g op) (ops : List Operation) :
    (ofOperations ops).value.map f = ops.map g := by
  have hlength : ops.length ≤ (methodNames ops).length := Nat.le_of_eq (length_methodNames ops).symm
  rw [value_ofOperations, List.map_zipWith]
  calc List.zipWith (fun op name => f (ofOperation op name)) ops (methodNames ops)
      = List.zipWith (fun op _ => g op) ops (methodNames ops) := by
        simp only [h]
    _ = ((ops.zip (methodNames ops)).map Prod.fst).map g := by
        rw [List.map_map, List.map_zip_eq_zipWith]
        rfl
    _ = ops.map g := by rw [List.map_fst_zip hlength]

/-- **Path literals**: a text that is quoted, between two single quotes, is read as that text; the
reader stops at the second quote, and leaves what stands behind that. The reader finds exactly the
literals, whose insides are made of plain characters and of the four escapes. So texts that are
quoted alike are the same; there is no line break in what is quoted, an odd number of backslashes in
front of every quote in it, and an even number at its end. The paths of endpoints are quoted in this
way. -/
theorem path_literals_read_back :
    (∀ text rest : List Char,
      literal? ('\'' :: (encode text ++ '\'' :: rest)) = some (text, rest)) ∧
    (∀ input text rest : List Char, literal? input = some (text, rest) ↔
      ∃ inside, input = '\'' :: (inside ++ '\'' :: rest) ∧ Spells inside text) ∧
    Function.Injective encode ∧
    (∀ text : List Char, '\n' ∉ encode text ∧ '\r' ∉ encode text ∧
      QuotesEscaped (encode text) ∧ Even (backslashes (encode text))) ∧
    ∀ (ops : List Operation) (rest : List Char),
      (ofOperations ops).value.map (fun endpoint =>
          literal? ('\'' :: (endpoint.pathLiteral.toList ++ '\'' :: rest))) =
        ops.map fun op => some (op.path.toList, rest) := by
  refine ⟨decode_encode_append, fun _ _ _ => literal?_eq_some_iff, encode_injective,
    fun text => ⟨not_mem_encode (.inl rfl) text, not_mem_encode (.inr rfl) text,
      quotesEscaped_encode text, even_backslashes_encode text⟩, fun ops rest => ?_⟩
  refine map_ofOperations (fun op methodName => ?_) ops
  rw [toList_pathLiteral_ofOperation]
  exact decode_encode_append _ _

/-- A text with a quote behind a backslash and another backslash at its end. If it stood between
quotes as it is, both quotes behind backslashes would be escaped and the literal would not end. -/
example :
    encode ['a', '\\', '\'', '\\'] = ['a', '\\', '\\', '\\', '\'', '\\', '\\'] ∧
      literal? ['\'', 'a', '\\', '\'', '\\', '\''] = none := by
  decide

end FetchClient.Endpoint
