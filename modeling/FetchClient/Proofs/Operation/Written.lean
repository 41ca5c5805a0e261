import FetchClient.Api.Description
import FetchClient.Api.MethodName

/-!
# Operations that are written and read back

The written form of an operation has the same members whatever the operation has, so a part that is
null cannot be told from one that is absent. Nothing else is lost.

- `Operation.withoutNulls`: an operation without the parts that are null;
- `Operation.ofFields?_fields`: the fields that are written are read back, one by one;
- `Operation.read_back`: a written operation is read back without these parts, and does not change
  in anything that a client shows of it.
-/

namespace FetchClient

namespace Value

def isNull : Value → Bool
  | .null => true
  | _ => false

end Value

namespace Operation

/-- A part that is not null. -/
def solid (part : Option Value) : Option Value :=
  part.filter fun value => !value.isNull

/-- The operation without the parts that are null. -/
def withoutNulls (op : Operation) : Operation :=
  { op with requestBody := solid op.requestBody, responses := solid op.responses }

variable {α : Type}

/-! ## Parts -/

theorem solid_getD (part : Option Value) : (solid part).getD .null = part.getD .null := by
  rcases part with - | - | - | - | - | - | - <;> rfl

theorem member?_solid (part : Option Value) (key : String) :
    (solid part).bind (·.member? key) = part.bind (·.member? key) := by
  rcases part with - | - | - | - | - | - | - <;> rfl

/-- An optional part that is written by one function and read by its inverse. -/
theorem optional?_getD {read : Value → Option α} {write : α → Value}
    (hread : ∀ a, read (write a) = some a) (hnull : ∀ a, (write a).isNull = false)
    (part : Option α) : optional? read (some ((part.map write).getD .null)) = some part := by
  cases part with
  | none => rfl
  | some a =>
    have hwritten := hread a
    have hsolid := hnull a
    show optional? read (some (write a)) = _
    cases hvalue : write a with
    | null =>
      rw [hvalue] at hsolid
      cases hsolid
    | _ =>
      rw [hvalue] at hwritten
      simp [optional?, hwritten]

/-- A part that may be anything is read back unless it is null. -/
theorem optional?_some_getD (part : Option Value) :
    optional? some (some (part.getD .null)) = some (solid part) := by
  rcases part with - | - | - | - | - | - | - <;> rfl

theorem texts?_array (texts : List String) :
    texts? (.array (texts.map .string)) = some texts := by
  show (texts.map Value.string).mapM Value.text? = some texts
  induction texts with
  | nil => rfl
  | cons text texts ih => rw [List.map_cons, List.mapM_cons, ih]; rfl

/-! ## Fields -/

/-- The members that are written. -/
def fields (op : Operation) : List (String × Value) :=
  [("path", .string op.path),
   ("method", .string op.verb.token),
   ("operationId", (op.operationId.map .string).getD .null),
   ("requestBody", op.requestBody.getD .null),
   ("responses", op.responses.getD .null),
   ("tags", (op.tags.map fun tags => .array (tags.map .string)).getD .null)]

theorem toValue_eq (op : Operation) : op.toValue = .object op.fields := rfl

theorem repeatsField_fields (op : Operation) : repeatsField op.fields = false := by
  simp [repeatsField, fieldNames, fields]

/-- The fields that are written are read back. -/
theorem ofFields?_fields (op : Operation) : ofFields? op.fields = some op.withoutNulls := by
  have htext : ∀ text, Value.text? (.string text) = some text := fun _ => rfl
  have hpath : (op.fields.lookup "path").bind Value.text? = some op.path := rfl
  have hverb : (op.fields.lookup "method").bind verbOfValue? = some op.verb :=
    Verb.ofToken?_token op.verb
  have hid : optional? Value.text? (op.fields.lookup "operationId") = some op.operationId :=
    optional?_getD htext (fun _ => rfl) op.operationId
  have hbody : optional? some (op.fields.lookup "requestBody") = some (solid op.requestBody) :=
    optional?_some_getD op.requestBody
  have hresponses : optional? some (op.fields.lookup "responses") = some (solid op.responses) :=
    optional?_some_getD op.responses
  have htags : optional? texts? (op.fields.lookup "tags") = some op.tags :=
    optional?_getD texts?_array (fun _ => rfl) op.tags
  rw [ofFields?, repeatsField_fields, hpath, hverb, hid, hbody, hresponses, htags]
  rfl

theorem ofValue?_toValue (op : Operation) : ofValue? op.toValue = some op.withoutNulls :=
  ofFields?_fields op

/-! ## What stays -/

theorem toValue_withoutNulls (op : Operation) : op.withoutNulls.toValue = op.toValue := by
  rw [toValue_eq, toValue_eq, fields, fields, withoutNulls, solid_getD, solid_getD]

theorem hasRequestBody_withoutNulls (op : Operation) :
    op.withoutNulls.hasRequestBody = op.hasRequestBody := by
  rw [hasRequestBody, hasRequestBody, withoutNulls, member?_solid]

/-- Operations are written in the same way exactly if they differ in null parts at most. -/
theorem toValue_eq_iff {op other : Operation} :
    op.toValue = other.toValue ↔ op.withoutNulls = other.withoutNulls := by
  constructor
  · intro h
    have hread := congrArg ofValue? h
    rw [ofValue?_toValue, ofValue?_toValue] at hread
    exact Option.some.inj hread
  · intro h
    rw [← toValue_withoutNulls, h, toValue_withoutNulls]

theorem mapM_ofValue? (ops : List Operation) :
    (ops.map toValue).mapM ofValue? = some (ops.map withoutNulls) := by
  induction ops with
  | nil => rfl
  | cons op ops ih => rw [List.map_cons, List.mapM_cons, ofValue?_toValue, ih]; rfl

/-- The operations in the written form of a description. -/
def written? (description : Value) : Option (List Operation) :=
  ((description.member? "endpoints").bind Value.items?).bind (·.mapM ofValue?)

/-- **Operations are read back**: what is written of an operation is read, as the operation without
the parts that are null. It has the same name, has a request body or not, has the same tags and the
same written form as before, and operations with the same written form differ in such parts at most.
So the operations of any description are read back from what is written of it. -/
theorem read_back (op : Operation) :
    ofValue? op.toValue = some op.withoutNulls ∧
    MethodName.ofOperation op.withoutNulls = MethodName.ofOperation op ∧
    op.withoutNulls.hasRequestBody = op.hasRequestBody ∧
    op.withoutNulls.tags = op.tags ∧
    op.withoutNulls.toValue = op.toValue ∧
    (∀ other : Operation, op.toValue = other.toValue ↔ op.withoutNulls = other.withoutNulls) ∧
    ∀ description : Description,
      written? description.toValue = some (description.operations.map withoutNulls) := by
  refine ⟨ofValue?_toValue op, rfl, hasRequestBody_withoutNulls op, rfl, toValue_withoutNulls op,
    fun _ => toValue_eq_iff, fun description => ?_⟩
  have hendpoints : (description.toValue.member? "endpoints").bind Value.items? =
      some (description.operations.map toValue) := rfl
  rw [written?, hendpoints, Option.bind_some, mapM_ofValue?]

end Operation

end FetchClient
