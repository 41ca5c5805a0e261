import FetchClient.Api.Verb
import FetchClient.Json.Reader

/-!
# Operations of a description

- `Operation`: what one verb under one path means;
- `Operation.ofMembers`: the operation that an object in a description describes, lenient about
  members of the wrong kind;
- `Operation.toValue`, `Operation.ofFields?`: the operation as an object with six fixed members,
  and back, strict about every one of them;
- `Operation.ofSyntax?`: the strict reader on a JSON text's tree.
-/

namespace FetchClient

structure Operation where
  path : String
  verb : Verb
  operationId : Option String
  requestBody : Option Value
  responses : Option Value
  tags : Option (List String)
  deriving Repr

namespace Operation

/-- Whether the operation's request body lists at least one kind of content. -/
def hasRequestBody (op : Operation) : Bool :=
  match (op.requestBody.bind (·.member? "content")).bind Value.members? with
  | some content => !content.isEmpty
  | none => false

/-- The operation that the members of an object describe. Members of the wrong kind count as
absent; a request body and responses may be anything. -/
def ofMembers (path : String) (verb : Verb) (members : List (String × Value)) : Operation where
  path := path
  verb := verb
  operationId := (members.lookup "operationId").bind Value.text?
  requestBody := members.lookup "requestBody"
  responses := members.lookup "responses"
  tags := ((members.lookup "tags").bind Value.items?).map (·.filterMap Value.text?)

/-! ## The written form -/

/-- The names of the members of the written form, in order. -/
def fieldNames : List String :=
  ["path", "method", "operationId", "requestBody", "responses", "tags"]

/-- The operation as an object. Absent parts are written as null. -/
def toValue (op : Operation) : Value :=
  .object
    [("path", .string op.path),
     ("method", .string op.verb.token),
     ("operationId", (op.operationId.map .string).getD .null),
     ("requestBody", op.requestBody.getD .null),
     ("responses", op.responses.getD .null),
     ("tags", (op.tags.map fun tags => .array (tags.map .string)).getD .null)]

/-- A verb is written as its token. An object whose only member has the token for its key and null
for its value is read too. -/
def verbOfValue? : Value → Option Verb
  | .string token => Verb.ofToken? token
  | .object [(token, .null)] => Verb.ofToken? token
  | _ => none

/-- An optional member: absent or null is nothing, anything else has to be readable. -/
def optional? {α : Type} (read : Value → Option α) : Option Value → Option (Option α)
  | none => some none
  | some .null => some none
  | some value => (read value).map some

/-- A list of texts and nothing else. -/
def texts? (value : Value) : Option (List String) :=
  value.items?.bind (·.mapM Value.text?)

/-- Whether a known field stands in the list twice. -/
def repeatsField (fields : List (String × Value)) : Bool :=
  fieldNames.any fun name => 1 < fields.countP (·.1 = name)

/-- The operation that a list of fields describes. Path and method have to be there, fields with
other names are passed over, and no known field may be repeated. -/
def ofFields? (fields : List (String × Value)) : Option Operation := do
  guard (!repeatsField fields)
  let path ← (fields.lookup "path").bind Value.text?
  let verb ← (fields.lookup "method").bind verbOfValue?
  let operationId ← optional? Value.text? (fields.lookup "operationId")
  let requestBody ← optional? some (fields.lookup "requestBody")
  let responses ← optional? some (fields.lookup "responses")
  let tags ← optional? texts? (fields.lookup "tags")
  return ⟨path, verb, operationId, requestBody, responses, tags⟩

/-- The operation that a value describes: an object, or a list of the six fields in order. -/
def ofValue? : Value → Option Operation
  | .object fields => ofFields? fields
  | .array items =>
    if items.length = fieldNames.length then ofFields? (fieldNames.zip items) else none
  | _ => none

/-- The known fields among the members of an object. The values of unknown members are not looked
at. -/
def knownFields? : List (List Json.Unit16 × Json.Syntax) → Option (List (String × Value))
  | [] => some []
  | (key, tree) :: members => do
    let name := String.ofList (← Json.unitsText? key)
    let others ← knownFields? members
    if fieldNames.contains name then
      let value ← tree.value? (Json.maxDepth - 1)
      return (name, value) :: others
    else return others

/-- The operation that a JSON text's tree describes. -/
def ofSyntax? : Json.Syntax → Option Operation
  | .object members => (knownFields? members).bind ofFields?
  | .array items => (Json.itemValues? items (Json.maxDepth - 1)).bind fun items => ofValue? (.array items)
  | _ => none

/-- The operation that a JSON text describes. -/
def read? (text : String) : Option Operation :=
  (Json.Syntax.read? text.toList).bind ofSyntax?

end Operation

end FetchClient
