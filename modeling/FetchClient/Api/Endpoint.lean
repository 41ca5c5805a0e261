import FetchClient.Api.Description
import FetchClient.Api.MethodName
import FetchClient.Text.Quoted

/-!
# Endpoints of a client

- `Endpoint`: what the text of one client method depends on;
- `Endpoint.ofOperations`: the endpoints of a list of operations, with names that differ from one
  another and from the client's own members.
-/

namespace FetchClient

structure Endpoint where
  methodName : String
  path : String
  /-- The path as it is written inside single quotes. -/
  pathLiteral : String
  verb : Verb
  hasRequestBody : Bool
  operationId : Option String
  tags : List String
  deriving DecidableEq, Repr

namespace Endpoint

/-- The endpoint of an operation that was given a name. -/
def ofOperation (op : Operation) (methodName : String) : Endpoint where
  methodName := methodName
  path := op.path
  pathLiteral := String.ofList (Text.Quoted.encode op.path.toList)
  verb := op.verb
  hasRequestBody := op.hasRequestBody
  operationId := op.operationId
  tags := op.tags.getD []

/-- The endpoints of operations, which claim their names in order. -/
def named (registry : MethodName.Registry) : List Operation → Logged (List Endpoint)
  | [] => pure []
  | op :: ops => do
    let (name, registry) ← registry.claim (MethodName.ofOperation op)
    let others ← named registry ops
    return ofOperation op name :: others

/-- The endpoints of a list of operations. -/
def ofOperations (ops : List Operation) : Logged (List Endpoint) :=
  named (.ofList MethodName.reserved) ops

/-- The endpoint as an object. -/
def toValue (endpoint : Endpoint) : Value :=
  .object
    [("method_name", .string endpoint.methodName),
     ("path", .string endpoint.path),
     ("path_literal", .string endpoint.pathLiteral),
     ("method", .string endpoint.verb.token),
     ("has_request_body", .bool endpoint.hasRequestBody),
     ("operation_id", (endpoint.operationId.map .string).getD .null),
     ("tags", .array (endpoint.tags.map .string))]

end Endpoint

end FetchClient
