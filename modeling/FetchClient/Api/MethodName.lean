import FetchClient.Api.Operation
import FetchClient.Log
import FetchClient.Text.Identifier
import FetchClient.Text.Pieces

/-!
# Names of client methods

- `MethodName.base`, `MethodName.resolve`: the name that an operation asks for, before and after it is
  made into an identifier;
- `MethodName.Registry`: the names handed out so far;
- `MethodName.Registry.claim`: the name itself or its first free numbered variant.
-/

namespace FetchClient.MethodName

/-! ## The name of one operation -/

/-- The segments of a path that name something: neither empty nor parameters in braces. -/
def namingSegments (path : String) : List (List Char) :=
  (Text.pieces (· == '/') path.toList).filter fun segment =>
    !segment.isEmpty && segment.head? != some '{'

/-- The name made from the verb and the path: `GET /users/{id}/comments` gives
`getUsersComments`. -/
def synthesize (verb : Verb) (path : String) : List Char :=
  verb.word.toList ++
    (namingSegments path).flatMap fun segment => Text.upperFirst (Text.sanitize segment)

/-- What the name of an operation is made from: its identifier if it has one, else the synthesized
name. -/
def base (verb : Verb) (path : String) : Option String → List Char
  | some id => if id.isEmpty then synthesize verb path else id.toList
  | none => synthesize verb path

/-- The name of an operation, made into an identifier that begins in lower case. A name with nothing
left in it becomes the verb. -/
def resolve (verb : Verb) (path : String) (operationId : Option String) : String :=
  let name := Text.lowerFirst (Text.sanitize (base verb path operationId))
  if name.isEmpty then verb.word else String.ofList name

/-- The name of an operation in a description. -/
def ofOperation (op : Operation) : String :=
  resolve op.verb op.path op.operationId

/-! ## Names in use -/

/-- The members that the client class defines for itself. -/
def reserved : List String :=
  ["constructor", "request", "baseUrl", "defaultOptions"]

/-- The names that are in use. -/
structure Registry where
  taken : List String
  deriving Repr

namespace Registry

/-- A registry where the given names are in use. -/
def ofList (names : List String) : Registry := ⟨names⟩

/-- A numbered variant of a name. -/
def numbered (name : String) (number : Nat) : String :=
  name ++ toString number

/-- The first free variant, counting from two. Of as many variants as there are names in use at
least one is free when the bare name is in use. -/
def firstFree (registry : Registry) (name : String) : String :=
  match (List.range' 2 registry.taken.length).find? fun number =>
      !registry.taken.contains (numbered name number) with
  | some number => numbered name number
  | none => numbered name (registry.taken.length + 2)

/-- What is said when a name is changed. -/
def renamedMessage (name given : String) : String :=
  "Method name '" ++ name ++ "' is already in use; emitting '" ++ given ++ "' instead"

/-- Hands out a name: itself when it is free, else its first free variant, with a warning. -/
def claim (registry : Registry) (name : String) : Logged (String × Registry) :=
  if registry.taken.contains name then
    let given := registry.firstFree name
    ⟨(given, ⟨given :: registry.taken⟩), [⟨.warn, renamedMessage name given⟩]⟩
  else ⟨(name, ⟨name :: registry.taken⟩), []⟩

/-- Hands out names in order. -/
def claimAll (registry : Registry) : List String → Logged (List String)
  | [] => pure []
  | name :: names => do
    let (given, registry) ← registry.claim name
    let others ← registry.claimAll names
    return given :: others

end Registry

end FetchClient.MethodName
