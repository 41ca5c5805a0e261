import FetchClient.Api.Content
import FetchClient.Api.Endpoint
import FetchClient.Client.BuiltIn
import FetchClient.Text.Comment

/-!
# Clients

- `Client`: the text of a client module and the name of its class;
- `Client.globals`: what a template can refer to;
- `Client.emit`: the client that a template gives for a description;
- `Client.render`: the client for the text of a description.
-/

namespace FetchClient

structure Client where
  className : String
  sourceText : String
  deriving DecidableEq, Repr

namespace Client

/-- A line of metadata as a template gets it. -/
def metadata (text : Option String) : Value :=
  match text with
  | some text => .string (String.ofList (Text.Comment.line text.toList))
  | none => .null

/-- What a template can refer to. -/
def globals (description : Description) (className : String) (endpoints : List Endpoint) :
    List (String × Value) :=
  [("class_name", .string className),
   ("title", metadata description.title?),
   ("version", metadata description.version?),
   ("endpoints", .array (endpoints.map Endpoint.toValue)),
   ("schemas", .object description.schemas)]

def resolvedMessage (description : Description) : String :=
  "Resolved " ++ toString description.operations.length ++ " endpoint(s) from '" ++
    description.title?.getD "untitled" ++ "'"

/-- The client that a template gives for a description. The name of the class has to be an
identifier. -/
def emit (template : Template) (description : Description) (className : String) :
    Logged (Except Error Client) := do
  Logged.write .debug (resolvedMessage description)
  if Text.isIdentifier className.toList then
    let endpoints ← Endpoint.ofOperations description.operations
    match template.render? (globals description className endpoints) with
    | some sourceText => return .ok ⟨className, sourceText⟩
    | none => return .error .template
  else return .error (.emit className)

/-- The client for the text of a description. -/
def render (template : Template) (content className : String) : Logged (Except Error Client) :=
  match Content.description content with
  | .error error => pure (.error error)
  | .ok description => do emit template (← description) className

end Client

end FetchClient
