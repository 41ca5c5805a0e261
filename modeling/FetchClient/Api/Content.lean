import FetchClient.Api.Description
import FetchClient.Error
import FetchClient.Yaml.Reader

/-!
# The text of a description

- `Content.value`: the document tree of a text, which is JSON or else YAML;
- `Content.operations`: the operations in a tree;
- `Content.description`: the description in a text.
-/

namespace FetchClient.Content

/-- The document tree of a text. -/
def value (text : String) : Except Error Value :=
  match Json.read? text with
  | some value => .ok value
  | none =>
    match Yaml.read? text with
    | some value => .ok value
    | none => .error (.parse none .malformed)

/-- The operations in a document tree. -/
def operations (root : Value) : Except Error (Logged (List Operation)) :=
  match Description.operations? root with
  | some operations => .ok operations
  | none => .error (.parse none .missingPaths)

/-- The description in a document tree. -/
def describe (root : Value) : Except Error (Logged Description) :=
  match Description.ofValue? root with
  | some description => .ok description
  | none => .error (.parse none .missingPaths)

/-- The description in a text. -/
def description (text : String) : Except Error (Logged Description) :=
  (value text).bind describe

end FetchClient.Content
