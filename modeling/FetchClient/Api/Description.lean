import FetchClient.Api.Operation
import FetchClient.Log

/-!
# Descriptions

- `Description`: what a client is generated from;
- `Description.operations?`: the operations of a document tree, in document order;
- `Description.ofValue?`: the description in a document tree.
-/

namespace FetchClient

structure Description where
  /-- Whatever stands under `info`, or null. -/
  info : Value
  operations : List Operation
  schemas : List (String × Value)
  deriving Repr

namespace Description

def title? (d : Description) : Option String :=
  d.info.memberText? "title"

def version? (d : Description) : Option String :=
  d.info.memberText? "version"

/-! ## Operations -/

def skippedPathMessage (path : String) : String :=
  "Skipping path '" ++ path ++ "': path item is not an object"

def skippedKeyMessage (path key : String) : String :=
  "Skipping non-operation key '" ++ key ++ "' under '" ++ path ++ "'"

def skippedOperationMessage (verb : Verb) (path : String) : String :=
  "Skipping " ++ verb.token ++ " " ++ path ++ ": operation is not an object"

/-- Runs over a list, gathering the results and the lines. -/
def gather {α β : Type} (f : α → Logged (List β)) (items : List α) : Logged (List β) :=
  ⟨items.flatMap fun item => (f item).value, items.flatMap fun item => (f item).lines⟩

/-- What one entry of a path item gives: an operation if its key names a verb and its value is an
object. -/
def operationsAt (path : String) (entry : String × Value) : Logged (List Operation) :=
  match Verb.ofText? entry.1 with
  | none => ⟨[], [⟨.debug, skippedKeyMessage path entry.1⟩]⟩
  | some verb =>
    match entry.2.members? with
    | none => ⟨[], [⟨.warn, skippedOperationMessage verb path⟩]⟩
    | some members => ⟨[.ofMembers path verb members], []⟩

/-- What one path gives: the operations of its item, if that is an object. -/
def operationsUnder (entry : String × Value) : Logged (List Operation) :=
  match entry.2.members? with
  | none => ⟨[], [⟨.warn, skippedPathMessage entry.1⟩]⟩
  | some entries => gather (operationsAt entry.1) entries

/-- The operations of a document tree, in the order of its paths and of their entries. Nothing
when it has no object of paths. -/
def operations? (root : Value) : Option (Logged (List Operation)) :=
  ((root.member? "paths").bind Value.members?).map (gather operationsUnder)

/-- The schemas of a document tree; none when they are no object. -/
def schemasOf (root : Value) : List (String × Value) :=
  (((root.member? "components").bind (·.member? "schemas")).bind Value.members?).getD []

/-- The description in a document tree. Nothing when it has no object of paths. -/
def ofValue? (root : Value) : Option (Logged Description) :=
  (operations? root).map fun operations => do
    return ⟨(root.member? "info").getD .null, ← operations, schemasOf root⟩

/-- The description as a document tree. -/
def toValue (d : Description) : Value :=
  .object
    [("info", d.info),
     ("endpoints", .array (d.operations.map Operation.toValue)),
     ("schemas", .object d.schemas)]

end Description

end FetchClient
