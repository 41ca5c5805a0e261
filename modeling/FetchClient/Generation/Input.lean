import FetchClient.Client.Rendering
import FetchClient.Files.Requests

/-!
# What a generation reads

- `Generation.readContent`: the document tree in the input file;
- `Generation.readTemplate`: the template in a file, or the built-in one.
-/

namespace FetchClient.Generation

open Files (Tree)

/-- The document tree in the input file. -/
def readContent (tree : Tree) (path : String) : Except Error Value :=
  match tree.readText path with
  | .ok text => (Content.value text).mapError (Error.inFile path)
  | .error fault => .error (.inputRead path fault)

/-- The description in the input file. -/
def readDescription (tree : Tree) (path : String) : Except Error (Logged Description) := do
  (Content.describe (← readContent tree path)).mapError (Error.inFile path)

/-- The template in a file, or the built-in one if no file is given. The debug line `Loaded client
template from`, with either of these, is left out. -/
def readTemplate [Engine] (tree : Tree) : Option String → Except Error Template
  | none => .ok BuiltIn.template
  | some path =>
    match tree.readText path with
    | .ok text => (Template.read? text).elim (.error .template) .ok
    | .error fault => .error (.config (.template path fault))

end FetchClient.Generation
