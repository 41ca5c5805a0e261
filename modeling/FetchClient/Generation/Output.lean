import FetchClient.Files.Path
import FetchClient.Files.Requests

/-!
# Replacing the output

The output is replaced as a whole: its text is written to a staging file beside it, which is then
moved to the place of the output. So there is no moment at which the output holds a part of the
text.

- `Output.stagingPath`: the path of the staging file;
- `Output.prepare`, `Output.stage`, `Output.install`, `Output.discard`: the steps;
- `Output.replace`: all of them.
-/

namespace FetchClient.Generation.Output

open Files (Fault Tree)

/-- The path of the staging file, in the directory of the output. -/
def stagingPath (path : String) : String :=
  Files.Path.withFileName path ((Files.Path.fileName? path).getD "" ++ ".fetchgen-tmp")

/-- Makes the directory of the output. -/
def prepare (tree : Tree) (path : String) : Tree × Except Fault Unit :=
  match Files.Path.parent? path with
  | some parent => if parent.isEmpty then (tree, .ok ()) else tree.makeDirectories parent
  | none => (tree, .ok ())

/-- Writes the staging file. -/
def stage (tree : Tree) (path text : String) : Except Fault Tree :=
  tree.write (stagingPath path) (.text text)

/-- Moves the staging file to the place of the output. -/
def install (tree : Tree) (path : String) : Except Fault Tree :=
  tree.rename (stagingPath path) path

/-- Removes the staging file, if that is possible. -/
def discard (tree : Tree) (path : String) : Tree :=
  match tree.removeFile (stagingPath path) with
  | .ok tree => tree
  | .error _ => tree

/-- Replaces the output. When that fails, no staging file is left, but the directories that were
made remain. -/
def replace (tree : Tree) (path text : String) : Tree × Except Fault Unit :=
  match prepare tree path with
  | (tree, .error fault) => (tree, .error fault)
  | (tree, .ok ()) =>
    match stage tree path text with
    | .error fault => (discard tree path, .error fault)
    | .ok staged =>
      match install staged path with
      | .error fault => (discard staged path, .error fault)
      | .ok installed => (installed, .ok ())

end FetchClient.Generation.Output
