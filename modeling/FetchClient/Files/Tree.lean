import FetchClient.Files.Fault

/-!
# Trees of files

- `Entry`: a file, a directory or a symbolic link;
- `Tree`: the entries by their locations;
- `Tree.entryAt?`, `Tree.put`, `Tree.erase`: the operations on single entries;
- `Tree.listing`: the locations below the top, as texts.
-/

namespace FetchClient.Files

/-- What a file holds. Of bytes that are no text only that is known. -/
inductive Contents where
  | text (text : String)
  | bytes
  deriving DecidableEq, Repr

inductive Entry where
  | file (contents : Contents)
  | directory
  | link (target : String)
  deriving DecidableEq, Repr

/-- The names that lead from the top of a tree to an entry. -/
abbrev Location := List String

/-- The entries below the top, which is a directory itself, and the directory where relative paths
begin. -/
structure Tree where
  entries : List (Location × Entry)
  here : Location
  deriving Repr

namespace Tree

/-- A tree with one empty directory, where relative paths begin. -/
def ofDirectory (name : String) : Tree := ⟨[([name], .directory)], [name]⟩

def entryAt? (tree : Tree) (location : Location) : Option Entry :=
  if location = [] then some .directory else tree.entries.lookup location

/-- The tree without an entry. -/
def erase (tree : Tree) (location : Location) : Tree :=
  { tree with entries := tree.entries.filter fun entry => entry.1 != location }

/-- The tree with an entry, whatever was at its location before. -/
def put (tree : Tree) (location : Location) (entry : Entry) : Tree :=
  { tree with entries := (location, entry) :: (tree.erase location).entries }

/-- The tree without an entry and all that is below it. -/
def prune (tree : Tree) (location : Location) : Tree :=
  { tree with entries := tree.entries.filter fun entry => !location.isPrefixOf entry.1 }

/-- A location as a text: directories end in a slash, links in `@`. -/
def label (entry : Location × Entry) : String :=
  let mark :=
    match entry.2 with
    | .file _ => ""
    | .directory => "/"
    | .link _ => "@"
  "/".intercalate entry.1 ++ mark

/-- All entries below the top, in ascending order. -/
def listing (tree : Tree) : List String :=
  (tree.entries.map label).mergeSort fun a b => !(b < a)

end Tree

end FetchClient.Files
