import FetchClient.Files.Walk

/-!
# Requests to the file system

Each request answers with a fault, or with the changed tree.

- `Tree.readText`, `Tree.write`: the text of a file, and a file with new contents;
- `Tree.makeDirectory`, `Tree.makeDirectories`: a directory, and with it those around it;
- `Tree.rename`: moves an entry, in one step, to where another one may be;
- `Tree.removeFile`, `Tree.remove`, `Tree.makeLink`.
-/

namespace FetchClient.Files.Tree

/-! ## Files -/

/-- The text of the file that a path leads to. -/
def readText (tree : Tree) (path : String) : Except Fault String := do
  match ← tree.findEntry path with
  | .file (.text text) => return text
  | .file .bytes => throw .notText
  | .directory => throw .isDirectory
  | .link _ => throw .tooManyLinks

/-- The location of the file that is written through a route: the last step's own, or, where that
is a link, what the link leads to, even if nothing is there. The links in front of the last step
count too. -/
def writeLocation (tree : Tree) (links : Nat) (origin : Location) (route : Route) :
    Except Fault Location := do
  match ← tree.spotFrom links origin route with
  | .directory _ => throw .isDirectory
  | .named directory name slash =>
    if slash then throw .isDirectory
    else if maxName < name.utf8ByteSize then throw .nameTooLong
    else
      match tree.entryAt? (directory ++ [name]) with
      | some .directory => throw .isDirectory
      | some (.link target) =>
        let left := links - tree.linksOn links (route.start origin) route.steps.dropLast
        if left = 0 then throw .tooManyLinks
        else if target.isEmpty then throw .notFound
        else writeLocation tree (left - 1) directory (Route.ofText target)
      | _ => return directory ++ [name]
termination_by links

/-- Writes a file, which is created if it is not there. -/
def write (tree : Tree) (path : String) (contents : Contents) : Except Fault Tree :=
  match pathFault? path with
  | some fault => .error fault
  | none => do
    let location ← tree.writeLocation maxLinks tree.here (Route.ofText path)
    return tree.put location (.file contents)

/-! ## Directories -/

/-- Makes a directory where nothing is. -/
def makeDirectory (tree : Tree) (path : String) : Except Fault Tree := do
  match ← tree.spot path with
  | .directory _ => throw .occupied
  | .named directory name _ =>
    if (tree.entryAt? (directory ++ [name])).isSome then throw .occupied
    else return tree.put (directory ++ [name]) .directory

/-- The path and the paths around it, the longest first. -/
def ancestors : Nat → String → List String
  | 0, _ => []
  | fuel + 1, path =>
    if path.isEmpty then []
    else
      match Path.parent? path with
      | some parent => path :: ancestors fuel parent
      | none => [path]

/-- Makes a directory and those around it that are missing. It is no fault when a directory is
there already, and the directories made before a fault remain. -/
def makeDirectoriesAt (tree : Tree) : List String → Tree × Except Fault Unit
  | [] => (tree, .ok ())
  | path :: around =>
    match tree.makeDirectory path with
    | .ok tree => (tree, .ok ())
    | .error .notFound =>
      match makeDirectoriesAt tree around with
      | (tree, .error fault) => (tree, .error fault)
      | (tree, .ok ()) =>
        match tree.makeDirectory path with
        | .ok tree => (tree, .ok ())
        | .error fault => (tree, if tree.isDirectory path then .ok () else .error fault)
    | .error fault => (tree, if tree.isDirectory path then .ok () else .error fault)

/-- Makes the directory at a path and those around it. -/
def makeDirectories (tree : Tree) (path : String) : Tree × Except Fault Unit :=
  tree.makeDirectoriesAt (ancestors (path.length + 1) path)

/-! ## Entries -/

/-- Moves a file or a link to another path, in the place of a file or a link that may be there. -/
def rename (tree : Tree) (source target : String) : Except Fault Tree := do
  match ← tree.spot source, ← tree.spot target with
  | .named directory name slash, .named directory' name' slash' =>
    match tree.entryAt? (directory ++ [name]) with
    | none => throw .notFound
    | some .directory => throw .isDirectory
    | some entry =>
      if slash || slash' then throw .notDirectory
      else if tree.entryAt? (directory' ++ [name']) = some .directory then throw .isDirectory
      else return (tree.erase (directory ++ [name])).put (directory' ++ [name']) entry
  | _, _ => throw .busy

/-- Removes a file or a link. -/
def removeFile (tree : Tree) (path : String) : Except Fault Tree := do
  match ← tree.spot path with
  | .directory _ => throw .isDirectory
  | .named directory name slash =>
    match tree.entryAt? (directory ++ [name]) with
    | none => throw .notFound
    | some .directory => throw .isDirectory
    | some _ =>
      if slash then throw .notDirectory
      else return tree.erase (directory ++ [name])

/-- Removes an entry, a directory with all that is in it. -/
def remove (tree : Tree) (path : String) : Except Fault Tree := do
  match ← tree.spot path with
  | .directory _ => throw .busy
  | .named directory name slash =>
    match tree.entryAt? (directory ++ [name]) with
    | none => throw .notFound
    | some .directory => return tree.prune (directory ++ [name])
    | some _ =>
      if slash then throw .notDirectory
      else return tree.erase (directory ++ [name])

/-- Makes a link where nothing is. -/
def makeLink (tree : Tree) (target path : String) : Except Fault Tree := do
  if hasNul path then throw .nulInPath
  match pathFault? target with
  | some fault => throw fault
  | none =>
    match ← tree.spot path with
    | .directory _ => throw .occupied
    | .named directory name slash =>
      if (tree.entryAt? (directory ++ [name])).isSome then throw .occupied
      else if slash then throw .notFound
      else return tree.put (directory ++ [name]) (.link target)

end FetchClient.Files.Tree
