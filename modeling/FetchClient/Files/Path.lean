import FetchClient.Text.Pieces

/-!
# The text of paths

Paths are texts, and all of this looks at the text alone. Slashes part components; empty components
and `.` behind the first component do not count.

- `Path.components`: the components that count;
- `Path.fileName?`, `Path.parent?`, `Path.extension?`: the last component, what is in front of it,
  and what stands behind its last dot;
- `Path.withFileName`: the path with another last component.
-/

namespace FetchClient.Files.Path

inductive Component where
  /-- The slash at the beginning of an absolute path. -/
  | root
  /-- A dot at the beginning of a relative path. -/
  | here
  /-- Two dots. -/
  | up
  | name (text : String)
  deriving DecidableEq, Repr

def slashPieces (path : String) : List String :=
  (Text.pieces (· == '/') path.toList).map String.ofList

def isAbsolute (path : String) : Bool :=
  path.toList.head? == some '/'

/-- The component that a piece behind the first one stands for, if it counts. -/
def inner? (piece : String) : Option Component :=
  if piece = "" ∨ piece = "." then none
  else if piece = ".." then some .up
  else some (.name piece)

/-- The component that the first piece of a path stands for, if it counts. -/
def first? (path piece : String) : Option Component :=
  if isAbsolute path then some .root
  else if piece = "." then some .here
  else inner? piece

/-- The pieces of a path, each with the component that it stands for. -/
def marked (path : String) : List (String × Option Component) :=
  match slashPieces path with
  | [] => []
  | piece :: pieces => (piece, first? path piece) :: pieces.map fun piece => (piece, inner? piece)

def components (path : String) : List Component :=
  (marked path).filterMap (·.2)

/-- The last component, if it is a name. -/
def fileName? (path : String) : Option String :=
  match (components path).getLast? with
  | some (.name text) => some text
  | _ => none

/-- The pieces up to the last one that counts. -/
def dropUncounted (pieces : List (String × Option Component)) : List (String × Option Component) :=
  (pieces.reverse.dropWhile (·.2.isNone)).reverse

/-- The text of pieces. The root alone is a slash. -/
def textOf (pieces : List (String × Option Component)) : String :=
  match pieces with
  | [(_, some .root)] => "/"
  | _ => "/".intercalate (pieces.map (·.1))

/-- The path without its last component. An empty path and the root have none. -/
def parent? (path : String) : Option String :=
  match (components path).getLast? with
  | none | some .root => none
  | some _ => some (textOf (dropUncounted (dropUncounted (marked path)).dropLast))

/-- The path of an entry in the directory at a path. -/
def join (path name : String) : String :=
  if path.isEmpty || path.toList.getLast? == some '/' then path ++ name else path ++ "/" ++ name

/-- The path with another last component. Where the last component is no name, the new one is put
behind it. -/
def withFileName (path name : String) : String :=
  if (fileName? path).isSome then join ((parent? path).getD "") name else join path name

/-- What stands behind the last dot of the last component. A dot at its beginning does not
count. -/
def extension? (path : String) : Option String :=
  (fileName? path).bind fun name =>
    match (Text.pieces (· == '.') name.toList).reverse with
    | last :: before :: others =>
      if before.isEmpty && others.isEmpty then none else some (String.ofList last)
    | _ => none

end FetchClient.Files.Path
