import FetchClient.Files.Path
import FetchClient.Files.Tree

/-!
# Where paths lead

- `Route`: the steps that a path asks for;
- `Tree.walk`: the location at the end of some steps, links being followed;
- `Tree.linksOn`: the number of links that are followed on the way;
- `Tree.find`: the location that a path leads to;
- `Tree.spot`: the directory and the name that the last step of a path leads to, which need not be
  there yet.
-/

namespace FetchClient.Files

/-- The steps of a path. -/
structure Route where
  /-- Whether the path begins at the top. -/
  absolute : Bool
  steps : List String
  /-- Whether a slash stands behind the last step. -/
  slash : Bool
  deriving DecidableEq, Repr

namespace Route

def ofText (path : String) : Route where
  absolute := Path.isAbsolute path
  steps := (Path.slashPieces path).filter (· ≠ "")
  slash := path.toList.getLast? == some '/'

/-- All steps. A slash at the end is one step more, which stays in the directory. -/
def allSteps (route : Route) : List String :=
  if route.slash then route.steps ++ ["."] else route.steps

/-- Where a route begins that is followed from a location. -/
def start (route : Route) (origin : Location) : Location :=
  if route.absolute then [] else origin

end Route

/-- The longest name of an entry, in bytes. -/
def maxName : Nat := 255

/-- The longest path, in bytes. -/
def maxPath : Nat := 4095

/-- The number of links that may be followed on one way. -/
def maxLinks : Nat := 40

def hasNul (path : String) : Bool :=
  path.toList.contains '\x00'

/-- What is wrong with a path before anything is looked up. -/
def pathFault? (path : String) : Option Fault :=
  if hasNul path then some .nulInPath
  else if path.isEmpty then some .notFound
  else if maxPath < path.utf8ByteSize then some .nameTooLong
  else none

namespace Tree

/-- The location at the end of some steps. Every step but the last has to lead to a directory, and
`.` and `..` only leave from one. At most `links` links are followed. -/
def walk (tree : Tree) : Nat → Location → List String → Except Fault Location
  | _, location, [] => .ok location
  | links, location, step :: steps =>
    if tree.entryAt? location ≠ some .directory then .error .notDirectory
    else if step = "." then walk tree links location steps
    else if step = ".." then walk tree links location.dropLast steps
    else if maxName < step.utf8ByteSize then .error .nameTooLong
    else
      match tree.entryAt? (location ++ [step]) with
      | none => .error .notFound
      | some (.link target) =>
        match links with
        | 0 => .error .tooManyLinks
        | links + 1 =>
          let route := Route.ofText target
          if target.isEmpty then .error .notFound
          else walk tree links (route.start location) (route.allSteps ++ steps)
      | some _ => walk tree links (location ++ [step]) steps
termination_by links _ steps => (links, steps.length)

/-- The number of links on the way of a walk that ends somewhere. -/
def linksOn (tree : Tree) : Nat → Location → List String → Nat
  | _, _, [] => 0
  | links, location, step :: steps =>
    if step = "." then linksOn tree links location steps
    else if step = ".." then linksOn tree links location.dropLast steps
    else
      match tree.entryAt? (location ++ [step]) with
      | some (.link target) =>
        match links with
        | 0 => 0
        | links + 1 =>
          let route := Route.ofText target
          linksOn tree links (route.start location) (route.allSteps ++ steps) + 1
      | _ => linksOn tree links (location ++ [step]) steps
termination_by links _ steps => (links, steps.length)

/-- The location that a path leads to. -/
def find (tree : Tree) (path : String) : Except Fault Location :=
  match pathFault? path with
  | some fault => .error fault
  | none =>
    let route := Route.ofText path
    tree.walk maxLinks (route.start tree.here) route.allSteps

/-- The entry that a path leads to. -/
def findEntry (tree : Tree) (path : String) : Except Fault Entry := do
  let location ← tree.find path
  match tree.entryAt? location with
  | some entry => return entry
  | none => throw .notFound

def isDirectory (tree : Tree) (path : String) : Bool :=
  match tree.findEntry path with
  | .ok .directory => true
  | _ => false

/-- Where the last step of a path leads. -/
inductive Spot where
  /-- To a name in a directory, where something may be or not. `slash` says that a slash stands
  behind the name. -/
  | named (directory : Location) (name : String) (slash : Bool)
  /-- To a directory, by `.`, `..` or the top itself. -/
  | directory (location : Location)
  deriving DecidableEq, Repr

/-- Whether a step names an entry. -/
def isName (step : String) : Bool :=
  step != "." && step != ".."

/-- The spot that a route leads to from a location. -/
def spotFrom (tree : Tree) (links : Nat) (origin : Location) (route : Route) :
    Except Fault Spot :=
  let origin := route.start origin
  match route.steps.getLast? with
  | some step =>
    if isName step then do
      let location ← tree.walk links origin route.steps.dropLast
      if tree.entryAt? location ≠ some .directory then throw .notDirectory
      else return .named location step route.slash
    else (tree.walk links origin (route.steps ++ ["."])).map .directory
  | none => .ok (.directory origin)

/-- Whether the name of a spot is too long for anything to be there. -/
def Spot.isTooLong : Spot → Bool
  | .named _ name _ => maxName < name.utf8ByteSize
  | .directory _ => false

/-- The spot that a path leads to. A last step that is a link is not followed. -/
def spot (tree : Tree) (path : String) : Except Fault Spot :=
  match pathFault? path with
  | some fault => .error fault
  | none => do
    let spot ← tree.spotFrom maxLinks tree.here (Route.ofText path)
    if spot.isTooLong then throw .nameTooLong else return spot

end Tree

end FetchClient.Files
