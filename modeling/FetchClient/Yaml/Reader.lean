import FetchClient.Value
import FetchClient.Yaml.Node
import FetchClient.Yaml.Plain

/-!
# Values of YAML texts

- `Node.numbered?`: anchors and aliases by number, and the nodes behind the numbers;
- `Scalar.value?`: the value of a scalar, by its tag, its style and its text;
- `Reader.value?`: the value of a node, aliases being followed;
- `read?`: the value of a text.
-/

namespace FetchClient.Yaml

/-! ## Anchors -/

/-- The names of anchors seen so far, each with its present number. -/
abbrev AnchorNames := List (String × Nat)

/-- Gives a name the number of different names so far. -/
def AnchorNames.declare (names : AnchorNames) (name : String) : Nat × AnchorNames :=
  (names.length, (name, names.length) :: names.filter (·.1 != name))

/-- The properties of a node with its anchor by number. -/
def Properties.numbered (p : Properties String) (names : AnchorNames) :
    Properties Nat × AnchorNames :=
  match p.anchor with
  | none => (⟨none, p.tag⟩, names)
  | some name => (⟨some (names.declare name).1, p.tag⟩, (names.declare name).2)

namespace Node

mutual

/-- The node with anchors and aliases by number. An alias has the number that its name has where
the alias stands, and is refused when its name was not seen before. -/
def numbered? (names : AnchorNames) : Node String → Option (Node Nat × AnchorNames)
  | .alias name => (names.lookup name).map fun number => (.alias number, names)
  | .scalar p style text =>
    let (p, names) := p.numbered names
    some (.scalar p style text, names)
  | .sequence p items => do
    let (p, names) := p.numbered names
    let (items, names) ← numberedItems? names items
    return (.sequence p items, names)
  | .mapping p entries => do
    let (p, names) := p.numbered names
    let (entries, names) ← numberedEntries? names entries
    return (.mapping p entries, names)

def numberedItems? (names : AnchorNames) :
    List (Node String) → Option (List (Node Nat) × AnchorNames)
  | [] => some ([], names)
  | item :: items => do
    let (item, names) ← numbered? names item
    let (items, names) ← numberedItems? names items
    return (item :: items, names)

def numberedEntries? (names : AnchorNames) :
    List (Node String × Node String) → Option (List (Node Nat × Node Nat) × AnchorNames)
  | [] => some ([], names)
  | (key, value) :: entries => do
    let (key, names) ← numbered? names key
    let (value, names) ← numbered? names value
    let (entries, names) ← numberedEntries? names entries
    return ((key, value) :: entries, names)

end

/-- The anchor of a node. An alias has none. -/
def anchor? {ν : Type} : Node ν → Option ν
  | .alias _ => none
  | .scalar p _ _ => p.anchor
  | .sequence p _ => p.anchor
  | .mapping p _ => p.anchor

mutual

/-- The nodes in document order, each before what it contains. -/
def flatten {ν : Type} : Node ν → List (Node ν)
  | .alias name => [.alias name]
  | .scalar p style text => [.scalar p style text]
  | .sequence p items => .sequence p items :: flattenItems items
  | .mapping p entries => .mapping p entries :: flattenEntries entries

def flattenItems {ν : Type} : List (Node ν) → List (Node ν)
  | [] => []
  | item :: items => flatten item ++ flattenItems items

def flattenEntries {ν : Type} : List (Node ν × Node ν) → List (Node ν)
  | [] => []
  | (key, value) :: entries => flatten key ++ flatten value ++ flattenEntries entries

end

/-- The nodes behind the anchor numbers. Where a number was given twice the later node counts. -/
def anchored (root : Node Nat) : List (Nat × Node Nat) :=
  (root.flatten.filterMap fun node => node.anchor?.map fun number => (number, node)).reverse

/-- The number of marks that a document consists of: one for a scalar or an alias, two for the
ends of a collection. -/
def eventCount {ν : Type} (root : Node ν) : Nat :=
  root.flatten.foldl (fun count node =>
    match node with
    | .alias _ | .scalar .. => count + 1
    | .sequence .. | .mapping .. => count + 2) 0

end Node

/-! ## Scalars -/

namespace Scalar

def coreTag (name : String) : String :=
  "tag:yaml.org,2002:" ++ name

/-- Integers that are kept as they are. -/
def isKeptRange (n : Int) : Bool :=
  -(Int.pow 2 63) ≤ n && n < Int.pow 2 64

def ofInteger? (n : Int) : Option Value :=
  if isKeptRange n then some (.number (.int n)) else none

/-- A word that is no finite number is null. -/
def ofFloat : Option Binary64 → Value
  | some x => .number (.float x)
  | none => .null

/-- The value of a plain scalar without tag. Integers too large to be kept are refused. -/
def plain? (text : String) : Option Value :=
  let cs := text.toList
  if cs.isEmpty || Plain.isNull cs then some .null
  else
    match Plain.bool? cs with
    | some b => some (.bool b)
    | none =>
      match Plain.integer? cs with
      | some n => ofInteger? n
      | none =>
        match (if Plain.isDigitText cs then none else Plain.float? cs) with
        | some x => some (ofFloat x)
        | none => some (.string text)

/-- Whether a tag belongs to the document alone. -/
def isLocalTag (tag : String) : Bool :=
  tag.toList.head? == some '!'

/-- The value of a scalar. The core tags demand what they name, in any style; other tags make a
text of a scalar, but local tags are refused. -/
def value? (tag : Option String) (style : Style) (text : String) : Option Value :=
  match tag with
  | none => if style = .plain then plain? text else some (.string text)
  | some tag =>
    if isLocalTag tag then none
    else if tag = coreTag "bool" then (Plain.bool? text.toList).map .bool
    else if tag = coreTag "int" then (Plain.integer? text.toList).bind ofInteger?
    else if tag = coreTag "float" then (Plain.float? text.toList).map ofFloat
    else if tag = coreTag "null" then (if Plain.isNull text.toList then some .null else none)
    else some (.string text)

end Scalar

/-! ## Nodes -/

/-- How deep collections may be nested, also through aliases. -/
def maxDepth : Nat := 128

namespace Reader

/-- What the aliases of a document mean, and how many of them may be followed. -/
structure Anchors where
  nodes : List (Nat × Node Nat)
  limit : Nat

/-- The anchors of a document. -/
def Anchors.ofRoot (root : Node Nat) : Anchors :=
  ⟨root.anchored, 100 * root.eventCount⟩

/-- The node itself, or the one that an alias stands for. `jumps` counts the aliases that were
followed before, and the result counts this one too. -/
def Anchors.follow? (anchors : Anchors) (jumps : Nat) : Node Nat → Option (Node Nat × Nat)
  | .alias number =>
    if jumps < anchors.limit then (anchors.nodes.lookup number).map fun node => (node, jumps + 1)
    else none
  | node => some (node, jumps)

/-- A key: the text of a scalar, whatever its tag. -/
def key? (anchors : Anchors) (jumps : Nat) (node : Node Nat) : Option (String × Nat) :=
  match anchors.follow? jumps node with
  | some (.scalar _ _ text, jumps) => some (text, jumps)
  | _ => none

/-- The value of a node whose collections are nested at most `depth` deep, with the count of
aliases followed. Local tags are refused, other tags of collections have no meaning, and of
repeated keys the last value counts. -/
def value? (anchors : Anchors) : Nat → Nat → Node Nat → Option (Value × Nat)
  | depth, jumps, node => do
    let (node, jumps) ← anchors.follow? jumps node
    match node, depth with
    | .alias _, _ => none
    | .scalar p style text, _ => return (← Scalar.value? p.tag style text, jumps)
    | .sequence _ _, 0 => none
    | .mapping _ _, 0 => none
    | .sequence p items, depth + 1 =>
      guard (!p.tag.any Scalar.isLocalTag)
      let (values, jumps) ← items.foldlM
        (fun (values, jumps) item => do
          let (value, jumps) ← value? anchors depth jumps item
          return (value :: values, jumps))
        ([], jumps)
      return (.array values.reverse, jumps)
    | .mapping p entries, depth + 1 =>
      guard (!p.tag.any Scalar.isLocalTag)
      let (members, jumps) ← entries.foldlM
        (fun (members, jumps) (key, node) => do
          let (key, jumps) ← key? anchors jumps key
          let (value, jumps) ← value? anchors depth jumps node
          return (Value.insertMember key value members, jumps))
        ([], jumps)
      return (.object members, jumps)

end Reader

/-- The value of a document. -/
def Node.value? (root : Node String) : Option Value := do
  let (root, _) ← root.numbered? []
  let (value, _) ← Reader.value? (.ofRoot root) maxDepth 0 root
  return value

/-- The value of a text, which is null when there is nothing in it. -/
def read? (text : String) : Option Value := do
  match ← Node.ofTokens? (← tokens? text.toList) with
  | none => return .null
  | some root => root.value?

end FetchClient.Yaml
