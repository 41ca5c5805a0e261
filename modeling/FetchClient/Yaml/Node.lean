import FetchClient.Yaml.Tokens

/-!
# The nodes of a YAML document

- `Node`: scalars, sequences, mappings and aliases, with their anchors and tags;
- `Node.ofTokens?`: the node that a token list's only document holds.
-/

namespace FetchClient.Yaml

/-- What may stand in front of a node. Anchors and aliases are named by `ν`. -/
structure Properties (ν : Type) where
  anchor : Option ν
  tag : Option String
  deriving Repr

inductive Node (ν : Type) where
  | alias (name : ν)
  | scalar (properties : Properties ν) (style : Style) (text : String)
  | sequence (properties : Properties ν) (items : List (Node ν))
  | mapping (properties : Properties ν) (entries : List (Node ν × Node ν))
  deriving Repr

namespace Node

def noProperties : Properties String := ⟨none, none⟩

/-- The node that stands where nothing is written. -/
def empty : Node String := .scalar noProperties .plain ""

instance : Inhabited (Node String) := ⟨empty⟩

/-- A node and the tokens behind it. -/
abbrev Read := Option (Node String × List Token)

/-! ## Directives -/

/-- The tag handles that need no directive. -/
def defaultHandles : List (String × String) :=
  [("!", "!"), ("!!", "tag:yaml.org,2002:")]

/-- The directives in front of a document: the handles that they set, and the tokens behind them.
No handle and no version may be set twice, and the version has to be 1.1 or 1.2. -/
def directives? : Bool → List (String × String) → List Token →
    Option (List (String × String) × List Token)
  | versioned, handles, .versionDirective major minor :: rest =>
    if versioned || major != 1 || !(minor == 1 || minor == 2) then none
    else directives? true handles rest
  | versioned, handles, .tagDirective handle stem :: rest =>
    if (handles.lookup handle).isSome then none
    else directives? versioned (handles ++ [(handle, stem)]) rest
  | _, handles, rest => some (handles ++ defaultHandles, rest)

/-- The full tag of a handle and a suffix. A tag in angle brackets has no handle. -/
def fullTag? (handles : List (String × String)) (handle suffix : String) : Option String :=
  if handle.isEmpty then some suffix else (handles.lookup handle).map (· ++ suffix)

/-- The anchor and the tag in front of a node, at most one of each and in either order. -/
def properties? (handles : List (String × String)) :
    List Token → Option (Properties String × List Token)
  | .anchor name :: .tag handle suffix :: rest => do
    return (⟨some name, ← fullTag? handles handle suffix⟩, rest)
  | .tag handle suffix :: .anchor name :: rest => do
    return (⟨some name, ← fullTag? handles handle suffix⟩, rest)
  | .anchor name :: rest => some (⟨some name, none⟩, rest)
  | .tag handle suffix :: rest => do
    return (⟨none, ← fullTag? handles handle suffix⟩, rest)
  | rest => some (noProperties, rest)

/-! ## Nodes -/

/-- The lone tag `!` says no more of a scalar than that it is one. -/
def scalarProperties (p : Properties String) : Properties String :=
  if p.tag = some "!" then { p with tag := none } else p

mutual

/-- One node. `block` says whether a block may begin here, and `indentless` whether a sequence may
stand at the indentation of the mapping around it. -/
def read? (handles : List (String × String)) (block indentless : Bool) :
    Nat → List Token → Read
  | 0, _ => none
  | fuel + 1, tokens =>
    match tokens with
    | .alias name :: rest => some (.alias name, rest)
    | _ => do
      let (properties, rest) ← properties? handles tokens
      match rest with
      | .blockEntry :: _ =>
        if indentless then
          let (items, rest) ← indentlessItems? handles fuel rest
          return (.sequence properties items, rest)
        else orEmpty? properties rest
      | .scalar style text :: rest => return (.scalar (scalarProperties properties) style text, rest)
      | .flowSequenceStart :: rest =>
        let (items, rest) ← flowItems? handles true fuel rest
        return (.sequence properties items, rest)
      | .flowMappingStart :: rest =>
        let (entries, rest) ← flowEntries? handles true fuel rest
        return (.mapping properties entries, rest)
      | .blockSequenceStart :: after =>
        if block then
          let (items, rest) ← blockItems? handles fuel after
          return (.sequence properties items, rest)
        else orEmpty? properties rest
      | .blockMappingStart :: after =>
        if block then
          let (entries, rest) ← blockEntries? handles fuel after
          return (.mapping properties entries, rest)
        else orEmpty? properties rest
      | rest => orEmpty? properties rest

/-- Properties may stand alone, in front of nothing. -/
def orEmpty? (properties : Properties String) (rest : List Token) : Read :=
  if properties.anchor.isSome || properties.tag.isSome then
    some (.scalar properties .plain "", rest)
  else none

/-- The items of a sequence in block style, up to the end of its block. -/
def blockItems? (handles : List (String × String)) :
    Nat → List Token → Option (List (Node String) × List Token)
  | 0, _ => none
  | _ + 1, .blockEnd :: rest => some ([], rest)
  | fuel + 1, .blockEntry :: rest => do
    let (item, rest) ←
      match rest with
      | .blockEntry :: _ | .blockEnd :: _ => some (empty, rest)
      | _ => read? handles true false fuel rest
    let (items, rest) ← blockItems? handles fuel rest
    return (item :: items, rest)
  | _ + 1, _ => none

/-- The items of a sequence at the indentation of the mapping around it. -/
def indentlessItems? (handles : List (String × String)) :
    Nat → List Token → Option (List (Node String) × List Token)
  | 0, _ => none
  | fuel + 1, .blockEntry :: rest => do
    let (item, rest) ←
      match rest with
      | .blockEntry :: _ | .key :: _ | .value :: _ | .blockEnd :: _ => some (empty, rest)
      | _ => read? handles true false fuel rest
    let (items, rest) ← indentlessItems? handles fuel rest
    return (item :: items, rest)
  | _ + 1, rest => some ([], rest)

/-- A key or a value in block style, which may be missing. -/
def blockPart? (handles : List (String × String)) : Nat → List Token → Read
  | 0, _ => none
  | fuel + 1, tokens =>
    match tokens with
    | .key :: _ | .value :: _ | .blockEnd :: _ => some (empty, tokens)
    | _ => read? handles true true fuel tokens

/-- The entries of a mapping in block style, up to the end of its block. -/
def blockEntries? (handles : List (String × String)) :
    Nat → List Token → Option (List (Node String × Node String) × List Token)
  | 0, _ => none
  | _ + 1, .blockEnd :: rest => some ([], rest)
  | fuel + 1, .key :: rest => do
    let (key, rest) ← blockPart? handles fuel rest
    let (value, rest) ←
      match rest with
      | .value :: rest => blockPart? handles fuel rest
      | _ => some (empty, rest)
    let (entries, rest) ← blockEntries? handles fuel rest
    return ((key, value) :: entries, rest)
  | _ + 1, _ => none

/-- The items of a sequence in brackets, up to the closing one. An item may be a single pair. -/
def flowItems? (handles : List (String × String)) (first : Bool) :
    Nat → List Token → Option (List (Node String) × List Token)
  | 0, _ => none
  | _ + 1, .flowSequenceEnd :: rest => some ([], rest)
  | fuel + 1, tokens => do
    let tokens ←
      match first, tokens with
      | true, _ => some tokens
      | false, .flowEntry :: rest => some rest
      | false, _ => none
    match tokens with
    | .flowSequenceEnd :: rest => return ([], rest)
    | .key :: rest =>
      let (pair, rest) ← flowPair? handles fuel rest
      let (items, rest) ← flowItems? handles false fuel rest
      return (pair :: items, rest)
    | _ =>
      let (item, rest) ← read? handles false false fuel tokens
      let (items, rest) ← flowItems? handles false fuel rest
      return (item :: items, rest)

/-- A single pair as an item in brackets. Where its key is missing, the token in its place is
passed over. -/
def flowPair? (handles : List (String × String)) : Nat → List Token → Read
  | 0, _ => none
  | fuel + 1, tokens => do
    let (key, rest) ←
      match tokens with
      | .value :: rest | .flowEntry :: rest | .flowSequenceEnd :: rest => some (empty, rest)
      | _ => read? handles false false fuel tokens
    let (value, rest) ←
      match rest with
      | .value :: rest =>
        match rest with
        | .flowEntry :: _ | .flowSequenceEnd :: _ => some (empty, rest)
        | _ => read? handles false false fuel rest
      | _ => some (empty, rest)
    return (.mapping noProperties [(key, value)], rest)

/-- The entries of a mapping in braces, up to the closing one. -/
def flowEntries? (handles : List (String × String)) (first : Bool) :
    Nat → List Token → Option (List (Node String × Node String) × List Token)
  | 0, _ => none
  | _ + 1, .flowMappingEnd :: rest => some ([], rest)
  | fuel + 1, tokens => do
    let tokens ←
      match first, tokens with
      | true, _ => some tokens
      | false, .flowEntry :: rest => some rest
      | false, _ => none
    match tokens with
    | .flowMappingEnd :: rest => return ([], rest)
    | .key :: rest =>
      let (key, rest) ←
        match rest with
        | .value :: _ | .flowEntry :: _ | .flowMappingEnd :: _ => some (empty, rest)
        | _ => read? handles false false fuel rest
      let (value, rest) ←
        match rest with
        | .value :: rest =>
          match rest with
          | .flowEntry :: _ | .flowMappingEnd :: _ => some (empty, rest)
          | _ => read? handles false false fuel rest
        | _ => some (empty, rest)
      let (entries, rest) ← flowEntries? handles false fuel rest
      return ((key, value) :: entries, rest)
    | _ =>
      let (key, rest) ← read? handles false false fuel tokens
      let (entries, rest) ← flowEntries? handles false fuel rest
      return ((key, empty) :: entries, rest)

end

/-! ## Documents -/

/-- The content of a document that begins with a mark, which may be missing. -/
def content? (handles : List (String × String)) (tokens : List Token) : Read :=
  match tokens with
  | [] | .versionDirective .. :: _ | .tagDirective .. :: _ | .documentStart :: _
  | .documentEnd :: _ => some (empty, tokens)
  | _ => read? handles true false (2 * tokens.length + 2) tokens

/-- The first document: behind directives and a mark, or bare. -/
def document? (tokens : List Token) : Read :=
  match tokens with
  | .versionDirective .. :: _ | .tagDirective .. :: _ | .documentStart :: _ => do
    match ← directives? false [] tokens with
    | (handles, .documentStart :: rest) => content? handles rest
    | _ => none
  | _ => read? defaultHandles true false (2 * tokens.length + 2) tokens

/-- The node of the only document. The outer option is nothing if the tokens are refused, the
inner one if there is no document at all. -/
def ofTokens? : List Token → Option (Option (Node String))
  | [] => some none
  | tokens => do
    let (node, rest) ← document? tokens
    guard (rest.all (· == .documentEnd))
    return some node

end Node

end FetchClient.Yaml
