import FetchClient.Template.Expression
import FetchClient.Template.Piece

/-!
# The tree of a template

- `Node`: text, output, assignments, conditions and loops, but no blocks, no macros and nothing that
  names the template itself;
- `Node.readAll?`: the tree of a template's text, with the blanks trimmed that its tags ask to
  trim.

A tag trims only the text that it touches. In a loop the outer sides of `for` and `endfor` count
for both bodies, and `else` trims nothing.
-/

namespace FetchClient.Template

inductive Node where
  | text (text : String)
  /-- Text that no tag trims. -/
  | raw (text : String)
  | comment
  | output (value : Expr)
  | assign (name : String) (value : Expr)
  | choice (branches : List (Expr × List Node)) (otherwise : List Node)
  /-- A loop over the items of a list, the characters of a text, or with `key` the members of an
  object. `otherwise` stands for an empty container. -/
  | loop (key : Option String) (item : String) (container : Expr) (body otherwise : List Node)
  /-- Leaves the innermost loop. -/
  | stop
  /-- Leaves one pass of the innermost loop. -/
  | skip
  /-- Another template, of which there is none. -/
  | missing
  /-- Another template that may be missing, as it is. -/
  | optional

namespace Node

/-! ## Trimming -/

/-- Trims the end of a last text, if asked to. -/
def trimEndIf (trims : Bool) : List Node → List Node
  | [] => []
  | [.text s] => [.text (String.ofList (Piece.trimEndIf trims s.toList))]
  | node :: nodes => node :: trimEndIf trims nodes

/-! ## Reading -/

/-- Whether a piece ends the list of nodes that it stands in. -/
def closes (piece : Piece) : Bool :=
  piece.word?.any fun word => ["elif", "else", "endif", "endfor"].contains word

/-- Whether the next piece trims the text in front of it on its own account. A closing tag leaves
that to the node that it closes. -/
def nextTrims : List Piece → Bool
  | piece :: _ => piece.trimsBefore && !closes piece
  | [] => false

/-- A word alone. -/
def word? : Lexeme → Option String
  | .path path => if path.keys.isEmpty then some path.name else none
  | _ => none

/-- The names and the container of a `for` tag. -/
def loopHead? : List Lexeme → Option (Option String × String × Expr)
  | first :: .comma :: second :: inWord :: rest => do
    guard (word? inWord = some "in")
    return (← word? first, ← word? second, ← Expr.readOperand? rest)
  | first :: inWord :: rest => do
    guard (word? inWord = some "in")
    return (none, ← word? first, ← Expr.readOperand? rest)
  | _ => none

/-- The name under which an engine keeps the template. -/
def ownName : String := "fetch_client.js"

/-- Another template. What names the template itself is not read. -/
def inclusion? : List Lexeme → Option Node
  | [.string name] => if name = ownName then none else some .missing
  | [.string name, .path first, .path second] =>
    if name ≠ ownName ∧ first.isWord "ignore" ∧ second.isWord "missing" then some .optional
    else none
  | _ => none

/-- The nodes of tags that stand for themselves. -/
def simpleTag? : List Lexeme → Option Node
  | .path path :: rest =>
    if path.isWord "set" then
      match rest with
      | name :: .assign :: rest => do return .assign (← word? name) (← Expr.read? rest)
      | _ => none
    else if path.isWord "break" && rest.isEmpty then some .stop
    else if path.isWord "continue" && rest.isEmpty then some .skip
    else if path.isWord "include" then inclusion? rest
    else none
  | _ => none

mutual

/-- The nodes up to the next closing tag, and the pieces from that on. `trims` says whether the
tag in front of them trims. The first argument bounds the number of nested calls. -/
def read? : Nat → Bool → List Piece → Option (List Node × List Piece)
  | 0, _, _ => none
  | _ + 1, _, [] => some ([], [])
  | fuel + 1, trims, piece :: rest =>
    match piece with
    | .text cs => do
      let cs := Piece.trimEndIf (nextTrims rest) (Piece.trimStartIf trims cs)
      let (nodes, rest) ← read? fuel false rest
      return (.text (String.ofList cs) :: nodes, rest)
    | .raw _ behind cs => do
      let (nodes, rest) ← read? fuel behind rest
      return (.raw (String.ofList cs) :: nodes, rest)
    | .comment _ behind => do
      let (nodes, rest) ← read? fuel behind rest
      return (.comment :: nodes, rest)
    | .output _ behind lexemes => do
      let value ← Expr.read? lexemes
      let (nodes, rest) ← read? fuel behind rest
      return (.output value :: nodes, rest)
    | .tag _ behind lexemes =>
      if closes piece then some ([], piece :: rest)
      else do
        let (node, behind, rest) ←
          if piece.word? = some "if" then
            let condition ← Expr.read? lexemes.tail
            let (branches, otherwise, behind, rest) ← readBranches? fuel condition behind rest
            some (.choice branches otherwise, behind, rest)
          else if piece.word? = some "for" then
            let (key, item, container) ← loopHead? lexemes.tail
            let (body, otherwise, behind, rest) ← readBodies? fuel behind rest
            some (.loop key item container body otherwise, behind, rest)
          else (simpleTag? lexemes).map fun node => (node, behind, rest)
        let (nodes, rest) ← read? fuel behind rest
        return (node :: nodes, rest)

/-- The branches of a condition up to its end, the nodes behind `else`, whether the end trims what
is behind it, and the pieces there. -/
def readBranches? : Nat → Expr → Bool → List Piece →
    Option (List (Expr × List Node) × List Node × Bool × List Piece)
  | 0, _, _, _ => none
  | fuel + 1, condition, trims, pieces => do
    let (body, rest) ← read? fuel trims pieces
    match rest with
    | .tag before behind (word :: lexemes) :: rest =>
      let branch := (condition, trimEndIf before body)
      if word? word = some "elif" then
        let condition ← Expr.read? lexemes
        let (branches, otherwise, behind, rest) ← readBranches? fuel condition behind rest
        return (branch :: branches, otherwise, behind, rest)
      else if word? word = some "else" && lexemes.isEmpty then
        let (otherwise, rest) ← read? fuel behind rest
        match rest with
        | .tag before behind [word] :: rest =>
          guard (word? word = some "endif")
          return ([branch], trimEndIf before otherwise, behind, rest)
        | _ => none
      else
        guard (word? word = some "endif" && lexemes.isEmpty)
        return ([branch], [], behind, rest)
    | _ => none

/-- The two bodies of a loop up to its end, whether the end trims what is behind it, and the pieces
there. -/
def readBodies? : Nat → Bool → List Piece → Option (List Node × List Node × Bool × List Piece)
  | 0, _, _ => none
  | fuel + 1, trims, pieces => do
    let (body, rest) ← read? fuel trims pieces
    match rest with
    | .tag before behind [word] :: rest =>
      if word? word = some "else" then
        let (otherwise, rest) ← read? fuel trims rest
        match rest with
        | .tag before behind [word] :: rest =>
          guard (word? word = some "endfor")
          return (trimEndIf before body, trimEndIf before otherwise, behind, rest)
        | _ => none
      else
        guard (word? word = some "endfor")
        return (trimEndIf before body, [], behind, rest)
    | _ => none

end

/-- The tree of a template's text. -/
def readAll? (cs : List Char) : Option (List Node) := do
  let pieces ← Piece.readAll? cs
  match ← read? (2 * pieces.length + 2) false pieces with
  | (nodes, []) => return nodes
  | _ => none

end Node

end FetchClient.Template
