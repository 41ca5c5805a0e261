import FetchClient.Template.Lexeme
import FetchClient.Text.Blank

/-!
# The pieces of a template

Inside the delimiters stands what `Lexeme` spells out, which is a part of the engine's language.

- `Piece`: text, or a tag with its lexemes;
- `Piece.readAll?`: the pieces of a template's text.
-/

namespace FetchClient.Template

inductive Piece where
  | text (text : List Char)
  /-- What stands in double braces. -/
  | output (trimsBefore trimsBehind : Bool) (lexemes : List Lexeme)
  /-- What stands in braces with percent signs. -/
  | tag (trimsBefore trimsBehind : Bool) (lexemes : List Lexeme)
  | comment (trimsBefore trimsBehind : Bool)
  /-- Text between `raw` and `endraw`. -/
  | raw (trimsBefore trimsBehind : Bool) (text : List Char)
  deriving Repr

namespace Piece

/-- Whether blanks in front of the piece are trimmed. -/
def trimsBefore : Piece → Bool
  | text _ => false
  | output before _ _ | tag before _ _ | comment before _ | raw before _ _ => before

/-- The word that a tag begins with. -/
def word? : Piece → Option String
  | tag _ _ (.path path :: _) => if path.keys.isEmpty then some path.name else none
  | _ => none

/-! ## Trimming -/

def trimStart (text : List Char) : List Char :=
  text.dropWhile Text.isBlank

def trimEnd (text : List Char) : List Char :=
  (trimStart text.reverse).reverse

def trimStartIf (trims : Bool) (text : List Char) : List Char :=
  if trims then trimStart text else text

def trimEndIf (trims : Bool) (text : List Char) : List Char :=
  if trims then trimEnd text else text

/-! ## Reading -/

/-- Whether a piece other than text begins here. -/
def opensTag : List Char → Bool
  | '{' :: c :: _ => c == '{' || c == '%' || c == '#'
  | _ => false

/-- The text up to the next tag, and what follows it. -/
def takeText : List Char → List Char × List Char
  | [] => ([], [])
  | c :: rest =>
    if opensTag (c :: rest) then ([], c :: rest)
    else (c :: (takeText rest).1, (takeText rest).2)

/-- The dash of an opening delimiter, and what follows it. -/
def takeDash : List Char → Bool × List Char
  | '-' :: rest => (true, rest)
  | rest => (false, rest)

/-- What follows a comment, and whether blanks there are trimmed. -/
def closeComment? : List Char → Option (Bool × List Char)
  | '-' :: '#' :: '}' :: rest => some (true, rest)
  | '#' :: '}' :: rest => some (false, rest)
  | _ :: rest => closeComment? rest
  | [] => none

/-- The tag that ends raw text, if it stands here. -/
def rawEnd? (cs : List Char) : Option (Bool × Lexeme.Inside) :=
  match cs with
  | '{' :: '%' :: rest =>
    let (before, rest) := takeDash rest
    match Lexeme.readInside? '%' (rest.length + 1) rest with
    | some inside => if inside.lexemes = [.path ⟨"endraw", []⟩] then some (before, inside) else none
    | none => none
  | _ => none

/-- Raw text up to the tag that ends it. -/
def takeRaw? : List Char → Option (List Char × Bool × Lexeme.Inside)
  | [] => none
  | c :: rest =>
    match rawEnd? (c :: rest) with
    | some (before, inside) => some ([], before, inside)
    | none => (takeRaw? rest).map fun (cs, ending) => (c :: cs, ending)

/-- The piece that a text begins with, and what follows it. -/
def next? (cs : List Char) : Option (Piece × List Char) :=
  match cs with
  | '{' :: '{' :: rest => do
    let (before, rest) := takeDash rest
    let inside ← Lexeme.readInside? '}' (rest.length + 1) rest
    return (.output before inside.trims inside.lexemes, inside.rest)
  | '{' :: '%' :: rest => do
    let (before, rest) := takeDash rest
    let inside ← Lexeme.readInside? '%' (rest.length + 1) rest
    if inside.lexemes = [.path ⟨"raw", []⟩] then
      let (inner, endBefore, ending) ← takeRaw? inside.rest
      return (.raw before ending.trims (trimEndIf endBefore (trimStartIf inside.trims inner)),
        ending.rest)
    else return (.tag before inside.trims inside.lexemes, inside.rest)
  | '{' :: '#' :: rest => do
    let (before, rest) := takeDash rest
    let (behind, rest) ← closeComment? rest
    return (.comment before behind, rest)
  | _ =>
    let (taken, rest) := takeText cs
    some (.text taken, rest)

/-- The pieces of a text. The first argument bounds their number. -/
def read? : Nat → List Char → Option (List Piece)
  | _, [] => some []
  | 0, _ => none
  | fuel + 1, cs => do
    let (piece, rest) ← next? cs
    return piece :: (← read? fuel rest)

/-- The pieces of a template's text, each of which takes at least one character. -/
def readAll? (cs : List Char) : Option (List Piece) :=
  read? cs.length cs

end Piece

end FetchClient.Template
