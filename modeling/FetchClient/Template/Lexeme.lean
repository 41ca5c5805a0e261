/-!
# The lexemes inside the delimiters of a template

These are the lexemes of a part of the engine's language. There are no fractions, no lists, and no
other operators and comparisons, and a tag in which one stands is malformed here.

- `Path`: a variable and the keys that lead into its value;
- `Lexeme`: what the inside of a tag consists of;
- `Lexeme.readInside?`: the lexemes of a tag up to its closing delimiter.
-/

namespace FetchClient.Template

/-- `name.key[1]["key"]`: a name and the keys behind it. -/
structure Path where
  name : String
  keys : List String
  deriving DecidableEq, Repr

/-- Whether the path is just a certain word. -/
def Path.isWord (path : Path) (word : String) : Bool :=
  path.keys.isEmpty && path.name == word

inductive Lexeme where
  | path (path : Path)
  | string (text : String)
  | integer (value : Int)
  | pipe
  | open
  | close
  | comma
  | assign
  | equal
  | greater
  | plus
  | tilde
  deriving DecidableEq, Repr

namespace Lexeme

/-- The blanks that may stand between lexemes. -/
def isGap (c : Char) : Bool :=
  c == ' ' || c == '\t' || c == '\r' || c == '\n'

def isWordStart (c : Char) : Bool :=
  c.isAlpha || c == '_'

def isWordPart (c : Char) : Bool :=
  c.isAlphanum || c == '_'

/-- A text between equal quotes, and what follows it. There are no escapes. -/
def quoted? : List Char → Option (String × List Char)
  | quote :: rest =>
    if quote == '"' || quote == '\'' || quote == '\x60' then
      match rest.dropWhile (· != quote) with
      | _ :: after => some (String.ofList (rest.takeWhile (· != quote)), after)
      | [] => none
    else none
  | [] => none

/-- Digits without a superfluous leading zero, and what follows them. -/
def digits? : List Char → Option (List Char × List Char)
  | '0' :: rest => some (['0'], rest)
  | text =>
    let digits := text.takeWhile Char.isDigit
    if digits.isEmpty then none else some (digits, text.drop digits.length)

/-- An integer of 64 bits. -/
def integer? (negative : Bool) (text : List Char) : Option (Int × List Char) := do
  let (digits, rest) ← digits? text
  let size : Int := (digits.foldl (fun n c => n * 10 + (c.toNat - '0'.toNat)) 0 : Nat)
  let value := if negative then -size else size
  guard (-(Int.pow 2 63) ≤ value && value < Int.pow 2 63)
  return (value, rest)

/-- The keys of a path and what follows them. The first argument bounds their number. -/
def readKeys : Nat → List Char → List String × List Char
  | 0, text => ([], text)
  | fuel + 1, '.' :: rest =>
    let key := rest.takeWhile isWordPart
    if key.isEmpty then ([], '.' :: rest)
    else
      let (others, after) := readKeys fuel (rest.drop key.length)
      (String.ofList key :: others, after)
  | fuel + 1, '[' :: rest =>
    match (quoted? rest <|> (digits? rest).map fun (digits, after) => (String.ofList digits, after)) with
    | some (key, ']' :: after) =>
      let (others, after) := readKeys fuel after
      (key :: others, after)
    | _ => ([], '[' :: rest)
  | _, text => ([], text)

/-- A path that begins with a word. -/
def readPath (text : List Char) : Lexeme × List Char :=
  let name := text.takeWhile isWordPart
  let (keys, rest) := readKeys text.length (text.drop name.length)
  (.path ⟨String.ofList name, keys⟩, rest)

/-- One lexeme and what follows it. -/
def next? (text : List Char) : Option (Lexeme × List Char) :=
  match text with
  | '|' :: rest => some (.pipe, rest)
  | '(' :: rest => some (.open, rest)
  | ')' :: rest => some (.close, rest)
  | ',' :: rest => some (.comma, rest)
  | '=' :: '=' :: rest => some (.equal, rest)
  | '=' :: rest => some (.assign, rest)
  | '>' :: rest => some (.greater, rest)
  | '+' :: rest => some (.plus, rest)
  | '~' :: rest => some (.tilde, rest)
  | '-' :: rest => (integer? true rest).map fun (value, rest) => (.integer value, rest)
  | c :: _ =>
    if c.isDigit then (integer? false text).map fun (value, rest) => (.integer value, rest)
    else if isWordStart c then some (readPath text)
    else (quoted? text).map fun (inside, rest) => (.string inside, rest)
  | [] => none

/-- What stands between the delimiters of a tag. -/
structure Inside where
  lexemes : List Lexeme
  /-- Whether blanks behind the tag are trimmed. -/
  trims : Bool
  /-- The text behind the tag. -/
  rest : List Char

/-- The closing delimiter, which is a certain character and a brace, perhaps behind a dash. -/
def closing? (closer : Char) : List Char → Option Inside
  | '-' :: c :: '}' :: rest => if c == closer then some ⟨[], true, rest⟩ else none
  | c :: '}' :: rest => if c == closer then some ⟨[], false, rest⟩ else none
  | _ => none

/-- Reads the inside of a tag up to the closing delimiter. The first argument bounds the number of
lexemes. -/
def readInside? (closer : Char) : Nat → List Char → Option Inside
  | 0, _ => none
  | fuel + 1, text =>
    let text := text.dropWhile isGap
    match closing? closer text with
    | some inside => some inside
    | none => do
      let (lexeme, rest) ← next? text
      let inside ← readInside? closer fuel rest
      return { inside with lexemes := lexeme :: inside.lexemes }

end Lexeme

end FetchClient.Template
