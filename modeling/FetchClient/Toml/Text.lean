import FetchClient.Json.Syntax

/-!
# Texts in TOML

Basic texts have escapes, literal texts have none, and both may span lines when three quotes
enclose them.

- `isBlank`, `isPlain`, `newline?`: the characters that matter everywhere;
- `readBasic`, `readLiteral`, `readLongBasic`, `readLongLiteral`: what follows the opening quotes,
  up to the closing ones;
- `readText`: a text of any of the four kinds.
-/

namespace FetchClient.Toml

open Json (hexValue?)

/-! ## Characters -/

def isBlank (c : Char) : Bool :=
  c == ' ' || c == '\t'

/-- The characters of comments and texts that stand for themselves: tabs, and all that are no
control characters. -/
def isPlain (c : Char) : Bool :=
  c == '\t' || (0x20 ≤ c.toNat && c.toNat != 0x7F)

/-- What follows a line break, which is a line feed, perhaps behind a carriage return. -/
def newline? : List Char → Option (List Char)
  | '\n' :: rest => some rest
  | '\r' :: '\n' :: rest => some rest
  | _ => none

/-- The character with a code, when there is one. -/
def charOf? (code : Nat) : Option Char :=
  if code.isValidChar then some (Char.ofNat code) else none

/-- The character that a one-letter escape stands for. -/
def simpleEscape? : Char → Option Char
  | 'b' => some '\x08'
  | 't' => some '\t'
  | 'n' => some '\n'
  | 'f' => some '\x0c'
  | 'r' => some '\r'
  | '"' => some '"'
  | '\\' => some '\\'
  | _ => none

/-! ## Texts of one line -/

/-- A basic text, behind its opening quote. -/
def readBasic : List Char → Option (List Char × List Char)
  | '"' :: rest => some ([], rest)
  | '\\' :: 'u' :: a :: b :: c :: d :: rest => do
    let escaped ← (hexValue? [a, b, c, d]).bind charOf?
    let (text, rest) ← readBasic rest
    return (escaped :: text, rest)
  | '\\' :: 'U' :: a :: b :: c :: d :: e :: f :: g :: h :: rest => do
    let escaped ← (hexValue? [a, b, c, d, e, f, g, h]).bind charOf?
    let (text, rest) ← readBasic rest
    return (escaped :: text, rest)
  | '\\' :: c :: rest => do
    let escaped ← simpleEscape? c
    let (text, rest) ← readBasic rest
    return (escaped :: text, rest)
  | c :: rest => do
    guard (isPlain c)
    let (text, rest) ← readBasic rest
    return (c :: text, rest)
  | [] => none

/-- A literal text, behind its opening quote. -/
def readLiteral : List Char → Option (List Char × List Char)
  | '\'' :: rest => some ([], rest)
  | c :: rest => do
    guard (isPlain c)
    let (text, rest) ← readLiteral rest
    return (c :: text, rest)
  | [] => none

/-! ## Texts of several lines -/

/-- What follows three closing quotes: up to two more belong to the text. -/
def moreQuotes (quote : Char) : List Char → List Char × List Char
  | c :: d :: rest =>
    if c = quote then if d = quote then ([c, d], rest) else ([c], d :: rest) else ([], c :: d :: rest)
  | [c] => if c = quote then ([c], []) else ([], [c])
  | [] => ([], [])

/-- A basic text over several lines, behind its opening quotes. While `skipping`, blanks and line
breaks do not count; a backslash at the end of a line begins that. -/
def readLongBasic : Bool → List Char → Option (List Char × List Char)
  | true, '\n' :: rest => readLongBasic true rest
  | true, '\r' :: '\n' :: rest => readLongBasic true rest
  | true, ' ' :: rest => readLongBasic true rest
  | true, '\t' :: rest => readLongBasic true rest
  | _, '"' :: '"' :: '"' :: rest => some (moreQuotes '"' rest)
  | _, '\n' :: rest => do
    let (text, rest) ← readLongBasic false rest
    return ('\n' :: text, rest)
  | _, '\r' :: '\n' :: rest => do
    let (text, rest) ← readLongBasic false rest
    return ('\n' :: text, rest)
  | _, '\\' :: 'u' :: a :: b :: c :: d :: rest => do
    let escaped ← (hexValue? [a, b, c, d]).bind charOf?
    let (text, rest) ← readLongBasic false rest
    return (escaped :: text, rest)
  | _, '\\' :: 'U' :: a :: b :: c :: d :: e :: f :: g :: h :: rest => do
    let escaped ← (hexValue? [a, b, c, d, e, f, g, h]).bind charOf?
    let (text, rest) ← readLongBasic false rest
    return (escaped :: text, rest)
  | _, '\\' :: c :: rest =>
    if (newline? ((c :: rest).dropWhile isBlank)).isSome then readLongBasic true (c :: rest)
    else do
      let escaped ← simpleEscape? c
      let (text, rest) ← readLongBasic false rest
      return (escaped :: text, rest)
  | _, c :: rest => do
    guard (isPlain c)
    let (text, rest) ← readLongBasic false rest
    return (c :: text, rest)
  | _, [] => none

/-- A literal text over several lines, behind its opening quotes. -/
def readLongLiteral : List Char → Option (List Char × List Char)
  | '\'' :: '\'' :: '\'' :: rest => some (moreQuotes '\'' rest)
  | '\n' :: rest => do
    let (text, rest) ← readLongLiteral rest
    return ('\n' :: text, rest)
  | '\r' :: '\n' :: rest => do
    let (text, rest) ← readLongLiteral rest
    return ('\n' :: text, rest)
  | c :: rest => do
    guard (isPlain c)
    let (text, rest) ← readLongLiteral rest
    return (c :: text, rest)
  | [] => none

/-- The text without a line break at its beginning. -/
def dropNewline (text : List Char) : List Char :=
  (newline? text).getD text

/-- A text in quotes. A line break right behind three opening quotes does not count. -/
def readText : List Char → Option (List Char × List Char)
  | '"' :: '"' :: '"' :: rest => readLongBasic false (dropNewline rest)
  | '"' :: rest => readBasic rest
  | '\'' :: '\'' :: '\'' :: rest => readLongLiteral (dropNewline rest)
  | '\'' :: rest => readLiteral rest
  | _ => none

end FetchClient.Toml
