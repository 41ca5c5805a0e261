/-!
# Single-quoted string literals

- `Quoted.encode`: the inside of a single-quoted literal that stands for a text;
- `Quoted.decode`: reads such an inside up to the closing quote.
-/

namespace FetchClient.Text.Quoted

/-- What one character is written as between single quotes. -/
def encodeChar : Char → List Char
  | '\\' => ['\\', '\\']
  | '\'' => ['\\', '\'']
  | '\n' => ['\\', 'n']
  | '\r' => ['\\', 'r']
  | c => [c]

/-- The text as it is written between single quotes. -/
def encode (text : List Char) : List Char :=
  text.flatMap encodeChar

/-- The character that stands for itself after a backslash, or for a line break. -/
def unescape : Char → Option Char
  | '\\' => some '\\'
  | '\'' => some '\''
  | 'n' => some '\n'
  | 'r' => some '\r'
  | _ => none

/-- Reads what follows an opening single quote: the text up to the closing quote, and what stands
behind that quote. A raw line break, an unknown escape and a missing quote are refused. -/
def decode : List Char → Option (List Char × List Char)
  | [] => none
  | '\'' :: rest => some ([], rest)
  | '\n' :: _ => none
  | '\r' :: _ => none
  | '\\' :: c :: rest => do
    let d ← unescape c
    let (text, after) ← decode rest
    return (d :: text, after)
  | ['\\'] => none
  | c :: rest => do
    let (text, after) ← decode rest
    return (c :: text, after)

end FetchClient.Text.Quoted
