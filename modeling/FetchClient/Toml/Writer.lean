/-!
# Writing texts in TOML

- `Quotes.choose`: the quotes around a text, which are the plainest ones that can hold it;
- `writeText`: a text in quotes.
-/

namespace FetchClient.Toml

/-- The four ways to enclose a text. -/
inductive Quotes where
  | basic
  | literal
  | longBasic
  | longLiteral
  deriving DecidableEq, Repr

/-- The length of the longest run of a character. -/
def longestRun (c : Char) (text : List Char) : Nat :=
  (text.foldl
    (fun (longest, run) d => if d = c then (max longest (run + 1), run + 1) else (longest, 0))
    (0, 0)).1

/-- The characters that no quotes can hold without an escape: control characters, but not tab and
line feed. -/
def needsEscape (c : Char) : Bool :=
  (c.toNat < 0x20 && c != '\t' && c != '\n') || c.toNat == 0x7F

/-- The quotes around a text. Basic ones are preferred while they need no escapes. -/
def Quotes.choose (text : List Char) : Quotes :=
  let escapes := text.any needsEscape
  let lines := text.contains '\n'
  let singles := longestRun '\'' text
  let doubles := longestRun '"' text
  let slashes := text.contains '\\'
  if !escapes && !slashes && doubles = 0 && !lines then basic
  else if !escapes && singles = 0 && !lines then literal
  else if !escapes && !slashes && doubles ≤ 2 then longBasic
  else if !escapes && singles ≤ 2 then longLiteral
  else if lines then longBasic
  else basic

/-- A character in basic quotes. -/
def escapeChar (c : Char) : List Char :=
  if c = '\x08' then ['\\', 'b']
  else if c = '\t' then ['\\', 't']
  else if c = '\n' then ['\\', 'n']
  else if c = '\x0c' then ['\\', 'f']
  else if c = '\r' then ['\\', 'r']
  else if c = '"' then ['\\', '"']
  else if c = '\\' then ['\\', '\\']
  else if needsEscape c then
    ['\\', 'u', '0', '0', Nat.digitChar (c.toNat / 16), (Nat.digitChar (c.toNat % 16)).toUpper]
  else [c]

/-- A text in three basic quotes. Line feeds stand for themselves, and so do two quotes in a row,
`run` of which have been written. -/
def escapeLong (run : Nat) : List Char → List Char
  | [] => []
  | '\n' :: rest => '\n' :: escapeLong 0 rest
  | '"' :: rest =>
    if run < 2 then '"' :: escapeLong (run + 1) rest else '\\' :: '"' :: escapeLong 0 rest
  | c :: rest => escapeChar c ++ escapeLong 0 rest

/-- A text in quotes. A text over several lines begins on a line of its own. -/
def writeText (text : List Char) : List Char :=
  let start := if text.contains '\n' then ['\n'] else []
  match Quotes.choose text with
  | .basic => ['"'] ++ text.flatMap escapeChar ++ ['"']
  | .literal => ['\''] ++ text ++ ['\'']
  | .longBasic => ['"', '"', '"'] ++ start ++ escapeLong 0 text ++ ['"', '"', '"']
  | .longLiteral => ['\'', '\'', '\''] ++ start ++ text ++ ['\'', '\'', '\'']

end FetchClient.Toml
