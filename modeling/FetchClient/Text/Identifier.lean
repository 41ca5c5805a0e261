import FetchClient.Text.Alphabetic
import FetchClient.Text.LetterCase

/-!
# Identifiers

Names that may stand in the generated client.

- `isIdentifier`: a letter, `_` or `$`, then any number of these or of ASCII digits;
- `sanitize`: the identifier made from any text by dropping what cannot stand in one.
-/

namespace FetchClient.Text

/-- Letters of any script, `_` and `$` may begin an identifier. -/
def isIdentifierStart (c : Char) : Bool :=
  isAlphabetic c || c == '_' || c == '$'

/-- ASCII digits may stand in an identifier too, though not at its beginning. -/
def isIdentifierPart (c : Char) : Bool :=
  isIdentifierStart c || c.isDigit

/-- Whether the whole text is an identifier. -/
def isIdentifier : List Char → Bool
  | [] => false
  | c :: rest => isIdentifierStart c && rest.all isIdentifierPart

/-- Drops the characters that cannot stand in an identifier. A dropped stretch puts the character
behind it into upper case, unless nothing was kept before: `started` says that something was, and
`pending` that the last character was dropped. -/
def keepParts (started pending : Bool) : List Char → List Char
  | [] => []
  | c :: rest =>
    if isIdentifierPart c then
      (if started && pending then upper c else [c]) ++ keepParts true false rest
    else keepParts started true rest

/-- Puts `_` before a leading digit. -/
def guardDigit : List Char → List Char
  | [] => []
  | c :: rest => if c.isDigit then '_' :: c :: rest else c :: rest

/-- The identifier made from a text: `user-profile` gives `userProfile`, `2fa` gives `_2fa`. The
result is empty when no character may stand in an identifier. -/
def sanitize (text : List Char) : List Char :=
  guardDigit (keepParts false false text)

theorem isIdentifierPart_of_start {c : Char} (h : isIdentifierStart c = true) :
    isIdentifierPart c = true := by
  simp [isIdentifierPart, h]

end FetchClient.Text
