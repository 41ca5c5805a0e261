import FetchClient.Text.Pieces

/-!
# Blank characters

The characters with the Unicode property White_Space, and the words that they separate.
-/

namespace FetchClient.Text

/-- The code points of all blank characters. -/
def blankPoints : List Nat :=
  [0x9, 0xA, 0xB, 0xC, 0xD, 0x20, 0x85, 0xA0, 0x1680, 0x2000, 0x2001, 0x2002, 0x2003, 0x2004,
   0x2005, 0x2006, 0x2007, 0x2008, 0x2009, 0x200A, 0x2028, 0x2029, 0x202F, 0x205F, 0x3000]

/-- Whether the character is white space. -/
def isBlank (c : Char) : Bool :=
  blankPoints.contains c.toNat

/-- The maximal stretches of characters that are not blank. -/
def words (text : List Char) : List (List Char) :=
  runs isBlank text

end FetchClient.Text
