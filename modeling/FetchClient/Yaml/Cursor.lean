/-!
# Positions in a YAML text

- character classes: breaks, blanks, and the characters that YAML admits at all;
- `Cursor`: the text that is still to be read, and where it begins;
- `Gap`: blanks and breaks between two stretches of a scalar, and what they are folded to.
-/

namespace FetchClient.Yaml

/-! ## Character classes -/

/-- The characters that end a line. -/
def isBreak (c : Char) : Bool :=
  c == '\n' || c == '\r' || c == '\x85' || c == '\u2028' || c == '\u2029'

/-- Space and tab. -/
def isBlank (c : Char) : Bool :=
  c == ' ' || c == '\t'

/-- The characters of directive names, anchors and tag handles. -/
def isWordChar (c : Char) : Bool :=
  c.isAlphanum || c == '_' || c == '-'

/-- The characters that may stand in a YAML text. -/
def isAdmitted (c : Char) : Bool :=
  let n := c.toNat
  n == 0x9 || n == 0xA || n == 0xD || (0x20 ≤ n && n ≤ 0x7E) || n == 0x85 ||
    (0xA0 ≤ n && n ≤ 0xD7FF) || (0xE000 ≤ n && n ≤ 0xFFFD) || 0x10000 ≤ n

/-! ## Cursors -/

structure Cursor where
  rest : List Char
  /-- Characters before the cursor, a pair of carriage return and line feed counting as two. -/
  index : Nat
  line : Nat
  column : Nat
  deriving Repr

namespace Cursor

def ofText (text : List Char) : Cursor := ⟨text, 0, 0, 0⟩

/-- Steps over characters of one line. -/
def skip (cursor : Cursor) (count : Nat) : Cursor :=
  ⟨cursor.rest.drop count, cursor.index + count, cursor.line, cursor.column + count⟩

/-- Steps over one line break, which may be a carriage return with a line feed behind it. -/
def skipBreak (cursor : Cursor) : Cursor :=
  match cursor.rest with
  | '\r' :: '\n' :: rest => ⟨rest, cursor.index + 2, cursor.line + 1, 0⟩
  | _ :: rest => ⟨rest, cursor.index + 1, cursor.line + 1, 0⟩
  | [] => cursor

/-- What a line break is kept as: line and paragraph separators as they are, all others as a line
feed. -/
def breakText (cursor : Cursor) : List Char :=
  match cursor.rest with
  | [] => []
  | c :: _ => if c == '\u2028' || c == '\u2029' then [c] else ['\n']

/-- The character some places behind the cursor. -/
def peek (cursor : Cursor) (offset : Nat) : Option Char :=
  cursor.rest[offset]?

/-- Whether the text has ended. -/
def atEnd (cursor : Cursor) : Bool :=
  cursor.rest.isEmpty

/-- Whether a certain character stands at an offset. -/
def sees (cursor : Cursor) (c : Char) (offset : Nat) : Bool :=
  cursor.peek offset == some c

/-- Whether a blank stands at an offset. -/
def seesBlank (cursor : Cursor) (offset : Nat) : Bool :=
  (cursor.peek offset).any isBlank

/-- Whether a break stands at an offset. -/
def seesBreak (cursor : Cursor) (offset : Nat) : Bool :=
  (cursor.peek offset).any isBreak

/-- Whether a blank, a break or the end of the text stands at an offset. -/
def seesGap (cursor : Cursor) (offset : Nat) : Bool :=
  (cursor.peek offset).all fun c => isBlank c || isBreak c

/-- Whether the line begins with a mark of three equal characters that stands alone. -/
def seesMark (cursor : Cursor) (c : Char) : Bool :=
  cursor.column == 0 && cursor.sees c 0 && cursor.sees c 1 && cursor.sees c 2 && cursor.seesGap 3

/-- Whether a document begins or ends here. -/
def seesDocumentMark (cursor : Cursor) : Bool :=
  cursor.seesMark '-' || cursor.seesMark '.'

/-- The characters on this line that satisfy a condition, and the cursor behind them. -/
def takeWhile (cursor : Cursor) (p : Char → Bool) : List Char × Cursor :=
  let taken := cursor.rest.takeWhile p
  (taken, cursor.skip taken.length)

/-- The cursor behind all blanks. -/
def skipBlanks (cursor : Cursor) : Cursor :=
  (cursor.takeWhile isBlank).2

/-- The cursor at the end of the line. -/
def skipLine (cursor : Cursor) : Cursor :=
  (cursor.takeWhile fun c => !isBreak c).2

/-- Blanks and a comment up to the end of the line, and the break there. Nothing if something else
stands on the line. -/
def finishLine? (cursor : Cursor) : Option Cursor :=
  let cursor := cursor.skipBlanks
  let cursor := if cursor.sees '#' 0 then cursor.skipLine else cursor
  if cursor.atEnd then some cursor
  else if cursor.seesBreak 0 then some cursor.skipBreak
  else none

end Cursor

/-! ## Gaps inside scalars -/

/-- Blanks and breaks between two stretches of a scalar. -/
structure Gap where
  /-- Blanks before the first break. -/
  blanks : List Char
  /-- Whether there is a break. -/
  broken : Bool
  /-- The first break, unless it was escaped. -/
  first : List Char
  /-- All further breaks. -/
  others : List Char
  deriving Repr

namespace Gap

def none : Gap := ⟨[], false, [], []⟩

/-- A gap that begins with an escaped line break, which leaves nothing behind. -/
def escaped : Gap := ⟨[], true, [], []⟩

/-- What a gap is folded to: the blanks when there is no break, a space for a single line feed,
and otherwise the breaks but a leading line feed. -/
def folded (gap : Gap) : List Char :=
  if !gap.broken then gap.blanks
  else if gap.first == ['\n'] then (if gap.others.isEmpty then [' '] else gap.others)
  else gap.first ++ gap.others

/-- Reads a gap. A tab at the beginning of a line is refused before the column `indent`. The
first argument bounds the number of characters. -/
def read? (indent : Int) : Nat → Gap → Cursor → Option (Gap × Cursor)
  | 0, gap, cursor => some (gap, cursor)
  | fuel + 1, gap, cursor =>
    match cursor.rest with
    | [] => some (gap, cursor)
    | c :: _ =>
      if isBlank c then
        if gap.broken then
          if (cursor.column : Int) < indent && c == '\t' then Option.none
          else read? indent fuel gap (cursor.skip 1)
        else read? indent fuel { gap with blanks := gap.blanks ++ [c] } (cursor.skip 1)
      else if isBreak c then
        let next :=
          if gap.broken then { gap with others := gap.others ++ cursor.breakText }
          else { gap with blanks := [], broken := true, first := cursor.breakText }
        read? indent fuel next cursor.skipBreak
      else some (gap, cursor)

end Gap

end FetchClient.Yaml
