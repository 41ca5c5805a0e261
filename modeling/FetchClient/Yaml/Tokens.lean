import FetchClient.Yaml.Lexeme

/-!
# The token list of a YAML text

Most tokens are read off the text one by one. Two kinds are not: a block ends where the
indentation falls back, and a key is known to be one only when its colon is met. Until then the
place before it is remembered as a `KeyMark`, one for every level of brackets.

- `Scanner`: what is known after some tokens;
- `Scanner.step?`: reads the next token;
- `tokens?`: all tokens of a text.
-/

namespace FetchClient.Yaml

/-- A place where a key may have begun. -/
structure KeyMark where
  /-- The number of tokens before the place. -/
  count : Nat
  index : Nat
  line : Nat
  column : Nat
  /-- Whether only a key can stand there. -/
  required : Bool
  deriving Repr

structure Scanner where
  cursor : Cursor
  /-- The tokens so far, the last one first. -/
  tokens : List Token
  count : Nat
  /-- The column of the innermost block, or -1 outside all blocks. -/
  indent : Int
  outerIndents : List Int
  /-- Whether a key may begin here. -/
  keyAllowed : Bool
  /-- The mark of the current level of brackets. -/
  mark : Option KeyMark
  /-- The marks of the levels around it. -/
  outerMarks : List (Option KeyMark)
  deriving Repr

namespace Scanner

def ofText (text : List Char) : Scanner where
  cursor := .ofText text
  tokens := []
  count := 0
  indent := -1
  outerIndents := []
  keyAllowed := true
  mark := none
  outerMarks := []

/-- Whether the scanner is inside brackets or braces. -/
def inFlow (s : Scanner) : Bool :=
  !s.outerMarks.isEmpty

def push (s : Scanner) (token : Token) : Scanner :=
  { s with tokens := token :: s.tokens, count := s.count + 1 }

/-- Puts a token in front of all but the first `count` tokens. -/
def insert (s : Scanner) (count : Nat) (token : Token) : Scanner :=
  let behind := s.count - count
  { s with
    tokens := s.tokens.take behind ++ token :: s.tokens.drop behind
    count := s.count + 1 }

def moveTo (s : Scanner) (cursor : Cursor) : Scanner :=
  { s with cursor := cursor }

def allowKey (s : Scanner) (allowed : Bool) : Scanner :=
  { s with keyAllowed := allowed }

/-! ## Blanks and comments between tokens -/

/-- Steps over blanks, comments and breaks. A tab is no blank where a block's indentation could
begin, and a byte order mark may begin the text. -/
def skipGap : Nat → Scanner → Scanner
  | 0, s => s
  | fuel + 1, s =>
    let cursor := if s.cursor.index == 0 && s.cursor.sees '\ufeff' 0 then s.cursor.skip 1 else s.cursor
    let tabs := s.inFlow || !s.keyAllowed
    let (_, cursor) := cursor.takeWhile fun c => c == ' ' || (tabs && c == '\t')
    let cursor := if cursor.sees '#' 0 then cursor.skipLine else cursor
    if cursor.seesBreak 0 then
      let s := s.moveTo cursor.skipBreak
      skipGap fuel (if s.inFlow then s else s.allowKey true)
    else s.moveTo cursor

/-! ## Indentation -/

/-- Ends all blocks that are deeper than a column. -/
def closeBlocks (column : Int) : Nat → Scanner → Scanner
  | 0, s => s
  | fuel + 1, s =>
    if s.indent ≤ column then s
    else
      match s.outerIndents with
      | [] => s
      | outer :: outers =>
        closeBlocks column fuel { s.push .blockEnd with indent := outer, outerIndents := outers }

/-- Ends all blocks that are deeper than a column, unless inside brackets. -/
def unroll (s : Scanner) (column : Int) : Scanner :=
  if s.inFlow then s else s.closeBlocks column s.outerIndents.length

/-- Begins a block at a column that is deeper than the current block. Its token goes in front of
all but the first `count` tokens. -/
def roll (s : Scanner) (column : Nat) (count : Nat) (token : Token) : Scanner :=
  if s.inFlow || (column : Int) ≤ s.indent then s
  else { s.insert count token with indent := column, outerIndents := s.indent :: s.outerIndents }

/-! ## Keys -/

/-- Whether a key that begins at the mark can no longer be one: it has to end on its line and
within 1024 characters. -/
def isStale (cursor : Cursor) (mark : KeyMark) : Bool :=
  mark.line < cursor.line || mark.index + 1024 < cursor.index

/-- Drops a stale mark. Nothing if it was required. -/
def dropStale? (cursor : Cursor) : Option KeyMark → Option (Option KeyMark)
  | none => some none
  | some mark =>
    if isStale cursor mark then (if mark.required then none else some none) else some (some mark)

/-- Drops the stale marks of all levels. -/
def dropStaleMarks? (s : Scanner) : Option Scanner := do
  let mark ← dropStale? s.cursor s.mark
  let outerMarks ← s.outerMarks.mapM (dropStale? s.cursor)
  return { s with mark, outerMarks }

/-- Drops the mark of the current level. Nothing if it was required. -/
def dropMark? (s : Scanner) : Option Scanner :=
  if s.mark.any (·.required) then none else some { s with mark := none }

/-- Marks the place as the possible beginning of a key, if one is allowed here. -/
def markKey? (s : Scanner) : Option Scanner :=
  if s.keyAllowed then do
    let required := !s.inFlow && s.indent == (s.cursor.column : Int)
    let s ← s.dropMark?
    return { s with
      mark := some ⟨s.count, s.cursor.index, s.cursor.line, s.cursor.column, required⟩ }
  else some s

/-! ## Tokens -/

/-- A bracket or brace that opens a level. -/
def openFlow? (s : Scanner) (token : Token) : Option Scanner := do
  let s ← s.markKey?
  let s := { s with mark := none, outerMarks := s.mark :: s.outerMarks, keyAllowed := true }
  return (s.push token).moveTo (s.cursor.skip 1)

/-- A bracket or brace that closes a level. -/
def closeFlow? (s : Scanner) (token : Token) : Option Scanner := do
  let s ← s.dropMark?
  let s :=
    match s.outerMarks with
    | [] => s
    | outer :: outers => { s with mark := outer, outerMarks := outers }
  return ((s.allowKey false).push token).moveTo (s.cursor.skip 1)

/-- A comma inside brackets or braces. -/
def flowEntry? (s : Scanner) : Option Scanner := do
  let s ← s.dropMark?
  return ((s.allowKey true).push .flowEntry).moveTo (s.cursor.skip 1)

/-- A dash in front of an item. -/
def blockEntry? (s : Scanner) : Option Scanner := do
  guard (s.inFlow || s.keyAllowed)
  let s := s.roll s.cursor.column s.count .blockSequenceStart
  let s ← s.dropMark?
  return ((s.allowKey true).push .blockEntry).moveTo (s.cursor.skip 1)

/-- A question mark in front of a key. -/
def explicitKey? (s : Scanner) : Option Scanner := do
  guard (s.inFlow || s.keyAllowed)
  let s := s.roll s.cursor.column s.count .blockMappingStart
  let s ← s.dropMark?
  return ((s.allowKey !s.inFlow).push .key).moveTo (s.cursor.skip 1)

/-- A colon behind a key. If the place of the key was marked, the key begins there. -/
def value? (s : Scanner) : Option Scanner :=
  match s.mark with
  | some mark =>
    let s := (s.insert mark.count .key).roll mark.column mark.count .blockMappingStart
    let s := { s with mark := none, keyAllowed := false }
    some ((s.push .value).moveTo (s.cursor.skip 1))
  | none => do
    guard (s.inFlow || s.keyAllowed)
    let s := s.roll s.cursor.column s.count .blockMappingStart
    return ((s.allowKey !s.inFlow).push .value).moveTo (s.cursor.skip 1)

/-- A directive or a document mark, which ends all blocks. -/
def atMargin? (s : Scanner) (token : Token) (after : Cursor) : Option Scanner := do
  let s ← (s.unroll (-1)).dropMark?
  return ((s.allowKey false).push token).moveTo after

/-- A token that may be a key, or begin one. -/
def keyable? (s : Scanner) (lexeme : Option (Token × Cursor)) : Option Scanner := do
  let s ← s.markKey?
  let (token, after) ← lexeme
  return ((s.allowKey false).push token).moveTo after

/-- A scalar in block style. -/
def block? (s : Scanner) (literal : Bool) : Option Scanner := do
  let s ← s.dropMark?
  let (token, after) ← Lexeme.blockScalar? literal s.indent s.cursor
  return ((s.allowKey true).push token).moveTo after

/-- A plain scalar. If it ends with a line, a key may begin behind it. -/
def plain? (s : Scanner) : Option Scanner := do
  let s ← s.markKey?
  let (token, after, broken) ← Lexeme.plainScalar? s.inFlow s.indent s.cursor
  return ((s.allowKey broken).push token).moveTo after

/-- Whether a plain scalar may begin with a character. Dash, question mark and colon need
something behind them. -/
def startsPlain (s : Scanner) (c : Char) : Bool :=
  if c == '-' then !s.cursor.seesBlank 1
  else if c == '?' || c == ':' then !s.inFlow && !s.cursor.seesGap 1
  else !(isBlank c || ",[]{}#&*!|>'\"%@`".toList.contains c)

/-- Reads the next token, or several if blocks end. The second component says whether the text
has ended. -/
def step? (s : Scanner) : Option (Scanner × Bool) := do
  let s ← (s.skipGap (s.cursor.rest.length + 1)).dropStaleMarks?
  let s := s.unroll s.cursor.column
  let cursor := s.cursor
  match cursor.rest with
  | [] =>
    let s ← (s.unroll (-1)).dropMark?
    return (s, true)
  | c :: _ =>
    let next ←
      if cursor.column == 0 && c == '%' then
        match Lexeme.directive? cursor with
        | some (token, after) => s.atMargin? token after
        | none => none
      else if cursor.seesMark '-' then s.atMargin? .documentStart (cursor.skip 3)
      else if cursor.seesMark '.' then s.atMargin? .documentEnd (cursor.skip 3)
      else if c == '[' then s.openFlow? .flowSequenceStart
      else if c == '{' then s.openFlow? .flowMappingStart
      else if c == ']' then s.closeFlow? .flowSequenceEnd
      else if c == '}' then s.closeFlow? .flowMappingEnd
      else if c == ',' then s.flowEntry?
      else if c == '-' && cursor.seesGap 1 then s.blockEntry?
      else if c == '?' && (s.inFlow || cursor.seesGap 1) then s.explicitKey?
      else if c == ':' && (s.inFlow || cursor.seesGap 1) then s.value?
      else if c == '*' then s.keyable? ((Lexeme.anchorName? cursor).map fun (n, k) => (.alias n, k))
      else if c == '&' then s.keyable? ((Lexeme.anchorName? cursor).map fun (n, k) => (.anchor n, k))
      else if c == '!' then s.keyable? (Lexeme.tag? s.inFlow cursor)
      else if c == '|' && !s.inFlow then s.block? true
      else if c == '>' && !s.inFlow then s.block? false
      else if c == '\'' then s.keyable? (Lexeme.quotedScalar? true cursor)
      else if c == '"' then s.keyable? (Lexeme.quotedScalar? false cursor)
      else if s.startsPlain c then s.plain?
      else none
    return (next, false)

/-- Reads tokens until the text ends. -/
def run? : Nat → Scanner → Option Scanner
  | 0, _ => none
  | fuel + 1, s =>
    match s.step? with
    | none => none
    | some (s, true) => some s
    | some (s, false) => run? fuel s

end Scanner

/-- The tokens of a text. A byte order mark in front of it is passed over, and every character has
to be one that YAML admits. -/
def tokens? (text : List Char) : Option (List Token) :=
  let text := if text.head? == some '\ufeff' then text.drop 1 else text
  if text.all isAdmitted then
    ((Scanner.ofText text).run? (text.length + 1)).map (·.tokens.reverse)
  else none

end FetchClient.Yaml
