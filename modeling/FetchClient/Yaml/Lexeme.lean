import FetchClient.Json.Syntax
import FetchClient.Yaml.Cursor
import FetchClient.Yaml.Token

/-!
# The lexemes of a YAML text

Readers of those tokens that are more than an indicator. Each begins at the token's first
character and answers with the token and the cursor behind it, or with nothing when the text is
refused.

- `directive?`, `anchorName?`, `tag?`;
- `quotedScalar?`, `plainScalar?`, `blockScalar?`.
-/

namespace FetchClient.Yaml.Lexeme

open Json (hexValue? ofDigits)

/-! ## Directives -/

/-- A version number of at most nine digits. -/
def versionNumber? (cursor : Cursor) : Option (Nat × Cursor) :=
  let (digits, after) := cursor.takeWhile Char.isDigit
  if digits.isEmpty || 9 < digits.length then none
  else some (ofDigits (digits.map fun c => c.toNat - '0'.toNat), after)

/-- A tag handle: `!`, `!!` or `!name!`. In front of a tag `!name` is read too, because it may be
the beginning of the tag itself. -/
def tagHandle? (directive : Bool) (cursor : Cursor) : Option (List Char × Cursor) :=
  if !cursor.sees '!' 0 then none
  else
    let (name, after) := (cursor.skip 1).takeWhile isWordChar
    if after.sees '!' 0 then some ('!' :: name ++ ['!'], after.skip 1)
    else if directive && !name.isEmpty then none
    else some ('!' :: name, after)

/-- The characters of a tag. Inside angle brackets and in directives some brackets are allowed
too. -/
def isTagChar (bracketed : Bool) (c : Char) : Bool :=
  isWordChar c || ";/?:@&=+$.!~*'()".toList.contains c || (bracketed && ",[]".toList.contains c)

/-- The number of bytes of a character whose first byte is given. -/
def utf8Width? (byte : Nat) : Option Nat :=
  if byte < 0x80 then some 1
  else if byte / 0x20 = 0x6 then some 2
  else if byte / 0x10 = 0xE then some 3
  else if byte / 0x8 = 0x1E then some 4
  else none

/-- The bytes of one escaped character. -/
def escapedBytes? : Nat → Cursor → Option (List Nat × Cursor)
  | 0, cursor => some ([], cursor)
  | count + 1, cursor =>
    match cursor.rest with
    | '%' :: a :: b :: _ => do
      let byte ← hexValue? [a, b]
      let (bytes, after) ← escapedBytes? count (cursor.skip 3)
      return (byte :: bytes, after)
    | _ => none

/-- One character of a tag, written as percent escapes of its UTF-8 bytes. -/
def escapedChar? (cursor : Cursor) : Option (Char × Cursor) := do
  let (first, _) ← escapedBytes? 1 cursor
  let lead := first.headD 0
  let width ← utf8Width? lead
  let (bytes, after) ← escapedBytes? width cursor
  guard (bytes.tail.all fun byte => byte / 0x40 == 2)
  let own := if width = 1 then lead else lead % Nat.pow 2 (7 - width)
  return (Char.ofNat (bytes.tail.foldl (fun value byte => value * 0x40 + byte % 0x40) own), after)

/-- The characters of a tag up to the first that cannot stand in one. -/
def tagText? (bracketed : Bool) : Nat → Cursor → Option (List Char × Cursor)
  | 0, cursor => some ([], cursor)
  | fuel + 1, cursor =>
    match cursor.rest with
    | [] => some ([], cursor)
    | c :: _ =>
      if c == '%' then do
        let (escaped, after) ← escapedChar? cursor
        let (text, after) ← tagText? bracketed fuel after
        return (escaped :: text, after)
      else if isTagChar bracketed c then do
        let (text, after) ← tagText? bracketed fuel (cursor.skip 1)
        return (c :: text, after)
      else some ([], cursor)

/-- A tag's text that is not empty. -/
def tagSuffix? (bracketed : Bool) (cursor : Cursor) : Option (List Char × Cursor) :=
  (tagText? bracketed cursor.rest.length cursor).filter (!·.1.isEmpty)

/-- A directive with the line that it stands on. Only versions and tag handles can be set. -/
def directive? (cursor : Cursor) : Option (Token × Cursor) := do
  let (name, after) := (cursor.skip 1).takeWhile isWordChar
  guard (!name.isEmpty && after.seesGap 0)
  let after := after.skipBlanks
  if name == "YAML".toList then
    let (major, after) ← versionNumber? after
    guard (after.sees '.' 0)
    let (minor, after) ← versionNumber? (after.skip 1)
    return (.versionDirective major minor, ← after.finishLine?)
  else if name == "TAG".toList then
    let (handle, after) ← tagHandle? true after
    guard (after.seesBlank 0)
    let (stem, after) ← tagSuffix? true after.skipBlanks
    guard (after.seesGap 0)
    return (.tagDirective (String.ofList handle) (String.ofList stem), ← after.finishLine?)
  else none

/-! ## Anchors, aliases and tags -/

/-- The name behind `&` or `*`, which a gap or one of a few indicators has to end. -/
def anchorName? (cursor : Cursor) : Option (String × Cursor) :=
  let (name, after) := (cursor.skip 1).takeWhile isWordChar
  if !name.isEmpty && (after.seesGap 0 || (after.peek 0).any ("?:,]\x7d%@`".toList.contains ·)) then
    some (String.ofList name, after)
  else none

/-- A tag: `!<text>`, `!handle!text`, `!text` or a lone `!`. -/
def tag? (inFlow : Bool) (cursor : Cursor) : Option (Token × Cursor) := do
  let (handle, suffix, after) ←
    if cursor.sees '<' 1 then do
      let (suffix, after) ← tagSuffix? true (cursor.skip 2)
      guard (after.sees '>' 0)
      pure ([], suffix, after.skip 1)
    else do
      let (handle, after) ← tagHandle? false cursor
      if handle.length > 1 && handle.getLast? == some '!' then
        let (suffix, after) ← tagSuffix? false after
        pure (handle, suffix, after)
      else
        let (more, after) ← tagText? false after.rest.length after
        let suffix := handle.tail ++ more
        pure (if suffix.isEmpty then ([], ['!'], after) else (['!'], suffix, after))
  guard ((inFlow && after.sees ',' 0) || after.seesGap 0)
  return (.tag (String.ofList handle) (String.ofList suffix), after)

/-! ## Quoted scalars -/

/-- The character that a one-letter escape stands for. -/
def simpleEscape? : Char → Option Char
  | '0' => some '\x00'
  | 'a' => some '\x07'
  | 'b' => some '\x08'
  | 't' => some '\t'
  | '\t' => some '\t'
  | 'n' => some '\n'
  | 'v' => some '\x0b'
  | 'f' => some '\x0c'
  | 'r' => some '\r'
  | 'e' => some '\x1b'
  | ' ' => some ' '
  | '"' => some '"'
  | '/' => some '/'
  | '\\' => some '\\'
  | 'N' => some '\x85'
  | '_' => some '\xa0'
  | 'L' => some '\u2028'
  | 'P' => some '\u2029'
  | _ => none

/-- The number of hexadecimal digits that an escape takes. -/
def escapeWidth? : Char → Option Nat
  | 'x' => some 2
  | 'u' => some 4
  | 'U' => some 8
  | _ => none

/-- The character that an escape stands for, and the cursor behind the escape. -/
def escape? (cursor : Cursor) : Option (Char × Cursor) := do
  let c ← cursor.peek 1
  match escapeWidth? c with
  | some width =>
    let digits := (cursor.rest.drop 2).take width
    guard (digits.length = width)
    let code ← hexValue? digits
    guard (code.isValidChar)
    return (Char.ofNat code, cursor.skip (2 + width))
  | none => return (← simpleEscape? c, cursor.skip 2)

/-- A stretch of a quoted scalar without gaps. The last component says whether an escaped line
break ended it. -/
def quotedStretch? (single : Bool) : Nat → Cursor → Option (List Char × Cursor × Bool)
  | 0, cursor => some ([], cursor, false)
  | fuel + 1, cursor =>
    match cursor.rest with
    | [] => some ([], cursor, false)
    | c :: _ =>
      if isBlank c || isBreak c then some ([], cursor, false)
      else if single then
        if c == '\'' then
          if cursor.sees '\'' 1 then do
            let (text, after) ← quotedStretch? single fuel (cursor.skip 2)
            return ('\'' :: text, after)
          else some ([], cursor, false)
        else do
          let (text, after) ← quotedStretch? single fuel (cursor.skip 1)
          return (c :: text, after)
      else if c == '"' then some ([], cursor, false)
      else if c == '\\' then
        if cursor.seesBreak 1 then some ([], (cursor.skip 1).skipBreak, true)
        else do
          let (escaped, after) ← escape? cursor
          let (text, after) ← quotedStretch? single fuel after
          return (escaped :: text, after)
      else do
        let (text, after) ← quotedStretch? single fuel (cursor.skip 1)
        return (c :: text, after)

/-- The inside of a quoted scalar and its closing quote. No document may begin or end inside. -/
def quotedInside? (single : Bool) : Nat → Cursor → Option (List Char × Cursor)
  | 0, _ => none
  | fuel + 1, cursor => do
    guard (!cursor.seesDocumentMark && !cursor.atEnd)
    let (text, after, escapedBreak) ← quotedStretch? single cursor.rest.length cursor
    if after.sees (if single then '\'' else '"') 0 then
      return (text, after.skip 1)
    else
      let start := if escapedBreak then Gap.escaped else Gap.none
      let (gap, after) ← Gap.read? (-1) after.rest.length start after
      let (more, after) ← quotedInside? single fuel after
      return (text ++ gap.folded ++ more, after)

/-- A quoted scalar. -/
def quotedScalar? (single : Bool) (cursor : Cursor) : Option (Token × Cursor) := do
  let (text, after) ← quotedInside? single (cursor.rest.length + 1) (cursor.skip 1)
  return (.scalar (if single then .singleQuoted else .doubleQuoted) (String.ofList text), after)

/-! ## Plain scalars -/

/-- The characters that end a plain scalar inside brackets or braces. -/
def isFlowIndicator (c : Char) : Bool :=
  ",[]{}".toList.contains c

/-- A stretch of a plain scalar without gaps. Inside brackets or braces a colon in front of an
indicator is refused. -/
def plainStretch? (inFlow : Bool) : List Char → Option (List Char)
  | [] => some []
  | c :: rest =>
    let gapBehind := rest.head?.all fun d => isBlank d || isBreak d
    if isBlank c || isBreak c then some []
    else if inFlow && c == ':' && rest.head?.any (fun d => isFlowIndicator d || d == '?') then none
    else if (c == ':' && gapBehind) || (inFlow && isFlowIndicator c) then some []
    else (plainStretch? inFlow rest).map (c :: ·)

/-- The stretches of a plain scalar from here on, and whether the last gap broke a line. The gap
before the scalar's end belongs to no stretch. -/
def plainStretches? (inFlow : Bool) (indent : Int) :
    Nat → Gap → Cursor → Option (List Char × Cursor × Bool)
  | 0, gap, cursor => some ([], cursor, gap.broken)
  | fuel + 1, gap, cursor =>
    if cursor.seesDocumentMark || cursor.sees '#' 0 then some ([], cursor, gap.broken)
    else do
      let stretch ← plainStretch? inFlow cursor.rest
      let text := if stretch.isEmpty then [] else gap.folded ++ stretch
      let broken := if stretch.isEmpty then gap.broken else false
      let after := cursor.skip stretch.length
      if after.atEnd || !after.seesGap 0 then return (text, after, broken)
      else
        let (gap, after) ← Gap.read? indent after.rest.length Gap.none after
        if !inFlow && (after.column : Int) < indent then return (text, after, gap.broken)
        else
          let (more, after, broken) ← plainStretches? inFlow indent fuel gap after
          return (text ++ more, after, broken)

/-- A plain scalar inside a block of the given indentation, and whether a line break follows it
so that a key may begin behind it. -/
def plainScalar? (inFlow : Bool) (indent : Int) (cursor : Cursor) : Option (Token × Cursor × Bool) := do
  let (text, after, broken) ←
    plainStretches? inFlow (indent + 1) (cursor.rest.length + 1) Gap.none cursor
  return (.scalar .plain (String.ofList text), after, broken)

/-! ## Block scalars -/

/-- What becomes of the breaks at the end of a block scalar. -/
inductive Chomping where
  | strip
  | clip
  | keep
  deriving DecidableEq, Repr

/-- The indentation digit and the chomping sign of a block scalar, in either order. -/
def blockHeader? (cursor : Cursor) : Option (Option Nat × Chomping × Cursor) := do
  let sign? (cursor : Cursor) : Option (Chomping × Cursor) :=
    if cursor.sees '+' 0 then some (.keep, cursor.skip 1)
    else if cursor.sees '-' 0 then some (.strip, cursor.skip 1)
    else none
  let digit? (cursor : Cursor) : Option (Nat × Cursor) :=
    match cursor.peek 0 with
    | some c => if c.isDigit then some (c.toNat - '0'.toNat, cursor.skip 1) else none
    | none => none
  let (digit, chomping, after) ←
    match sign? cursor with
    | some (chomping, after) =>
      match digit? after with
      | some (digit, after) => some (some digit, chomping, after)
      | none => some (none, chomping, after)
    | none =>
      match digit? cursor with
      | some (digit, after) =>
        match sign? after with
        | some (chomping, after) => some (some digit, chomping, after)
        | none => some (some digit, .clip, after)
      | none => some (none, .clip, cursor)
  guard (digit != some 0)
  return (digit, chomping, ← after.finishLine?)

/-- Breaks and indentation before the next line of a block scalar. While `indent` is nothing, the
lines may be indented as they like, and the deepest of them is remembered in `deepest`. -/
def blockBreaks? (indent : Option Nat) :
    Nat → Nat → List Char → Cursor → Option (Nat × List Char × Cursor)
  | 0, deepest, breaks, cursor => some (deepest, breaks, cursor)
  | fuel + 1, deepest, breaks, cursor => do
    let spaces := (cursor.rest.takeWhile (· == ' ')).length
    let wanted :=
      match indent with
      | some indent => min spaces (indent - cursor.column)
      | none => spaces
    let cursor := cursor.skip wanted
    let deepest := max deepest cursor.column
    let below := indent.all (cursor.column < ·)
    guard (!(below && cursor.sees '\t' 0))
    if cursor.seesBreak 0 then
      blockBreaks? indent fuel deepest (breaks ++ cursor.breakText) cursor.skipBreak
    else return (deepest, breaks, cursor)

/-- The lines of a block scalar. `first` is the break before the line, `others` the breaks behind
that one, and `blank` says whether the line before began with a blank. -/
def blockLines? (literal : Bool) (indent : Nat) :
    Nat → List Char → List Char → Bool → Cursor →
      Option (List Char × List Char × List Char × Cursor)
  | 0, first, others, _, cursor => some ([], first, others, cursor)
  | fuel + 1, first, others, blank, cursor =>
    if cursor.column != indent || cursor.atEnd then some ([], first, others, cursor)
    else do
      let startsBlank := cursor.seesBlank 0
      let joint :=
        if !literal && first == ['\n'] && !blank && !startsBlank then
          if others.isEmpty then [' '] else []
        else first
      let (line, after) := cursor.takeWhile fun c => !isBreak c
      let lineBreak := after.breakText
      let (_, breaks, next) ←
        blockBreaks? (some indent) after.rest.length 0 [] after.skipBreak
      let (more, first, last, next) ←
        blockLines? literal indent fuel lineBreak breaks startsBlank next
      return (joint ++ others ++ line ++ more, first, last, next)

/-- A block scalar inside a block of the given indentation, which is negative outside all
blocks. -/
def blockScalar? (literal : Bool) (parent : Int) (cursor : Cursor) : Option (Token × Cursor) := do
  let (digit, chomping, after) ← blockHeader? (cursor.skip 1)
  let declared := digit.map fun digit => (if 0 ≤ parent then parent + digit else digit).toNat
  let (deepest, breaks, after) ← blockBreaks? declared after.rest.length 0 [] after
  let indent := declared.getD (max (max deepest (parent + 1).toNat) 1)
  let (text, first, others, after) ←
    blockLines? literal indent (after.rest.length + 1) [] breaks false after
  let tail :=
    match chomping with
    | .strip => []
    | .clip => first
    | .keep => first ++ others
  return (.scalar (if literal then .literal else .folded) (String.ofList (text ++ tail)), after)

end FetchClient.Yaml.Lexeme
