import FetchClient.Yaml.Reader

/-!
# Writing texts in YAML

- `Style.admits`: whether a text can be written in a style;
- `Style.choose`: the style of a text, plain if it can be mistaken for nothing else;
- `writeText`: a text as the value of an entry, with the end of its line.
-/

namespace FetchClient.Yaml

/-! ## What a style can hold -/

/-- The characters that are written as they are. -/
def isPrintable (c : Char) : Bool :=
  isAdmitted c && c != '\t' && c != '\r' && c != '\x85' && c != '\ufeff'

/-- Whether two neighbours in a text are of two kinds. -/
def hasPair (first second : Char → Bool) (text : List Char) : Bool :=
  (text.zip (text.drop 1)).any fun (c, d) => first c && second d

def isSpace (c : Char) : Bool :=
  c == ' '

def isGap (c : Char) : Bool :=
  isBlank c || isBreak c

/-- Whether a text begins with a character that stands alone. -/
def startsAlone (mark : Char) (text : List Char) : Bool :=
  text.head? == some mark && (text.drop 1).head?.all isGap

/-- Whether a text holds what would be read as punctuation if it stood in an entry without
quotes. -/
def hasPunctuation (text : List Char) : Bool :=
  text.take 3 == ['-', '-', '-'] || text.take 3 == ['.', '.', '.'] ||
    text.head?.any "#,[]{}&*!|>'\"%@\x60".toList.contains ||
    startsAlone '-' text || startsAlone '?' text ||
    hasPair (· == ':') isGap text || text.getLast? == some ':' ||
    hasPair isGap (· == '#') text

/-- Whether a text can be written in a style. -/
def Style.admits : Style → List Char → Bool
  | plain, text =>
    !text.isEmpty && text.all isPrintable && !text.any isBreak && !hasPunctuation text &&
      text.head? != some ' ' && text.getLast? != some ' '
  | singleQuoted, text =>
    text.all isPrintable && !hasPair isSpace isBreak text && !hasPair isBreak isSpace text
  | doubleQuoted, _ => true
  | literal, text | folded, text =>
    !text.isEmpty && text.all isPrintable && !hasPair isSpace isBreak text &&
      text.getLast? != some ' '

/-! ## The choice of a style -/

/-- Whether a plain scalar with this text is a text. Digits behind a superfluous zero are not taken
for one. -/
def isPlainText (text : List Char) : Bool :=
  match Scalar.plain? (String.ofList text) with
  | some (.string _) => !Plain.isDigitText text
  | _ => false

/-- The style of a text: literal when it has several lines, else plain when it is read back as a
text, else in single quotes. What the style cannot hold stands in double quotes. -/
def Style.choose (text : List Char) : Style :=
  if text.contains '\n' then
    if literal.admits text then literal else doubleQuoted
  else if isPlainText text && plain.admits text then plain
  else if singleQuoted.admits text then singleQuoted
  else doubleQuoted

/-! ## Writing -/

/-- The blanks in front of the lines of a text. -/
def indentation : List Char :=
  [' ', ' ']

/-- A text in single quotes. A line begins with the indentation. -/
def quoteSingle (afterBreak : Bool) : List Char → List Char
  | [] => if afterBreak then indentation else []
  | c :: rest =>
    if isBreak c then c :: quoteSingle true rest
    else
      (if afterBreak then indentation else []) ++ (if c = '\'' then ['\'', '\''] else [c]) ++
        quoteSingle false rest

/-- A number in upper-case hexadecimal digits, as many as asked for. -/
def hexDigits (count n : Nat) : List Char :=
  let digits := (Nat.toDigits 16 n).map Char.toUpper
  List.replicate (count - digits.length) '0' ++ digits

/-- A character in double quotes. -/
def escapeChar (c : Char) : List Char :=
  let n := c.toNat
  if c = '\x00' then ['\\', '0']
  else if c = '\x07' then ['\\', 'a']
  else if c = '\x08' then ['\\', 'b']
  else if c = '\t' then ['\\', 't']
  else if c = '\n' then ['\\', 'n']
  else if c = '\x0b' then ['\\', 'v']
  else if c = '\x0c' then ['\\', 'f']
  else if c = '\r' then ['\\', 'r']
  else if c = '\x1b' then ['\\', 'e']
  else if c = '"' then ['\\', '"']
  else if c = '\\' then ['\\', '\\']
  else if c = '\x85' then ['\\', 'N']
  else if c = '\u2028' then ['\\', 'L']
  else if c = '\u2029' then ['\\', 'P']
  else if isPrintable c then [c]
  else if n ≤ 0xFF then ['\\', 'x'] ++ hexDigits 2 n
  else if n ≤ 0xFFFF then ['\\', 'u'] ++ hexDigits 4 n
  else ['\\', 'U'] ++ hexDigits 8 n

/-- The lines of a literal text, each behind the indentation unless it is empty. -/
def literalLines (lineStart : Bool) : List Char → List Char
  | [] => []
  | c :: rest =>
    if isBreak c then c :: literalLines true rest
    else (if lineStart then indentation else []) ++ c :: literalLines false rest

/-- What stands behind the bar of a literal text: the indentation, when the text itself begins with
a space or a break, and how it ends. -/
def literalHeader (text : List Char) : List Char :=
  (if text.head?.any fun c => isSpace c || isBreak c then ['2'] else []) ++
    match text.reverse with
    | last :: before =>
      if !isBreak last then ['-'] else if before.head?.all isBreak then ['+'] else []
    | [] => ['-']

/-- A text as the value of an entry, up to the end of its last line. No text is folded. -/
def writeText (text : List Char) : List Char :=
  match Style.choose text with
  | .plain => text ++ ['\n']
  | .singleQuoted => ['\''] ++ quoteSingle false text ++ ['\'', '\n']
  | .doubleQuoted => ['"'] ++ text.flatMap escapeChar ++ ['"', '\n']
  | .literal | .folded =>
    ['|'] ++ literalHeader text ++ ['\n'] ++ literalLines true text ++
      if text.getLast?.any isBreak then [] else ['\n']

end FetchClient.Yaml
