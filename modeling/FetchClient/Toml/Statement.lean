import FetchClient.Toml.Entries
import FetchClient.Toml.Text
import FetchClient.Toml.Word

/-!
# Statements of TOML

- `readKey`: keys, with or without dots;
- `readItem`: what stands behind the equals sign, nested at most `depth` deep;
- `Statement.read?`: the statements of a text, one for each line that is not blank.
-/

namespace FetchClient.Toml

/-! ## Keys -/

/-- A key with dots: the keys of the tables around, and the last key. -/
structure Key where
  path : List String
  last : String
  deriving DecidableEq, Repr

def isBare (c : Char) : Bool :=
  c.isAlphanum || c == '_' || c == '-'

def skipBlanks (text : List Char) : List Char :=
  text.dropWhile isBlank

/-- A key without dots: bare, or a text on one line. -/
def readSimpleKey : List Char → Option (String × List Char)
  | '"' :: rest => (readBasic rest).map fun (key, rest) => (String.ofList key, rest)
  | '\'' :: rest => (readLiteral rest).map fun (key, rest) => (String.ofList key, rest)
  | text =>
    let key := text.takeWhile isBare
    if key.isEmpty then none else some (String.ofList key, text.drop key.length)

/-- The largest number of keys that dots may join. -/
def maxKeys : Nat := 79

/-- A key of at most so many keys that dots join. Blanks may stand around each of them. -/
def readKeyWithin : Nat → List Char → Option (Key × List Char)
  | 0, _ => none
  | count + 1, text => do
    let (key, rest) ← readSimpleKey (skipBlanks text)
    match skipBlanks rest with
    | '.' :: rest =>
      let (inner, rest) ← readKeyWithin count rest
      return (⟨key :: inner.path, inner.last⟩, rest)
    | rest => return (⟨[], key⟩, rest)

def readKey (text : List Char) : Option (Key × List Char) :=
  readKeyWithin maxKeys text

/-! ## Items -/

/-- Where a word ends at the latest. -/
def endsWord (c : Char) : Bool :=
  isBlank c || c == '\n' || c == '\r' || c == '#' || c == ',' || c == ']' || c == '}'

/-- The item that a word stands for. -/
def itemOfWord? (word : List Char) : Option Item :=
  if word = "true".toList then some (.flag true)
  else if word = "false".toList then some (.flag false)
  else if Word.isMoment word || Word.isFloat word || Word.isInteger word then some .closed
  else none

/-- A word. Behind a date and one space there may be a time. -/
def readWord (text : List Char) : Option (Item × List Char) :=
  let word := text.takeWhile (!endsWord ·)
  let rest := text.drop word.length
  match Word.isDate word, rest with
  | true, ' ' :: c :: after =>
    if c.isDigit then
      let clock := (c :: after).takeWhile (!endsWord ·)
      if Word.isClockSomewhere clock then some (.closed, (c :: after).drop clock.length) else none
    else some (.closed, rest)
  | _, _ => (itemOfWord? word).map fun item => (item, rest)

/-- What follows blanks, line breaks and comments. Inside a comment only a line break ends it. -/
def skipLines? : Bool → List Char → Option (List Char)
  | _, [] => some []
  | _, '\n' :: rest => skipLines? false rest
  | _, '\r' :: '\n' :: rest => skipLines? false rest
  | true, c :: rest => if isPlain c then skipLines? true rest else none
  | false, '#' :: rest => skipLines? true rest
  | false, c :: rest => if isBlank c then skipLines? false rest else some (c :: rest)

/-- What follows the items of a list, the last of which may have a comma behind it. The first
argument bounds their number. -/
def skipItems? (readItem : List Char → Option (Item × List Char)) : Nat → List Char →
    Option (List Char)
  | 0, _ => none
  | count + 1, text => do
    match ← skipLines? false text with
    | ']' :: rest => return rest
    | text =>
      let (_, rest) ← readItem text
      match ← skipLines? false rest with
      | ']' :: rest => return rest
      | ',' :: rest => skipItems? readItem count rest
      | _ => none

/-- The entries of a table in braces, and what follows them. The first argument bounds their
number. -/
def readEntries (readItem : List Char → Option (Item × List Char)) : Nat → Entries → List Char →
    Option (Entries × List Char)
  | 0, _, _ => none
  | count + 1, entries, text => do
    let (key, rest) ← readKey text
    match rest with
    | '=' :: rest =>
      let (item, rest) ← readItem (skipBlanks rest)
      let entries ← entries.insert? key.path key.last item
      match skipBlanks rest with
      | '}' :: rest => return (entries, rest)
      | ',' :: rest => readEntries readItem count entries rest
      | _ => none
    | _ => none

/-- An item: a text, a list, a table in braces, or a word. Lists and tables in braces are nested at
most `depth` deep. -/
def readItem : Nat → List Char → Option (Item × List Char)
  | 0, text =>
    match text with
    | '"' :: _ | '\'' :: _ => (readText text).map fun (t, rest) => (.text (String.ofList t), rest)
    | _ => readWord text
  | depth + 1, text =>
    match text with
    | '"' :: _ | '\'' :: _ => (readText text).map fun (t, rest) => (.text (String.ofList t), rest)
    | '[' :: rest => (skipItems? (readItem depth) text.length rest).map fun rest => (.closed, rest)
    | '{' :: rest =>
      match skipBlanks rest with
      | '}' :: rest => some (.closed, rest)
      | rest => (readEntries (readItem depth) text.length [] rest).map fun (_, rest) =>
          (.closed, rest)
    | _ => readWord text

/-- How deep lists and tables in braces may be nested. -/
def maxDepth : Nat := 79

/-! ## Lines -/

inductive Statement where
  /-- A key and an item. -/
  | entry (key : Key) (item : Item)
  /-- The name of a table in brackets. -/
  | table (key : Key)
  /-- The name of a list of tables in double brackets. -/
  | element (key : Key)
  deriving Repr

/-- What follows the end of a line, in front of which there may be blanks and a comment. -/
def lineEnd? (text : List Char) : Option (List Char) :=
  let rest :=
    match skipBlanks text with
    | '#' :: rest => rest.dropWhile isPlain
    | rest => rest
  if rest.isEmpty then some [] else newline? rest

namespace Statement

/-- One statement. -/
def read : List Char → Option (Statement × List Char)
  | '[' :: '[' :: text => do
    match ← readKey text with
    | (key, ']' :: ']' :: rest) => return (.element key, rest)
    | _ => none
  | '[' :: text => do
    match ← readKey text with
    | (key, ']' :: rest) => return (.table key, rest)
    | _ => none
  | text => do
    match ← readKey text with
    | (key, '=' :: rest) =>
      let (item, rest) ← readItem maxDepth (skipBlanks rest)
      return (.entry key item, rest)
    | _ => none

/-- The statements on the lines of a text. The first argument bounds the number of lines. -/
def readLines : Nat → List Char → Option (List Statement)
  | 0, _ => none
  | count + 1, text =>
    if text.isEmpty then some []
    else
      match lineEnd? text with
      | some rest => readLines count rest
      | none => do
        let (statement, rest) ← read (skipBlanks text)
        return statement :: (← readLines count (← lineEnd? rest))

/-- The statements of a text, which may begin with a byte order mark. -/
def read? (text : List Char) : Option (List Statement) :=
  match text with
  | '\ufeff' :: rest => readLines text.length rest
  | _ => readLines (text.length + 1) text

end Statement

end FetchClient.Toml
