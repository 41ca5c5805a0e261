/-!
# The syntax of JSON

A JSON text as it is written, before any of its parts is given a value. Numbers keep their digits,
texts the halves of surrogate pairs that an escape names, and objects all their members, so that
the same tree serves readers that are strict about values and readers that skip them.

- `Syntax`: the tree;
- `Syntax.read?`: the tree of a text, when the text is one JSON value and nothing more.
-/

namespace FetchClient.Json

/-- A character, or a surrogate half that an escape names. -/
inductive Unit16 where
  | char (c : Char)
  | half (code : Nat)
  deriving DecidableEq, Repr

/-- The digits of a number. -/
structure NumberText where
  negative : Bool
  whole : List Nat
  fraction : List Nat
  /-- The sign and the value of an exponent part. -/
  exponent : Option (Bool × Nat)
  deriving DecidableEq, Repr

inductive Syntax where
  | null
  | bool (value : Bool)
  | number (text : NumberText)
  | string (units : List Unit16)
  | array (items : List Syntax)
  | object (members : List (List Unit16 × Syntax))
  deriving Repr, Inhabited

/-- The four blanks that JSON allows between its tokens. -/
def isGap (c : Char) : Bool :=
  c == ' ' || c == '\n' || c == '\t' || c == '\r'

def skipGap (text : List Char) : List Char :=
  text.dropWhile isGap

/-- The digits at the beginning of a text, and what follows them. -/
def takeDigits (text : List Char) : List Nat × List Char :=
  ((text.takeWhile Char.isDigit).map fun c => c.toNat - '0'.toNat, text.dropWhile Char.isDigit)

def hexDigit? (c : Char) : Option Nat :=
  if c.isDigit then some (c.toNat - '0'.toNat)
  else if 'a' ≤ c ∧ c ≤ 'f' then some (c.toNat - 'a'.toNat + 10)
  else if 'A' ≤ c ∧ c ≤ 'F' then some (c.toNat - 'A'.toNat + 10)
  else none

/-- The value of hexadecimal digits, when all of them are. -/
def hexValue? (digits : List Char) : Option Nat :=
  digits.foldlM (fun value c => (hexDigit? c).map (value * 16 + ·)) 0

/-- The number made of decimal digits, most significant first. -/
def ofDigits (digits : List Nat) : Nat :=
  digits.foldl (fun value digit => value * 10 + digit) 0

/-- A number without its sign: no superfluous leading zero, and at least one digit in every part
that is present. -/
def readNumber (negative : Bool) (text : List Char) : Option (NumberText × List Char) := do
  let (whole, rest) := takeDigits text
  guard (!whole.isEmpty && (whole.head? != some 0 || whole.length == 1))
  let (fraction, rest) ←
    match rest with
    | '.' :: rest =>
      let (fraction, rest) := takeDigits rest
      if fraction.isEmpty then none else some (fraction, rest)
    | _ => some ([], rest)
  match rest with
  | 'e' :: rest | 'E' :: rest =>
    let (below, rest) :=
      match rest with
      | '+' :: rest => (false, rest)
      | '-' :: rest => (true, rest)
      | _ => (false, rest)
    let (digits, rest) := takeDigits rest
    guard (!digits.isEmpty)
    return (⟨negative, whole, fraction, some (below, ofDigits digits)⟩, rest)
  | _ => return (⟨negative, whole, fraction, none⟩, rest)

/-- The character that a one-letter escape stands for. -/
def simpleEscape? : Char → Option Char
  | '"' => some '"'
  | '\\' => some '\\'
  | '/' => some '/'
  | 'b' => some '\x08'
  | 'f' => some '\x0c'
  | 'n' => some '\n'
  | 'r' => some '\r'
  | 't' => some '\t'
  | _ => none

/-- What follows an opening quote, up to the closing one. -/
def readString : List Char → Option (List Unit16 × List Char)
  | '"' :: rest => some ([], rest)
  | '\\' :: 'u' :: a :: b :: c :: d :: rest => do
    let code ← hexValue? [a, b, c, d]
    let unit := if 0xD800 ≤ code ∧ code ≤ 0xDFFF then .half code else .char (Char.ofNat code)
    let (units, after) ← readString rest
    return (unit :: units, after)
  | '\\' :: c :: rest => do
    let escaped ← simpleEscape? c
    let (units, after) ← readString rest
    return (.char escaped :: units, after)
  | c :: rest => do
    guard (0x20 ≤ c.toNat)
    let (units, after) ← readString rest
    return (.char c :: units, after)
  | [] => none

/-- Removes a word from the beginning of a text. -/
def dropWord? : List Char → List Char → Option (List Char)
  | [], text => some text
  | w :: word, c :: text => if w = c then dropWord? word text else none
  | _ :: _, [] => none

mutual

/-- One value at the beginning of a text. The first argument bounds the number of nested calls;
every call consumes a character, so the length of the text suffices. -/
def readValue : Nat → List Char → Option (Syntax × List Char)
  | 0, _ => none
  | fuel + 1, text =>
    match skipGap text with
    | 'n' :: rest => do
      let rest ← dropWord? "ull".toList rest
      return (.null, rest)
    | 't' :: rest => do
      let rest ← dropWord? "rue".toList rest
      return (.bool true, rest)
    | 'f' :: rest => do
      let rest ← dropWord? "alse".toList rest
      return (.bool false, rest)
    | '"' :: rest => do
      let (units, rest) ← readString rest
      return (.string units, rest)
    | '-' :: rest => do
      let (number, rest) ← readNumber true rest
      return (.number number, rest)
    | '[' :: rest =>
      match skipGap rest with
      | ']' :: rest => some (.array [], rest)
      | rest => do
        let (items, rest) ← readItems fuel rest
        return (.array items, rest)
    | '{' :: rest =>
      match skipGap rest with
      | '}' :: rest => some (.object [], rest)
      | rest => do
        let (members, rest) ← readMembers fuel rest
        return (.object members, rest)
    | rest => do
      let (number, rest) ← readNumber false rest
      return (.number number, rest)

/-- The items of a list that is not empty, and the bracket that closes it. -/
def readItems : Nat → List Char → Option (List Syntax × List Char)
  | 0, _ => none
  | fuel + 1, text => do
    let (item, rest) ← readValue fuel text
    match skipGap rest with
    | ']' :: rest => return ([item], rest)
    | ',' :: rest =>
      let (items, rest) ← readItems fuel rest
      return (item :: items, rest)
    | _ => none

/-- The members of an object that is not empty, and the brace that closes it. -/
def readMembers : Nat → List Char → Option (List (List Unit16 × Syntax) × List Char)
  | 0, _ => none
  | fuel + 1, text =>
    match skipGap text with
    | '"' :: rest => do
      let (key, rest) ← readString rest
      match skipGap rest with
      | ':' :: rest =>
        let (value, rest) ← readValue fuel rest
        match skipGap rest with
        | '}' :: rest => return ([(key, value)], rest)
        | ',' :: rest =>
          let (members, rest) ← readMembers fuel rest
          return ((key, value) :: members, rest)
        | _ => none
      | _ => none
    | _ => none

end

/-- The tree of a text that holds one value and nothing more. -/
def Syntax.read? (text : List Char) : Option Syntax :=
  match readValue (text.length + 1) text with
  | some (tree, rest) => if (skipGap rest).isEmpty then some tree else none
  | none => none

end FetchClient.Json
