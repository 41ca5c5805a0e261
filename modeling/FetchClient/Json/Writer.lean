import FetchClient.Decimal.Shortest
import FetchClient.Value

/-!
# Values written as JSON

- `write`: the value on one line without blanks.
-/

namespace FetchClient.Json

/-- Numbers are positional while the point stands at most four zeros before and sixteen digits
behind the first digit, always show a fraction there, and sign every exponent. -/
def numberLayout : DecimalLayout where
  positional point := -5 < point && point ≤ 16
  pointZero := true
  plusSign := true

def hexDigit (n : Nat) : Char :=
  if n < 10 then Char.ofNat ('0'.toNat + n) else Char.ofNat ('a'.toNat + n - 10)

/-- Quotes, backslashes and control characters are escaped, all else stands for itself. -/
def escapeChar (c : Char) : List Char :=
  match c with
  | '"' => ['\\', '"']
  | '\\' => ['\\', '\\']
  | '\n' => ['\\', 'n']
  | '\r' => ['\\', 'r']
  | '\t' => ['\\', 't']
  | '\x08' => ['\\', 'b']
  | '\x0c' => ['\\', 'f']
  | c =>
    if c.toNat < 0x20 then
      ['\\', 'u', '0', '0', hexDigit (c.toNat / 16), hexDigit (c.toNat % 16)]
    else [c]

def writeString (text : String) : List Char :=
  '"' :: (text.toList.flatMap escapeChar ++ ['"'])

def writeNumber : Number → List Char
  | .int n => (toString n).toList
  | .float x => x.write numberLayout

mutual

def writeValue : Value → List Char
  | .null => "null".toList
  | .bool b => (toString b).toList
  | .number n => writeNumber n
  | .string s => writeString s
  | .array items => '[' :: (writeItems items ++ [']'])
  | .object members => '{' :: (writeMembers members ++ ['}'])

def writeItems : List Value → List Char
  | [] => []
  | [item] => writeValue item
  | item :: items => writeValue item ++ ',' :: writeItems items

def writeMembers : List (String × Value) → List Char
  | [] => []
  | [(key, value)] => writeString key ++ ':' :: writeValue value
  | (key, value) :: members =>
    writeString key ++ ':' :: (writeValue value ++ ',' :: writeMembers members)

end

/-- The value as a JSON text. -/
def write (value : Value) : String :=
  String.ofList (writeValue value)

end FetchClient.Json
