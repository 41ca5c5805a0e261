import FetchClient.Decimal.Binary64
import FetchClient.Json.Syntax

/-!
# What a plain scalar stands for

A scalar without quotes and without tag may be null, a truth value, an integer or a floating point
number. Everything else is a text.

- `isNull`, `bool?`, `integer?`, `float?`: the four readings;
- `isDigitText`: digits that are no number because they begin with a zero.
-/

namespace FetchClient.Yaml.Plain

open Json (takeDigits hexDigit? ofDigits)

def isNull (text : List Char) : Bool :=
  ["null", "Null", "NULL", "~"].any (·.toList == text)

def bool? (text : List Char) : Option Bool :=
  if ["true", "True", "TRUE"].any (·.toList == text) then some true
  else if ["false", "False", "FALSE"].any (·.toList == text) then some false
  else none

/-! ## Numbers -/

/-- The text without one sign in front of it. -/
def dropSign : List Char → List Char
  | '+' :: rest => rest
  | '-' :: rest => rest
  | text => text

/-- The text without one plus sign in front of it. -/
def dropPlus : List Char → List Char
  | '+' :: rest => rest
  | text => text

def startsWithSign (text : List Char) : Bool :=
  text.head?.any fun c => c == '+' || c == '-'

/-- Whether the text is a zero with more digits behind it, up to a sign. -/
def isDigitText (text : List Char) : Bool :=
  match dropSign text with
  | '0' :: digits => !digits.isEmpty && digits.all Char.isDigit
  | _ => false

/-- The number that digits in a base stand for. -/
def digitsIn? (base : Nat) (digits : List Char) : Option Nat :=
  if digits.isEmpty then none
  else
    digits.foldlM
      (fun value c => (hexDigit? c).bind fun digit =>
        if digit < base then some (value * base + digit) else none)
      0

/-- The bases that a zero and a letter announce. -/
def baseOf? : Char → Option Nat
  | 'x' => some 16
  | 'o' => some 8
  | 'b' => some 2
  | _ => none

/-- A number without sign: decimal digits, or digits in the base that the text announces. -/
def magnitude? (text : List Char) : Option Nat :=
  match text with
  | '0' :: letter :: digits =>
    match baseOf? letter with
    | some base => digitsIn? base digits
    | none => digitsIn? 10 text
  | _ => digitsIn? 10 text

/-- Integers reach from `-2 ^ 127` to `2 ^ 128 - 1`. Longer digits are no integers. -/
def isIntegerRange (n : Int) : Bool :=
  -(Int.pow 2 127) ≤ n && n < Int.pow 2 128

/-- The integer that a text stands for. -/
def integer? (text : List Char) : Option Int :=
  if isDigitText text then none
  else
    (match text with
      | '-' :: digits => (magnitude? digits).map fun n => -(n : Int)
      | _ => (magnitude? (dropPlus text)).map fun n => (n : Int)).filter isIntegerRange

/-- A decimal number with at least one digit, and perhaps with point and exponent. Nothing stands
for what is too large, too. -/
def decimal? (text : List Char) : Option Binary64 := do
  let (whole, rest) := takeDigits (dropSign text)
  let (fraction, rest) :=
    match rest with
    | '.' :: rest => takeDigits rest
    | _ => ([], rest)
  guard (!(whole ++ fraction).isEmpty)
  let exponent : Int ←
    match rest with
    | [] => some 0
    | c :: rest =>
      if c == 'e' || c == 'E' then
        let (digits, after) := takeDigits (dropSign rest)
        if digits.isEmpty || !after.isEmpty then none
        else if rest.head? == some '-' then some (-(ofDigits digits : Int))
        else some (ofDigits digits)
      else none
  Binary64.ofDecimal (text.head? == some '-') (ofDigits (whole ++ fraction)) (exponent - fraction.length)

/-- The words for infinities and for what is not a number. -/
def isNotFinite (text : List Char) : Bool :=
  [".inf", ".Inf", ".INF", "-.inf", "-.Inf", "-.INF", "+.inf", "+.Inf", "+.INF",
    ".nan", ".NaN", ".NAN"].any (·.toList == text)

/-- The floating point number that a text stands for. The inner option is nothing for a word that
is no finite number. -/
def float? (text : List Char) : Option (Option Binary64) :=
  if isNotFinite text then some none
  else if text.head? == some '+' && startsWithSign (text.drop 1) then none
  else (decimal? text).map some

end FetchClient.Yaml.Plain
