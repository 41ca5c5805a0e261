import FetchClient.Decimal.Binary64
import FetchClient.Json.Syntax
import FetchClient.Text.Pieces

/-!
# Words of TOML

A value without quotes and brackets is a word: a truth value, a number or a moment. Nothing but the
form of numbers and moments is looked at.

- `isInteger`, `isFloat`: the numbers;
- `isDate`, `isClock`, `isMoment`: dates, times of a day, and both together.
-/

namespace FetchClient.Toml.Word

open Json (hexDigit? ofDigits)

/-! ## Numbers -/

/-- Digits, with single underscores between them. -/
def isDigits (isDigit : Char → Bool) (text : List Char) : Bool :=
  (Text.pieces (· == '_') text).all fun piece => !piece.isEmpty && piece.all isDigit

/-- Decimal digits without a superfluous zero in front. -/
def isWhole (text : List Char) : Bool :=
  isDigits Char.isDigit text && (text.head? != some '0' || text.length == 1)

/-- The number that digits in a base stand for. Underscores do not count. -/
def valueOf (base : Nat) (text : List Char) : Nat :=
  (text.filterMap hexDigit?).foldl (fun value digit => value * base + digit) 0

/-- The text without one sign in front of it, and whether that is a minus sign. -/
def signed : List Char → Bool × List Char
  | '-' :: rest => (true, rest)
  | '+' :: rest => (false, rest)
  | text => (false, text)

def isBelow (base : Nat) (c : Char) : Bool :=
  (hexDigit? c).any (· < base)

/-- Digits in a base of a number that has 63 bits at most. -/
def isBased (base : Nat) (text : List Char) : Bool :=
  isDigits (isBelow base) text && valueOf base text < Nat.pow 2 63

/-- The integers of 64 bits: decimal with or without sign, or in the base that the text
announces. -/
def isInteger : List Char → Bool
  | '0' :: 'x' :: digits => isBased 16 digits
  | '0' :: 'o' :: digits => isBased 8 digits
  | '0' :: 'b' :: digits => isBased 2 digits
  | text =>
    let (negative, digits) := signed text
    isWhole digits && valueOf 10 digits < Nat.pow 2 63 + (if negative then 1 else 0)

/-- The part of a text in front of the first character of a kind, and the part behind it if there
is one. -/
def splitAt? (isMark : Char → Bool) (text : List Char) : List Char × Option (List Char) :=
  match text.dropWhile (!isMark ·) with
  | [] => (text, none)
  | _ :: rest => (text.takeWhile (!isMark ·), some rest)

/-- The value of an exponent part, which may have a sign. -/
def exponentOf? (text : List Char) : Option Int :=
  let (negative, digits) := signed text
  if isDigits Char.isDigit digits then
    some (if negative then -(valueOf 10 digits : Int) else valueOf 10 digits)
  else none

/-- Decimal numbers with a fraction, an exponent or both, and the words for infinities and for what
is not a number. A number must not be too large. -/
def isFloat (text : List Char) : Bool :=
  let (negative, digits) := signed text
  if digits = "inf".toList || digits = "nan".toList then true
  else
    let (mantissa, exponentText) := splitAt? (fun c => c == 'e' || c == 'E') digits
    let (whole, fraction) := splitAt? (· == '.') mantissa
    if fraction.isNone && exponentText.isNone then false
    else if !isWhole whole || !(fraction.all (isDigits Char.isDigit)) then false
    else
      match exponentOf? (exponentText.getD ['0']) with
      | none => false
      | some exponent =>
        let behind := (fraction.getD []).filter Char.isDigit
        negative ||
          (Binary64.ofDecimal false (valueOf 10 (whole ++ behind)) (exponent - behind.length)).isSome

/-! ## Moments -/

/-- The number that decimal digits stand for, when all of them are digits. -/
def digits? (text : List Char) : Option Nat :=
  if text.all Char.isDigit then some (valueOf 10 text) else none

def isWithin (first last : Nat) (text : List Char) : Bool :=
  (digits? text).any fun n => first ≤ n && n ≤ last

def daysIn (year month : Nat) : Nat :=
  if month = 2 then
    if year % 4 = 0 ∧ (year % 100 ≠ 0 ∨ year % 400 = 0) then 29 else 28
  else if month = 4 ∨ month = 6 ∨ month = 9 ∨ month = 11 then 30
  else 31

/-- A year, a month and a day. -/
def isDate : List Char → Bool
  | [a, b, c, d, '-', e, f, '-', g, h] =>
    isWithin 1 12 [e, f] &&
      (digits? [a, b, c, d]).any fun year => isWithin 1 (daysIn year (valueOf 10 [e, f])) [g, h]
  | _ => false

/-- An hour and a minute. -/
def isHourMinute : List Char → Bool
  | [a, b, ':', c, d] => isWithin 0 23 [a, b] && isWithin 0 59 [c, d]
  | _ => false

/-- A time of day: hour, minute, second, and perhaps a fraction of a second. -/
def isClock (text : List Char) : Bool :=
  match text.drop 5 with
  | ':' :: a :: b :: rest =>
    isHourMinute (text.take 5) && isWithin 0 60 [a, b] &&
      match rest with
      | [] => true
      | '.' :: fraction => !fraction.isEmpty && fraction.all Char.isDigit
      | _ => false
  | _ => false

/-- A time of day, perhaps with the distance from Greenwich: a letter `Z`, or a sign with hours and
minutes. -/
def isClockSomewhere (text : List Char) : Bool :=
  let (clock, zone) := (text.take 8, text.drop 8)
  let fraction := zone.takeWhile fun c => c == '.' || c.isDigit
  isClock (clock ++ fraction) &&
    match zone.drop fraction.length with
    | [] => true
    | [c] => c == 'Z' || c == 'z'
    | c :: distance => (c == '+' || c == '-') && isHourMinute distance

/-- A date, a time of day, or a date with a time behind the letter `T`. -/
def isMoment (text : List Char) : Bool :=
  isDate text || isClock text ||
    (isDate (text.take 10) &&
      match text.drop 10 with
      | c :: clock => (c == 'T' || c == 't') && isClockSomewhere clock
      | [] => false)

end FetchClient.Toml.Word
