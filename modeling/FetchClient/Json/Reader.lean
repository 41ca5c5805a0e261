import FetchClient.Json.Syntax
import FetchClient.Value

/-!
# Values of JSON texts

- `NumberText.value?`: the number that digits stand for;
- `unitsText?`: the text that characters and surrogate halves stand for;
- `Syntax.value?`: the document value of a tree, nested at most `depth` deep;
- `read?`: the document value of a text.
-/

namespace FetchClient.Json

/-- How deep lists and objects may be nested. -/
def maxDepth : Nat := 127

/-- The largest significand. Digits that would lead beyond it are dropped. -/
def maxSignificand : Nat := Nat.pow 2 64 - 1

/-- A significand with the power of ten that scales it, while digits are read. -/
structure Accumulator where
  significand : Nat
  power : Int
  /-- Whether a digit was dropped. -/
  dropped : Bool

/-- Reads one digit before the decimal point. After the first dropped digit all others are dropped
too, each raising the power. -/
def Accumulator.whole (a : Accumulator) (digit : Nat) : Accumulator :=
  if a.dropped || maxSignificand < a.significand * 10 + digit then
    { a with power := a.power + 1, dropped := true }
  else { a with significand := a.significand * 10 + digit }

/-- Reads one digit behind the decimal point. After the first dropped digit all others are dropped
too. -/
def Accumulator.fraction (a : Accumulator) (digit : Nat) : Accumulator :=
  if a.dropped || maxSignificand < a.significand * 10 + digit then { a with dropped := true }
  else { a with significand := a.significand * 10 + digit, power := a.power - 1 }

/-- The largest power of ten that is divided or multiplied by at once. -/
def powerStep : Nat := 308

/-- The nearest number to a power of ten. -/
def powerOfTen? (power : Nat) : Option Binary64 :=
  Binary64.ofNat (Nat.pow 10 power)

/-- A number divided by a positive power of ten: first `powerStep` powers at a time, then the
powers that are left, rounding after each division. Three whole steps take every significand to
zero, so no more of them are made. -/
def shrink (x : Binary64) (power : Nat) : Option Binary64 :=
  let whole := List.replicate (min ((power - 1) / powerStep) 3) powerStep
  let left := (power - 1) % powerStep + 1
  (whole ++ [left]).foldlM (fun x step => (powerOfTen? step).bind x.div) x

/-- A number times a power of ten, both rounded, and the result rounded again. Nothing stands for
a result that is too large. -/
def scaleByTen (x : Binary64) (power : Int) : Option Binary64 :=
  if power < 0 then shrink x (-power).toNat
  else if power ≤ powerStep then (powerOfTen? power.toNat).bind x.mul
  else if x.isZero then some x
  else none

/-- The number that digits stand for. Integers from `-2 ^ 63` to `2 ^ 64 - 1` are kept as they
are; all other numbers are floating point, and `-0` is one too. -/
def NumberText.value? (text : NumberText) : Option Number :=
  let whole := text.whole.foldl Accumulator.whole ⟨0, 0, false⟩
  if text.fraction.isEmpty && text.exponent.isNone && !whole.dropped then
    let n := whole.significand
    if !text.negative then some (.int n)
    else if n = 0 then some (.float (.zero true))
    else if n ≤ Nat.pow 2 63 then some (.int (-n))
    else (Binary64.ofNat n).map fun x => .float x.neg
  else
    let digits := text.fraction.foldl Accumulator.fraction { whole with dropped := false }
    let exponent : Int :=
      match text.exponent with
      | none => 0
      | some (below, size) => if below then -size else size
    match Binary64.ofNat digits.significand with
    | none => none
    | some x =>
      (scaleByTen x (digits.power + exponent)).map fun y =>
        .float (if text.negative then y.neg else y)

/-- The text of characters and surrogate halves, when every half has its partner. -/
def unitsText? : List Unit16 → Option (List Char)
  | [] => some []
  | .half high :: .half low :: rest =>
    if high < 0xDC00 ∧ 0xDC00 ≤ low then
      (unitsText? rest).map (Char.ofNat (0x10000 + (high - 0xD800) * 0x400 + (low - 0xDC00)) :: ·)
    else none
  | .half _ :: _ => none
  | .char c :: rest => (unitsText? rest).map (c :: ·)

mutual

/-- The value of a tree whose lists and objects are nested at most `depth` deep. Of repeated keys
the last value counts. -/
def Syntax.value? : Syntax → Nat → Option Value
  | .null, _ => some .null
  | .bool b, _ => some (.bool b)
  | .number text, _ => text.value?.map .number
  | .string units, _ => (unitsText? units).map fun text => .string (String.ofList text)
  | .array items, depth =>
    if depth = 0 then none else (itemValues? items (depth - 1)).map .array
  | .object members, depth =>
    if depth = 0 then none
    else (memberValues? members (depth - 1)).map fun members => .object (Value.mergeMembers members)

def itemValues? : List Syntax → Nat → Option (List Value)
  | [], _ => some []
  | item :: items, depth => do return (← item.value? depth) :: (← itemValues? items depth)

def memberValues? : List (List Unit16 × Syntax) → Nat → Option (List (String × Value))
  | [], _ => some []
  | (key, value) :: members, depth => do
    let key ← unitsText? key
    let value ← value.value? depth
    return (String.ofList key, value) :: (← memberValues? members depth)

end

/-- The value of a text that holds one value and nothing more. -/
def read? (text : String) : Option Value :=
  (Syntax.read? text.toList).bind (·.value? maxDepth)

end FetchClient.Json
