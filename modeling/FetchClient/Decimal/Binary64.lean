/-!
# Finite binary floating point numbers

- `Binary64`: a sign and a magnitude, the magnitude counted in representable numbers from zero, so
  that the next larger number has the next larger count;
- `Binary64.significand`, `Binary64.exponent`: the magnitude as `significand * 2 ^ exponent`;
- `Binary64.ofRatio`: the nearest number to a quotient, a half going to the even neighbour;
- `Binary64.ofDecimal`: the nearest number to `digits * 10 ^ power`.
-/

namespace FetchClient

/-- A finite number with 53 significant binary digits and exponents from -1074 to 971. -/
structure Binary64 where
  negative : Bool
  /-- The number of representable magnitudes below this one. -/
  magnitude : Nat
  finite : magnitude < 0x7FF0000000000000 := by decide
  deriving DecidableEq, Repr

namespace Binary64

/-- The integer that a power of two scales to the magnitude. -/
def significand (x : Binary64) : Nat :=
  if x.magnitude < Nat.pow 2 52 then x.magnitude
  else Nat.pow 2 52 + x.magnitude % Nat.pow 2 52

/-- The power of two that scales the significand. -/
def exponent (x : Binary64) : Int :=
  if x.magnitude < Nat.pow 2 52 then -1074 else (x.magnitude / Nat.pow 2 52 : Nat) - 1075

def zero (negative : Bool) : Binary64 := ⟨negative, 0, by decide⟩

def isZero (x : Binary64) : Bool := x.magnitude == 0

def neg (x : Binary64) : Binary64 := { x with negative := !x.negative }

/-- A quotient as the nearest integer, a half going to the even neighbour. -/
def roundQuotient (num den : Nat) : Nat :=
  let floor := num / den
  let twice := 2 * (num % den)
  if twice < den then floor
  else if den < twice then floor + 1
  else floor + floor % 2

/-- `num / den` times `2 ^ power`, as a pair of numerator and denominator. -/
def scaled (num den : Nat) (power : Int) : Nat × Nat :=
  if 0 ≤ power then (num * Nat.pow 2 power.toNat, den) else (num, den * Nat.pow 2 (-power).toNat)

/-- The largest power of two that is at most `num / den`, both being positive. -/
def floorLog2 (num den : Nat) : Int :=
  let guess : Int := (Nat.log2 num : Int) - Nat.log2 den
  let (n, d) := scaled num den (-guess)
  if d ≤ n then guess else guess - 1

/-- The number nearest to `num / den`, or nothing when that lies beyond the largest number. -/
def ofRatio (negative : Bool) (num den : Nat) : Option Binary64 :=
  if num = 0 ∨ den = 0 then some (zero negative)
  else
    let power := max (floorLog2 num den - 52) (-1074)
    let (n, d) := scaled num den (-power)
    let magnitude := (power + 1074).toNat * Nat.pow 2 52 + roundQuotient n d
    if h : magnitude < 0x7FF0000000000000 then some ⟨negative, magnitude, h⟩ else none

/-- The magnitude as a pair of numerator and denominator. -/
def ratio (x : Binary64) : Nat × Nat :=
  scaled x.significand 1 x.exponent

def ofNat (n : Nat) : Option Binary64 := ofRatio false n 1

/-- The nearest number to the product. -/
def mul (x y : Binary64) : Option Binary64 :=
  ofRatio (x.negative != y.negative) (x.ratio.1 * y.ratio.1) (x.ratio.2 * y.ratio.2)

/-- The nearest number to the quotient by a number that is not zero. -/
def div (x y : Binary64) : Option Binary64 :=
  ofRatio (x.negative != y.negative) (x.ratio.1 * y.ratio.2) (x.ratio.2 * y.ratio.1)

/-- The value over the common denominator `2 ^ 1074`. -/
def scaledInt (x : Binary64) : Int :=
  let size : Int := (x.significand * Nat.pow 2 (x.exponent + 1074).toNat : Nat)
  if x.negative then -size else size

/-- The nearest number to the sum. -/
def add (x y : Binary64) : Option Binary64 :=
  let sum := x.scaledInt + y.scaledInt
  ofRatio (if sum = 0 then x.negative && y.negative else sum < 0) sum.natAbs (Nat.pow 2 1074)

/-- Numeric equality, which does not see the sign of zero. -/
def sameValue (x y : Binary64) : Bool := x.scaledInt == y.scaledInt

/-- Numeric order. -/
def below (x y : Binary64) : Bool := x.scaledInt < y.scaledInt

/-- The number nearest to `digits * 10 ^ power`. Powers so large or so small that the digits
cannot matter are answered without being computed. -/
def ofDecimal (negative : Bool) (digits : Nat) (power : Int) : Option Binary64 :=
  if digits = 0 then some (zero negative)
  else if 400 < power then none
  else if power + (Nat.log2 digits : Int) < -1100 then some (zero negative)
  else if 0 ≤ power then ofRatio negative (digits * Nat.pow 10 power.toNat) 1
  else ofRatio negative digits (Nat.pow 10 (-power).toNat)

end Binary64

end FetchClient
