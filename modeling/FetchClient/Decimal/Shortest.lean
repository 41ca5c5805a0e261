import FetchClient.Decimal.Binary64

/-!
# Shortest decimal digits

- `Binary64.shortest`: the fewest decimal digits that read back as the same number, and of these
  the nearest to it;
- `DecimalLayout`: how digits and a power of ten are written out;
- `Binary64.write`: a number in a layout.
-/

namespace FetchClient

/-- An integer times a power of ten. -/
structure Scientific where
  digits : Nat
  power : Int
  deriving DecidableEq, Repr

namespace Binary64

/-- The end points of the interval of reals that round to the number, and the number itself, over
the common denominator `den`. Below a power of two the numbers are twice as dense. -/
structure Interval where
  low : Nat
  value : Nat
  high : Nat
  den : Nat
  /-- The end points belong to the interval exactly if the significand is even. -/
  closed : Bool

def interval (x : Binary64) : Interval :=
  let m := x.significand
  let narrow := m == Nat.pow 2 52 && (-1074 : Int) < x.exponent
  let (unit, den) := scaled 1 1 (x.exponent - 2)
  ⟨(if narrow then 4 * m - 1 else 4 * m - 2) * unit, 4 * m * unit, (4 * m + 2) * unit, den,
    m % 2 == 0⟩

/-- Whether `point * grid` lies in the interval, which is scaled by `scale`. -/
def Interval.holds (i : Interval) (scale grid point : Nat) : Bool :=
  if i.closed then i.low * scale ≤ point * grid && point * grid ≤ i.high * scale
  else i.low * scale < point * grid && point * grid < i.high * scale

/-- The multiple of `10 ^ power` nearest to the value, if one lies in the interval. -/
def Interval.onGrid (i : Interval) (power : Int) : Option Nat :=
  let scale := if 0 ≤ power then 1 else Nat.pow 10 (-power).toNat
  let grid := if 0 ≤ power then i.den * Nat.pow 10 power.toNat else i.den
  let floor := i.value * scale / grid
  let lower := 0 < floor && i.holds scale grid floor
  let upper := i.holds scale grid (floor + 1)
  if lower && upper then
    if 2 * (i.value * scale - floor * grid) ≤ grid then some floor else some (floor + 1)
  else if lower then some floor
  else if upper then some (floor + 1)
  else none

/-- The first of `count` grids, from `10 ^ power` to finer ones, that has a point in the
interval. -/
def Interval.coarsest (i : Interval) (power : Int) : Nat → Scientific
  | 0 => ⟨0, 0⟩
  | count + 1 =>
    match i.onGrid power with
    | some point => ⟨point, power⟩
    | none => i.coarsest (power - 1) count

/-- A power of ten above the magnitude, at most two powers too large. -/
def ceilingPower (x : Binary64) : Int :=
  let bits := (Nat.log2 x.significand : Int) + 1 + x.exponent
  if 0 ≤ bits then bits * 30103 / 100000 + 1 else 1 - (-bits) * 30102 / 100000

/-- The fewest decimal digits that read back as the magnitude. -/
def shortest (x : Binary64) : Scientific :=
  if x.isZero then ⟨0, 0⟩ else x.interval.coarsest x.ceilingPower 22

end Binary64

/-- How a number is laid out. -/
structure DecimalLayout where
  /-- Positional notation is used while the decimal point stands at least at `lowest` and at most
  at `highest`, counted in digits behind the first digit. -/
  positional : Int → Bool
  /-- Whether a number without fraction ends in `.0`. -/
  pointZero : Bool
  /-- Whether a positive exponent has a sign. -/
  plusSign : Bool

/-- The digits with the decimal point behind the first `point` of them. -/
def DecimalLayout.placePoint (layout : DecimalLayout) (digits : List Char) (point : Int) :
    List Char :=
  if point ≤ 0 then
    '0' :: '.' :: (List.replicate (-point).toNat '0' ++ digits)
  else
    let whole := digits.take point.toNat ++ List.replicate (point.toNat - digits.length) '0'
    let fraction := digits.drop point.toNat
    if fraction.isEmpty then (if layout.pointZero then whole ++ ['.', '0'] else whole)
    else whole ++ '.' :: fraction

/-- One digit, a point if there are more, the other digits, and the exponent. -/
def DecimalLayout.placeExponent (layout : DecimalLayout) (digits : List Char) (exponent : Int) :
    List Char :=
  let fraction := digits.drop 1
  let mantissa := digits.take 1 ++ (if fraction.isEmpty then [] else '.' :: fraction)
  let sign := if exponent < 0 then ['-'] else if layout.plusSign then ['+'] else []
  mantissa ++ 'e' :: sign ++ (toString exponent.natAbs).toList

/-- A number written with its shortest digits. -/
def Binary64.write (layout : DecimalLayout) (x : Binary64) : List Char :=
  let short := x.shortest
  let digits := (toString short.digits).toList
  let point := digits.length + short.power
  let body :=
    if x.isZero || layout.positional point then layout.placePoint digits point
    else layout.placeExponent digits (point - 1)
  if x.negative then '-' :: body else body

end FetchClient
