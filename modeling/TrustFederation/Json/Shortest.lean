import TrustFederation.Json.Double
/-!
# The shortest decimal text of a double

Every double lies in an interval of real numbers that round to it. Its text has the
fewest digits with which a decimal number lies in this interval, and among those the
nearest one. Small and large numbers are written with an exponent.
-/
namespace TrustFederation.Json

/-- A positive decimal number: its digits as a natural number, and the power of ten of
the last digit. -/
structure Decimal where
  digits : Nat
  exponent : Int
deriving DecidableEq

namespace Double

/-- A ratio divided by a power of ten. -/
def overPowerOfTen (ratio : Nat × Nat) (exponent : Int) : Nat × Nat :=
  (ratio.1 * Nat.pow 10 (-exponent).toNat, ratio.2 * Nat.pow 10 exponent.toNat)

/-- The exponent of the leading digit of a positive ratio. -/
def leadingExponent (ratio : Nat × Nat) : Int :=
  let guess : Int := (Nat.toDigits 10 ratio.1).length - (Nat.toDigits 10 ratio.2).length
  let (top, bottom) := overPowerOfTen ratio guess
  if top < bottom then guess - 1 else guess

/-- The ends of the interval that rounds to the magnitude, as numerators over four times
the denominator of the magnitude itself. The lower half is narrower below a power of
two. -/
def interval (x : Double) : Nat × Nat :=
  let unit := Nat.pow 2 x.exponent.toNat
  let below := if 2 * x.mantissa = mantissaLimit ∧ -1074 < x.exponent then unit else 2 * unit
  (4 * x.ratio.1 - below, 4 * x.ratio.1 + 2 * unit)

/-- The decimal number `digits · 10 ^ exponent` rounds to the magnitude. -/
def admits (x : Double) (digits : Nat) (exponent : Int) : Bool :=
  let (low, high) := x.interval
  let (value, unit) := (digits * Nat.pow 10 exponent.toNat, Nat.pow 10 (-exponent).toNat)
  let scaledValue := 4 * value * x.ratio.2
  if x.mantissa % 2 = 0 then low * unit ≤ scaledValue && scaledValue ≤ high * unit
  else low * unit < scaledValue && scaledValue < high * unit

/-- The nearest decimal number on the grid of a power of ten that rounds to the
magnitude, if one does. -/
def onGrid? (x : Double) (exponent : Int) : Option Decimal :=
  let (top, bottom) := overPowerOfTen x.ratio exponent
  let below := top / bottom
  let rest := top % bottom
  let lower := x.admits below exponent
  let upper := x.admits (below + 1) exponent
  let preferUpper := bottom < 2 * rest || (2 * rest == bottom && below % 2 == 1)
  if upper && (preferUpper || !lower) then some ⟨below + 1, exponent⟩
  else if lower then some ⟨below, exponent⟩
  else none

/-- Tries grids of `count` digits and finer ones. -/
def searchGrids (x : Double) (leading : Int) : Nat → Nat → Decimal
  | 0, _ => ⟨x.mantissa, 0⟩
  | grids + 1, count =>
    match x.onGrid? (leading - count + 1) with
    | some decimal => decimal
    | none => searchGrids x leading grids (count + 1)

/-- The shortest decimal number that rounds to a positive magnitude. Seventeen digits
always suffice. -/
def shortest (x : Double) : Decimal :=
  searchGrids x (leadingExponent x.ratio) 17 1

end Double

/-- How doubles are written: numbers whose leading digit has an exponent from `lowest` to
`highest` are written positionally, the others with an exponent. -/
structure DoubleFormat where
  lowest : Int
  highest : Int

/-- Exponents from −5 to 15 are positional. -/
def doubleFormat : DoubleFormat := ⟨-5, 15⟩

/-- The text of digits whose first one has the exponent `leading`. -/
def DoubleFormat.positional (digits : List Char) (leading : Int) : List Char :=
  if leading < 0 then
    '0' :: '.' :: List.replicate (-leading - 1).toNat '0' ++ digits
  else
    let whole := leading.toNat + 1
    let fraction := digits.drop whole
    digits.take whole ++ List.replicate (whole - digits.length) '0' ++
      '.' :: (if fraction.isEmpty then ['0'] else fraction)

/-- The text of digits with an exponent, which always has a sign. -/
def DoubleFormat.scientific (digits : List Char) (leading : Int) : List Char :=
  let mantissa := match digits with
    | first :: second :: rest => first :: '.' :: second :: rest
    | few => few
  mantissa ++ 'e' :: (if leading < 0 then '-' else '+') :: Nat.toDigits 10 leading.natAbs

/-- The text of a double. It always holds a point or an exponent. -/
def DoubleFormat.text (format : DoubleFormat) (x : Double) : String :=
  let magnitude :=
    if x.mantissa = 0 then ['0', '.', '0']
    else
      let decimal := x.shortest
      let all := Nat.toDigits 10 decimal.digits
      let leading := decimal.exponent + all.length - 1
      let digits := (all.reverse.dropWhile (· == '0')).reverse
      if format.lowest ≤ leading ∧ leading ≤ format.highest then
        DoubleFormat.positional digits leading
      else DoubleFormat.scientific digits leading
  String.ofList (if x.negative then '-' :: magnitude else magnitude)

example : ((Double.ofRatio? 1 10).map doubleFormat.text) = some "0.1" := by decide +kernel
example : ((Double.ofDecimal? 5 (-324)).map doubleFormat.text) = some "5e-324" := by
  decide +kernel
example : ((Double.ofDecimal? 15 (-8)).map doubleFormat.text) = some "1.5e-7" := by
  decide +kernel
example : ((Double.ofRatio? (Nat.pow 10 23) 1).map doubleFormat.text) = some "1e+23" := by
  decide +kernel

end TrustFederation.Json
