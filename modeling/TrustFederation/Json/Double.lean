/-!
# Binary floating-point numbers

A number of a JSON text that is no 64 bit integer is kept as a double: a sign, a mantissa
below 2⁵³ and a power of two. Sums are not needed; what is needed is the double nearest
to a ratio of natural numbers, with a tie going to the even mantissa, and the products
and quotients with powers of ten that reading a decimal text is made of.
-/
namespace TrustFederation.Json

/-- A finite double, `± mantissa · 2 ^ exponent`. Zero has exponent 0; every other number
has a mantissa of 53 bits, or the least exponent −1074 and a shorter mantissa. -/
structure Double where
  negative : Bool
  mantissa : Nat
  exponent : Int
deriving DecidableEq

namespace Double

/-- The least natural number with more than the 53 bits of a mantissa. -/
def mantissaLimit : Nat := 0x20000000000000

/-- Positive zero. -/
def zero : Double := ⟨false, 0, 0⟩

/-- The number with the sign given. -/
def signed (negative : Bool) (x : Double) : Double := { x with negative }

/-- A ratio as numerator and denominator, divided by a power of two. -/
def scaled (numerator denominator : Nat) (exponent : Int) : Nat × Nat :=
  (numerator * Nat.pow 2 (-exponent).toNat, denominator * Nat.pow 2 exponent.toNat)

/-- The natural number nearest to a ratio, the even one of two that are equally near. -/
def nearest (numerator denominator : Nat) : Nat :=
  let quotient := numerator / denominator
  let rest := numerator % denominator
  if denominator < 2 * rest ∨ (2 * rest = denominator ∧ quotient % 2 = 1) then quotient + 1
  else quotient

/-- The double nearest to a ratio, or nothing when the ratio is too large for one. -/
def ofRatio? (numerator denominator : Nat) : Option Double :=
  if numerator = 0 then some zero
  else
    let guess : Int := max ((numerator.log2 : Int) - denominator.log2 - 53) (-1074)
    let (top, bottom) := scaled numerator denominator guess
    let exponent := if top / bottom < mantissaLimit then guess else guess + 1
    let (top, bottom) := scaled numerator denominator exponent
    let mantissa := nearest top bottom
    let (mantissa, exponent) :=
      if mantissa = mantissaLimit then (mantissaLimit / 2, exponent + 1) else (mantissa, exponent)
    if mantissa = 0 then some zero
    else if exponent ≤ 971 then some ⟨false, mantissa, exponent⟩
    else none

/-- The magnitude of a double as a ratio. -/
def ratio (x : Double) : Nat × Nat :=
  (x.mantissa * Nat.pow 2 x.exponent.toNat, Nat.pow 2 (-x.exponent).toNat)

/-- The double nearest to a power of ten. -/
def powerOfTen (exponent : Nat) : Double :=
  (ofRatio? (Nat.pow 10 exponent) 1).getD zero

/-- The double nearest to the product of two magnitudes. -/
def times? (x y : Double) : Option Double :=
  ofRatio? (x.ratio.1 * y.ratio.1) (x.ratio.2 * y.ratio.2)

/-- The double nearest to the quotient of two magnitudes. -/
def over? (x y : Double) : Option Double :=
  ofRatio? (x.ratio.1 * y.ratio.2) (x.ratio.2 * y.ratio.1)

/-- A magnitude times ten to an exponent, in steps of at most 10³⁰⁸, each rounded. There is
no value when a step is too large. `steps` bounds the number of steps. -/
def timesPowerOfTen? : Nat → Double → Int → Option Double
  | 0, x, _ => some x
  | steps + 1, x, exponent =>
    if exponent.natAbs ≤ 308 then
      if 0 ≤ exponent then x.times? (powerOfTen exponent.natAbs)
      else x.over? (powerOfTen exponent.natAbs)
    else if x.mantissa = 0 then some x
    else if 0 ≤ exponent then none
    else (x.over? (powerOfTen 308)).bind fun y => timesPowerOfTen? steps y (exponent + 308)

/-- The double that a decimal number is read as: the integer of its digits is rounded
first, then multiplied or divided by a power of ten. This is not always the double
nearest to the decimal number. -/
def ofDecimal? (digits : Nat) (exponent : Int) : Option Double :=
  (ofRatio? digits 1).bind fun x => timesPowerOfTen? (exponent.natAbs + 1) x exponent

/-- A double is nearest to itself. -/
example : (ofRatio? 1 10).bind (fun x => ofRatio? x.ratio.1 x.ratio.2) = ofRatio? 1 10 := by
  decide +kernel

end Double

end TrustFederation.Json
