/-!
# Integers of 64 bits

Times, counts and the integers of documents have 64 bits, with a sign or without. The
limits are stated here once, with the two things that can become of a sum that leaves them:
there is none, or it stays at the limit.
-/
namespace TrustFederation.Word

/-- The largest number of 32 bits. -/
def largestShort : Nat := 0xFFFFFFFF

/-- The largest number of 64 bits without a sign. -/
def largest : Nat := 0xFFFFFFFFFFFFFFFF

/-- The largest number of 64 bits with a sign. -/
def largestSigned : Int := 0x7FFFFFFFFFFFFFFF

/-- The least number of 64 bits with a sign. -/
def leastSigned : Int := -0x8000000000000000

/-- The number has 64 bits, one of them for the sign. -/
def Signed (value : Int) : Prop := leastSigned ≤ value ∧ value ≤ largestSigned

instance (value : Int) : Decidable (Signed value) :=
  inferInstanceAs (Decidable (leastSigned ≤ value ∧ value ≤ largestSigned))

/-- The sum of two numbers of 64 bits with a sign, if it is one again. -/
def add? (left right : Int) : Option Int :=
  if Signed (left + right) then some (left + right) else none

/-- The nearest number of 64 bits with a sign to one that may be too large. -/
def clampAbove (value : Int) : Int := min value largestSigned

end TrustFederation.Word
