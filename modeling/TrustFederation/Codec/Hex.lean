/-!
# Hexadecimal digits

Bytes are written with two hexadecimal digits each, the high one first.
-/
namespace TrustFederation.Codec

/-- The digit of a number below sixteen, with small letters. -/
def hexDigit (value : Nat) : Char :=
  if value < 10 then Char.ofNat (48 + value) else Char.ofNat (87 + value)

/-- The digit of a number below sixteen, with capital letters. -/
def capitalHexDigit (value : Nat) : Char :=
  if value < 10 then Char.ofNat (48 + value) else Char.ofNat (55 + value)

/-- The value of a hexadecimal digit with letters of either case. -/
def hexValue? (digit : Char) : Option Nat :=
  if '0' ≤ digit ∧ digit ≤ '9' then some (digit.toNat - 48)
  else if 'a' ≤ digit ∧ digit ≤ 'f' then some (digit.toNat - 87)
  else if 'A' ≤ digit ∧ digit ≤ 'F' then some (digit.toNat - 55)
  else none

/-- Bytes in hexadecimal with small letters. -/
def hex (bytes : List UInt8) : String :=
  String.ofList (bytes.flatMap fun byte =>
    [hexDigit (byte.toNat / 16), hexDigit (byte.toNat % 16)])

/-- A capital digit has the value it was made from. -/
theorem hexValue?_capitalHexDigit {value : Nat} (small : value < 16) :
    hexValue? (capitalHexDigit value) = some value := by
  have every : ∀ digit : Fin 16, hexValue? (capitalHexDigit digit) = some digit.val := by decide
  exact every ⟨value, small⟩

end TrustFederation.Codec
