/-!
# Numbers in decimal digits

The digits of ASCII are read as a natural number of any size; limits are for those who ask.
-/
namespace TrustFederation.Text

/-- The number that decimal digits stand for. No digits stand for zero. -/
def ofDigits (digits : List Char) : Nat :=
  digits.foldl (fun value digit => value * 10 + (digit.toNat - 48)) 0

/-- The number in a text of decimal digits, at least one. -/
def readDigits? (text : List Char) : Option Nat :=
  if text.isEmpty || !text.all Char.isDigit then none else some (ofDigits text)

theorem readDigits?_isSome_iff {text : List Char} :
    (readDigits? text).isSome ↔ text ≠ [] ∧ ∀ c ∈ text, c.isDigit = true := by
  rw [← List.all_eq_true]
  cases text with
  | nil => simp [readDigits?]
  | cons c rest => cases digits : (c :: rest).all Char.isDigit <;> simp [readDigits?, digits]

example : readDigits? "007".toList = some 7 := by decide
example : readDigits? [] = none := by decide

end TrustFederation.Text
