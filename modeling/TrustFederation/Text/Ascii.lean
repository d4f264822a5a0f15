/-!
# Letters without regard to ASCII case

Entity identifiers are compared without regard to the case of the letters A to Z.
Every other character is compared as it stands, so this comparison is finer than
the one on lower-cased text.
-/
namespace TrustFederation.Text

/-- The small letter of a capital letter from A to Z, every other character itself. -/
def asciiLower (c : Char) : Char :=
  if 'A' ≤ c ∧ c ≤ 'Z' then Char.ofNat (c.toNat + 32) else c

/-- A text with the letters A to Z made small. -/
def asciiLowercase (text : String) : String :=
  String.ofList (text.toList.map asciiLower)

/-- Two texts are equal up to the case of the letters A to Z. -/
def sameAscii (left right : String) : Bool :=
  left.toList.map asciiLower == right.toList.map asciiLower

@[simp] theorem sameAscii_iff {left right : String} :
    sameAscii left right = true ↔ left.toList.map asciiLower = right.toList.map asciiLower := by
  simp [sameAscii]

theorem sameAscii_refl (text : String) : sameAscii text text = true := by simp

theorem sameAscii_comm {left right : String} (same : sameAscii left right = true) :
    sameAscii right left = true := by
  simp only [sameAscii_iff] at same ⊢
  exact same.symm

theorem sameAscii_trans {first second third : String} (left : sameAscii first second = true)
    (right : sameAscii second third = true) : sameAscii first third = true := by
  simp only [sameAscii_iff] at left right ⊢
  exact left.trans right

end TrustFederation.Text
