import TrustFederation.Text.Ranges
/-!
# Blank characters and trimming

The blank characters are those with the property White_Space. Tokens and settings are
read without the blanks around them.
-/
namespace TrustFederation.Text

/-- The code points with the property White_Space. -/
def blankRanges : List (Nat × Nat) :=
  [(0x0009, 0x000D), (0x0020, 0x0020), (0x0085, 0x0085), (0x00A0, 0x00A0), (0x1680, 0x1680),
   (0x2000, 0x200A), (0x2028, 0x2029), (0x202F, 0x202F), (0x205F, 0x205F), (0x3000, 0x3000)]

/-- The character is blank. -/
def isBlank (c : Char) : Bool :=
  inRanges blankRanges c.toNat

/-- A list without the leading and trailing members that a test accepts. -/
def stripList {α : Type} (test : α → Bool) (members : List α) : List α :=
  ((members.dropWhile test).reverse.dropWhile test).reverse

/-- A text without the blanks at its two ends. -/
def trim (text : String) : String :=
  String.ofList (stripList isBlank text.toList)

/-- A text without the occurrences of one character at its end. -/
def trimEnd (c : Char) (text : String) : String :=
  String.ofList ((text.toList.reverse.dropWhile (· == c)).reverse)

theorem stripList_of_clean {α : Type} {test : α → Bool} {members : List α}
    (clean : ∀ member ∈ members, test member = false) : stripList test members = members := by
  have keep : ∀ kept : List α, (∀ member ∈ kept, test member = false) →
      kept.dropWhile test = kept := by
    intro kept free
    cases kept with
    | nil => rfl
    | cons head rest => simp [List.dropWhile, free head (by simp)]
  rw [stripList, keep members clean, keep members.reverse (by simpa using clean),
    List.reverse_reverse]

end TrustFederation.Text
