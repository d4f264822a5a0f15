import TrustFederation.Domain.JoiningTable
import TrustFederation.Text.Canonical
import TrustFederation.Text.Mark
/-!
# Joiners

A joiner and a non-joiner are shown as nothing, so they may stand in a name only where they
change how it is written: after the mark that takes away a vowel, and, for the non-joiner,
between two characters that would join. Marks do not come between such characters.
-/
namespace TrustFederation.Domain

/-- The combining class of marks that take away the vowel of a letter. -/
def vowelKillerClass : Nat := 9

/-- The character does not come between two characters that join. -/
def isTransparent (c : Char) : Bool := Text.isNonspacingMark c || c.toNat == 0x1E94B

/-- The first character that matters joins its neighbour. -/
def joins (ranges : List (Nat × Nat)) (text : List Char) : Bool :=
  match text.dropWhile isTransparent with
  | c :: _ => Text.inRanges ranges c.toNat
  | [] => false

/-- Every joiner in the rest of a label changes how it is written. `before` is the part of
the label that was passed, last character first. -/
def joinersMatter (before : List Char) : List Char → Bool
  | [] => true
  | c :: rest =>
    let afterKiller := before.head?.any fun last =>
      Text.combiningClass last.toNat == vowelKillerClass
    let allowed :=
      if c = '\u200D' then afterKiller
      else if c = '\u200C' then
        afterKiller || joins joiningForwardRanges before && joins joiningBackwardRanges rest
      else true
    allowed && joinersMatter (c :: before) rest

example : joinersMatter [] "نامه\u200Cای".toList = true := by decide +kernel
example : joinersMatter [] "a\u200Cb".toList = false := by decide +kernel

end TrustFederation.Domain
