import TrustFederation.Domain.DirectionTable
import TrustFederation.Text.Mark
/-!
# Names in two directions

A name with letters that are written from right to left must be shown in only one way. So
each of its labels begins with a letter and keeps to the direction of that letter, and its
last character that is no mark is a letter of the same direction or a digit.
-/
namespace TrustFederation.Domain

/-- The direction of a character. -/
def directionOf (c : Char) : Direction :=
  if Text.isNonspacingMark c then .mark
  else match directionRanges.find? fun (first, last, _) => first ≤ c.toNat && c.toNat ≤ last with
    | some (_, _, direction) => direction
    | none => .left

/-- The character makes a name one that must keep to directions. -/
def isFromRight (c : Char) : Bool :=
  directionOf c == .right || directionOf c == .arabicNumber

/-- The label can be shown in only one way. -/
def keepsDirection (label : List Char) : Bool :=
  let directions := label.map directionOf
  let last? := directions.reverse.find? (· != .mark)
  match directions with
  | .right :: _ =>
    !directions.contains .left &&
      !(directions.contains .number && directions.contains .arabicNumber) &&
      [some .right, some .number, some .arabicNumber].contains last?
  | .left :: _ =>
    !directions.contains .right && !directions.contains .arabicNumber &&
      [some .left, some .number].contains last?
  | [] => true
  | _ => false

/-- All labels of a name can be shown in only one way. -/
def labelsKeepDirection (labels : List (List Char)) : Bool :=
  !labels.any (·.any isFromRight) || labels.all keepsDirection

example : keepsDirection "אב1".toList = true ∧ keepsDirection "אa".toList = false := by
  decide +kernel

end TrustFederation.Domain
