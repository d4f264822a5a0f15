import TrustFederation.Codec.Percent
import TrustFederation.Domain.Direction
import TrustFederation.Domain.Joining
import TrustFederation.Domain.Punycode
import TrustFederation.Domain.Table
import TrustFederation.Text.Lowercase
/-!
# Domain names

A domain name is read without regard to case and to different ways of writing the same
characters, and becomes a text of ASCII. Its labels are the texts between its full stops; a label
with other characters is marked by a prefix and written in the letters of ASCII. A name that
is already written so must mean a label that could have been written out.
-/
namespace TrustFederation.Domain

/-- The prefix of labels that were written in the letters of ASCII. -/
def mark : List Char := "xn--".toList

/-- A character of ASCII that may not stand in a name. -/
def isDenied (c : Char) : Bool :=
  c.toNat ≤ 32 || c.toNat == 127 || "%#/:<>?@[\\]^|".toList.contains c

/-- The code point belongs to the run. -/
def Shift.holds (shift : Shift) (point : Nat) : Bool :=
  shift.first ≤ point && point ≤ shift.last && (point - shift.first) % shift.step == 0

/-- The capitals of Cherokee, which stand for themselves. -/
def isLastingCapital (point : Nat) : Bool := 0x13A0 ≤ point && point ≤ 0x13F5

/-- What a character is written as, or nothing if it is refused. -/
def written? (c : Char) : Option (List Char) :=
  let point := c.toNat
  if point < 128 then some [Text.asciiLower c]
  else if Text.inRanges refusedRanges point then none
  else if Text.inRanges ignoredRanges point then some []
  else match shifts.find? (·.holds point), Text.image? images point with
    | some shift, _ => some [Char.ofNat (point + shift.distance).toNat]
    | none, some image => some image
    | none, none => some (if isLastingCapital point then [c] else Text.smallForm c)

/-- What a text is written as in composed form, or nothing if a character is refused. -/
def normal? (text : List Char) : Option (List Char) := do
  return Text.composed (← text.mapM written?).flatten

/-- The text holds characters of ASCII only. -/
def isAscii (text : List Char) : Bool := text.all (·.toNat < 128)

/-- The characters of the longest label in the letters of ASCII, without the mark, that is read. -/
def longestWritten : Nat := 2000

/-- The characters of the longest label that is written in the letters of ASCII. -/
def longestMeant : Nat := 1000

/-- The label that a label means. One that begins with the mark must mean something beyond
ASCII that is in normal form. -/
def meant? (label : List Char) : Option (List Char) :=
  if mark.isPrefixOf label then
    let payload := label.drop mark.length
    if !isAscii payload || payload.getLast? == some '-' || longestWritten < payload.length then none
    else do
      let meaning ← Punycode.decode payload
      let normal ← normal? meaning
      if normal = meaning ∧ ¬isAscii meaning ∧ ¬mark.isPrefixOf meaning then some meaning else none
  else some label

/-- The label may stand in a name. -/
def isLabel (label : List Char) : Bool :=
  !label.any isDenied && !label.head?.any Text.isMark && joinersMatter [] label &&
    (isAscii label || label.length ≤ longestMeant)

/-- A label in the letters of ASCII. -/
def asciiLabel (label : List Char) : List Char :=
  if isAscii label then label else mark ++ Punycode.encode label

/-- The domain name that a text means, in ASCII. -/
def ofText? (text : List Char) : Option (List Char) := do
  let normal ← normal? text
  let labels ← (Text.splitOn '.' normal).mapM meant?
  if labels.all isLabel && labelsKeepDirection labels then
    some (Text.joinWith '.' (labels.map asciiLabel))
  else none

example : ofText? "ü.RP".toList = some "xn--tda.rp".toList := by decide +kernel
example : ofText? "a b".toList = none := by decide +kernel

end TrustFederation.Domain
