import TrustFederation.Text.Ascii
import TrustFederation.Text.CaseTable
/-!
# Small letters in context

Node keys are compared, and identifiers claimed, after every letter was made small.
The small form of a letter does not depend on its surroundings, with one exception:
a capital sigma at the end of a word becomes a final sigma. What ends a word is decided
by the nearest characters on both sides that are not passed over.
-/
namespace TrustFederation.Text

/-- The character is a letter with case. -/
def isCased (c : Char) : Bool :=
  inRanges casedRanges c.toNat

/-- The character is passed over when the case of the surroundings is asked for. -/
def isCaseIgnorable (c : Char) : Bool :=
  inRanges caseIgnorableRanges c.toNat

/-- The code point belongs to the run. -/
def CapitalRun.holds (run : CapitalRun) (point : Nat) : Bool :=
  run.first ≤ point && point ≤ run.last && (point - run.first) % run.step == 0

/-- The small form of a character outside ASCII, without regard to its surroundings. -/
def smallForm (c : Char) : List Char :=
  if c = 'İ' then ['i', '\u0307']
  else match capitalRuns.find? (·.holds c.toNat) with
    | some run => [Char.ofNat (c.toNat + run.distance).toNat]
    | none => [c]

/-- The small form of a character that stands after (`before`) and before (`after`) a
letter with case, or not. -/
def smallFormBetween (before after : Bool) (c : Char) : List Char :=
  if c.toNat < 128 then [asciiLower c]
  else if c = 'Σ' then [if before && !after then 'ς' else 'σ']
  else smallForm c

/-- The first character that is not passed over has case. -/
def startsCased : List Char → Bool
  | [] => false
  | c :: rest => if isCaseIgnorable c then startsCased rest else isCased c

/-- The small forms of the characters of a text that stands after a letter with case
(`before`) or not. -/
def lowercaseFrom (before : Bool) : List Char → List Char
  | [] => []
  | c :: rest =>
    smallFormBetween before (startsCased rest) c ++
      lowercaseFrom (if isCaseIgnorable c then before else isCased c) rest

/-- A text with every letter made small. -/
def lowercase (text : String) : String :=
  String.ofList (lowercaseFrom false text.toList)

/-- Two texts are equal up to the case of letters. -/
def sameLowercase (left right : String) : Bool :=
  lowercase left == lowercase right

example : lowercase "ΟΔΟΣ ΑΣ.Β Σ" = "οδος ασ.β σ" := by decide +kernel

end TrustFederation.Text
