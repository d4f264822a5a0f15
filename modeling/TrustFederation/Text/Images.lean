import TrustFederation.Text.Split
/-!
# Characters that stand for texts

A table of characters that stand for texts lists them in runs. The texts of a run are written
one after the other with a blank between them, so none of them holds a blank.
-/
namespace TrustFederation.Text

/-- A run of code points and the texts that they stand for. -/
structure ImageRun where
  first : Nat
  last : Nat
  images : String
deriving DecidableEq

/-- The text that a code point stands for, if one of the runs holds it. -/
def image? (runs : List ImageRun) (point : Nat) : Option (List Char) := do
  let run ← runs.find? fun run => run.first ≤ point && point ≤ run.last
  (splitOn ' ' run.images.toList)[point - run.first]?

example : image? [⟨65, 66, "x yz"⟩] 66 = some ['y', 'z'] := by decide +kernel
example : image? [⟨65, 66, "x yz"⟩] 67 = none := by decide +kernel

end TrustFederation.Text
