import TrustFederation.Text.CanonicalTable
/-!
# Canonical composition

Two texts may differ only in whether a character with marks is written as one character or as
several, or in the order of marks that do not touch each other. Of all texts that are the same
in this sense one is the composed form: everything is taken apart, the marks are put in order,
and then each mark is joined with its base again as far as there is a character for both.
-/
namespace TrustFederation.Text

/-- The combining class of a code point. -/
def combiningClass (point : Nat) : Nat :=
  match combiningClasses.find? fun (first, last, _) => first ≤ point && point ≤ last with
  | some (_, _, value) => value
  | none => 0

/-! ## Syllables

The syllables of Hangul are made of a leading consonant, a vowel and perhaps a trailing
consonant, and stand in the order of these. -/

/-- The first syllable. -/
def syllableBase : Nat := 0xAC00

/-- The first leading consonant. -/
def leadingBase : Nat := 0x1100

/-- The first vowel. -/
def vowelBase : Nat := 0x1161

/-- The code point before the first trailing consonant. -/
def trailingBase : Nat := 0x11A7

/-- How many trailing consonants there are, none being one of them. -/
def trailingCount : Nat := 28

/-- How many vowels there are. -/
def vowelCount : Nat := 21

/-- How many leading consonants there are. -/
def leadingCount : Nat := 19

/-- The letters of a syllable. -/
def letters? (point : Nat) : Option (List Nat) :=
  if syllableBase ≤ point ∧ point < syllableBase + leadingCount * vowelCount * trailingCount then
    let index := point - syllableBase
    let trailing := index % trailingCount
    some ([leadingBase + index / trailingCount / vowelCount,
      vowelBase + index / trailingCount % vowelCount] ++
      if trailing = 0 then [] else [trailingBase + trailing])
  else none

/-- The syllable of a leading consonant and a vowel, or of a syllable without a trailing
consonant and one. -/
def syllable? (first second : Nat) : Option Nat :=
  if leadingBase ≤ first ∧ first < leadingBase + leadingCount ∧
      vowelBase ≤ second ∧ second < vowelBase + vowelCount then
    some (syllableBase +
      ((first - leadingBase) * vowelCount + (second - vowelBase)) * trailingCount)
  else if syllableBase ≤ first ∧
      first < syllableBase + leadingCount * vowelCount * trailingCount ∧
      (first - syllableBase) % trailingCount = 0 ∧
      trailingBase < second ∧ second < trailingBase + trailingCount then
    some (first + (second - trailingBase))
  else none

/-! ## Taking apart -/

/-- The parts of a code point. The first part of a composite may have parts itself; the first
argument bounds how often. -/
def parts : Nat → Nat → List Nat
  | 0, point => [point]
  | bound + 1, point =>
    match letters? point with
    | some letters => letters
    | none =>
      match composites.lookup point with
      | some (first, second) => parts bound first ++ [second]
      | none =>
        match image? equivalents point with
        | some image => image.map Char.toNat
        | none => [point]

/-- How often the first part of a composite has parts itself, at most. -/
def compositeDepth : Nat := 4

/-- Puts a mark behind all marks before it whose class is not higher. The marks before it are
given last one first. -/
def insertMark (mark : Nat) : List Nat → List Nat
  | [] => [mark]
  | last :: earlier =>
    if combiningClass mark < combiningClass last then last :: insertMark mark earlier
    else mark :: last :: earlier

/-- A text of code points with the marks in order. `ordered` holds what was put in order so far,
last one first. -/
def orderMarks (ordered : List Nat) : List Nat → List Nat
  | [] => ordered.reverse
  | point :: rest =>
    if combiningClass point = 0 then orderMarks (point :: ordered) rest
    else orderMarks (insertMark point ordered) rest

/-! ## Putting together -/

/-- The composite of two code points. -/
def composite? (first second : Nat) : Option Nat :=
  match syllable? first second with
  | some syllable => some syllable
  | none =>
    (composites.find? fun (_, left, right) => left == first && right == second).map (·.1)

/-- A base and what stands between it and the rest of the text: the marks that were not joined
with it, last one first. -/
structure Composition where
  base : Nat
  marks : List Nat

/-- A mark or base can reach the base, because nothing of its class or above stands between. -/
def Composition.reaches (composition : Composition) (point : Nat) : Bool :=
  match composition.marks with
  | [] => true
  | last :: _ => combiningClass last < combiningClass point

/-- What is joined of a text of code points that follows a composition. -/
def composeFrom (composition : Composition) : List Nat → List Nat
  | [] => composition.base :: composition.marks.reverse
  | point :: rest =>
    match if composition.reaches point then composite? composition.base point else none with
    | some joined => composeFrom { composition with base := joined } rest
    | none =>
      if combiningClass point = 0 then
        composition.base :: composition.marks.reverse ++ composeFrom ⟨point, []⟩ rest
      else composeFrom { composition with marks := point :: composition.marks } rest

/-- A text of code points in order with its marks joined. Marks before the first base stay. -/
def compose : List Nat → List Nat
  | [] => []
  | point :: rest =>
    if combiningClass point = 0 then composeFrom ⟨point, []⟩ rest else point :: compose rest

/-- The composed form of a text. -/
def composed (text : List Char) : List Char :=
  (compose (orderMarks [] (text.flatMap fun c => parts compositeDepth c.toNat))).map Char.ofNat

example : composed "e\u0301".toList = ['é'] := by decide +kernel
example : composed "\u1112\u1161\u11AB".toList = ['한'] := by decide +kernel
example : composed "a\u0307\u0323".toList = "ạ\u0307".toList := by decide +kernel

end TrustFederation.Text
