/-!
# Labels in the letters of ASCII

A label of a domain name with characters beyond ASCII is written in ASCII in two parts with a
hyphen between them: the characters of ASCII as they are, and then, in ascending order of the
others, how far it is from one place where a character is inserted to the next. A place is
counted over all characters that could be inserted anywhere. The distances are numbers with
digits of which the last one is known by being small; what small means adapts to the distances
so far, by a number called the bias.
-/
namespace TrustFederation.Domain.Punycode

/-- How many digits there are: the letters, and then the decimal digits. -/
def radix : Nat := 36

/-- The smallest digit that does not end a number, at a place of the number. Places are
counted in steps of the radix, beginning with one. -/
def threshold (bias place : Nat) : Nat := min 26 (max 1 (place - bias))

/-- Divides a distance until it is small, and counts the steps. The first argument bounds their
number. -/
def shrink : Nat → Nat → Nat → Nat × Nat
  | 0, distance, steps => (distance, steps)
  | bound + 1, distance, steps =>
    if distance ≤ 455 then (distance, steps) else shrink bound (distance / 35) (steps + 1)

/-- The bias after a distance, when a text has so many characters after the insertion. -/
def adapt (distance size : Nat) (isFirst : Bool) : Nat :=
  let damped := distance / (if isFirst then 700 else 2)
  let (small, steps) := shrink damped (damped + damped / size) 0
  radix * steps + radix * small / (small + 38)

/-- The bias before the first distance. -/
def firstBias : Nat := 72

/-- The first code point that is inserted. -/
def firstPoint : Nat := 128

/-- A digit. -/
def digit (value : Nat) : Char := Char.ofNat (if value < 26 then 97 + value else 22 + value)

/-- The value of a digit. -/
def digitValue? (c : Char) : Option Nat :=
  if 'a' ≤ c ∧ c ≤ 'z' then some (c.toNat - 97)
  else if 'A' ≤ c ∧ c ≤ 'Z' then some (c.toNat - 65)
  else if '0' ≤ c ∧ c ≤ '9' then some (c.toNat - 22)
  else none

/-! ## Writing -/

/-- The digits of a number from a place on. The first argument bounds their number. -/
def writeNumber : Nat → Nat → Nat → Nat → List Char
  | 0, _, _, _ => []
  | bound + 1, bias, place, value =>
    let least := threshold bias place
    if value < least then [digit value]
    else digit (least + (value - least) % (radix - least)) ::
      writeNumber bound bias (place + radix) ((value - least) / (radix - least))

/-- How far a text has been written: what was written, the distance from the last place, the
bias, and how many characters were handled. -/
structure Progress where
  written : List Char
  distance : Nat
  bias : Nat
  handled : Nat

/-- Handles one character of a text while all insertions of a code point are written. -/
def Progress.visit (plain point : Nat) (progress : Progress) (c : Char) : Progress :=
  if c.toNat < point then { progress with distance := progress.distance + 1 }
  else if c.toNat = point then
    { written := progress.written ++
        writeNumber (progress.distance + 1) progress.bias radix progress.distance
      distance := 0
      bias := adapt progress.distance (progress.handled + 1) (progress.handled == plain)
      handled := progress.handled + 1 }
  else progress

/-- Writes all insertions of code points in ascending order. `next` is the least code point that
was not handled yet. -/
def writePoints (text : List Char) (plain next : Nat) : List Nat → Progress → List Char
  | [], progress => progress.written
  | point :: later, progress =>
    let before := { progress with
      distance := progress.distance + (point - next) * (progress.handled + 1) }
    let after := text.foldl (Progress.visit plain point) before
    writePoints text plain (point + 1) later { after with distance := after.distance + 1 }

/-- The characters of a text that are of ASCII. -/
def plainPart (text : List Char) : List Char := text.filter (·.toNat < firstPoint)

/-- Adds a code point to ascending ones, unless it is there. -/
def addPoint (point : Nat) : List Nat → List Nat
  | [] => [point]
  | least :: others =>
    if point < least then point :: least :: others
    else if point = least then least :: others
    else least :: addPoint point others

/-- The code points of a text beyond ASCII in ascending order, each one once. -/
def insertedPoints (text : List Char) : List Nat :=
  ((text.map Char.toNat).filter (firstPoint ≤ ·)).foldr addPoint []

/-- The written form of a text. -/
def encode (text : List Char) : List Char :=
  let plain := plainPart text
  let start := if plain.isEmpty then [] else plain ++ ['-']
  start ++ writePoints text plain.length firstPoint (insertedPoints text)
    ⟨[], 0, firstBias, plain.length⟩

/-! ## Reading -/

/-- Reads a number from a place on, and adds it with a weight to a value. -/
def readNumber (bias : Nat) : Nat → Nat → Nat → List Char → Option (Nat × List Char)
  | _, _, _, [] => none
  | place, weight, value, c :: rest => do
    let found ← digitValue? c
    let least := threshold bias place
    let next := value + found * weight
    if found < least then some (next, rest)
    else readNumber bias (place + radix) (weight * (radix - least)) next rest

/-- Reads the insertions into a text. A number counts from `place`, the place after the last
insertion, where `point` was inserted. The first argument bounds the number of insertions. -/
def readPoints : Nat → Nat → Nat → Nat → List Char → List Char → Option (List Char)
  | _, _, _, _, text, [] => some text
  | 0, _, _, _, _, _ :: _ => none
  | bound + 1, bias, point, place, text, written => do
    let (reached, rest) ← readNumber bias radix 1 place written
    let size := text.length + 1
    let inserted := point + reached / size
    if inserted.isValidChar then
      readPoints bound (adapt (reached - place) size (place == 0)) inserted (reached % size + 1)
        (text.insertIdx (reached % size) (Char.ofNat inserted)) rest
    else none

/-- The text that a written form stands for. A hyphen that begins it is no digit and has
nothing before it to set apart. -/
def decode (written : List Char) : Option (List Char) :=
  let tail := (written.reverse.takeWhile (· != '-')).reverse
  let plain := written.take (written.length - tail.length - 1)
  if plain.isEmpty && tail.length < written.length then none
  else readPoints (tail.length + 1) firstBias firstPoint 0 plain tail

example : encode "bücher".toList = "bcher-kva".toList := by decide +kernel
example : decode "bcher-kva".toList = some "bücher".toList := by decide +kernel
example : encode "例え".toList = "r8jz45g".toList := by decide +kernel
example : decode "a".toList = some ['\u0080'] ∧ decode "-a".toList = none := by decide +kernel

end TrustFederation.Domain.Punycode
