import TrustFederation.Address.Ipv4
/-!
# Numeric addresses of 128 bits

An address is eight numbers of sixteen bits, written in base sixteen with colons between them.
A double colon stands for as many zeros as are missing, at least one. The last two numbers may
be written as four bytes.
-/
namespace TrustFederation.Address

/-- A numeric address of eight numbers. -/
structure Ipv6 where
  pieces : List Nat
deriving DecidableEq

namespace Ipv6

/-- How many numbers an address has. -/
def size : Nat := 8

/-- The number of one to four digits. -/
def piece? (text : List Char) : Option Nat :=
  if text.isEmpty || 4 < text.length then none else Ipv4.inBase? 16 text

/-- A byte in base ten without zeros in front of it. -/
def byte? (text : List Char) : Option Nat := do
  if text.isEmpty || text.head? == some '0' && text.length ≠ 1 then none
  else
    let value ← Ipv4.inBase? 10 text
    if value < 256 then some value else none

/-- Two numbers that are written as four bytes. -/
def tail? (text : List Char) : Option (List Nat) := do
  match ← (Text.splitOn '.' text).mapM byte? with
  | [a, b, c, d] => some [a * 256 + b, c * 256 + d]
  | _ => none

/-- The numbers of texts, of which the last one may stand for two. -/
def pieces? (mayHaveTail : Bool) : List (List Char) → Option (List Nat)
  | [] => some []
  | [last] => if mayHaveTail && last.contains '.' then tail? last else (piece? last).map ([·])
  | text :: others => do return (← piece? text) :: (← pieces? mayHaveTail others)

/-- The numbers of a text. An empty text has none. -/
def piecesOf? (mayHaveTail : Bool) (text : List Char) : Option (List Nat) :=
  if text.isEmpty then some [] else pieces? mayHaveTail (Text.splitOn ':' text)

/-- The text before and after the first double colon. -/
def cutDouble : List Char → Option (List Char × List Char)
  | ':' :: ':' :: rest => some ([], rest)
  | c :: rest => (cutDouble rest).map fun (before, after) => (c :: before, after)
  | [] => none

/-- The address that a text stands for. -/
def ofText? (text : List Char) : Option Ipv6 :=
  match cutDouble text with
  | none => do
    let pieces ← piecesOf? true text
    if pieces.length = size then some ⟨pieces⟩ else none
  | some (before, after) => do
    let front ← piecesOf? false before
    let back ← piecesOf? true after
    let given := front.length + back.length
    if given < size then some ⟨front ++ List.replicate (size - given) 0 ++ back⟩ else none

/-- Numbers in base sixteen with colons between them. -/
def renderPieces (pieces : List Nat) : List Char :=
  Text.joinWith ':' (pieces.map (Nat.toDigits 16))

/-- The number of zeros at the start of a list. -/
def zeros (pieces : List Nat) : Nat := (pieces.takeWhile (· == 0)).length

/-- The place and the length of the first of the longest runs of zeros. `place` is the place of
the first number given. -/
def longestZeros (place : Nat) : List Nat → Nat × Nat
  | [] => (place, 0)
  | piece :: rest =>
    let here := zeros (piece :: rest)
    let later := longestZeros (place + 1) rest
    if later.2 ≤ here then (place, here) else later

/-- An address with a double colon for the first of the longest runs of several zeros. -/
def render (address : Ipv6) : List Char :=
  let (place, length) := longestZeros 0 address.pieces
  if length < 2 then renderPieces address.pieces
  else renderPieces (address.pieces.take place) ++ "::".toList ++
    renderPieces (address.pieces.drop (place + length))

example : (ofText? "0:0:1::0:0:0".toList).map render = some "0:0:1::".toList := by decide +kernel
example : (ofText? "::ffff:1.2.3.4".toList).map render = some "::ffff:102:304".toList := by
  decide +kernel
example : ofText? "1:2:3:4:5:6:7::8".toList = none := by decide +kernel

end Ipv6

end TrustFederation.Address
