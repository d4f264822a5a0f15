/-!
# Base64url without padding

Segments of tokens and key material are bytes in the URL-safe base64 alphabet. Three
bytes become four symbols; one or two bytes at the end become two or three. Decoding
accepts only what encoding produces: no padding, no other alphabet, no length that leaves
a single symbol, and no bits set in the last symbol beyond the last byte. A fault names
the byte and its offset, and the first fault in the order of checking is reported.
-/
namespace TrustFederation.Codec.Base64Url

/-- Why a text is not the encoding of any bytes. -/
inductive Fault where
  | symbol (byte : UInt8) (offset : Nat)
  | length (count : Nat)
  | lastSymbol (byte : UInt8) (offset : Nat)
  | padding
deriving DecidableEq

/-- The wording of a fault. -/
def Fault.message : Fault → String
  | .symbol byte offset => s!"Invalid symbol {byte.toNat}, offset {offset}."
  | .length count => s!"Invalid input length: {count}"
  | .lastSymbol byte offset => s!"Invalid last symbol {byte.toNat}, offset {offset}."
  | .padding => "Invalid padding"

/-- The symbol of a number below 64. -/
def symbol (value : Nat) : Char :=
  if value < 26 then Char.ofNat (65 + value)
  else if value < 52 then Char.ofNat (71 + value)
  else if value < 62 then Char.ofNat (value - 4)
  else if value = 62 then '-'
  else '_'

/-- The number of a symbol, given as the byte it is written with. -/
def value? (byte : UInt8) : Option Nat :=
  let code := byte.toNat
  if 65 ≤ code ∧ code ≤ 90 then some (code - 65)
  else if 97 ≤ code ∧ code ≤ 122 then some (code - 71)
  else if 48 ≤ code ∧ code ≤ 57 then some (code + 4)
  else if code = 45 then some 62
  else if code = 95 then some 63
  else none

/-- The byte of the padding character `=`. -/
def pad : UInt8 := 61

/-- The numbers below 64 that stand for the bytes. -/
def sextets : List UInt8 → List Nat
  | [] => []
  | [a] => [a.toNat / 4, a.toNat % 4 * 16]
  | [a, b] => [a.toNat / 4, a.toNat % 4 * 16 + b.toNat / 16, b.toNat % 16 * 4]
  | a :: b :: c :: rest =>
    a.toNat / 4 :: (a.toNat % 4 * 16 + b.toNat / 16) :: (b.toNat % 16 * 4 + c.toNat / 64) ::
      c.toNat % 64 :: sextets rest

/-- The encoding of bytes. -/
def encode (bytes : List UInt8) : String :=
  String.ofList ((sextets bytes).map symbol)

/-- The three bytes of four numbers below 64. -/
def octets (a b c d : Nat) : List UInt8 :=
  [UInt8.ofNat (a * 4 + b / 16), UInt8.ofNat (b % 16 * 16 + c / 4), UInt8.ofNat (c % 4 * 64 + d)]

/-- The number of the symbol at an offset. -/
def valueAt (offset : Nat) (byte : UInt8) : Except Fault Nat :=
  match value? byte with
  | some value => .ok value
  | none => .error (.symbol byte offset)

/-- The numbers of the symbols of the last group and whether padding follows them.
`index` counts within the group, `padded` is the index of the first padding character. -/
def lastValues (offset index : Nat) (padded : Option Nat) :
    List UInt8 → Except Fault (List Nat × Bool)
  | [] => .ok ([], padded.isSome)
  | byte :: rest =>
    if byte = pad then
      if index < 2 then .error (.symbol byte (offset + index))
      else lastValues offset (index + 1) (padded.orElse fun _ => some index) rest
    else match padded with
      | some first => .error (.symbol pad (offset + first))
      | none => do
        let value ← valueAt (offset + index) byte
        let (values, more) ← lastValues offset (index + 1) none rest
        return (value :: values, more)

/-- The bytes of the last group, which has at most four symbols. -/
def decodeLast (offset : Nat) (group : List UInt8) : Except Fault (List UInt8) := do
  let (values, padded) ← lastValues offset 0 none group
  match values with
  | [] | [_] =>
    if group.isEmpty then .ok [] else .error (.length (offset + values.length))
  | [a, b] =>
    if padded then .error .padding
    else if b % 16 ≠ 0 then .error (.lastSymbol (group.getD 1 0) (offset + 1))
    else .ok [UInt8.ofNat (a * 4 + b / 16)]
  | [a, b, c] =>
    if padded then .error .padding
    else if c % 4 ≠ 0 then .error (.lastSymbol (group.getD 2 0) (offset + 2))
    else .ok [UInt8.ofNat (a * 4 + b / 16), UInt8.ofNat (b % 16 * 16 + c / 4)]
  | a :: b :: c :: d :: _ => .ok (octets a b c d)

/-- The bytes of the symbols from an offset on. A group of four symbols is read in full
only when more symbols follow, because the last group may hold padding. -/
def decodeFrom (offset : Nat) : List UInt8 → Except Fault (List UInt8)
  | a :: b :: c :: d :: next :: rest => do
    let first ← valueAt offset a
    let second ← valueAt (offset + 1) b
    let third ← valueAt (offset + 2) c
    let fourth ← valueAt (offset + 3) d
    let later ← decodeFrom (offset + 4) (next :: rest)
    return octets first second third fourth ++ later
  | group => decodeLast offset group

/-- The fault of a text of one symbol too many whose last byte is outside the alphabet,
such as a line feed. It is reported before every other one. -/
def strayEnd? (text : List UInt8) : Option Fault :=
  match text.getLast? with
  | some last =>
    if text.length % 4 = 1 ∧ last ≠ pad ∧ value? last = none then
      some (.symbol last (text.length - 1))
    else none
  | none => none

/-- The bytes that a text encodes. -/
def decode (text : List UInt8) : Except Fault (List UInt8) :=
  match strayEnd? text with
  | some fault => .error fault
  | none => decodeFrom 0 text

/-- A symbol has the number it was made from. -/
theorem value?_symbol {value : Nat} (small : value < 64) :
    value? (UInt8.ofNat (symbol value).toNat) = some value := by
  have every : ∀ number : Fin 64, value? (UInt8.ofNat (symbol number).toNat) = some number.val := by
    decide +kernel
  exact every ⟨value, small⟩

example : encode [0xFF, 0xEE] = "_-4" := by decide
example : (decode "_-4".toUTF8.data.toList).toOption = some [0xFF, 0xEE] := by decide +kernel
example : (decode "_-5".toUTF8.data.toList).toOption = none := by decide +kernel

end TrustFederation.Codec.Base64Url
