import TrustFederation.Codec.Hex
import TrustFederation.Text.Split
/-!
# Numeric addresses of 32 bits

A host whose last label is a number is a numeric address. It is written with up to four
numbers, of which the last one fills all bytes that the others leave. A number is in base
sixteen after `0x`, in base eight after another zero, and otherwise in base ten.
-/
namespace TrustFederation.Address

/-- A numeric address of four bytes. -/
structure Ipv4 where
  value : Nat
deriving DecidableEq

namespace Ipv4

/-- The number that digits of a base stand for. -/
def inBase? (base : Nat) (digits : List Char) : Option Nat :=
  digits.foldlM (fun value digit => do
    let found ← Codec.hexValue? digit
    if found < base then some (value * base + found) else none) 0

/-- The number that a label stands for. -/
def number? : List Char → Option Nat
  | [] => none
  | '0' :: 'x' :: digits | '0' :: 'X' :: digits => inBase? 16 digits
  | '0' :: digit :: digits => inBase? 8 (digit :: digits)
  | digits => inBase? 10 digits

/-- The labels of a name, without the empty one after a full stop at its end. -/
def labels (name : List Char) : List (List Char) :=
  match (Text.splitOn '.' name).reverse with
  | [] :: last :: earlier => (last :: earlier).reverse
  | all => all.reverse

/-- The last label of a name is a number or has digits only. -/
def endsInNumber (name : List Char) : Bool :=
  match (labels name).getLast? with
  | some last => !last.isEmpty && last.all Char.isDigit || (number? last).isSome
  | none => false

/-- The value of numbers of which all but the last one are bytes. `room` is the number of values
of all bytes that are left. -/
def valueOf? (room : Nat) : List Nat → Option Nat
  | [] => none
  | [last] => if last < room then some last else none
  | byte :: others => do
    if byte < 256 then some (byte * (room / 256) + (← valueOf? (room / 256) others)) else none

/-- How many addresses there are. -/
def count : Nat := 0x100000000

/-- The address that a name stands for. -/
def ofName? (name : List Char) : Option Ipv4 := do
  let numbers ← (labels name).mapM number?
  if numbers.length ≤ 4 then (valueOf? count numbers).map .mk else none

/-- The four bytes of an address. -/
def bytes (address : Ipv4) : List Nat :=
  [0x1000000, 0x10000, 0x100, 1].map fun place => address.value / place % 256

/-- An address with its four bytes in base ten. -/
def render (address : Ipv4) : List Char :=
  Text.joinWith '.' (address.bytes.map (Nat.toDigits 10))

example : (ofName? "0x7f.1".toList).map render = some "127.0.0.1".toList := by decide +kernel
example : ofName? "256.0.0.1".toList = none ∧ ofName? "09".toList = none := by decide +kernel
example : endsInNumber "rp.0x".toList = true ∧ endsInNumber "1.rp".toList = false := by
  decide +kernel

end Ipv4

end TrustFederation.Address
