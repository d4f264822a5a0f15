import TrustFederation.Json.Basic
import TrustFederation.Json.Fault
import TrustFederation.Word
/-!
# Strings and numbers in JSON texts

A string or number can be read for its value or skipped. Skipping looks for its end only:
it accepts surrogates that stand alone, bytes that are no UTF-8 and numbers without a
double, and reports a number that breaks off differently.
-/
namespace TrustFederation.Json

/-- The byte is one of the four blanks of JSON. -/
def isSpace (byte : UInt8) : Bool :=
  byte == 32 || byte == 10 || byte == 9 || byte == 13

/-- A text from its first byte that is no blank on. -/
def skipSpace (text : List UInt8) : List UInt8 :=
  text.dropWhile isSpace

/-- The value of a hexadecimal digit. -/
def hexOf? (byte : UInt8) : Option Nat :=
  let code := byte.toNat
  if 48 ≤ code ∧ code ≤ 57 then some (code - 48)
  else if 97 ≤ code ∧ code ≤ 102 then some (code - 87)
  else if 65 ≤ code ∧ code ≤ 70 then some (code - 55)
  else none

/-- The number that the four digits after `\u` stand for. -/
def hexEscape? (a b c d : UInt8) : Option Nat := do
  let first ← hexOf? a
  let second ← hexOf? b
  let third ← hexOf? c
  let fourth ← hexOf? d
  return first * 4096 + second * 256 + third * 16 + fourth

/-- The byte that a single character after a backslash stands for. -/
def shortEscape? (byte : UInt8) : Option UInt8 :=
  match byte.toNat with
  | 34 => some 34
  | 92 => some 92
  | 47 => some 47
  | 98 => some 8
  | 102 => some 12
  | 110 => some 10
  | 114 => some 13
  | 116 => some 9
  | _ => none

/-- The text after a string whose opening quote has been passed. -/
def skipString : List UInt8 → Except Fault (List UInt8)
  | [] => .error .endInText
  | byte :: rest =>
    if byte = 34 then .ok rest
    else if byte = 92 then
      match rest with
      | [] => .error .endInText
      | kind :: more =>
        if kind = 117 then
          match more with
          | a :: b :: c :: d :: later =>
            if (hexEscape? a b c d).isSome then skipString later else .error .escape
          | _ => .error .endInText
        else if (shortEscape? kind).isSome then skipString more
        else .error .escape
    else if byte < 32 then .error .control
    else skipString rest

/-- The bytes of a string whose opening quote has been passed. `read` holds the bytes read
so far, last one first. -/
def stringBytes (read : List UInt8) : List UInt8 → Except Fault (List UInt8)
  | [] => .error .endInText
  | byte :: rest =>
    if byte = 34 then .ok read.reverse
    else if byte = 92 then
      match rest with
      | [] => .error .endInText
      | kind :: more =>
        if kind = 117 then
          match more with
          | a :: b :: c :: d :: later =>
            match hexEscape? a b c d with
            | none => .error .escape
            | some unit =>
              if unit < 0xD800 ∨ 0xDFFF < unit then
                stringBytes ((String.utf8EncodeChar (Char.ofNat unit)).reverse ++ read) later
              else if 0xDC00 ≤ unit then .error .loneSurrogate
              else match later with
                | [] => .error .endInText
                | slash :: after =>
                  if slash ≠ 92 then .error .hexEscapeEnd
                  else match after with
                    | [] => .error .endInText
                    | letter :: digits =>
                      if letter ≠ 117 then .error .hexEscapeEnd
                      else match digits with
                        | e :: f :: g :: h :: beyond =>
                          match hexEscape? e f g h with
                          | none => .error .escape
                          | some low =>
                            if 0xDC00 ≤ low ∧ low ≤ 0xDFFF then
                              let point := 0x10000 + (unit - 0xD800) * 1024 + (low - 0xDC00)
                              stringBytes
                                ((String.utf8EncodeChar (Char.ofNat point)).reverse ++ read) beyond
                            else .error .loneSurrogate
                        | _ => .error .endInText
          | _ => .error .endInText
        else match shortEscape? kind with
          | some plain => stringBytes (plain :: read) more
          | none => .error .escape
    else if byte < 32 then .error .control
    else stringBytes (byte :: read) rest

/-- The value of a string whose opening quote has been passed. That its bytes are UTF-8 is
checked at its end. -/
def readString (text : List UInt8) : Except Fault String := do
  let bytes ← stringBytes [] text
  match String.fromUTF8? ⟨bytes.toArray⟩ with
  | some value => .ok value
  | none => .error .encoding

/-- A fault of a value when it is read and when it is skipped. -/
structure Break where
  reading : Fault
  skipping : Fault
deriving DecidableEq

/-- The parts of a written number. -/
structure Numeral where
  negative : Bool
  whole : List Nat
  fraction : Option (List Nat)
  exponent : Option (Bool × List Nat)
deriving DecidableEq

/-- The byte is a decimal digit. -/
def isDigit (byte : UInt8) : Bool := 48 ≤ byte && byte ≤ 57

/-- The digits at the start of a text, and the text after them. -/
def takeDigits (text : List UInt8) : List Nat × List UInt8 :=
  ((text.takeWhile isDigit).map fun byte => byte.toNat - 48, text.dropWhile isDigit)

/-- The break of a number that has no digit where one must stand. -/
def missingDigit (text : List UInt8) : Break :=
  if text.isEmpty then ⟨.endInValue, .number⟩ else ⟨.number, .number⟩

/-- The digits of the whole part: a zero alone, or digits that begin with another one. -/
def scanWhole (text : List UInt8) : Except Break (List Nat × List UInt8) :=
  match takeDigits text with
  | ([], _) => .error (missingDigit text)
  | (0 :: _ :: _, _) => .error ⟨.number, .number⟩
  | (digits, rest) => .ok (digits, rest)

/-- The digits after a point, if one follows. -/
def scanFraction (text : List UInt8) : Except Break (Option (List Nat) × List UInt8) :=
  match text with
  | 46 :: rest =>
    match takeDigits rest with
    | ([], _) => .error (missingDigit rest)
    | (digits, later) => .ok (some digits, later)
  | _ => .ok (none, text)

/-- The exponent, if one follows: whether it is negative, and its digits. -/
def scanExponent (text : List UInt8) : Except Break (Option (Bool × List Nat) × List UInt8) :=
  match text with
  | [] => .ok (none, [])
  | mark :: rest =>
    if mark = 101 ∨ mark = 69 then
      let (negative, digits) := match rest with
        | 43 :: later => (false, later)
        | 45 :: later => (true, later)
        | _ => (false, rest)
      match takeDigits digits with
      | ([], _) => .error (missingDigit digits)
      | (found, later) => .ok (some (negative, found), later)
    else .ok (none, text)

/-- The parts of the number at the start of a text, and the text after it. -/
def scanNumeral (text : List UInt8) : Except Break (Numeral × List UInt8) := do
  let (negative, unsigned) := match text with
    | 45 :: rest => (true, rest)
    | _ => (false, text)
  let (whole, afterWhole) ← scanWhole unsigned
  let (fraction, afterFraction) ← scanFraction afterWhole
  let (exponent, rest) ← scanExponent afterFraction
  return (⟨negative, whole, fraction, exponent⟩, rest)

/-- Appends digits to a number as long as it stays within 64 bits. The digits from the
first one that does not fit are left over. -/
def appendDigits : Nat → List Nat → Nat × List Nat
  | value, [] => (value, [])
  | value, digit :: rest =>
    if value * 10 + digit ≤ Word.largest then appendDigits (value * 10 + digit) rest
    else (value, digit :: rest)

/-- The number that digits stand for. -/
def ofDigits (digits : List Nat) : Nat :=
  digits.foldl (fun value digit => value * 10 + digit) 0

/-- The largest exponent that a numeral may state. -/
def largestExponent : Nat := 0x7FFFFFFF

/-- The double of a numeral: digits beyond 64 bits count for the exponent only. -/
def Numeral.double? (numeral : Numeral) : Option Double :=
  let (whole, dropped) := appendDigits 0 numeral.whole
  let fraction := numeral.fraction.getD []
  let (digits, unused) := appendDigits whole fraction
  let start : Int := (dropped.length : Int) - ((fraction.length - unused.length : Nat) : Int)
  let magnitude := match numeral.exponent with
    | none => Double.ofDecimal? digits start
    | some (negative, written) =>
      let exponent := ofDigits written
      if exponent ≤ largestExponent then
        Double.ofDecimal? digits (if negative then start - exponent else start + exponent)
      else if digits ≠ 0 ∧ !negative then none
      else some Double.zero
  magnitude.map (Double.signed numeral.negative)

/-- The value of a numeral: an integer if it is written as one and has 64 bits, otherwise a
double. A negative zero is a double. -/
def Numeral.value (numeral : Numeral) : Except Fault Number :=
  let whole := ofDigits numeral.whole
  let integer? : Option Int :=
    if numeral.fraction.isSome || numeral.exponent.isSome then none
    else if numeral.negative then
      if 0 < whole ∧ Word.leastSigned ≤ -(whole : Int) then some (-(whole : Int)) else none
    else if whole ≤ Word.largest then some whole else none
  match integer? with
  | some value => .ok (.integer value)
  | none =>
    match numeral.double? with
    | some value => .ok (.double value)
    | none => .error .range

end TrustFederation.Json
