import TrustFederation.Codec.Hex
/-!
# Percent-encoding of query parameters

A parameter is written byte by byte: letters and digits of ASCII and the marks `-`,
`_`, `.` and `~` stand for themselves, every other byte of the UTF-8 form becomes a
percent sign and two capital hexadecimal digits. Neither `&` nor `=` occurs in a
written parameter.
-/
namespace TrustFederation.Codec.Percent

/-- The byte stands for itself. -/
def isPlain (byte : UInt8) : Bool :=
  let c := Char.ofNat byte.toNat
  c.toNat < 128 && (c.isAlphanum || c == '-' || c == '_' || c == '.' || c == '~')

/-- The written form of one byte. -/
def encodeByte (byte : UInt8) : List Char :=
  if isPlain byte then [Char.ofNat byte.toNat]
  else ['%', capitalHexDigit (byte.toNat / 16), capitalHexDigit (byte.toNat % 16)]

/-- The written form of a text. -/
def encode (text : String) : String :=
  String.ofList (text.toUTF8.data.toList.flatMap encodeByte)

/-- The bytes that a written form stands for. A percent sign without two digits after it
and every other character outside the plain ones have no reading. -/
def decodeBytes : List Char → Option (List UInt8)
  | [] => some []
  | '%' :: high :: low :: rest => do
    let upper ← hexValue? high
    let lower ← hexValue? low
    let bytes ← decodeBytes rest
    return UInt8.ofNat (upper * 16 + lower) :: bytes
  | c :: rest =>
    if c.toNat < 128 ∧ isPlain (UInt8.ofNat c.toNat) then
      (decodeBytes rest).map (UInt8.ofNat c.toNat :: ·)
    else none

/-- The text that a written form stands for. -/
def decode (written : String) : Option String := do
  let bytes ← decodeBytes written.toList
  String.fromUTF8? ⟨bytes.toArray⟩

/-! ## Characters in addresses

An address keeps most characters. Those that would end the part where they stand are written
byte by byte, and what was written so before is kept as it is. -/

/-- A text with the characters that are not kept written byte by byte. -/
def escape (keeps : Char → Bool) (text : List Char) : List Char :=
  text.flatMap fun c =>
    if keeps c then [c]
    else (String.utf8EncodeChar c).flatMap fun byte =>
      ['%', capitalHexDigit (byte.toNat / 16), capitalHexDigit (byte.toNat % 16)]

/-- The bytes of a text in which a percent sign with two digits after it stands for a byte.
Everything else stands for itself. -/
def unescapeBytes : List Char → List UInt8
  | [] => []
  | '%' :: high :: low :: rest =>
    match hexValue? high, hexValue? low with
    | some upper, some lower => UInt8.ofNat (upper * 16 + lower) :: unescapeBytes rest
    | _, _ => 37 :: unescapeBytes (high :: low :: rest)
  | c :: rest => String.utf8EncodeChar c ++ unescapeBytes rest

/-- The text of these bytes, if they are one. -/
def unescape? (text : List Char) : Option (List Char) :=
  (String.fromUTF8? ⟨(unescapeBytes text).toArray⟩).map String.toList

example : encode "https://rp.example/a b~é" = "https%3A%2F%2Frp.example%2Fa%20b~%C3%A9" := by
  decide +kernel

end TrustFederation.Codec.Percent
