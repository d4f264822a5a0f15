/-!
# Faults in JSON texts

A text is read from left to right and the first fault ends the reading. What the fault is
may depend on whether the value it stands in is read or only skipped.
-/
namespace TrustFederation.Json

/-- Why a text is no JSON document. -/
inductive Fault where
  | endInValue
  | endInObject
  | endInList
  | endInText
  | noValue
  | word
  | noColon
  | objectSeparator
  | listSeparator
  | nameNotText
  | trailingComma
  | trailingCharacters
  | number
  | range
  | escape
  | encoding
  | hexEscapeEnd
  | loneSurrogate
  | control
  | depth
deriving DecidableEq

/-- The wording of a fault. -/
def Fault.message : Fault → String
  | .endInValue => "EOF while parsing a value"
  | .endInObject => "EOF while parsing an object"
  | .endInList => "EOF while parsing a list"
  | .endInText => "EOF while parsing a string"
  | .noValue => "expected value"
  | .word => "expected ident"
  | .noColon => "expected `:`"
  | .objectSeparator => "expected `,` or `\x7d`"
  | .listSeparator => "expected `,` or `]`"
  | .nameNotText => "key must be a string"
  | .trailingComma => "trailing comma"
  | .trailingCharacters => "trailing characters"
  | .number => "invalid number"
  | .range => "number out of range"
  | .escape => "invalid escape"
  | .encoding => "invalid unicode code point"
  | .hexEscapeEnd => "unexpected end of hex escape"
  | .loneSurrogate => "lone leading surrogate in hex escape"
  | .control => "control character (\\u0000-\\u001F) found while parsing a string"
  | .depth => "recursion limit exceeded"

end TrustFederation.Json
