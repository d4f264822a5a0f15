import TrustFederation.Json.Basic
import TrustFederation.Json.Shortest
import TrustFederation.Codec.Hex
/-!
# The text of JSON values

The compact form has no blanks; it is what is signed. The pretty form puts every item and
member on a line of its own. Texts are written as they are except for quotes,
backslashes and controls.
-/
namespace TrustFederation.Json

/-- A character as it stands inside a JSON string. -/
def escapeChar (c : Char) : List Char :=
  match c with
  | '"' => ['\\', '"']
  | '\\' => ['\\', '\\']
  | '\x08' => ['\\', 'b']
  | '\x0C' => ['\\', 'f']
  | '\n' => ['\\', 'n']
  | '\r' => ['\\', 'r']
  | '\t' => ['\\', 't']
  | _ =>
    if c.toNat < 32 then
      ['\\', 'u', '0', '0', Codec.hexDigit (c.toNat / 16), Codec.hexDigit (c.toNat % 16)]
    else [c]

/-- A text as a JSON string. -/
def stringText (text : String) : String :=
  String.ofList ('"' :: text.toList.flatMap escapeChar ++ ['"'])

/-- The text of a number. -/
def Number.text : Number → String
  | .integer value => toString value
  | .double value => doubleFormat.text value

mutual

/-- The compact text of a value. -/
def compact : Json → String
  | .null => "null"
  | .bool true => "true"
  | .bool false => "false"
  | .number value => value.text
  | .text value => stringText value
  | .array [] => "[]"
  | .array (item :: rest) => "[" ++ compact item ++ compactItems rest ++ "]"
  | .object [] => "\x7b\x7d"
  | .object ((name, value) :: rest) =>
    "\x7b" ++ stringText name ++ ":" ++ compact value ++ compactMembers rest ++ "\x7d"

/-- The items after the first one. -/
def compactItems : List Json → String
  | [] => ""
  | item :: rest => "," ++ compact item ++ compactItems rest

/-- The members after the first one. -/
def compactMembers : List (String × Json) → String
  | [] => ""
  | (name, value) :: rest =>
    "," ++ stringText name ++ ":" ++ compact value ++ compactMembers rest

end

/-- A line feed and two blanks for each level. -/
def newLine (level : Nat) : String :=
  String.ofList ('\n' :: List.replicate (2 * level) ' ')

mutual

/-- The text of a value over several lines, where `level` is its depth. -/
def prettyAt (level : Nat) : Json → String
  | .array (item :: rest) =>
    "[" ++ newLine (level + 1) ++ prettyAt (level + 1) item ++ prettyItems level rest ++
      newLine level ++ "]"
  | .object ((name, value) :: rest) =>
    "\x7b" ++ newLine (level + 1) ++ stringText name ++ ": " ++ prettyAt (level + 1) value ++
      prettyMembers level rest ++ newLine level ++ "\x7d"
  | .array [] => "[]"
  | .object [] => "\x7b\x7d"
  | .null => "null"
  | .bool true => "true"
  | .bool false => "false"
  | .number value => value.text
  | .text value => stringText value

/-- The items after the first one, each on a line of its own. -/
def prettyItems (level : Nat) : List Json → String
  | [] => ""
  | item :: rest =>
    "," ++ newLine (level + 1) ++ prettyAt (level + 1) item ++ prettyItems level rest

/-- The members after the first one, each on a line of its own. -/
def prettyMembers (level : Nat) : List (String × Json) → String
  | [] => ""
  | (name, value) :: rest =>
    "," ++ newLine (level + 1) ++ stringText name ++ ": " ++ prettyAt (level + 1) value ++
      prettyMembers level rest

end

/-- The text of a value over several lines. -/
def pretty (value : Json) : String := prettyAt 0 value

end TrustFederation.Json
