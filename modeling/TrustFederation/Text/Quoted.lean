import TrustFederation.Text.Graphic
/-!
# Quoted text in messages

Messages show a text between double quotes. Quotes, backslashes and the usual controls
are written with a backslash, every other character without a mark of its own by its
code point in hexadecimal.
-/
namespace TrustFederation.Text

/-- A character as it stands inside a quoted text. -/
def quoteChar (c : Char) : String :=
  match c with
  | '\x00' => "\\0"
  | '\t' => "\\t"
  | '\n' => "\\n"
  | '\r' => "\\r"
  | '"' => "\\\""
  | '\\' => "\\\\"
  | _ =>
    if isGraphic c then String.singleton c
    else "\\u\x7b" ++ String.ofList (Nat.toDigits 16 c.toNat) ++ "\x7d"

/-- A text between double quotes. -/
def quote (text : String) : String :=
  "\"" ++ String.join (text.toList.map quoteChar) ++ "\""

example : quote "a\"b\\\n\u200Bé" = "\"a\\\"b\\\\\\n\\u\x7b200b\x7dé\"" := by decide +kernel

end TrustFederation.Text
