import TrustFederation.Settings.Environment
import TrustFederation.Settings.FieldPattern
/-!
# Log filters

A log filter is a list of directives with commas between them. A directive is a level, or a
target with an optional span, its fields in braces, and a level after an equals sign. A field
may have a value, which is a number or a pattern. Only whether a filter is well formed matters
here.

The parts of a directive are found in its text without the blanks around it, but by their
positions they are cut out of the text with these blanks. So a directive with blanks around it
is well formed only if what is cut out makes sense, and a level seldom does.
-/
namespace TrustFederation.Settings

/-- What is wrong with a filter. -/
inductive FilterFault where
  /-- A directive is not well formed. -/
  | malformed
  /-- A part of a directive begins or ends inside a character. -/
  | torn
deriving DecidableEq

/-- The names of levels. Numbers from 0 to 5 are levels too. -/
def levelNames : List String := ["error", "warn", "info", "debug", "trace", "off"]

/-- The text is a level. An empty one stands for the default. -/
def isLevel (text : String) : Bool :=
  text.isEmpty || (readNat? 5 text).isSome || levelNames.any (Text.sameAscii text)

/-! ## Fields -/

/-- The text is empty or the exponent of a decimal numeral. -/
def isExponent : List Char → Bool
  | [] => true
  | mark :: rest =>
    let digits := match rest with
      | '+' :: later | '-' :: later => later
      | later => later
    (mark == 'e' || mark == 'E') && !digits.isEmpty && digits.all Char.isDigit

/-- The text is a decimal numeral, an infinity or no number, without a sign. -/
def isMagnitude (text : String) : Bool :=
  ["inf", "infinity", "nan"].any (Text.sameAscii text) ||
    let whole := text.toList.takeWhile Char.isDigit
    let afterWhole := text.toList.dropWhile Char.isDigit
    let fraction := match afterWhole with
      | '.' :: rest => rest
      | _ => []
    let afterFraction := match afterWhole with
      | '.' :: rest => rest.dropWhile Char.isDigit
      | rest => rest
    !(whole.isEmpty && (fraction.takeWhile Char.isDigit).isEmpty) && isExponent afterFraction

/-- The text is a number. A sign may stand in front of it. -/
def isNumber (text : String) : Bool :=
  match text.toList with
  | '+' :: rest | '-' :: rest => isMagnitude (String.ofList rest)
  | _ => isMagnitude text

/-- The text is a field: a name, and a value if an equals sign follows it. What stands after a
second equals sign does not count. -/
def isField (text : String) : Bool :=
  match Text.split '=' text with
  | _ :: value :: _ => isNumber value || isPattern value
  | _ => !text.isEmpty

/-! ## Directives -/

/-- What a directive has been read up to. A part that is being read has its first position. -/
inductive DirectiveStage where
  | start
  | levelOrTarget
  | span (first : Nat)
  | field (first : Nat)
  | fields
  | target
  | level (first : Nat)
deriving DecidableEq

/-- The part of a text between two positions, counted in bytes. -/
def part (text : String) (first last : Nat) : Except FilterFault String :=
  match String.fromUTF8? (text.toUTF8.extract first last) with
  | some found => .ok found
  | none => .error .torn

/-- The stage after one more character, which stands at a position of the text of a
directive. -/
def DirectiveStage.next (text : String) (position : Nat) (stage : DirectiveStage) (c : Char) :
    Except FilterFault DirectiveStage :=
  match stage, c with
  | .start, '[' => .ok (.span (position + 1))
  | .start, c =>
    if Text.isLetterOrNumber c || c == '-' || c == ':' || c == '_' then .ok .levelOrTarget
    else .error .malformed
  | .levelOrTarget, '=' => do
    let _ ← part text 0 position
    return .level (position + 1)
  | .levelOrTarget, '[' => do
    let _ ← part text 0 position
    return .span (position + 1)
  | .levelOrTarget, _ => .ok .levelOrTarget
  | .span first, ']' => do
    let _ ← part text first position
    return .target
  | .span first, '\x7b' => do
    let _ ← part text first position
    return .field (position + 1)
  | .span first, _ => .ok (.span first)
  | .field first, '\x7d' => do
    if isField (← part text first position) then .ok .fields else .error .malformed
  | .field first, _ => .ok (.field first)
  | .fields, ']' => .ok .target
  | .target, '=' => .ok (.level (position + 1))
  | .level first, _ => .ok (.level first)
  | _, _ => .error .malformed

/-- Checks that a directive may end at a stage. -/
def DirectiveStage.finish (text : String) : DirectiveStage → Except FilterFault Unit
  | .levelOrTarget | .target => .ok ()
  | .level first => do
    if isLevel (← part text first text.utf8ByteSize) then .ok () else .error .malformed
  | _ => .error .malformed

/-- Reads characters of a directive, the first of which stands at a position. -/
def DirectiveStage.run (text : String) (position : Nat) (stage : DirectiveStage) :
    List Char → Except FilterFault DirectiveStage
  | [] => .ok stage
  | c :: rest => do
    let next ← stage.next text position c
    next.run text (position + c.utf8Size) rest

/-- Checks a directive. -/
def checkDirective (text : String) : Except FilterFault Unit := do
  let stage ← DirectiveStage.start.run text 0 (Text.trim text).toList
  stage.finish text

/-- Checks a filter. Empty directives do not count. -/
def checkLogFilter (filter : String) : Except FilterFault Unit :=
  ((Text.split ',' filter).filter (!·.isEmpty)).forM checkDirective

example : (checkLogFilter "info,federation=debug,other[span\x7bfield=1\x7d]=off").isOk = true := by
  decide +kernel
example : (checkLogFilter "info, other").isOk = true := by decide +kernel
example : (checkLogFilter "info, other=off").isOk = false := by decide +kernel

end TrustFederation.Settings
