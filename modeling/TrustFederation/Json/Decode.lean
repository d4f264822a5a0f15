import TrustFederation.Json.Complaint
import TrustFederation.Json.Doc
/-!
# What documents mean

A decoder asks a document for something of a certain type. Documents are asked in the
order in which they are written, so the first complaint is the one that stands first in
the text. Lists and objects may be nested 127 deep where they are read; the number that
every decoder takes is how many more levels, and one, are left.
-/
namespace TrustFederation.Json

/-- Reads a document with a budget of levels. -/
abbrev Decoder (α : Type) := Nat → Doc → Except Complaint α

/-- The budget of a whole document. -/
def fullDepth : Nat := 128

/-- The budget inside a list or an object. -/
def enter (depth : Nat) : Except Complaint Nat :=
  if depth ≤ 1 then .error (.syntactic .depth) else .ok (depth - 1)

/-- Complains unless a list ended with its close. -/
def closeList : Option Stop → Except Complaint Unit
  | none => .ok ()
  | some stop => .error (.syntactic stop.listBreak.reading)

/-- Complains unless an object ended with its close. -/
def closeObject : Option Stop → Except Complaint Unit
  | none => .ok ()
  | some stop => .error (.syntactic stop.objectBreak.reading)

/-- A name of a member or a value that may be faulty. -/
def readable {α : Type} : Except Fault α → Except Complaint α
  | .ok value => .ok value
  | .error fault => .error (.syntactic fault)

/-- The shape of a number. -/
def Number.shape : Number → Shape
  | .integer value => .integer value
  | .double value => .double value

namespace Doc

/-- The complaint about a document that is not what was expected. -/
def mismatch (expected : String) : Doc → Complaint
  | .null => .wrongType .null expected
  | .bool value => .wrongType (.bool value) expected
  | .number (.ok value) => .wrongType value.shape expected
  | .number (.error fault) => .syntactic fault
  | .string (.ok value) => .wrongType (.string value) expected
  | .string (.error fault) => .syntactic fault
  | .list _ _ => .wrongType .sequence expected
  | .object _ _ => .wrongType .map expected
  | .broken _ fault => .syntactic fault.reading

mutual

/-- Any value. -/
def value (depth : Nat) : Doc → Except Complaint Json
  | .null => .ok .null
  | .bool found => .ok (.bool found)
  | .number found => (readable found).map .number
  | .string found => (readable found).map .text
  | .list items stop => do
    let inner ← enter depth
    let values ← itemValues inner items
    closeList stop
    return .array values
  | .object members stop => do
    let inner ← enter depth
    let values ← memberValues inner members
    closeObject stop
    return .ofMembers values
  | .broken _ fault => .error (.syntactic fault.reading)

/-- The values of items. -/
def itemValues (depth : Nat) : List Doc → Except Complaint (List Json)
  | [] => .ok []
  | item :: rest => do
    let first ← value depth item
    let others ← itemValues depth rest
    return first :: others

/-- The values of members in the order in which they are written. -/
def memberValues (depth : Nat) :
    List (Except Fault String × Doc) → Except Complaint (List (String × Json))
  | [] => .ok []
  | (name, member) :: rest => do
    let found ← readable name
    let first ← value depth member
    let others ← memberValues depth rest
    return (found, first) :: others

end

end Doc

namespace Decoder

/-- Any value. -/
def value : Decoder Json := Doc.value

/-- A text. -/
def text : Decoder String
  | _, .string (.ok found) => .ok found
  | _, doc => .error (doc.mismatch "a string")

/-- An integer between two bounds, named by what is expected. -/
def integer (low high : Int) (expected : String) : Decoder Int
  | _, .number (.ok (.integer found)) =>
    if low ≤ found ∧ found ≤ high then .ok found
    else .error (.wrongValue (.integer found) expected)
  | _, doc => .error (doc.mismatch expected)

/-- An integer of 64 bits with a sign. -/
def signed64 : Decoder Int := integer Word.leastSigned Word.largestSigned "i64"

/-- An integer of 64 bits without a sign. -/
def size : Decoder Nat := fun depth doc =>
  (integer 0 Word.largest "usize" depth doc).map Int.toNat

/-- A value that is absent when it is null. -/
def optional {α : Type} (decode : Decoder α) : Decoder (Option α)
  | _, .null => .ok none
  | depth, doc => (decode depth doc).map some

/-- A list. -/
def list {α : Type} (decode : Decoder α) : Decoder (List α)
  | depth, .list items stop => do
    let inner ← enter depth
    let values ← items.mapM (decode inner)
    closeList stop
    return values
  | _, doc => .error (doc.mismatch "a sequence")

/-- Texts in a list. -/
def texts : Decoder (List String) := list text

/-- The members of an object with any names; of several with one name the last is kept. -/
def members : Decoder (Text.Dictionary Json)
  | depth, .object members stop => do
    let inner ← enter depth
    let values ← Doc.memberValues inner members
    closeObject stop
    return Text.Dictionary.ofList values
  | _, doc => .error (doc.mismatch "a map")

end Decoder

/-- Decodes a whole text: nothing but blanks may follow the document. -/
def decodeText {α : Type} (decode : Decoder α) (text : List UInt8) : Except Complaint α := do
  let (doc, rest) := Doc.readFrom (2 * text.length + 2) text
  let value ← decode fullDepth doc
  match rest with
  | some later =>
    if (skipSpace later).isEmpty then .ok value else .error (.syntactic .trailingCharacters)
  | none => .ok value

/-- Decodes a value that was read before. -/
def decodeValue {α : Type} (decode : Decoder α) (value : Json) : Except Complaint α :=
  decode fullDepth value.toDoc

end TrustFederation.Json
