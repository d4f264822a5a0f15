import TrustFederation.Json.Fault
import TrustFederation.Json.Shortest
import TrustFederation.Text.Quoted
import TrustFederation.Text.Split
/-!
# Complaints about documents

A document may be well written and still not be what was asked for. A complaint is either
a fault of the text or says what was found and what was expected.
-/
namespace TrustFederation.Json

/-- What a document holds, as a complaint names it. -/
inductive Shape where
  | null
  | bool (value : Bool)
  | integer (value : Int)
  | double (value : Double)
  | string (value : String)
  | sequence
  | map
deriving DecidableEq

/-- The wording of a shape. -/
def Shape.describe : Shape → String
  | .null => "null"
  | .bool value => if value then "boolean `true`" else "boolean `false`"
  | .integer value => s!"integer `{value}`"
  | .double value => "floating point `" ++ doubleFormat.text value ++ "`"
  | .string value => "string " ++ Text.quote value
  | .sequence => "sequence"
  | .map => "map"

/-- Why a document is not what was asked for. -/
inductive Complaint where
  | syntactic (fault : Fault)
  | wrongType (found : Shape) (expected : String)
  | wrongValue (found : Shape) (expected : String)
  | missingField (name : String)
  | duplicateField (name : String)
  | wrongLength (count : Nat) (expected : String)
  | unknownVariant (found : String) (known : List String)
  | noVariant (title : String)
deriving DecidableEq

/-- A name between grave accents. -/
def accented (name : String) : String := "`" ++ name ++ "`"

/-- The wording of a complaint. -/
def Complaint.message : Complaint → String
  | .syntactic fault => fault.message
  | .wrongType found expected => "invalid type: " ++ found.describe ++ ", expected " ++ expected
  | .wrongValue found expected => "invalid value: " ++ found.describe ++ ", expected " ++ expected
  | .missingField name => "missing field " ++ accented name
  | .duplicateField name => "duplicate field " ++ accented name
  | .wrongLength count expected => s!"invalid length {count}, expected " ++ expected
  | .unknownVariant found known =>
    "unknown variant " ++ accented found ++ ", expected one of " ++
      Text.join ", " (known.map accented)
  | .noVariant title => "data did not match any variant of untagged enum " ++ title

end TrustFederation.Json
