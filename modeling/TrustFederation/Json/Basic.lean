import TrustFederation.Json.Double
import TrustFederation.Text.Dictionary
/-!
# JSON values

Claims and metadata that pass through unread are JSON values. An object has its members
in the order of their names, each name once, so two objects are equal exactly when they
have the same members; `Json.ofMembers` brings members into this form, the last one of a
name being kept.
-/
namespace TrustFederation.Json

/-- A number is an integer of 64 bits, with or without sign, or a double. -/
inductive Number where
  | integer (value : Int)
  | double (value : Double)
deriving DecidableEq

end TrustFederation.Json

namespace TrustFederation

/-- A JSON value. -/
inductive Json where
  | null
  | bool (value : Bool)
  | number (value : Json.Number)
  | text (value : String)
  | array (items : List Json)
  | object (members : List (String × Json))
deriving Inhabited

namespace Json

mutual

/-- Equality of values as a test. -/
def same : Json → Json → Bool
  | .null, .null => true
  | .bool a, .bool b => a == b
  | .number a, .number b => a == b
  | .text a, .text b => a == b
  | .array xs, .array ys => sameItems xs ys
  | .object xs, .object ys => sameMembers xs ys
  | _, _ => false

/-- Equality of items as a test. -/
def sameItems : List Json → List Json → Bool
  | [], [] => true
  | x :: xs, y :: ys => same x y && sameItems xs ys
  | _, _ => false

/-- Equality of members as a test. -/
def sameMembers : List (String × Json) → List (String × Json) → Bool
  | [], [] => true
  | (name, x) :: xs, (other, y) :: ys => name == other && same x y && sameMembers xs ys
  | _, _ => false

end

mutual

theorem same_iff : ∀ (a b : Json), same a b = true ↔ a = b
  | .null, b => by cases b <;> simp [same]
  | .bool _, b => by cases b <;> simp [same]
  | .number _, b => by cases b <;> simp [same]
  | .text _, b => by cases b <;> simp [same]
  | .array xs, b => by cases b <;> simp [same, sameItems_iff xs]
  | .object xs, b => by cases b <;> simp [same, sameMembers_iff xs]

theorem sameItems_iff : ∀ (xs ys : List Json), sameItems xs ys = true ↔ xs = ys
  | [], ys => by cases ys <;> simp [sameItems]
  | x :: xs, ys => by
    cases ys <;> simp [sameItems, same_iff x, sameItems_iff xs]

theorem sameMembers_iff :
    ∀ (xs ys : List (String × Json)), sameMembers xs ys = true ↔ xs = ys
  | [], ys => by cases ys <;> simp [sameMembers]
  | (name, x) :: xs, ys => by
    cases ys <;> simp [sameMembers, same_iff x, sameMembers_iff xs, Prod.ext_iff]

end

instance : DecidableEq Json := fun _ _ => decidable_of_iff _ (same_iff _ _)

/-- The object with the members given; of several with one name the last is kept. -/
def ofMembers (members : List (String × Json)) : Json :=
  .object (Text.Dictionary.ofList members)

/-- The value of a member of an object. -/
def member? (name : String) : Json → Option Json
  | .object members => members.lookup name
  | _ => none

/-- A natural number as a value. -/
def ofNat (value : Nat) : Json := .number (.integer value)

/-- An integer as a value. -/
def ofInt (value : Int) : Json := .number (.integer value)

/-- Texts as an array. -/
def ofTexts (texts : List String) : Json := .array (texts.map .text)

/-- A name with a value that may be absent, as a list of at most one member. -/
def optionalMember {α : Type} (name : String) (encode : α → Json) :
    Option α → List (String × Json)
  | some value => [(name, encode value)]
  | none => []

end Json

end TrustFederation
