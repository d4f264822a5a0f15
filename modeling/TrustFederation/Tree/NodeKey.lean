import TrustFederation.Failure
import TrustFederation.Text.Lowercase
/-!
# Keys of statements

A statement stands in the tree under its issuer and its subject, joined by an exclamation
mark. Neither part may hold the mark itself, so a key determines its parts.
-/
namespace TrustFederation.Tree

/-- The mark between the issuer and the subject. -/
def separator : Char := '!'

/-- A node is known by its key. -/
abbrev Node := String

/-- Two keys are equal up to the case of letters. -/
def Node.matches (node : Node) (key : String) : Bool :=
  Text.sameLowercase node key

/-- The issuer and the subject of a statement, both free of the separator. -/
structure NodeKey where
  issuer : String
  subject : String
  issuer_free : separator ∉ issuer.toList
  subject_free : separator ∉ subject.toList
deriving DecidableEq

namespace NodeKey

/-- The key of an issuer and a subject. -/
def ofParts (issuer subject : String) : Except Failure NodeKey :=
  if free : separator ∉ issuer.toList ∧ separator ∉ subject.toList then
    .ok ⟨issuer, subject, free.1, free.2⟩
  else .error (.invalidRequest s!"Node key parts may not contain '!': {issuer} / {subject}")

/-- The written form of a key, which is also its node. -/
def text (key : NodeKey) : Node :=
  key.issuer ++ String.singleton separator ++ key.subject

/-- Reads the written form of a key, cutting at the first separator. -/
def parse (written : String) : Except Failure NodeKey :=
  match Text.cutAt separator written.toList with
  | some (issuer, subject) => ofParts (String.ofList issuer) (String.ofList subject)
  | none => .error (.invalidRequest s!"Malformed node key: {written}")

end NodeKey

end TrustFederation.Tree
