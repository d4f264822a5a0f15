import TrustFederation.Jose.Token
import TrustFederation.Tree.NodeKey
/-!
# Entity statements

A statement is what an issuer says about a subject: its keys, its metadata, the trust marks
it holds and the constraints on what may stand below it. A statement about oneself is a
configuration; one about another entity is a subordinate statement. A statement keeps the
token that it was read from, and it verifies exactly when this token does.
-/
namespace TrustFederation

open Jose (KeySet)

/-- A reference to a trust mark of a type. -/
structure TrustMark where
  type : String
  mark : String
deriving DecidableEq

/-- How the identifiers of the subjects below may start. -/
structure NamingConstraints where
  permitted : Option (List String)
  excluded : Option (List String)
deriving DecidableEq

/-- What a statement demands of the chain below it. -/
structure Constraints where
  maxPathLength : Option Nat
  naming : Option NamingConstraints
  leafEntityTypes : Option (List String)
deriving DecidableEq

/-- The endpoints that a federation entity offers. -/
structure Endpoints where
  fetch : Option String
  list : Option String
  resolve : Option String
  trustMark : Option String
  trustMarkList : Option String
deriving DecidableEq

/-- No endpoints. -/
def Endpoints.none : Endpoints := ⟨.none, .none, .none, .none, .none⟩

/-- The entity lists its subordinates and makes statements about them. -/
def Endpoints.canListSubordinates (endpoints : Endpoints) : Bool :=
  endpoints.list.isSome && endpoints.fetch.isSome

/-- A statement of an issuer about a subject, valid from `issuedAt` to `expiresAt`. -/
structure Statement where
  issuer : String
  subject : String
  issuedAt : Int
  expiresAt : Int
  keys : Option KeySet
  /-- Metadata by entity type, in the order of the types. -/
  metadata : Option (List (String × Json))
  metadataPolicy : Option Json
  authorityHints : Option (List String)
  trustMarks : Option (List TrustMark)
  constraints : Option Constraints
  critical : Option (List String)
  criticalOperators : Option (List String)
  sourceEndpoint : Option String
  /-- Where the configuration of the subject is to be found, if not at the usual place. -/
  configurationLocation : Option String
  token : String
deriving DecidableEq

namespace Statement

/-- The entity type of authorities. -/
def federationEntity : String := "federation_entity"

/-- The statement is about its issuer. -/
def isSelfStatement (statement : Statement) : Bool := statement.issuer == statement.subject

/-- The key of a statement in the tree. -/
def nodeKey (statement : Statement) : Except Failure Tree.NodeKey :=
  Tree.NodeKey.ofParts statement.issuer statement.subject

/-- The entity types that have metadata, in order. -/
def entityTypes (statement : Statement) : List String :=
  (statement.metadata.getD []).map (·.1)

/-- There is metadata for an entity type. -/
def hasMetadata (statement : Statement) (entityType : String) : Bool :=
  statement.entityTypes.contains entityType

/-- The statement refers to a trust mark of a type. -/
def hasTrustMark (statement : Statement) (type : String) : Bool :=
  (statement.trustMarks.getD []).any (·.type == type)

/-- Verifies the token of a statement with a key set. -/
def verify (statement : Statement) (keys : KeySet) : Except Failure Unit :=
  (Jose.Token.verify statement.token keys).mapError fun fault => .invalidStatement fault.message

/-- Verifies the token of a statement with its own keys. -/
def verifySelfSigned (statement : Statement) : Except Failure Unit :=
  match statement.keys with
  | some keys => statement.verify keys
  | none => .error (.invalidStatement "Statement carries no jwks")

end Statement

end TrustFederation
