import TrustFederation.Statement.Printer
/-!
# Answers to resolve requests

What a resolver says about a subject: the metadata of the subject, its trust marks and the
chain of statements that leads to the trust anchor.
-/
namespace TrustFederation.Resolve

/-- The claims of an answer. -/
structure Claims where
  issuer : String
  subject : String
  issuedAt : Int
  expiresAt : Int
  metadata : Json
  trustMarks : List TrustMark
  /-- The tokens of the chain, the leaf first. -/
  chain : List String
deriving DecidableEq

/-- The claims in their usual order, without an empty list of trust marks. -/
def Claims.members (claims : Claims) : List (String × Json) :=
  [("iss", .text claims.issuer), ("sub", .text claims.subject),
    ("iat", .ofInt claims.issuedAt), ("exp", .ofInt claims.expiresAt),
    ("metadata", claims.metadata)] ++
  (if claims.trustMarks.isEmpty then []
    else [("trust_marks", .array (claims.trustMarks.map TrustMark.toJson))]) ++
  [("trust_chain", .ofTexts claims.chain)]

/-- The claims as a JSON object. -/
def Claims.toJson (claims : Claims) : Json := .ofMembers claims.members

/-- An answer: its claims and the token that holds them. -/
structure Answer where
  claims : Claims
  token : String
deriving DecidableEq

/-- Why there is no answer: a failure that is reported, or a sum that leaves the 64 bits, where
the program stops and reports nothing. -/
inductive Halt where
  | failure (failure : Failure)
  | overflow
deriving DecidableEq

/-- The type of the tokens of answers. -/
def answerType : String := "resolve-response+jwt"

/-- The metadata of the leaf of a chain, all of it or that of one entity type. Metadata
policies are not applied. -/
def leafMetadata (chain : List Statement) (entityType : Option String) : Except Failure Json :=
  match chain with
  | [] => .error (.internal "Empty chain has no metadata")
  | leaf :: _ =>
    let metadata := leaf.metadata.getD []
    .ok (.object (match entityType with
      | some wanted => metadata.filter (·.1 == wanted)
      | none => metadata))

/-- Signs claims of some type. -/
def sign (signer : Jose.Token.Signer) (claims : Json) (type : String) : Except Failure String :=
  (signer.sign claims type).mapError fun refusal =>
    .signing ("Failed to sign response: " ++ refusal.message)

end TrustFederation.Resolve
