import TrustFederation.Chain.Violation
import TrustFederation.Text.Split
/-!
# Failures

Every operation that can fail names one of these causes. A failure has a message for its
operator and a response for its client, and the response hides what is internal.
-/
namespace TrustFederation

/-- Why an operation failed. -/
inductive Failure where
  /-- No statement fits the request. -/
  | notFound (detail : String)
  /-- The trust anchor asked for is another one. -/
  | invalidTrustAnchor (detail : String)
  /-- The request is malformed. -/
  | invalidRequest (detail : String)
  /-- The candidate chain breaks rules. -/
  | invalidChain (violations : List Chain.Violation)
  /-- An answer could not be signed. -/
  | signing (detail : String)
  /-- A remote endpoint failed. -/
  | client (detail : String)
  /-- A statement could not be read or verified. -/
  | invalidStatement (detail : String)
  /-- The tree lacks a root or a parent. -/
  | tree (detail : String)
  /-- The settings are wrong. -/
  | settings (detail : String)
  /-- Something that should not happen. -/
  | internal (detail : String)
deriving DecidableEq

/-- What a client is told about a failure. -/
structure FailureResponse where
  error : String
  description : String
deriving DecidableEq

namespace Failure

/-- The code of a failure in responses. -/
def kind : Failure → String
  | .notFound _ => "not_found"
  | .invalidTrustAnchor _ => "invalid_trust_anchor"
  | .invalidRequest _ => "invalid_request"
  | .invalidChain _ => "invalid_trust_chain"
  | .invalidStatement _ => "invalid_metadata"
  | .client _ => "temporarily_unavailable"
  | .signing _ | .tree _ | .settings _ | .internal _ => "server_error"

/-- The message of a failure. -/
def message : Failure → String
  | .notFound detail => "Not found: " ++ detail
  | .invalidTrustAnchor detail => "Invalid trust anchor: " ++ detail
  | .invalidRequest detail => "Invalid request: " ++ detail
  | .invalidChain violations =>
    "Invalid trust chain: " ++ Text.join "; " (violations.map Chain.Violation.message)
  | .signing detail => "Signing error: " ++ detail
  | .client detail => "Federation client error: " ++ detail
  | .invalidStatement detail => "Invalid entity statement: " ++ detail
  | .tree detail => "Tree error: " ++ detail
  | .settings detail => "Configuration error: " ++ detail
  | .internal detail => "Internal error: " ++ detail

/-- What a client is told: the code and the message, except about internal matters. -/
def response (failure : Failure) : FailureResponse where
  error := failure.kind
  description := match failure with
    | .internal _ | .tree _ => "Internal server error"
    | _ => failure.message

end Failure

/-- A response as a JSON object. -/
def FailureResponse.toJson (response : FailureResponse) : Json :=
  .object [("error", .text response.error), ("error_description", .text response.description)]

end TrustFederation
