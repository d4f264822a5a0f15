import TrustFederation.Json.Basic
/-!
# Violations of a trust chain

What validation can find wrong with a chain. Statements are counted from the leaf, which
has index 0.
-/
namespace TrustFederation.Chain

/-- One thing that is wrong with a chain. -/
inductive Violation where
  | emptyChain
  | brokenLink (index : Nat) (issuer nextSubject : String)
  | invalidSignature (index : Nat) (subject reason : String)
  | notSelfSigned (index : Nat) (subject : String)
  | untrustedAnchor (subject reason : String)
  | notYetValid (index : Nat) (subject : String)
  | expired (index : Nat) (subject : String)
  | maxPathLengthExceeded (index max actual : Nat)
  | subjectNotPermitted (index : Nat) (subject : String)
  | subjectExcluded (index : Nat) (subject start : String)
  | leafEntityTypeNotAllowed (index : Nat) (entityType : String)
  | unsupportedCriticalClaim (index : Nat) (claim : String)
  | unsupportedPolicyOperator (index : Nat) (operator : String)
deriving DecidableEq

namespace Violation

/-- The wording of a violation. -/
def message : Violation → String
  | .emptyChain => "trust chain is empty"
  | .brokenLink index issuer nextSubject =>
    s!"statement {index}: issuer {issuer} does not match next subject {nextSubject}"
  | .invalidSignature index subject reason =>
    s!"statement {index} ({subject}): invalid signature: {reason}"
  | .notSelfSigned index subject => s!"statement {index} ({subject}) is not self-signed"
  | .untrustedAnchor subject reason =>
    s!"trust anchor {subject} does not verify against the trusted keys: {reason}"
  | .notYetValid index subject => s!"statement {index} ({subject}) is not valid yet"
  | .expired index subject => s!"statement {index} ({subject}) has expired"
  | .maxPathLengthExceeded index max actual =>
    s!"statement {index}: {actual} intermediates exceed max_path_length {max}"
  | .subjectNotPermitted index subject =>
    s!"statement {index}: subject {subject} is not permitted by naming constraints"
  | .subjectExcluded index subject start =>
    s!"statement {index}: subject {subject} is excluded by prefix {start}"
  | .leafEntityTypeNotAllowed index entityType =>
    s!"statement {index}: leaf entity type {entityType} is not allowed"
  | .unsupportedCriticalClaim index claim =>
    s!"statement {index}: unsupported critical claim {claim}"
  | .unsupportedPolicyOperator index operator =>
    s!"statement {index}: unsupported metadata policy operator {operator}"

/-- The name of the kind of a violation. -/
def kind : Violation → String
  | .emptyChain => "empty_chain"
  | .brokenLink .. => "broken_link"
  | .invalidSignature .. => "invalid_signature"
  | .notSelfSigned .. => "not_self_signed"
  | .untrustedAnchor .. => "untrusted_anchor"
  | .notYetValid .. => "not_yet_valid"
  | .expired .. => "expired"
  | .maxPathLengthExceeded .. => "max_path_length_exceeded"
  | .subjectNotPermitted .. => "subject_not_permitted"
  | .subjectExcluded .. => "subject_excluded"
  | .leafEntityTypeNotAllowed .. => "leaf_entity_type_not_allowed"
  | .unsupportedCriticalClaim .. => "unsupported_critical_claim"
  | .unsupportedPolicyOperator .. => "unsupported_policy_operator"

/-- The particulars of a violation as members of a JSON object. -/
def particulars : Violation → List (String × Json)
  | .emptyChain => []
  | .brokenLink index issuer nextSubject =>
    [("index", .ofNat index), ("issuer", .text issuer), ("next_subject", .text nextSubject)]
  | .invalidSignature index subject reason =>
    [("index", .ofNat index), ("subject", .text subject), ("reason", .text reason)]
  | .notSelfSigned index subject => [("index", .ofNat index), ("subject", .text subject)]
  | .untrustedAnchor subject reason => [("subject", .text subject), ("reason", .text reason)]
  | .notYetValid index subject => [("index", .ofNat index), ("subject", .text subject)]
  | .expired index subject => [("index", .ofNat index), ("subject", .text subject)]
  | .maxPathLengthExceeded index max actual =>
    [("index", .ofNat index), ("max", .ofNat max), ("actual", .ofNat actual)]
  | .subjectNotPermitted index subject => [("index", .ofNat index), ("subject", .text subject)]
  | .subjectExcluded index subject start =>
    [("index", .ofNat index), ("subject", .text subject), ("prefix", .text start)]
  | .leafEntityTypeNotAllowed index entityType =>
    [("index", .ofNat index), ("entity_type", .text entityType)]
  | .unsupportedCriticalClaim index claim => [("index", .ofNat index), ("claim", .text claim)]
  | .unsupportedPolicyOperator index operator =>
    [("index", .ofNat index), ("operator", .text operator)]

/-- A violation as a JSON object: its kind and its particulars. -/
def toJson (violation : Violation) : Json :=
  .ofMembers (("kind", .text violation.kind) :: violation.particulars)

end Violation

end TrustFederation.Chain
