import TrustFederation.Statement.Reader
import TrustFederation.Word
/-!
# Validation of trust chains

A candidate chain begins with the configuration of the leaf and ends with the configuration
of the trust anchor. Three rules look at it, each on its own: signatures with links and
times, constraints, and critical claims. A rule never stops at a violation but reports all
of them, and a chain is accepted when no rule reports any.
-/
namespace TrustFederation.Chain

open Jose (KeySet)

/-- How many seconds a statement may be issued in the future. -/
def clockSkew : Int := 15

/-- The latest time of issue that is accepted at a time. -/
def latestIssue (now : Int) : Int := Word.clampAbove (now + clockSkew)

/-- The critical claims that are understood. -/
def supportedCriticalClaims : List String := ["subject_entity_configuration_location"]

/-- The critical operators of metadata policies that are understood. -/
def supportedPolicyOperators : List String := ["regexp", "intersects"]

/-- What is wrong with the times of a statement. -/
def timeViolations (now : Int) (index : Nat) (statement : Statement) : List Violation :=
  (if latestIssue now < statement.issuedAt then [.notYetValid index statement.subject] else []) ++
    (if statement.expiresAt < now then [.expired index statement.subject] else [])

/-- What is wrong with a statement that must be a configuration signed by its subject. -/
def selfSignedViolations (index : Nat) (statement : Statement) : List Violation :=
  if statement.isSelfStatement then
    match statement.verifySelfSigned with
    | .ok () => []
    | .error failure => [.invalidSignature index statement.subject failure.message]
  else [.notSelfSigned index statement.subject]

/-- What is wrong between a statement and the next one, whose subject must have issued and
signed it. -/
def linkViolations (index : Nat) (statement next : Statement) : List Violation :=
  if statement.issuer = next.subject then
    match next.keys with
    | none =>
      [.invalidSignature index statement.subject (next.subject ++ " publishes no keys")]
    | some keys =>
      match statement.verify keys with
      | .ok () => []
      | .error failure => [.invalidSignature index statement.subject failure.message]
  else [.brokenLink index statement.issuer next.subject]

/-- What is wrong with the last statement of a chain, which a trusted key must have
signed. -/
def anchorViolations (trusted : KeySet) (index : Nat) (anchor : Statement) : List Violation :=
  selfSignedViolations index anchor ++
    match anchor.verify trusted with
    | .ok () => []
    | .error failure => [.untrustedAnchor anchor.subject failure.message]

/-- The violations of the links of a chain, whose first statement has the index given. -/
def allLinkViolations (index : Nat) : List Statement → List Violation
  | statement :: next :: rest =>
    linkViolations index statement next ++ allLinkViolations (index + 1) (next :: rest)
  | _ => []

/-- The violations of times, links and signatures. The leaf of a longer chain must be signed
by itself; the only statement of a short one is its own anchor. -/
def signatureViolations (trusted : KeySet) (now : Int) (chain : List Statement) :
    List Violation :=
  match chain, chain.getLast? with
  | leaf :: rest, some anchor =>
    chain.zipIdx.flatMap (fun (statement, index) => timeViolations now index statement) ++
      (if rest.isEmpty then [] else selfSignedViolations 0 leaf) ++
      allLinkViolations 0 chain ++
      anchorViolations trusted rest.length anchor
  | _, _ => [.emptyChain]

/-- A text starts with another one. -/
def startsWith (text start : String) : Bool :=
  start.toList.isPrefixOf text.toList

/-- A list without the members that repeat the one before them. -/
def collapse {α : Type} [DecidableEq α] : List α → List α
  | first :: second :: rest =>
    if first = second then collapse (second :: rest) else first :: collapse (second :: rest)
  | short => short

/-- What is wrong with a subject by the naming constraints of statement `index`. -/
def namingViolations (index : Nat) (naming : NamingConstraints) (subject : String) :
    List Violation :=
  (match naming.permitted with
    | some permitted =>
      if permitted.any (startsWith subject) then [] else [.subjectNotPermitted index subject]
    | none => []) ++
  (match (naming.excluded.getD []).find? (startsWith subject) with
    | some start => [.subjectExcluded index subject start]
    | none => [])

/-- The number of intermediates below statement `index` of a chain with this leaf. -/
def pathLength (index : Nat) (leaf : Statement) : Nat :=
  if leaf.isSelfStatement then index - 1 else index

/-- What the constraints of statement `index` find wrong with the statements below it, which
begin with the leaf. -/
def constraintViolationsOf (index : Nat) (constraints : Constraints) (leaf : Statement)
    (below : List Statement) : List Violation :=
  (match constraints.maxPathLength with
    | some max =>
      if max < pathLength index leaf then
        [.maxPathLengthExceeded index max (pathLength index leaf)]
      else []
    | none => []) ++
  (match constraints.naming with
    | some naming =>
      (collapse (below.reverse.map (·.subject))).flatMap (namingViolations index naming)
    | none => []) ++
  (match constraints.leafEntityTypes with
    | some allowed =>
      (leaf.entityTypes.filter fun entityType =>
        entityType != Statement.federationEntity && !allowed.contains entityType).map
          (.leafEntityTypeNotAllowed index)
    | none => [])

/-- The violations of constraints, from the anchor down. A statement constrains the ones
below it, so the leaf constrains nothing. -/
def constraintViolations (chain : List Statement) : List Violation :=
  chain.zipIdx.reverse.flatMap fun (statement, index) =>
    match statement.constraints, chain.take index with
    | some constraints, leaf :: rest => constraintViolationsOf index constraints leaf (leaf :: rest)
    | _, _ => []

/-- What statement `index` declares to be critical and is not understood. -/
def criticalViolationsOf (index : Nat) (statement : Statement) : List Violation :=
  ((statement.critical.getD []).filter (!supportedCriticalClaims.contains ·)).map
      (.unsupportedCriticalClaim index) ++
    ((statement.criticalOperators.getD []).filter (!supportedPolicyOperators.contains ·)).map
      (.unsupportedPolicyOperator index)

/-- The violations of critical claims. -/
def criticalViolations (chain : List Statement) : List Violation :=
  chain.zipIdx.flatMap fun (statement, index) => criticalViolationsOf index statement

/-- The rules of validation. -/
inductive Rule where
  | signatures (trusted : KeySet)
  | constraints
  | criticalClaims
deriving DecidableEq

/-- What a rule finds wrong with a chain at a time. -/
def Rule.violations (now : Int) (chain : List Statement) : Rule → List Violation
  | .signatures trusted => signatureViolations trusted now chain
  | .constraints => constraintViolations chain
  | .criticalClaims => criticalViolations chain

/-- The rules that every chain must satisfy. -/
def standardRules (trusted : KeySet) : List Rule :=
  [.signatures trusted, .constraints, .criticalClaims]

/-- What several rules find wrong with a chain at a time. -/
def validate (rules : List Rule) (now : Int) (chain : List Statement) : List Violation :=
  rules.flatMap (Rule.violations now chain)

end TrustFederation.Chain
