import TrustFederation.Chain.Validation
import TrustFederation.Resolve.Answer
import TrustFederation.Resolve.Request
import TrustFederation.Tree.Walk
import TrustFederation.Word
/-!
# The resolver

A resolver answers from the published version of the tree. To resolve a subject it searches
for the configuration of the subject with all statements above it, leaves out the
configurations of authorities in between, validates what remains and signs an answer. To
discover, it lists the subjects of matching configurations. Like every walk, both read the
store one read after the other, while others may change it. An answer whose lifetime would end
beyond 64 bits is never given: the program stops there.
-/
namespace TrustFederation.Resolve

open TrustFederation.Tree (Node Place Reads Store Version)

/-- A resolver for one trust anchor. -/
structure Resolver where
  entity : String
  trustAnchor : String
  rules : List Chain.Rule
  signer : Jose.Token.Signer
  /-- How long answers are valid, in seconds. -/
  lifetime : Int
deriving DecidableEq

/-- The lifetime of answers if no other is set. -/
def defaultLifetime : Int := 3600

namespace Resolver

/-- The trust anchor asked for is the one of the resolver. -/
def checkTrustAnchor (resolver : Resolver) (trustAnchor : String) : Except Failure Unit :=
  if Text.sameAscii trustAnchor resolver.trustAnchor then .ok ()
  else .error (.invalidTrustAnchor (trustAnchor ++ " is not served by this resolver"))

/-- The statement is a configuration of the subject with the entity type asked for. -/
def isWanted (request : Request) (statement : Statement) (_ : Place) : Bool :=
  statement.isSelfStatement && Text.sameAscii statement.subject request.subject &&
    (match request.entityType with
      | some entityType => statement.hasMetadata entityType
      | none => true)

/-- The statement is the configuration of an authority between the subject and the trust
anchor. -/
def isBetween (resolver : Resolver) (request : Request) (statement : Statement) : Bool :=
  statement.isIntermediateAuthority &&
    !Text.sameAscii statement.subject resolver.trustAnchor &&
    !Text.sameAscii statement.subject request.subject

/-- The statements of search results from the root on, without those between, and each key
once up to the case of letters. `seen` holds the keys met so far. -/
def chainOf (resolver : Resolver) (request : Request) :
    List String → List (Node × Option Statement) → List Statement
  | _, [] => []
  | seen, (_, none) :: rest => chainOf resolver request seen rest
  | seen, (node, some statement) :: rest =>
    if resolver.isBetween request statement then chainOf resolver request seen rest
    else
      let key := Text.lowercase node
      if seen.contains key then chainOf resolver request seen rest
      else statement :: chainOf resolver request (key :: seen) rest

/-- When an answer expires: after its lifetime, or with the first statement that does. The end
of the lifetime is worked out even if a statement expires before it, and may be too large. -/
def expiry (now lifetime : Int) (chain : List Statement) : Except Halt Int :=
  match Word.add? now lifetime with
  | some ends => .ok ((chain.map (·.expiresAt)).foldl min ends)
  | none => .error .overflow

/-- The answer about a chain, the leaf first. -/
def answerOf (resolver : Resolver) (request : Request) (now : Int) (chain : List Statement) :
    Except Halt Answer :=
  match Chain.validate resolver.rules now chain, chain with
  | [], leaf :: rest => do
    let expiresAt ← expiry now resolver.lifetime (leaf :: rest)
    let metadata ← (leafMetadata (leaf :: rest) request.entityType).mapError .failure
    let claims : Claims :=
      { issuer := resolver.entity
        subject := leaf.subject
        issuedAt := now
        expiresAt := expiresAt
        metadata := metadata
        trustMarks := leaf.trustMarks.getD []
        chain := (leaf :: rest).map (·.token) }
    let token ← (sign resolver.signer claims.toJson answerType).mapError .failure
    return ⟨claims, token⟩
  | violations, _ => .error (.failure (.invalidChain violations))

/-- The statement is a configuration that a discovery asks for. -/
def isDiscovered (request : DiscoveryRequest) (statement : Statement) (_ : Place) : Bool :=
  statement.isSelfStatement &&
    (request.entityTypes.isEmpty || request.entityTypes.any statement.hasMetadata) &&
    request.trustMarks.all statement.hasTrustMark

/-- The subjects of search results, by level and then by name, each one once. -/
def subjectsOf (found : List (Nat × Option Statement)) : List String :=
  let levels := found.filterMap fun (level, statement) =>
    statement.map fun found => (level, found.subject)
  let ordered := levels.mergeSort fun left right =>
    left.1 < right.1 || (left.1 == right.1 && left.2 ≤ right.2)
  (ordered.map (·.2)).eraseDups

section

variable {m : Type → Type} [Monad m]

/-- The candidate chain for the subject of a request, the leaf first. -/
def findChain (resolver : Resolver) (reads : Reads m Statement) (bound : Version → Nat)
    (request : Request) : m (Except Failure (List Statement)) := do
  let version ← reads.current
  let found ← Tree.search reads version (bound version) (isWanted request) true
  let statements ← found.mapM fun result => do
    let statement ← reads.data version result.node
    return (result.node, statement)
  match resolver.chainOf request [] statements with
  | [] => return .error (.notFound ("No trust chain for " ++ request.subject))
  | first :: rest => return .ok (first :: rest).reverse

/-- Resolves a subject at a time. -/
def resolveWith (resolver : Resolver) (reads : Reads m Statement) (bound : Version → Nat)
    (request : Request) (now : Int) : m (Except Halt Answer) := do
  match resolver.checkTrustAnchor request.trustAnchor with
  | .error failure => return .error (.failure failure)
  | .ok () =>
    if request.subject.isEmpty then
      return .error (.failure (.invalidRequest "Resolve request needs a subject"))
    else
      let chain ← resolver.findChain reads bound request
      return (chain.mapError .failure).bind (resolver.answerOf request now)

/-- Lists the entities that a request asks for, the shallowest first. -/
def discoverWith (resolver : Resolver) (reads : Reads m Statement) (bound : Version → Nat)
    (request : DiscoveryRequest) : m (Except Failure (List String)) := do
  match resolver.checkTrustAnchor request.trustAnchor with
  | .error failure => return .error failure
  | .ok () =>
    let version ← reads.current
    let found ← Tree.search reads version (bound version) (isDiscovered request) false
    let statements ← found.mapM fun result => do
      let statement ← reads.data version result.node
      return (result.level, statement)
    return .ok (subjectsOf statements)

end

/-- Resolves a subject at a time, from a store that does not change. -/
def resolve (resolver : Resolver) (store : Store Statement) (request : Request) (now : Int) :
    Except Halt Answer :=
  resolver.resolveWith store.reads store.pathBound request now

/-- Lists the entities that a request asks for, from a store that does not change. -/
def discover (resolver : Resolver) (store : Store Statement) (request : DiscoveryRequest) :
    Except Failure (List String) :=
  resolver.discoverWith store.reads store.pathBound request

end Resolver

end TrustFederation.Resolve
