import TrustFederation.Proofs.Statement.Tokens
import TrustFederation.Resolve.Resolver
/-!
# How answers are made

An answer of the resolver is made from a candidate chain with which the rules find nothing wrong,
and it holds the subject of the leaf and the tokens of the chain. If the resolver can sign and the
lifetime of the answer ends within 64 bits, every such chain gives an answer.
-/
namespace TrustFederation.Resolve.Resolver

open Text (sameAscii)

/-- An answer has been made from a candidate chain. -/
theorem candidate_of_resolve {resolver : Resolver} {store : Tree.Store Statement}
    {request : Request} {now : Int} {answer : Answer}
    (answered : resolver.resolve store request now = .ok answer) :
    ∃ chain, resolver.findChain store.reads store.pathBound request = .ok chain ∧
      resolver.answerOf request now chain = .ok answer := by
  unfold resolve resolveWith at answered
  cases anchored : resolver.checkTrustAnchor request.trustAnchor with
  | error failure =>
    rw [anchored] at answered
    cases answered
  | ok _ =>
    by_cases empty : request.subject.isEmpty = true
    · rw [anchored, if_pos empty] at answered
      cases answered
    · rw [anchored, if_neg empty] at answered
      have made : ((resolver.findChain store.reads store.pathBound request).mapError
          .failure).bind (resolver.answerOf request now) = .ok answer := answered
      obtain ⟨chain, found, made⟩ := bind_ok_iff.mp made
      exact ⟨chain, map_error_ok_iff.mp found, made⟩

/-- An answer expires if its lifetime ends within 64 bits, and then at the earliest of this end and
the ends of the statements. -/
theorem expiry_ok_iff {now lifetime : Int} {chain : List Statement} {expiresAt : Int} :
    expiry now lifetime chain = .ok expiresAt ↔ Word.Signed (now + lifetime) ∧
      ((now + lifetime) :: chain.map (·.expiresAt)).min? = some expiresAt := by
  unfold expiry Word.add?
  by_cases fits : Word.Signed (now + lifetime)
  · rw [List.min?_cons']
    simp [fits]
  · simp [fits]

/-- The expiry is missing exactly if the lifetime ends outside 64 bits. -/
theorem expiry_overflow_iff {now lifetime : Int} {chain : List Statement} :
    expiry now lifetime chain = .error .overflow ↔ ¬ Word.Signed (now + lifetime) := by
  unfold expiry Word.add?
  by_cases fits : Word.Signed (now + lifetime)
  · simp [fits]
  · simp [fits]

/-- What is reported is no overflow. -/
theorem reported_ne_overflow {α : Type} {result : Except Failure α} :
    result.mapError Halt.failure ≠ .error .overflow := by
  intro stopped
  cases result with
  | error failure => cases stopped
  | ok value => cases stopped

/-- An answer is about a chain without violations, holds its leaf and its tokens, is issued at the
time of the request and expires with the chain. -/
theorem claims_of_answer {resolver : Resolver} {request : Request} {now : Int}
    {chain : List Statement} {answer : Answer}
    (answered : resolver.answerOf request now chain = .ok answer) :
    Chain.validate resolver.rules now chain = [] ∧
      answer.claims.chain = chain.map (·.token) ∧
      chain.head?.map (·.subject) = some answer.claims.subject ∧
      answer.claims.issuedAt = now ∧
      expiry now resolver.lifetime chain = .ok answer.claims.expiresAt := by
  unfold answerOf at answered
  split at answered
  case h_1 leaf rest valid =>
    obtain ⟨expiresAt, ends, answered⟩ := bind_ok_iff.mp answered
    obtain ⟨metadata, -, signing⟩ := bind_ok_iff.mp answered
    obtain ⟨token, -, made⟩ := bind_ok_iff.mp signing
    cases made
    exact ⟨valid, rfl, rfl, rfl, ends⟩
  case h_2 => cases answered

/-- A chain without violations gives an answer, if the resolver signs with a shared secret and the
lifetime of the answer ends within 64 bits. -/
theorem answer_of_valid {resolver : Resolver} (request : Request) {now : Int} {leaf : Statement}
    {chain : List Statement} (head : chain.head? = some leaf)
    (valid : Chain.validate resolver.rules now chain = [])
    (signs : resolver.signer.algorithm.digest?.isSome)
    (fits : Word.Signed (now + resolver.lifetime)) :
    ∃ answer, resolver.answerOf request now chain = .ok answer := by
  obtain ⟨digest, known⟩ := Option.isSome_iff_exists.mp signs
  obtain ⟨rest, rfl⟩ := List.head?_eq_some_iff.mp head
  have signed (claims : Json) : ∃ token, sign resolver.signer claims answerType = .ok token := by
    unfold sign Jose.Token.Signer.sign
    rw [known]
    exact ⟨_, rfl⟩
  obtain ⟨metadata, found⟩ : ∃ metadata, leafMetadata (leaf :: rest) request.entityType =
      .ok metadata := ⟨_, rfl⟩
  obtain ⟨expiresAt, ends⟩ : ∃ expiresAt, expiry now resolver.lifetime (leaf :: rest) =
      .ok expiresAt := ⟨_, expiry_ok_iff.mpr ⟨fits, List.min?_cons'⟩⟩
  let claims : Claims :=
    { issuer := resolver.entity
      subject := leaf.subject
      issuedAt := now
      expiresAt := expiresAt
      metadata := metadata
      trustMarks := leaf.trustMarks.getD []
      chain := (leaf :: rest).map (·.token) }
  obtain ⟨token, made⟩ := signed claims.toJson
  unfold answerOf
  rw [valid]
  exact ⟨⟨claims, token⟩, bind_ok_iff.mpr ⟨expiresAt, ends, bind_ok_iff.mpr ⟨metadata,
    map_error_ok_iff.mpr found, bind_ok_iff.mpr ⟨token, map_error_ok_iff.mpr made, rfl⟩⟩⟩⟩

/-- For a subject that is not empty, below the right trust anchor, the answer is made from the
candidate chain, in whatever way the store is read. -/
theorem resolve_with_eq {m : Type → Type} [Monad m] {resolver : Resolver}
    (reads : Tree.Reads m Statement) (bound : Tree.Version → Nat) {request : Request} (now : Int)
    (anchored : sameAscii request.trustAnchor resolver.trustAnchor = true)
    (named : request.subject.isEmpty = false) :
    resolver.resolveWith reads bound request now = do
      let chain ← resolver.findChain reads bound request
      return (chain.mapError .failure).bind (resolver.answerOf request now) := by
  have checked : resolver.checkTrustAnchor request.trustAnchor = .ok () := by
    unfold checkTrustAnchor
    rw [if_pos anchored]
  unfold resolveWith
  rw [checked, if_neg (by simp [named])]

/-- From a store that does not change the answer is made from the candidate chain, and without one
the failure to find it is the answer. -/
theorem resolve_eq {resolver : Resolver} {store : Tree.Store Statement} {request : Request}
    {now : Int} (anchored : sameAscii request.trustAnchor resolver.trustAnchor = true)
    (named : request.subject.isEmpty = false) :
    resolver.resolve store request now =
      ((resolver.findChain store.reads store.pathBound request).mapError .failure).bind
        (resolver.answerOf request now) :=
  resolve_with_eq store.reads store.pathBound now anchored named

/-- The answer about the candidate chain is the answer to the request. -/
theorem resolve_of_chain {resolver : Resolver} {store : Tree.Store Statement} {request : Request}
    {now : Int} {chain : List Statement} {answer : Answer}
    (anchored : sameAscii request.trustAnchor resolver.trustAnchor = true)
    (named : request.subject.isEmpty = false)
    (found : resolver.findChain store.reads store.pathBound request = .ok chain)
    (made : resolver.answerOf request now chain = .ok answer) :
    resolver.resolve store request now = .ok answer := by
  rw [resolve_eq anchored named, found]
  exact made

end TrustFederation.Resolve.Resolver
