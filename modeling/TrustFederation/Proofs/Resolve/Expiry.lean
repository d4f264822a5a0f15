import TrustFederation.Proofs.Resolve.Overtaken
import TrustFederation.Settings.Basic
/-!
# How long an answer is in force

An answer expires when its lifetime is over or when the first statement of its chain expires,
whichever comes first, and never before it is issued. The settings of a resolver put no upper bound
on the lifetime, so its end may be no number of 64 bits. Then the program stops before it answers,
even if a statement of the chain expires much earlier: no answer is made from a sum that has
overflowed.
-/
namespace TrustFederation

/-- Checked settings have a positive lifetime of answers. -/
theorem Settings.lifetime_pos {settings : Settings} (accepted : settings.validate = .ok ()) :
    0 < settings.responseLifetime := by
  unfold Settings.validate at accepted
  obtain ⟨-, accepted⟩ := ok_of_guard accepted
  obtain ⟨-, accepted⟩ := ok_of_guard accepted
  obtain ⟨keys, -, accepted⟩ := bind_ok_iff.mp accepted
  obtain ⟨-, accepted⟩ := ok_of_guard accepted
  obtain ⟨-, accepted⟩ := ok_of_guard accepted
  obtain ⟨-, accepted⟩ := ok_of_guard accepted
  split at accepted
  · cases accepted
  case isFalse positive => exact Int.not_le.mp positive

namespace Resolve

/-- The times of an answer about a chain: when it is issued, and when it expires. It expires at the
earliest of the end of its lifetime, which is a number of 64 bits, and the ends of the statements. -/
structure Timed (now lifetime : Int) (chain : List Statement) (claims : Claims) : Prop where
  issued : claims.issuedAt = now
  fits : now + lifetime ≤ Word.largestSigned
  unexpired : now ≤ claims.expiresAt
  earliest : ((now + lifetime) :: chain.map (·.expiresAt)).min? = some claims.expiresAt
  within : ∀ statement ∈ chain, claims.expiresAt ≤ statement.expiresAt

namespace Resolver

variable {resolver : Resolver} {trusted : Jose.KeySet} {request : Request} {now : Int}

/-- The times of an answer are those of its chain and its lifetime.

Proof: the answer has an expiry, so the end of its lifetime has not overflowed. The rules have found
every statement in force, so neither this end nor that of a statement lies before the time of the
request. -/
theorem timed_of_answer (rules : resolver.rules = Chain.standardRules trusted)
    (positive : 0 < resolver.lifetime) {chain : List Statement} {answer : Answer}
    (answered : resolver.answerOf request now chain = .ok answer) :
    Timed now resolver.lifetime chain answer.claims := by
  obtain ⟨valid, -, -, issued, expires⟩ := claims_of_answer answered
  rw [rules] at valid
  obtain ⟨-, timely, -⟩ :=
    (Chain.signature_violations_nil_iff _ _ _).mp (Chain.signatures_of_valid valid)
  obtain ⟨fits, least⟩ := expiry_ok_iff.mp expires
  obtain ⟨among, below⟩ := List.min?_eq_some_iff.mp least
  refine ⟨issued, fits.2, ?_, least, ?_⟩
  · rcases List.mem_cons.mp among with ends | listed
    · omega
    · obtain ⟨statement, member, same⟩ := List.mem_map.mp listed
      rw [← same]
      exact (timely statement member).2
  · intro statement member
    exact below _ (List.mem_cons_of_mem _ (List.mem_map_of_mem member))

/-- The program stops at an overflow exactly if nothing is wrong with the chain and the lifetime of
the answer would end beyond 64 bits. Whatever else goes wrong with an answer is reported. -/
theorem overflow_of_answer_iff (rules : resolver.rules = Chain.standardRules trusted)
    (positive : 0 < resolver.lifetime) (clock : Word.Signed now) {chain : List Statement} :
    resolver.answerOf request now chain = .error .overflow ↔
      Chain.validate resolver.rules now chain = [] ∧
        Word.largestSigned < now + resolver.lifetime := by
  have beyond : ¬ Word.Signed (now + resolver.lifetime) ↔
      Word.largestSigned < now + resolver.lifetime := by
    have least := clock.1
    unfold Word.Signed
    omega
  unfold answerOf
  split
  case h_1 leaf rest valid =>
    rw [bind_error_iff, expiry_overflow_iff, beyond, and_iff_right valid, or_iff_left]
    rintro ⟨expiresAt, -, stopped⟩
    rcases bind_error_iff.mp stopped with failed | ⟨metadata, -, stopped⟩
    · exact reported_ne_overflow failed
    · rcases bind_error_iff.mp stopped with failed | ⟨token, -, made⟩
      · exact reported_ne_overflow failed
      · cases made
  case h_2 violations other =>
    refine iff_of_false (fun impossible => by cases impossible) ?_
    rintro ⟨valid, -⟩
    rw [rules] at valid
    obtain ⟨nonempty, -⟩ :=
      (Chain.signature_violations_nil_iff _ _ _).mp (Chain.signatures_of_valid valid)
    obtain ⟨leaf, rest, rfl⟩ := List.exists_cons_of_ne_nil nonempty
    rw [← rules] at valid
    exact other leaf rest valid rfl

/-- A request stops the program exactly if the answer about its candidate chain does. -/
theorem overflow_of_resolve_iff {store : Tree.Store Statement} :
    resolver.resolve store request now = .error .overflow ↔
      Text.sameAscii request.trustAnchor resolver.trustAnchor = true ∧
        request.subject.isEmpty = false ∧
        ∃ chain, resolver.findChain store.reads store.pathBound request = .ok chain ∧
          resolver.answerOf request now chain = .error .overflow := by
  by_cases anchored : Text.sameAscii request.trustAnchor resolver.trustAnchor = true
  · by_cases empty : request.subject.isEmpty = true
    · refine iff_of_false (fun stopped => ?_) fun ⟨_, named, _⟩ => by simp [empty] at named
      rw [resolve, resolveWith, checkTrustAnchor, if_pos anchored] at stopped
      simp only [if_pos empty] at stopped
      cases stopped
    · rw [Bool.not_eq_true] at empty
      rw [resolve_eq anchored empty, and_iff_right anchored, and_iff_right empty]
      show ((resolver.findChain store.reads store.pathBound request).mapError Halt.failure >>=
        resolver.answerOf request now) = .error .overflow ↔ _
      rw [bind_error_iff, or_iff_right reported_ne_overflow]
      simp only [map_error_ok_iff]
  · refine iff_of_false (fun stopped => ?_) fun ⟨also, _⟩ => anchored also
    rw [resolve, resolveWith, checkTrustAnchor, if_neg anchored] at stopped
    cases stopped

/-- With settings that have been checked, at any time of 64 bits, an answer is issued at the time of
the request and expires at the earliest of the end of its lifetime, which is a number of 64 bits, and
the ends of the statements of its chain; so it has not expired when it is issued, and outlives none of
these statements. If the lifetime of an answer to which nothing else stands in the way would end
beyond 64 bits, the program stops without an answer, and only then does it stop. -/
theorem expiry_of_resolve {settings : Settings} (accepted : settings.validate = .ok ())
    (lifetime : resolver.lifetime = settings.responseLifetime)
    (rules : resolver.rules = Chain.standardRules trusted) (clock : Word.Signed now) :
    (∀ chain,
      (∀ answer, resolver.answerOf request now chain = .ok answer →
        Timed now settings.responseLifetime chain answer.claims) ∧
      (resolver.answerOf request now chain = .error .overflow ↔
        Chain.validate resolver.rules now chain = [] ∧
          Word.largestSigned < now + settings.responseLifetime)) ∧
    ∀ store,
      (∀ answer, resolver.resolve store request now = .ok answer →
        ∃ chain, resolver.findChain store.reads store.pathBound request = .ok chain ∧
          answer.claims.chain = chain.map (·.token) ∧
          Timed now settings.responseLifetime chain answer.claims) ∧
      (resolver.resolve store request now = .error .overflow ↔
        Text.sameAscii request.trustAnchor resolver.trustAnchor = true ∧
        request.subject.isEmpty = false ∧
        ∃ chain, resolver.findChain store.reads store.pathBound request = .ok chain ∧
          Chain.validate resolver.rules now chain = [] ∧
          Word.largestSigned < now + settings.responseLifetime) := by
  have positive : 0 < resolver.lifetime := lifetime ▸ settings.lifetime_pos accepted
  have timed {chain : List Statement} {answer : Answer}
      (answered : resolver.answerOf request now chain = .ok answer) :
      Timed now settings.responseLifetime chain answer.claims :=
    lifetime ▸ timed_of_answer rules positive answered
  have stops (chain : List Statement) : resolver.answerOf request now chain = .error .overflow ↔
      Chain.validate resolver.rules now chain = [] ∧
        Word.largestSigned < now + settings.responseLifetime :=
    lifetime ▸ overflow_of_answer_iff rules positive clock
  refine ⟨fun chain => ⟨fun answer => timed, stops chain⟩, fun store => ⟨?_, ?_⟩⟩
  · intro answer answered
    obtain ⟨chain, found, made⟩ := candidate_of_resolve answered
    exact ⟨chain, found, (claims_of_answer made).2.1, timed made⟩
  · simp only [overflow_of_resolve_iff, stops]

/-! ### Lifetimes of answers about the pair -/

open Federation (namesakeKeys pair pairResolver pairStatement)

/-- Settings of a resolver for the pair with a lifetime of answers. -/
def pairSettings (lifetime : Int) : Settings :=
  ⟨"r", "a", (namesakeKeys "a").toJson.compact, .default, "0123456789abcdef0123456789abcdef", "r",
    lifetime, "u", 10, "info"⟩

/-- The resolver of the pair with another lifetime of answers. -/
def pairLasting (lifetime : Int) : Resolver := { pairResolver with lifetime }

/-- The chain for the entity that the authority of the pair lists. -/
def pairChain : List Statement :=
  [pairStatement "b" "b", pairStatement "a" "b", pairStatement "a" "a"]

set_option maxRecDepth 10000 in
theorem pair_chain_found {lifetime : Int} (among : lifetime ∈ [3600, Word.largestSigned]) :
    let store := (pairSystem 1).store
    (pairLasting lifetime).findChain store.reads store.pathBound ⟨"B", "A", none⟩ =
      .ok pairChain := by
  rcases List.mem_pair.mp among with rfl | rfl
  · rfl
  · rfl

theorem pair_chain_valid (lifetime : Int) :
    Chain.validate (pairLasting lifetime).rules 2 pairChain = [] := by
  have way : pair.Way "a" ["b"] "b" := .down List.mem_cons_self (.here "b")
  exact way.valid Federation.pair_honest Federation.pair_legible List.mem_cons_self (by decide)
    (Federation.namesake_holds "a")

/-- With a lifetime of an hour, an answer about the pair expires with its statements. With the
longest lifetime that the settings can hold, the program stops. -/
theorem expiry_of_resolve_pair :
    let store := (pairSystem 1).store
    let request : Request := ⟨"B", "A", none⟩
    ((pairSettings 3600).validate = .ok () ∧
      ∃ answer, (pairLasting 3600).resolve store request 2 = .ok answer ∧
        answer.claims.issuedAt = 2 ∧ answer.claims.expiresAt = 3) ∧
    (pairSettings Word.largestSigned).validate = .ok () ∧
      (pairLasting Word.largestSigned).resolve store request 2 = .error .overflow := by
  intro store request
  have accepted : ∀ lifetime ∈ [3600, Word.largestSigned],
      (pairSettings lifetime).validate.toOption = some () := by decide +kernel
  have hour := ok_of_to_option (accepted 3600 (by decide))
  have longest := ok_of_to_option (accepted Word.largestSigned (by decide))
  have lasting (lifetime : Int) :
      (pairLasting lifetime).lifetime = (pairSettings lifetime).responseLifetime := rfl
  have rules (lifetime : Int) :
      (pairLasting lifetime).rules = Chain.standardRules (namesakeKeys "a") := rfl
  have anchored : Text.sameAscii "A" "a" = true := by decide
  have named : request.subject.isEmpty = false := by decide
  obtain ⟨answer, made⟩ := answer_of_valid request (show pairChain.head? = some _ from rfl)
    (pair_chain_valid 3600) rfl (by decide)
  have answered : (pairLasting 3600).resolve store request 2 = .ok answer :=
    resolve_of_chain anchored named (pair_chain_found (by decide)) made
  obtain ⟨chain, found, -, timed⟩ :=
    ((expiry_of_resolve hour (lasting 3600) (rules 3600) (by decide)).2 store).1 answer answered
  obtain rfl := Except.ok.inj (found.symm.trans (pair_chain_found (by decide)))
  have least : (some 3 : Option Int) = some answer.claims.expiresAt := timed.earliest
  refine ⟨⟨hour, answer, answered, timed.issued, (Option.some.inj least).symm⟩, longest, ?_⟩
  exact ((expiry_of_resolve longest (lasting _) (rules _) (by decide)).2 store).2.mpr
    ⟨anchored, named, pairChain, pair_chain_found (by decide), pair_chain_valid _, by decide⟩

end Resolver

end Resolve

end TrustFederation
