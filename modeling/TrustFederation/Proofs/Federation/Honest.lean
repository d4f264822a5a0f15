import Mathlib.Data.List.Nodup
import TrustFederation.Proofs.Chain.Acceptance
import TrustFederation.Proofs.Jose.Signing
import TrustFederation.Proofs.Statement.Tokens
import TrustFederation.Resolve.Resolver
import TrustFederation.Statement.Printer
/-!
# Honest federations

A federation is honest at a time when every entity signs what it says with its own key, lists
only entities of the federation and serves a statement about every one that it lists. Nothing is
asked of the graph of listings: entities may list themselves, each other and the same
subordinates. What an entity says is linked to whatever is about it with its keys, if it is legible
as well: a signature alone does not verify a token whose payload cannot be read.
-/
namespace TrustFederation

open Chain (Linked SelfSigned Timely Understood VerifiesUnder)
open Jose (KeySet)
open Jose.Token (Holds SignedBy)
open Text (lowercase sameAscii)

/-- The entities of a federation and what they say. -/
structure Federation where
  entities : List String
  configuration : String → Statement
  /-- What an authority says about a subordinate. -/
  statement : String → String → Statement
  /-- The subordinates that an entity lists. -/
  listing : String → List String
  secret : String → List UInt8
  keyId : String → String

namespace Federation

/-- The statement is made by an issuer about a subject, signed with the key of the issuer and in
force, and it demands nothing of others. -/
structure Declares (federation : Federation) (now : Int) (issuer subject : String)
    (statement : Statement) : Prop where
  maker : statement.issuer = issuer
  about : statement.subject = subject
  read : Statement.ofToken statement.token = .ok statement
  signed : SignedBy (federation.secret issuer) (federation.keyId issuer) statement.token
  issued : statement.issuedAt ≤ now
  unexpired : now ≤ statement.expiresAt
  unconstrained : statement.constraints = none
  uncritical : statement.critical = none ∧ statement.criticalOperators = none

/-- Every entity of the federation keeps to the rules at a time. -/
structure Honest (federation : Federation) (now : Int) : Prop where
  apart : (federation.entities.map lowercase).Nodup
  plain : ∀ entity ∈ federation.entities, Tree.separator ∉ entity.toList
  listed : ∀ authority ∈ federation.entities,
    ∀ subordinate ∈ federation.listing authority, subordinate ∈ federation.entities
  offers : ∀ authority ∈ federation.entities, federation.listing authority ≠ [] →
    ∃ endpoints, (federation.configuration authority).endpoints? = some endpoints ∧
      endpoints.canListSubordinates = true
  configurations : ∀ entity ∈ federation.entities,
    federation.Declares now entity entity (federation.configuration entity)
  statements : ∀ authority ∈ federation.entities,
    ∀ subordinate ∈ federation.listing authority,
      federation.Declares now authority subordinate (federation.statement authority subordinate)
  keys : ∀ entity ∈ federation.entities, ∃ keys,
    (federation.configuration entity).keys = some keys ∧
      Holds keys (federation.keyId entity) (federation.secret entity)
  carried : ∀ authority ∈ federation.entities,
    ∀ subordinate ∈ federation.listing authority,
      (federation.statement authority subordinate).keys =
        (federation.configuration subordinate).keys

/-- Everything that is said in the federation can be read as verification reads it. Honesty does
not imply this: a statement may carry further claims that the statement itself has no use for. -/
structure Legible (federation : Federation) : Prop where
  configurations : ∀ entity ∈ federation.entities,
    Jose.Token.Legible (federation.configuration entity).token
  statements : ∀ authority ∈ federation.entities,
    ∀ subordinate ∈ federation.listing authority,
      Jose.Token.Legible (federation.statement authority subordinate).token

/-! ### A federation of two -/

/-- The key set of an entity that has its own identifier for a secret. -/
def namesakeKeys (entity : String) : KeySet :=
  ⟨[{ Jose.Key.declarations.blank with
    id := some "k"
    material := .secret (Codec.Base64Url.encode (Jose.bytesOf entity)) }]⟩

/-- What an issuer of the pair claims about a subject from the time 1 to the time 3. -/
def pairClaims (issuer subject : String) : Statement :=
  { Statement.blank with
    issuer := issuer
    subject := subject
    issuedAt := 1
    expiresAt := 3
    keys := some (namesakeKeys subject)
    metadata := if subject = "a" then some [(Statement.federationEntity, .object
      [("federation_fetch_endpoint", .text "f"), ("federation_list_endpoint", .text "l")])]
      else none }

/-- The claims with the token that the issuer signs. -/
def pairStatement (issuer subject : String) : Statement :=
  { pairClaims issuer subject with
    token := ((Jose.Token.Signer.hmac (Jose.bytesOf issuer) "k").sign
      (pairClaims issuer subject).toJson "entity-statement+jwt").toOption.getD "" }

/-- An authority that lists another entity and itself. -/
def pair : Federation where
  entities := ["a", "b"]
  configuration entity := pairStatement entity entity
  statement := pairStatement
  listing entity := if entity = "a" then ["b", "a"] else []
  secret := Jose.bytesOf
  keyId _ := "k"

/-- Who makes statements about whom in the pair. -/
def pairSayings : List (String × String) := [("a", "a"), ("a", "b"), ("b", "b")]

theorem namesake_holds (entity : String) :
    Holds (namesakeKeys entity) "k" (Jose.bytesOf entity) :=
  ⟨_, _, rfl, rfl, (Jose.Token.bytes_of_secret rfl).mpr rfl, .inl rfl⟩

/-- The token of a statement of the pair is what its issuer signs. -/
theorem pair_sign (issuer subject : String) :
    (Jose.Token.Signer.hmac (Jose.bytesOf issuer) "k").sign
      (pairClaims issuer subject).toJson "entity-statement+jwt" =
      .ok (pairStatement issuer subject).token := rfl

/-- What an issuer of the pair signs is declared when it is read from the text that is signed. -/
theorem pair_declares_of_sign {issuer subject token : String} {claims : Json}
    (made : (Jose.Token.Signer.hmac (Jose.bytesOf issuer) "k").sign claims
      "entity-statement+jwt" = .ok token)
    (read : (Json.decodeText Statement.record.decode (Jose.bytesOf claims.compact)).toOption =
      some (pairClaims issuer subject))
    (issued : issuer.isEmpty = false) (about : subject.isEmpty = false) :
    pair.Declares 2 issuer subject { pairClaims issuer subject with token } :=
  { maker := rfl
    about := rfl
    read := Statement.of_token_of_sign made (ok_of_to_option read) issued about
    signed := Jose.Token.signed_of_sign made (Jose.Token.parse_header_text _ _) rfl rfl
    issued := show (1 : Int) ≤ 2 by decide
    unexpired := show (2 : Int) ≤ 3 by decide
    unconstrained := rfl
    uncritical := ⟨rfl, rfl⟩ }

theorem pair_declares {issuer subject : String} (among : (issuer, subject) ∈ pairSayings) :
    pair.Declares 2 issuer subject (pairStatement issuer subject) := by
  have read : ∀ saying ∈ pairSayings,
      (Json.decodeText Statement.record.decode
        (Jose.bytesOf (pairClaims saying.1 saying.2).toJson.compact)).toOption =
        some (pairClaims saying.1 saying.2) := by
    decide +kernel
  have named : ∀ saying ∈ pairSayings, saying.1.isEmpty = false ∧ saying.2.isEmpty = false := by
    decide
  have found := read _ among
  -- Left as they are, the components of the pair would make the unifier run the reading.
  dsimp only at found
  obtain ⟨issued, about⟩ := named _ among
  exact pair_declares_of_sign (pair_sign issuer subject) found issued about

theorem pair_statement_legible {issuer subject : String}
    (among : (issuer, subject) ∈ pairSayings) :
    Jose.Token.Legible (pairStatement issuer subject).token := by
  have readable : ∀ saying ∈ pairSayings,
      (Jose.RegisteredClaims.check
        (Jose.bytesOf (pairClaims saying.1 saying.2).toJson.compact)).toOption = some () := by
    decide +kernel
  have found := readable _ among
  dsimp only at found
  exact (Jose.Token.legible_of_sign (pair_sign issuer subject)).mpr (ok_of_to_option found)

theorem pair_legible : pair.Legible where
  configurations entity member := by
    have own : ∀ entity ∈ pair.entities, (entity, entity) ∈ pairSayings := by decide
    exact pair_statement_legible (own entity member)
  statements authority member subordinate listed := by
    have said : ∀ authority ∈ pair.entities, ∀ subordinate ∈ pair.listing authority,
        (authority, subordinate) ∈ pairSayings := by decide
    exact pair_statement_legible (said authority member subordinate listed)

theorem pair_honest : pair.Honest 2 := by
  have two (entity : String) (member : entity ∈ pair.entities) : entity = "a" ∨ entity = "b" := by
    simpa [pair] using member
  have lists (entity : String) (member : entity ∈ pair.listing "a") :
      entity = "b" ∨ entity = "a" := by
    simpa [pair] using member
  exact
    { apart := by decide +kernel
      plain := by decide +kernel
      listed := by decide +kernel
      offers := by
        intro authority member listing
        rcases two authority member with rfl | rfl
        · exact ⟨⟨some "f", some "l", none, none, none⟩, by decide +kernel, by decide⟩
        · exact absurd rfl listing
      configurations := by
        intro entity member
        rcases two entity member with rfl | rfl
        · exact pair_declares (by decide)
        · exact pair_declares (by decide)
      statements := by
        intro authority member subordinate listed
        rcases two authority member with rfl | rfl
        · rcases lists subordinate listed with rfl | rfl
          · exact pair_declares (by decide)
          · exact pair_declares (by decide)
        · cases listed
      keys := fun entity _ => ⟨namesakeKeys entity, rfl, namesake_holds entity⟩
      carried := fun _ _ _ _ => rfl }

/-! ## What an entity says -/

variable {federation : Federation} {now : Int}

/-- Entities whose identifiers have one small form are the same. -/
theorem Honest.entity_unique (honest : federation.Honest now) {entity other : String}
    (member : entity ∈ federation.entities) (also : other ∈ federation.entities)
    (same : lowercase entity = lowercase other) : entity = other :=
  List.inj_on_of_nodup_map honest.apart member also same

/-- A statement in force is timely. The time has 64 bits. -/
theorem Declares.timely {issuer subject : String} {statement : Statement}
    (declared : federation.Declares now issuer subject statement)
    (fits : now ≤ Word.largestSigned) : Timely now statement := by
  have issued := declared.issued
  refine ⟨?_, declared.unexpired⟩
  rw [Int.le_min]
  exact ⟨by omega, by omega⟩

theorem Declares.understood {issuer subject : String} {statement : Statement}
    (declared : federation.Declares now issuer subject statement) : Understood statement := by
  constructor
  · intro claims listed
    rw [declared.uncritical.1] at listed
    cases listed
  · intro operators listed
    rw [declared.uncritical.2] at listed
    cases listed

/-- What an entity says verifies under every key set that holds its secret, if it is legible. -/
theorem Declares.verify {issuer subject : String} {statement : Statement} {keys : KeySet}
    (declared : federation.Declares now issuer subject statement)
    (legible : Jose.Token.Legible statement.token)
    (holds : Holds keys (federation.keyId issuer) (federation.secret issuer)) :
    statement.verify keys = .ok () := by
  unfold Statement.verify
  rw [(Jose.Token.verify_iff_legible declared.signed holds).mpr legible]
  rfl

/-- What an entity says is linked to any statement about this entity with its keys, if it is
legible. -/
theorem Honest.linked (honest : federation.Honest now) {entity subject : String}
    {statement above : Statement} (member : entity ∈ federation.entities)
    (declared : federation.Declares now entity subject statement)
    (legible : Jose.Token.Legible statement.token) (about : above.subject = entity)
    (carries : above.keys = (federation.configuration entity).keys) : Linked statement above := by
  obtain ⟨keys, published, holds⟩ := honest.keys entity member
  exact ⟨declared.maker.trans about.symm, keys, carries.trans published,
    declared.verify legible holds⟩

theorem Honest.self_signed (honest : federation.Honest now) (legible : federation.Legible)
    {entity : String} (member : entity ∈ federation.entities) :
    SelfSigned (federation.configuration entity) := by
  have declared := honest.configurations entity member
  have linked := honest.linked member declared (legible.configurations entity member)
    declared.about rfl
  exact ⟨declared.maker.trans declared.about.symm, linked.2⟩

/-! ## Another configuration of an entity -/

/-- The federation in which one entity has another configuration. -/
def reconfigured (federation : Federation) (entity : String) (configuration : Statement) :
    Federation :=
  { federation with
    configuration := Function.update federation.configuration entity configuration }

section Reconfigured

variable {entity : String} {configuration : Statement}

theorem reconfigured_self :
    (federation.reconfigured entity configuration).configuration entity = configuration :=
  Function.update_self ..

theorem reconfigured_of_ne {other : String} (differs : other ≠ entity) :
    (federation.reconfigured entity configuration).configuration other =
      federation.configuration other :=
  Function.update_of_ne differs ..

/-- Who declares what does not depend on the configurations. -/
theorem Declares.reconfigured {issuer subject : String} {statement : Statement}
    (declared : federation.Declares now issuer subject statement) :
    (federation.reconfigured entity configuration).Declares now issuer subject statement :=
  ⟨declared.maker, declared.about, declared.read, declared.signed, declared.issued,
    declared.unexpired, declared.unconstrained, declared.uncritical⟩

/-- The rules look at nothing in a configuration that is declared but its keys and endpoints. -/
theorem Honest.reconfigured (honest : federation.Honest now)
    (declared : federation.Declares now entity entity configuration)
    (keys : configuration.keys = (federation.configuration entity).keys)
    (endpoints : configuration.endpoints? = (federation.configuration entity).endpoints?) :
    (federation.reconfigured entity configuration).Honest now := by
  have same (other : String) :
      ((federation.reconfigured entity configuration).configuration other).keys =
        (federation.configuration other).keys ∧
      ((federation.reconfigured entity configuration).configuration other).endpoints? =
        (federation.configuration other).endpoints? := by
    rcases eq_or_ne other entity with rfl | differs
    · rw [reconfigured_self]
      exact ⟨keys, endpoints⟩
    · rw [reconfigured_of_ne differs]
      exact ⟨rfl, rfl⟩
  exact
    { apart := honest.apart
      plain := honest.plain
      listed := honest.listed
      offers := by
        intro authority member lists
        rw [(same authority).2]
        exact honest.offers authority member lists
      configurations := by
        intro other member
        rcases eq_or_ne other entity with rfl | differs
        · rw [reconfigured_self]
          exact declared.reconfigured
        · rw [reconfigured_of_ne differs]
          exact (honest.configurations other member).reconfigured
      statements := fun authority member subordinate listed =>
        (honest.statements authority member subordinate listed).reconfigured
      keys := by
        intro other member
        rw [(same other).1]
        exact honest.keys other member
      carried := fun authority member subordinate listed =>
        (honest.carried authority member subordinate listed).trans (same subordinate).1.symm }

end Reconfigured

end Federation

end TrustFederation
