import TrustFederation.Proofs.Federation.Honest
/-!
# What is verified is what was read

The payload of a token is taken between its only two dots, and verification cuts the token at its
last two dots, so the two could see different payloads. They do not: a token that verifies has
exactly two dots, and the signature covers the very segment that the payload is decoded from. The
claims of a statement that verifies are therefore those of the signed bytes.
-/
namespace TrustFederation

open Codec (Base64Url.decode Base64Url.decode_encode Base64Url.encode Base64Url.encode_ascii)
open Federation (namesakeKeys namesake_holds pairStatement pair_declares)
open Jose (KeySet)
open Jose.Token (Selected header_ok_iff mac payload split_of_three verify verify_ok_iff
  verify_ok_iff_of_header selected_alone)
open Json (Decoder)

/-- A selected key of a set signs bytes as the payload of a token with three parts: it verifies
the token alone, and the signature is its code of the first two parts. -/
structure SignedAs (token : String) (keys : KeySet) (bytes : List UInt8)
    (header payload signature : String) : Prop where
  whole : token = header ++ "." ++ payload ++ "." ++ signature
  dotless : '.' ∉ header.toList ∧ '.' ∉ payload.toList ∧ '.' ∉ signature.toList
  decoded : Base64Url.decode (Jose.bytesOf payload) = .ok bytes
  document : ∃ json, Json.decodeText Decoder.value bytes = .ok json
  signed : ∃ read key digest secret, Jose.Token.header token = .ok read ∧
    Selected keys read.keyId key ∧ verify token ⟨[key]⟩ = .ok () ∧
    read.algorithm.digest? = some digest ∧
    key.material = .secret (Base64Url.encode secret) ∧
    signature = mac digest secret (header ++ "." ++ payload)

/-- The payload of a token that verifies is signed. -/
theorem payload_signed_of_verify {token : String} {keys : KeySet}
    (accepted : verify token keys = .ok ()) :
    ∃ bytes header segment signature, payload token = .ok bytes ∧
      SignedAs token keys bytes header segment signature := by
  obtain ⟨segments, read, bytes, cut, ⟨spelling, spelled, parsed⟩, carries, key, selected, signs⟩ :=
    verify_ok_iff.mp accepted
  have header_dotless : '.' ∉ segments.header.toList := by
    rw [spelled]
    exact fun member => (Base64Url.encode_ascii spelling '.' member).2.1 rfl
  have decoded : Base64Url.decode (Jose.bytesOf segments.payload) = .ok bytes := by
    rw [carries.spelled]
    exact Base64Url.decode_encode bytes
  have taken : payload token = .ok bytes := by
    -- No dot is left in the first part, so cutting at all dots gives the same three parts.
    have parts := split_of_three header_dotless cut.payload_dotless cut.signature_dotless
    rw [show segments.header ++ "." ++ segments.payload ++ "." ++ segments.signature = token from
      cut.whole.symm] at parts
    simp only [payload, Jose.Token.payloadSegment?, parts, decoded]
    rfl
  have named := header_ok_iff.mpr ⟨segments, cut, spelling, spelled, parsed⟩
  have alone : verify token ⟨[key]⟩ = .ok () := (verify_ok_iff_of_header named).mpr
    ⟨segments, bytes, cut, carries, key, (selected_alone selected).mpr rfl, signs⟩
  obtain ⟨-, digest, secret, found, material, code⟩ := signs
  exact ⟨bytes, segments.header, segments.payload, segments.signature, taken,
    { whole := cut.whole
      dotless := ⟨header_dotless, cut.payload_dotless, cut.signature_dotless⟩
      decoded
      document := carries.document
      signed := ⟨read, key, digest, secret, named, selected, alone, found, material, code⟩ }⟩

namespace Statement

/-- A statement that was read from a text holds the claims in the payload of its token. -/
theorem claims_of_token {text : String} {statement : Statement}
    (read : ofToken text = .ok statement) :
    statement.token = Text.trim text ∧ ∃ bytes claims, payload statement.token = .ok bytes ∧
      Json.decodeText record.decode bytes = .ok claims ∧
      statement = { claims with token := statement.token } := by
  obtain ⟨bytes, claims, taken, decoded, -, -, rfl⟩ := of_trimmed_ok_iff.mp read
  exact ⟨rfl, bytes, claims, taken, decoded, rfl⟩

/-- A key set verifies a statement exactly if it verifies its token. -/
theorem verifies_iff_token {statement : Statement} {keys : KeySet} :
    statement.verify keys = .ok () ↔ Jose.Token.verify statement.token keys = .ok () :=
  map_error_ok_iff

end Statement

/-- What verifies is what was read. The payload of a token that verifies is decoded from the
segment between its only two dots, is JSON, and is signed together with the first segment. A
statement that was read from a text, with or without blanks around the token, and verifies under a
key set or under its own keys, has exactly the claims of the signed bytes.

Proof: the first segment decodes as base64url, which has no dot, so both ways to cut the token
give the same parts. -/
theorem verified_claims_are_signed :
    (∀ token keys, verify token keys = .ok () →
      ∃ bytes header segment signature, payload token = .ok bytes ∧
        SignedAs token keys bytes header segment signature) ∧
    (∀ text statement keys, Statement.ofToken text = .ok statement →
      (statement.verify keys = .ok () ∨
        statement.keys = some keys ∧ statement.verifySelfSigned = .ok ()) →
      ∃ bytes header segment signature claims,
        SignedAs statement.token keys bytes header segment signature ∧
          statement.token = Text.trim text ∧
          Json.decodeText Statement.record.decode bytes = .ok claims ∧
          statement = { claims with token := statement.token }) := by
  refine ⟨fun token keys => payload_signed_of_verify, ?_⟩
  intro text statement keys read verified
  have accepted : verify statement.token keys = .ok () := by
    rcases verified with under | ⟨carried, own⟩
    · exact Statement.verifies_iff_token.mp under
    · obtain ⟨found, same, under⟩ := (Chain.verify_self_signed_iff statement).mp own
      obtain rfl := Option.some.inj (carried.symm.trans same)
      exact Statement.verifies_iff_token.mp under
  obtain ⟨bytes, header, segment, signature, taken, signed⟩ := payload_signed_of_verify accepted
  obtain ⟨kept, other, claims, also, decoded, same⟩ := Statement.claims_of_token read
  obtain rfl := Except.ok.inj (taken.symm.trans also)
  exact ⟨bytes, header, segment, signature, claims, signed, kept, decoded, same⟩

/-- What the authority of the pair says about the other entity is signed, also when it comes with
blanks around it. -/
theorem pair_statement_is_signed :
    let text := " " ++ (pairStatement "a" "b").token ++ "\r\n"
    Statement.ofToken text = .ok (pairStatement "a" "b") ∧
      (pairStatement "a" "b").verify (namesakeKeys "a") = .ok () ∧
      ∃ bytes header segment signature claims,
        SignedAs (pairStatement "a" "b").token (namesakeKeys "a") bytes header segment signature ∧
          Json.decodeText Statement.record.decode bytes = .ok claims ∧
          pairStatement "a" "b" = { claims with token := (pairStatement "a" "b").token } := by
  intro text
  have declared : Federation.pair.Declares 2 "a" "b" (pairStatement "a" "b") :=
    pair_declares (by decide)
  have made := Federation.pair_sign "a" "b"
  have trimmed : Text.trim text = Text.trim (pairStatement "a" "b").token :=
    (Text.trim_between (by decide) (Jose.Token.clean_of_sign made) (by decide)).trans
      (Jose.Token.trim_of_sign made).symm
  have read : Statement.ofToken text = .ok (pairStatement "a" "b") := by
    rw [Statement.ofToken, trimmed]
    exact declared.read
  have verified := declared.verify (Federation.pair_statement_legible (by decide))
    (namesake_holds "a")
  obtain ⟨bytes, header, segment, signature, claims, signed, -, decoded, same⟩ :=
    verified_claims_are_signed.2 text _ _ read (.inl verified)
  exact ⟨read, verified, bytes, header, segment, signature, claims, signed, decoded, same⟩

end TrustFederation
