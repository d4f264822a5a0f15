import TrustFederation.Proofs.Jose.Registered
import TrustFederation.Proofs.Jose.Verification
/-!
# What is signed is verified and read back

A signer writes its header and its claims with one printer; the header, the claims and the registered
ones among them are read by three readers, and another part of the program checks the code. They all
agree: a signed token tells the type, the algorithm and the key that it was made with, its payload is
read as the claims, and it verifies wherever the secret is held under the name of the key. The one
exception is by the reader of the registered claims, which does not get past some lists and objects.
-/
namespace TrustFederation.Jose.Token

open Codec (Base64Url.encode Base64Url.encode_ascii)
open Json (Decoder Integral Within)
open RegisteredClaims (Readable)

/-! ## Headers -/

/-- The header that a signer gives to a token of some type. -/
def Signer.headerOf (signer : Signer) (type : String) : Header :=
  { Header.blank with
    type := some type
    algorithm := signer.algorithm
    keyId := signer.keyId }

/-- A header is read as it was written. -/
theorem parse_header_text (signer : Signer) (type : String) :
    Header.parse (bytesOf (signer.headerText type)) = .ok (signer.headerOf type) := by
  obtain ⟨secret, algorithm, keyId⟩ := signer
  rw [Header.parse, Signer.headerText, Json.decode_text_written]
  · cases keyId with
    | none => cases algorithm <;> rfl
    | some keyId => cases algorithm <;> rfl
  · refine .object fun member among => ?_
    rcases List.mem_cons.mp among with rfl | among
    · exact .text type
    rcases List.mem_cons.mp among with rfl | among
    · exact .text algorithm.name
    cases keyId with
    | none => cases among
    | some keyId =>
      obtain rfl := List.mem_singleton.mp among
      exact .text keyId

variable {signer : Signer} {claims : Json} {type token : String}

theorem header_of_sign (made : signer.sign claims type = .ok token) :
    header token = .ok (signer.headerOf type) := by
  obtain ⟨digest, -, parts⟩ := split_of_sign made
  have cut := segments_iff_cut.mp (segments_of_split parts)
  exact header_ok_iff.mpr ⟨_, cut, _, rfl, parse_header_text signer type⟩

/-- The dots of a signed token are those between its parts. -/
theorem dots_of_sign (made : signer.sign claims type = .ok token) :
    token.toList.count '.' = 2 := by
  obtain ⟨digest, -, rfl⟩ := parts_of_sign made
  have dotless (bytes : List UInt8) : (Base64Url.encode bytes).toList.count '.' = 0 :=
    List.count_eq_zero.mpr fun member => (Base64Url.encode_ascii bytes '.' member).2.1 rfl
  simp only [String.toList_append, List.count_append, dotless, mac]
  rfl

/-! ## Verification -/

variable {secret : List UInt8} {keyId : String} {members : List (String × Json)}

/-- The registered claims of a payload can be read exactly if the token verifies where the secret is
held. -/
theorem verify_of_sign_iff {keys : KeySet} (integral : Integral (.object members))
    (within : Within 127 (.object members))
    (made : (Signer.hmac secret keyId).sign (.object members) type = .ok token)
    (holds : Holds keys keyId secret) : verify token keys = .ok () ↔ Readable members := by
  have registered : Json.decodeText RegisteredClaims.decode
      (bytesOf (Json.object members).compact) = .ok () ↔ Readable members := by
    rw [Json.decode_text_written RegisteredClaims.decode integral]
    exact RegisteredClaims.decode_ok_iff within.ordered
  have document := Json.decode_value_written integral within
  rw [verify_iff_legible (signed_of_sign made (parse_header_text _ type) rfl rfl) holds,
    legible_of_sign made, ← registered]
  show (_ >>= _) = _ ↔ _
  rw [bind_ok_iff]
  exact ⟨fun ⟨_, _, readable⟩ => readable, fun readable => ⟨_, document, readable⟩⟩

/-- A signer with HS256 makes a token with two dots of every object whose numbers are integers and
which is nested at most 127 deep. Its header tells the type, the algorithm and the name of the key,
its payload is the compact text of the claims and is read as the claims again. Wherever the first key
of that name is the secret, declared for HS256 or for no algorithm, the token verifies exactly if the
registered claims can be passed over: the times hold nothing in them, and the subject is no list and
no object.

Proof: what the printer writes is read as the document of the value, by induction on the value; the
readers of the header, of the claims and of the registered claims are then run on this document. -/
theorem sign_tells_and_verifies (secret : List UInt8) (keyId type : String)
    {members : List (String × Json)} (integral : Integral (.object members))
    (within : Within 127 (.object members)) :
    ∃ token, (Signer.hmac secret keyId).sign (.object members) type = .ok token ∧
      token.toList.count '.' = 2 ∧
      header token = .ok { Header.blank with
        type := some type
        algorithm := .hs256
        keyId := some keyId } ∧
      payload token = .ok (bytesOf (Json.object members).compact) ∧
      Json.decodeText Decoder.value (bytesOf (Json.object members).compact) =
        .ok (.object members) ∧
      ∀ keys, Holds keys keyId secret → (verify token keys = .ok () ↔ Readable members) := by
  obtain ⟨token, made⟩ : ∃ token,
    (Signer.hmac secret keyId).sign (.object members) type = .ok token := ⟨_, rfl⟩
  exact ⟨token, made, dots_of_sign made, header_of_sign made, payload_of_sign made,
    Json.decode_value_written integral within,
    fun keys holds => verify_of_sign_iff integral within made holds⟩

/-! ### An empty secret, and a subject that is a list -/

/-- A key that holds a secret and is declared for nothing. -/
def secretKey (keyId : String) (secret : List UInt8) : Key :=
  { Key.declarations.blank with id := some keyId, material := .secret (Base64Url.encode secret) }

theorem holds_secret_key (keyId : String) (secret : List UInt8) :
    Holds ⟨[secretKey keyId secret]⟩ keyId secret :=
  ⟨secretKey keyId secret, _, by simp [KeySet.find?, secretKey], rfl,
    (bytes_of_secret rfl).mpr rfl, .inl rfl⟩

/-- Claims with letters that are written in all ways, and with values in one another. -/
def nestedClaims : List (String × Json) :=
  [("aud", .array [.object [("é\x00", .null)], .number (.integer (-1))]), ("sub", .text "\"\n😀")]

theorem integral_nested : Integral (.object nestedClaims) :=
  .object (List.forall_mem_cons.mpr
    ⟨.array (List.forall_mem_cons.mpr
      ⟨.object (List.forall_mem_singleton.mpr .null),
        List.forall_mem_singleton.mpr (.number ⟨by decide, by decide⟩)⟩),
      List.forall_mem_singleton.mpr (.text _)⟩)

theorem within_nested : Within 127 (.object nestedClaims) :=
  .object (by unfold Text.Dictionary.Ascending; decide) (List.forall_mem_cons.mpr
    ⟨.array (List.forall_mem_cons.mpr
      ⟨.object (List.pairwise_singleton _ _) (List.forall_mem_singleton.mpr .null),
        List.forall_mem_singleton.mpr (.number _)⟩),
      List.forall_mem_singleton.mpr (.text _)⟩)

theorem empty_secret_verifies_nested_claims :
    Integral (.object nestedClaims) ∧ Within 127 (.object nestedClaims) ∧
      ∃ token, (Signer.hmac [] "").sign (.object nestedClaims) "JWT" = .ok token ∧
        verify token ⟨[secretKey "" []]⟩ = .ok () := by
  obtain ⟨token, made, -, -, -, -, verifies⟩ :=
    sign_tells_and_verifies [] "" "JWT" integral_nested within_nested
  have readable : Readable nestedClaims := List.forall_mem_cons.mpr
    ⟨RegisteredClaims.passable_of_other (by decide) _,
      List.forall_mem_singleton.mpr (RegisteredClaims.passable_of_subject.mpr trivial)⟩
  exact ⟨integral_nested, within_nested, token, made,
    (verifies _ (holds_secret_key "" [])).mpr readable⟩

/-- Claims whose subject is a list are signed, but the secret does not verify the token. -/
theorem listed_subject_is_refused :
    let claims : Json := .object [("sub", .array [.text "a"])]
    Integral claims ∧ Within 127 claims ∧ Holds ⟨[secretKey "k" [7]]⟩ "k" [7] ∧
      ∃ token, (Signer.hmac [7] "k").sign claims "JWT" = .ok token ∧
        verify token ⟨[secretKey "k" [7]]⟩ ≠ .ok () := by
  have integral : Integral (.object [("sub", .array [.text "a"])]) :=
    .object (List.forall_mem_singleton.mpr (.array (List.forall_mem_singleton.mpr (.text "a"))))
  have within : Within 127 (.object [("sub", .array [.text "a"])]) :=
    .object (List.pairwise_singleton _ _)
      (List.forall_mem_singleton.mpr (.array (List.forall_mem_singleton.mpr (.text "a"))))
  refine ⟨integral, within, holds_secret_key "k" [7], _, rfl, fun accepted => ?_⟩
  have readable := (verify_of_sign_iff integral within rfl (holds_secret_key "k" [7])).mp accepted
  exact RegisteredClaims.passable_of_subject.mp (readable _ List.mem_cons_self)

end TrustFederation.Jose.Token
