import TrustFederation.Proofs.Codec.Spelling
import TrustFederation.Proofs.Jose.Signatures
import TrustFederation.Proofs.Text.Splitting
/-!
# Which keys verify a token

A token verifies under a key set exactly if a key that its header selects signs it: a shared
secret that is declared for no algorithm or for that of the header, whose code of the message is
the signature. A key that does not sign the token is passed over and never stands in the way of
another one. The wording of refusals is not looked at here.
-/
namespace TrustFederation.Jose.Token

open Codec (Base64Url.decode Base64Url.decode_ok_iff Base64Url.encode Base64Url.eq_of_encode_eq)
open Json (Decoder)

/-! ## The parts of a token -/

/-- The parts of a token are what the last two dots leave. -/
structure Cut (token : String) (segments : Segments) : Prop where
  whole : token = segments.message ++ "." ++ segments.signature
  payload_dotless : '.' ∉ segments.payload.toList
  signature_dotless : '.' ∉ segments.signature.toList

variable {token : String} {segments : Segments}

/-- Parts that are joined by dots are cut again at the last two dots. -/
theorem split_of_cut (cut : Cut token segments) :
    Text.split '.' token =
      Text.split '.' segments.header ++ [segments.payload] ++ [segments.signature] := by
  rw [cut.whole, Segments.message]
  show Text.split '.' (segments.header ++ String.singleton '.' ++ segments.payload ++
    String.singleton '.' ++ segments.signature) = _
  rw [Text.split_append_part _ cut.signature_dotless, Text.split_append_part _ cut.payload_dotless]

theorem segments_iff_cut : segments? token = some segments ↔ Cut token segments := by
  constructor
  · intro found
    unfold segments? at found
    cases parts : (Text.split '.' token).reverse with
    | nil =>
      rw [parts] at found
      cases found
    | cons signature others =>
      rcases others with _ | ⟨payload, _ | ⟨last, before⟩⟩ <;> rw [parts] at found <;> cases found
      have split_eq :
          Text.split '.' token = (last :: before).reverse ++ [payload] ++ [signature] := by
        rw [List.reverse_eq_iff.mp parts]
        simp
      have clean (part : String) (member : part ∈ Text.split '.' token) : '.' ∉ part.toList :=
        Text.not_mem_of_mem_split member
      have payload_clean : '.' ∉ payload.toList := clean payload (by simp [split_eq])
      have signature_clean : '.' ∉ signature.toList := clean signature (by simp [split_eq])
      have header_parts : Text.split '.' (Text.join "." (last :: before).reverse) =
          (last :: before).reverse := by
        refine Text.split_join (by simp) fun part member => clean part ?_
        rw [split_eq, List.append_assoc]
        exact List.mem_append_left _ member
      refine ⟨Text.eq_of_split_eq '.' ?_, payload_clean, signature_clean⟩
      rw [split_of_cut ⟨rfl, payload_clean, signature_clean⟩, header_parts, split_eq]
  · intro cut
    have backwards : (Text.split '.' token).reverse =
        segments.signature :: segments.payload :: (Text.split '.' segments.header).reverse := by
      rw [split_of_cut cut]
      simp
    have joined := Text.join_split '.' segments.header
    unfold segments?
    rw [backwards]
    cases parts : (Text.split '.' segments.header).reverse with
    | nil => exact absurd (List.reverse_eq_nil_iff.mp parts) (Text.split_ne_nil _ _)
    | cons last before =>
      show some (⟨Text.join "." (last :: before).reverse, _, _⟩ : Segments) = _
      rw [← parts, List.reverse_reverse]
      exact congrArg (fun header => some (⟨header, _, _⟩ : Segments)) joined

/-- A token is cut in one way. -/
theorem Cut.unique {other : Segments} (cut : Cut token segments) (also : Cut token other) :
    segments = other := by
  rw [← segments_iff_cut] at cut also
  exact Option.some.inj (cut.symm.trans also)

/-- The first part of a token spells a header. -/
def Names (segments : Segments) (read : Header) : Prop :=
  ∃ bytes, segments.header = Base64Url.encode bytes ∧ Header.parse bytes = .ok read

/-- The second part of a token spells bytes that are JSON and hold readable claims. -/
structure Carries (segments : Segments) (bytes : List UInt8) : Prop where
  spelled : segments.payload = Base64Url.encode bytes
  document : ∃ json, Json.decodeText Decoder.value bytes = .ok json
  claims : Json.decodeText RegisteredClaims.decode bytes = .ok ()

theorem header_ok_iff {read : Header} :
    header token = .ok read ↔ ∃ segments, Cut token segments ∧ Names segments read := by
  unfold header
  cases found : segments? token with
  | none =>
    constructor
    · intro impossible
      cases impossible
    · rintro ⟨segments, cut, -⟩
      rw [segments_iff_cut.mpr cut] at found
      cases found
  | some segments =>
    have cut := segments_iff_cut.mp found
    constructor
    · intro decoded
      obtain ⟨bytes, spelled, parsed⟩ := bind_ok_iff.mp decoded
      exact ⟨segments, cut, bytes, Base64Url.decode_ok_iff.mp (map_error_ok_iff.mp spelled),
        map_error_ok_iff.mp parsed⟩
    · rintro ⟨other, same, bytes, spelled, parsed⟩
      rw [segments_iff_cut.mpr same] at found
      obtain rfl := Option.some.inj found
      exact bind_ok_iff.mpr ⟨bytes, map_error_ok_iff.mpr (Base64Url.decode_ok_iff.mpr spelled),
        map_error_ok_iff.mpr parsed⟩

theorem check_payload_ok_iff :
    checkPayload segments = .ok () ↔ ∃ bytes, Carries segments bytes := by
  constructor
  · intro checked
    obtain ⟨bytes, spelled, readable⟩ := bind_ok_iff.mp checked
    obtain ⟨json, document, claims⟩ := bind_ok_iff.mp (map_error_ok_iff.mp readable)
    exact ⟨bytes, Base64Url.decode_ok_iff.mp (map_error_ok_iff.mp spelled), ⟨json, document⟩,
      claims⟩
  · rintro ⟨bytes, spelled, ⟨json, document⟩, claims⟩
    exact bind_ok_iff.mpr ⟨bytes, map_error_ok_iff.mpr (Base64Url.decode_ok_iff.mpr spelled),
      map_error_ok_iff.mpr (bind_ok_iff.mpr ⟨json, document, claims⟩)⟩

/-! ## Keys -/

/-- A key signs a token by an algorithm: it may be used with this algorithm, it is a shared
secret, and the signature is the code of the message with it. -/
structure Signs (algorithm : Algorithm) (segments : Segments) (key : Key) : Prop where
  declared : key.algorithm = none ∨ key.algorithm = some (.signature algorithm)
  code : ∃ digest secret, algorithm.digest? = some digest ∧
    key.material = .secret (Base64Url.encode secret) ∧
    segments.signature = mac digest secret segments.message

/-- The keys that come into question: with an identifier the first key that has it, and without
one every key. -/
def Selected (keys : KeySet) : Option String → Key → Prop
  | none, key => key ∈ keys.keys
  | some id, key => ∃ before after, keys.keys = before ++ key :: after ∧ key.id = some id ∧
    ∀ other ∈ before, other.id ≠ some id

theorem mem_candidates_iff {read : Header} {keys : KeySet} {key : Key} :
    key ∈ candidates read keys ↔ Selected keys read.keyId key := by
  unfold candidates
  cases read.keyId with
  | none => rfl
  | some id =>
    rw [Option.mem_toList, KeySet.find?, List.find?_eq_some_iff_append]
    simp only [Selected, beq_iff_eq, Bool.not_eq_true', beq_eq_false_iff_ne]
    constructor
    · rintro ⟨named, before, after, parts, others⟩
      exact ⟨before, after, parts, named, others⟩
    · rintro ⟨before, after, parts, named, others⟩
      exact ⟨named, before, after, parts, others⟩

/-- A key that is selected is also selected when it is alone in its set. -/
theorem selected_alone {keys : KeySet} {id : Option String} {key other : Key}
    (selected : Selected keys id key) : Selected ⟨[key]⟩ id other ↔ other = key := by
  cases id with
  | none => exact List.mem_singleton
  | some id =>
    obtain ⟨before, after, parts, named, others⟩ := selected
    constructor
    · rintro ⟨front, back, alone, -, -⟩
      have member : other ∈ [key] := by
        rw [show [key] = front ++ other :: back from alone]
        simp
      exact List.mem_singleton.mp member
    · rintro rfl
      exact ⟨[], [], rfl, named, by simp⟩

theorem Selected.mem {keys : KeySet} {id : Option String} {key : Key}
    (selected : Selected keys id key) : key ∈ keys.keys := by
  cases id with
  | none => exact selected
  | some id =>
    obtain ⟨before, after, parts, -, -⟩ := selected
    rw [parts]
    simp

theorem check_declared_ok_iff {algorithm : Algorithm} {key : Key} :
    checkDeclared algorithm key = .ok () ↔
      (key.algorithm = none ∨ key.algorithm = some (.signature algorithm)) := by
  unfold checkDeclared
  cases key.algorithm with
  | none => simp
  | some declared =>
    by_cases same : declared = .signature algorithm
    · simp [same]
    · simp [same]

theorem bytes_of_secret {key : Key} {value : String} {secret : List UInt8}
    (material : key.material = .secret value) :
    key.bytes = .ok secret ↔ value = Base64Url.encode secret := by
  have read : key.bytes = Base64Url.decode value.toUTF8.data.toList := by
    unfold Key.bytes
    rw [material]
    simp only [Material.parts, List.mapM_cons, List.mapM_nil]
    cases Base64Url.decode value.toUTF8.data.toList with
    | error fault => rfl
    | ok bytes => exact congrArg Except.ok (List.append_nil bytes)
  rw [read, Base64Url.decode_ok_iff]

theorem check_signature_ok_iff {algorithm : Algorithm} {material : List UInt8} :
    checkSignature algorithm material segments = .ok () ↔
      ∃ digest, algorithm.digest? = some digest ∧
        segments.signature = mac digest material segments.message := by
  unfold checkSignature
  cases algorithm.digest? with
  | none =>
    cases Base64Url.decode (bytesOf segments.signature) <;> simp
  | some digest =>
    by_cases code : segments.signature = mac digest material segments.message
    · simp [code]
    · simp [code]

theorem family_eq_hmac_iff {key : Key} :
    key.material.family = .hmac ↔ ∃ value, key.material = .secret value := by
  cases key.material <;> simp [Material.family]

/-- An algorithm with a digest is one for shared secrets. -/
theorem family_of_digest {algorithm : Algorithm} {digest : Digest.Function}
    (found : algorithm.digest? = some digest) : algorithm.family = .hmac :=
  Algorithm.digest?_isSome_iff.mp (Option.isSome_iff_exists.mpr ⟨digest, found⟩)

/-- One key verifies a token exactly if it signs it and the payload can be read. -/
theorem verify_with_ok_iff {algorithm : Algorithm} {key : Key} :
    verifyWith algorithm segments key = .ok () ↔
      Signs algorithm segments key ∧ ∃ bytes, Carries segments bytes := by
  unfold verifyWith
  constructor
  · intro accepted
    obtain ⟨_, declared, accepted⟩ := bind_ok_iff.mp accepted
    obtain ⟨secret, decoded, accepted⟩ := bind_ok_iff.mp accepted
    split at accepted
    case isFalse => cases accepted
    case isTrue family =>
      obtain ⟨_, signature, payload⟩ := bind_ok_iff.mp accepted
      obtain ⟨digest, found, code⟩ := check_signature_ok_iff.mp signature
      obtain ⟨value, material⟩ := family_eq_hmac_iff.mp (family.trans (family_of_digest found))
      have spelled := (bytes_of_secret material).mp (map_error_ok_iff.mp decoded)
      exact ⟨⟨check_declared_ok_iff.mp declared, digest, secret, found, spelled ▸ material, code⟩,
        check_payload_ok_iff.mp payload⟩
  · rintro ⟨⟨declared, digest, secret, found, material, code⟩, readable⟩
    have family : key.material.family = algorithm.family := by
      rw [family_of_digest found, material]
      rfl
    refine bind_ok_iff.mpr ⟨(), check_declared_ok_iff.mpr declared, bind_ok_iff.mpr
      ⟨secret, map_error_ok_iff.mpr ((bytes_of_secret material).mpr rfl), ?_⟩⟩
    rw [if_pos family]
    exact bind_ok_iff.mpr ⟨(), check_signature_ok_iff.mpr ⟨digest, found, code⟩,
      check_payload_ok_iff.mpr readable⟩

/-- Keys that are tried in turn verify a token exactly if one of them does. -/
theorem verify_any_ok_iff {algorithm : Algorithm} {key : Key} {rest : List Key} :
    verifyAny algorithm segments key rest = .ok () ↔
      ∃ candidate ∈ key :: rest, verifyWith algorithm segments candidate = .ok () := by
  induction rest generalizing key with
  | nil => simp [verifyAny, map_error_ok_iff]
  | cons next others ih =>
    rw [verifyAny]
    cases tried : verifyWith algorithm segments key with
    | ok _ => simp [tried]
    | error refusal => simp [ih, tried]

/-! ## Key sets -/

variable {keys : KeySet} {read : Header}

/-- A token with a header verifies exactly if a key that the header selects signs it and the
payload can be read. -/
theorem verify_ok_iff_of_header (parsed : header token = .ok read) :
    verify token keys = .ok () ↔
      ∃ segments bytes, Cut token segments ∧ Carries segments bytes ∧
        ∃ key, Selected keys read.keyId key ∧ Signs read.algorithm segments key := by
  obtain ⟨segments, cut, -⟩ := header_ok_iff.mp parsed
  have found := segments_iff_cut.mpr cut
  have tried : verify token keys = .ok () ↔
      ∃ key ∈ candidates read keys, verifyWith read.algorithm segments key = .ok () := by
    unfold verify
    simp only [parsed, found]
    cases candidates read keys with
    | nil => simp
    | cons key rest => exact verify_any_ok_iff
  rw [tried]
  constructor
  · rintro ⟨key, member, accepted⟩
    obtain ⟨signs, bytes, carries⟩ := verify_with_ok_iff.mp accepted
    exact ⟨segments, bytes, cut, carries, key, mem_candidates_iff.mp member, signs⟩
  · rintro ⟨other, bytes, same, carries, key, selected, signs⟩
    rw [segments_iff_cut.mpr same] at found
    obtain rfl := Option.some.inj found
    exact ⟨key, mem_candidates_iff.mpr selected, verify_with_ok_iff.mpr ⟨signs, bytes, carries⟩⟩

/-- A token without a header never verifies. -/
theorem header_of_verify (accepted : verify token keys = .ok ()) :
    ∃ read, header token = .ok read := by
  unfold verify at accepted
  cases parsed : header token with
  | error refusal =>
    rw [parsed] at accepted
    cases accepted
  | ok read => exact ⟨read, rfl⟩

/-- A token verifies exactly if it has the parts that it needs and a selected key signs it. -/
theorem verify_ok_iff :
    verify token keys = .ok () ↔
      ∃ segments read bytes, Cut token segments ∧ Names segments read ∧ Carries segments bytes ∧
        ∃ key, Selected keys read.keyId key ∧ Signs read.algorithm segments key := by
  constructor
  · intro accepted
    obtain ⟨read, parsed⟩ := header_of_verify accepted
    obtain ⟨segments, bytes, cut, carries, signed⟩ := (verify_ok_iff_of_header parsed).mp accepted
    obtain ⟨other, same, named⟩ := header_ok_iff.mp parsed
    obtain rfl := same.unique cut
    exact ⟨other, read, bytes, cut, named, carries, signed⟩
  · rintro ⟨segments, read, bytes, cut, named, carries, signed⟩
    exact (verify_ok_iff_of_header (header_ok_iff.mpr ⟨segments, cut, named⟩)).mpr
      ⟨segments, bytes, cut, carries, signed⟩

/-- A key alone verifies a token only if it signs it. -/
theorem signs_of_alone {key : Key} (parsed : header token = .ok read)
    (accepted : verify token ⟨[key]⟩ = .ok ()) :
    ∃ segments, Signs read.algorithm segments key := by
  obtain ⟨segments, bytes, -, -, only, selected, signs⟩ :=
    (verify_ok_iff_of_header parsed).mp accepted
  obtain rfl : only = key := List.mem_singleton.mp selected.mem
  exact ⟨segments, signs⟩

/-- A key set verifies a token exactly if a selected key alone does. -/
theorem verify_iff_alone (parsed : header token = .ok read) :
    verify token keys = .ok () ↔
      ∃ key, Selected keys read.keyId key ∧ verify token ⟨[key]⟩ = .ok () := by
  constructor
  · intro accepted
    obtain ⟨segments, bytes, cut, carries, key, selected, signs⟩ :=
      (verify_ok_iff_of_header parsed).mp accepted
    exact ⟨key, selected, (verify_ok_iff_of_header parsed).mpr
      ⟨segments, bytes, cut, carries, key, (selected_alone selected).mpr rfl, signs⟩⟩
  · rintro ⟨key, selected, accepted⟩
    obtain ⟨segments, bytes, cut, carries, only, chosen, signs⟩ :=
      (verify_ok_iff_of_header parsed).mp accepted
    obtain rfl := (selected_alone selected).mp chosen
    exact (verify_ok_iff_of_header parsed).mpr
      ⟨segments, bytes, cut, carries, only, selected, signs⟩

/-- A token verifies under a key set exactly if it is cut into parts at its last two dots, the
first part spells a header with an algorithm for shared secrets, the second one spells JSON with
readable claims, and a key that the header selects signs the text before the last dot by this
algorithm. It then verifies under one selected key alone, and the other keys do not matter. A
single key verifies only tokens for which it is declared, and only as a shared secret.

Proof: each check succeeds exactly under its own condition, and trying keys in turn succeeds
exactly if one of them passes all checks, by induction on the keys. -/
theorem verifies_iff_selected_key_signs (token : String) (keys : KeySet) :
    (verify token keys = .ok () ↔
      ∃ segments read bytes, Cut token segments ∧ Names segments read ∧ Carries segments bytes ∧
        ∃ key, Selected keys read.keyId key ∧ Signs read.algorithm segments key) ∧
    (∀ read, header token = .ok read →
      (verify token keys = .ok () ↔
        ∃ key, Selected keys read.keyId key ∧ verify token ⟨[key]⟩ = .ok ()) ∧
      ∀ key, verify token ⟨[key]⟩ = .ok () → key.material.family = .hmac ∧
        (key.algorithm = none ∨ key.algorithm = some (.signature read.algorithm))) := by
  refine ⟨verify_ok_iff, fun read parsed => ⟨verify_iff_alone parsed, ?_⟩⟩
  intro key accepted
  obtain ⟨segments, declared, digest, secret, -, material, -⟩ := signs_of_alone parsed accepted
  exact ⟨family_eq_hmac_iff.mpr ⟨_, material⟩, declared⟩

/-! ### A token that names no key -/

/-- A signer that names no key. -/
def nameless : Signer := ⟨[7], .hs256, none⟩

/-- What the nameless signer makes of a claim. -/
def namelessToken : String :=
  (nameless.sign (.object [("iss", .text "a")]) "JWT").toOption.getD ""

/-- A key for signatures of another family, the secret of the nameless signer for another
algorithm, and this secret again. -/
def mixedKeys : KeySet :=
  ⟨[{ Key.declarations.blank with material := .rsa "AQAB" "AQAB" },
    { Key.declarations.blank with
      algorithm := some (.signature .hs512)
      material := .secret (Base64Url.encode [7]) },
    { Key.declarations.blank with material := .secret (Base64Url.encode [7]) }]⟩

/-- The last key verifies the token behind two keys that do not, alone or together. -/
theorem nameless_verifies_behind_useless_keys :
    (∃ read, header namelessToken = .ok read ∧ read.keyId = none) ∧
      verify namelessToken mixedKeys = .ok () ∧
      ∀ key ∈ mixedKeys.keys.take 2, verify namelessToken ⟨[key]⟩ ≠ .ok () := by
  have made : nameless.sign (.object [("iss", .text "a")]) "JWT" = .ok namelessToken := rfl
  obtain ⟨digest, found, parts⟩ := split_of_sign made
  obtain rfl : Digest.Function.sha256 = digest := Option.some.inj found
  have cut := segments_iff_cut.mp (segments_of_split parts)
  have read : (Header.parse (bytesOf (nameless.headerText "JWT"))).toOption =
      some { Header.blank with type := some "JWT" } := by decide +kernel
  have document : ∃ json, Json.decodeText Decoder.value
      (bytesOf (Json.object [("iss", .text "a")]).compact) = .ok json :=
    ⟨.object [("iss", .text "a")], ok_of_to_option (by decide +kernel)⟩
  have claims : (Json.decodeText RegisteredClaims.decode
      (bytesOf (Json.object [("iss", .text "a")]).compact)).toOption = some () := by
    decide +kernel
  have named (payload signature : String) :
      Names ⟨Base64Url.encode (bytesOf (nameless.headerText "JWT")), payload, signature⟩
        { Header.blank with type := some "JWT" } :=
    ⟨_, rfl, ok_of_to_option read⟩
  have parsed := header_ok_iff.mpr ⟨_, cut, named _ _⟩
  refine ⟨⟨_, parsed, rfl⟩, ?_, ?_⟩
  · refine (verifies_iff_selected_key_signs namelessToken mixedKeys).1.mpr
      ⟨_, _, _, cut, named _ _, ⟨rfl, document, ok_of_to_option claims⟩,
        { Key.declarations.blank with material := .secret (Base64Url.encode [7]) }, ?_, ?_⟩
    · show _ ∈ mixedKeys.keys
      simp [mixedKeys]
    · exact ⟨.inl rfl, .sha256, [7], rfl, rfl, rfl⟩
  · intro key member accepted
    obtain ⟨shared, declared⟩ :=
      ((verifies_iff_selected_key_signs namelessToken mixedKeys).2 _ parsed).2 key accepted
    simp only [mixedKeys, List.take_succ_cons, List.take_zero, List.mem_cons, List.not_mem_nil,
      or_false] at member
    rcases member with rfl | rfl
    · cases shared
    · rcases declared with undeclared | other
      · cases undeclared
      · cases other

/-! ## Secrets under names -/

/-- The token is signed with a secret by HS256 and names a key. -/
structure SignedBy (secret : List UInt8) (keyId token : String) : Prop where
  signature : ∃ segments, segments? token = some segments ∧
    segments.signature = mac .sha256 secret segments.message
  header : ∃ read, header token = .ok read ∧ read.algorithm = .hs256 ∧ read.keyId = some keyId

/-- The payload of the token can be read as verification reads it, which does not stop at the
signature: as any JSON, and once more for its registered claims. -/
def Legible (token : String) : Prop :=
  ∃ segments bytes, Cut token segments ∧ Carries segments bytes

/-- The first key with an identifier holds the secret, and may be used with HS256. -/
structure Holds (keys : KeySet) (keyId : String) (secret : List UInt8) : Prop where
  held : ∃ key value, keys.find? keyId = some key ∧ key.material = .secret value ∧
    key.bytes = .ok secret ∧
    (key.algorithm = none ∨ key.algorithm = some (.signature .hs256))

theorem legible_of_verify (accepted : verify token keys = .ok ()) : Legible token := by
  obtain ⟨segments, -, bytes, cut, -, carries, -⟩ := verify_ok_iff.mp accepted
  exact ⟨segments, bytes, cut, carries⟩

/-- A token that is signed with a secret verifies under a key set that holds this secret exactly if
it is legible. -/
theorem verify_iff_legible {secret : List UInt8} {keyId : String}
    (signed : SignedBy secret keyId token) (holds : Holds keys keyId secret) :
    verify token keys = .ok () ↔ Legible token := by
  refine ⟨legible_of_verify, ?_⟩
  rintro ⟨segments, payload, cut, carries⟩
  obtain ⟨same, found, code⟩ := signed.signature
  obtain rfl := (segments_iff_cut.mp found).unique cut
  obtain ⟨read, parsed, algorithm, named⟩ := signed.header
  obtain ⟨key, value, first, material, bytes, declared⟩ := holds.held
  have selected : Selected keys read.keyId key := by
    rw [← mem_candidates_iff, candidates, named]
    exact Option.mem_toList.mpr first
  have spelled := (bytes_of_secret material).mp bytes
  have signs : Signs read.algorithm same key := by
    rw [algorithm]
    exact ⟨declared, .sha256, secret, rfl, spelled ▸ material, code⟩
  exact (verify_ok_iff_of_header parsed).mpr
    ⟨same, payload, cut, carries, key, selected, signs⟩

/-- A token that a signer with HS256 makes is signed with the secret, when the header is read as
it was written. -/
theorem signed_of_sign {secret : List UInt8} {keyId : String} {read : Header}
    (made : (Signer.hmac secret keyId).sign claims type = .ok token)
    (parsed : Header.parse (bytesOf ((Signer.hmac secret keyId).headerText type)) = .ok read)
    (algorithm : read.algorithm = .hs256) (named : read.keyId = some keyId) :
    SignedBy secret keyId token := by
  obtain ⟨digest, found, parts⟩ := split_of_sign made
  obtain rfl : Digest.Function.sha256 = digest := Option.some.inj found
  have cut := segments_of_split parts
  exact ⟨⟨_, cut, rfl⟩,
    ⟨read, header_ok_iff.mpr ⟨_, segments_iff_cut.mp cut, _, rfl, parsed⟩, algorithm, named⟩⟩

/-- A token that a signer makes is legible if its claims can be read again, also the registered
ones among them. -/
theorem legible_of_sign {signer : Signer} (made : signer.sign claims type = .ok token) :
    Legible token ↔ RegisteredClaims.check (bytesOf claims.compact) = .ok () := by
  obtain ⟨digest, -, parts⟩ := split_of_sign made
  have cut := segments_iff_cut.mp (segments_of_split parts)
  constructor
  · rintro ⟨segments, bytes, also, carries⟩
    obtain rfl := cut.unique also
    obtain ⟨json, document⟩ := carries.document
    rw [Base64Url.eq_of_encode_eq carries.spelled]
    exact bind_ok_iff.mpr ⟨json, document, carries.claims⟩
  · intro readable
    obtain ⟨json, document, registered⟩ := bind_ok_iff.mp readable
    exact ⟨_, _, cut, rfl, ⟨json, document⟩, registered⟩

end TrustFederation.Jose.Token
