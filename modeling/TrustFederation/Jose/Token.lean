import TrustFederation.Jose.Header
import TrustFederation.Jose.RegisteredClaims
import TrustFederation.Json.Printer
/-!
# Compact tokens

A token is a header, a payload and a signature in base64url, joined by dots. Its payload can
be taken out without looking at the signature. A signature is checked against a key set:
the header names the key, or every key is tried. Only shared secrets ever verify; a
signature of another family is recognised, never accepted.
-/
namespace TrustFederation.Jose

open Codec (Base64Url.encode Base64Url.decode Base64Url.Fault)
open Json (Complaint)

/-- The bytes of a text. -/
def bytesOf (text : String) : List UInt8 := text.toUTF8.data.toList

namespace Token

/-- The payload segment of a token with exactly three segments. -/
def payloadSegment? (token : String) : Option String :=
  match Text.split '.' token with
  | [_, payload, _] => some payload
  | _ => none

/-- Why a token has no payload. -/
inductive PayloadFault where
  | segments
  | encoding (fault : Base64Url.Fault)
deriving DecidableEq

/-- The wording of a payload fault. -/
def PayloadFault.message : PayloadFault → String
  | .segments => "Token is not a compact JWS"
  | .encoding fault => "Invalid payload encoding: " ++ fault.message

/-- The payload of a token. -/
def payload (token : String) : Except PayloadFault (List UInt8) :=
  match payloadSegment? token with
  | none => .error .segments
  | some segment => (Base64Url.decode (bytesOf segment)).mapError .encoding

/-- The segments of a token as verification takes them: cut at the last two dots. -/
structure Segments where
  header : String
  payload : String
  signature : String
deriving DecidableEq

/-- The segments of a token with at least two dots. -/
def segments? (token : String) : Option Segments :=
  match (Text.split '.' token).reverse with
  | signature :: payload :: last :: before =>
    some ⟨Text.join "." (last :: before).reverse, payload, signature⟩
  | _ => none

/-- The text that is signed. -/
def Segments.message (segments : Segments) : String :=
  segments.header ++ "." ++ segments.payload

/-- Why a token does not verify with a key. -/
inductive Refusal where
  | invalidToken
  | invalidAlgorithm
  | invalidSignature
  | encoding (fault : Base64Url.Fault)
  | json (complaint : Complaint)
  | otherAlgorithm (declared : KeyAlgorithm) (used : Algorithm)
  | unusableKey (fault : Base64Url.Fault)
deriving DecidableEq

/-- The wording of a refusal. -/
def Refusal.message : Refusal → String
  | .invalidToken => "InvalidToken"
  | .invalidAlgorithm => "InvalidAlgorithm"
  | .invalidSignature => "InvalidSignature"
  | .encoding fault => "Base64 error: " ++ fault.message
  | .json complaint => "JSON error: " ++ complaint.message
  | .otherAlgorithm declared used =>
    "Key is for " ++ declared.label ++ ", token is signed with " ++ used.name
  | .unusableKey fault => "Unusable key: Base64 error: " ++ fault.message

/-- The header of a token. -/
def header (token : String) : Except Refusal Header :=
  match segments? token with
  | none => .error .invalidToken
  | some segments => do
    let bytes ← (Base64Url.decode (bytesOf segments.header)).mapError .encoding
    (Header.parse bytes).mapError .json

/-- The signature of a message with a shared secret. -/
def mac (digest : Digest.Function) (secret : List UInt8) (message : String) : String :=
  Base64Url.encode (Digest.hmac digest secret (bytesOf message))

/-- The signature segment fits the message, the key material and the algorithm. -/
def checkSignature (algorithm : Algorithm) (material : List UInt8) (segments : Segments) :
    Except Refusal Unit :=
  match algorithm.digest? with
  | some digest =>
    if segments.signature = mac digest material segments.message then .ok ()
    else .error .invalidSignature
  | none =>
    match Base64Url.decode (bytesOf segments.signature) with
    | .error fault => .error (.encoding fault)
    | .ok _ => .error .invalidSignature

/-- The payload segment holds JSON with readable registered claims. -/
def checkPayload (segments : Segments) : Except Refusal Unit := do
  let bytes ← (Base64Url.decode (bytesOf segments.payload)).mapError .encoding
  (RegisteredClaims.check bytes).mapError .json

/-- The key is declared for no algorithm or for the one used. -/
def checkDeclared (algorithm : Algorithm) (key : Key) : Except Refusal Unit :=
  match key.algorithm with
  | none => .ok ()
  | some declared =>
    if declared = .signature algorithm then .ok ()
    else .error (.otherAlgorithm declared algorithm)

/-- Verifies a token, whose header names an algorithm, with one key. -/
def verifyWith (algorithm : Algorithm) (segments : Segments) (key : Key) :
    Except Refusal Unit := do
  checkDeclared algorithm key
  let material ← key.bytes.mapError .unusableKey
  if key.material.family = algorithm.family then
    checkSignature algorithm material segments
    checkPayload segments
  else .error .invalidAlgorithm

/-- Why a token does not verify with a key set. -/
inductive VerificationFault where
  | header (refusal : Refusal)
  | noKey (id : Option String)
  | refused (last : Refusal)
deriving DecidableEq

/-- The wording of a verification fault. -/
def VerificationFault.message : VerificationFault → String
  | .header refusal => "Invalid JWS header: " ++ refusal.message
  | .noKey none => "No key matches kid None"
  | .noKey (some id) => "No key matches kid Some(" ++ Text.quote id ++ ")"
  | .refused last => "Signature verification failed: " ++ last.message

/-- The keys that a header selects: the first one with its identifier, or all. -/
def candidates (header : Header) (keys : KeySet) : List Key :=
  match header.keyId with
  | some id => (keys.find? id).toList
  | none => keys.keys

/-- Tries keys in turn until one verifies; otherwise the last refusal counts. -/
def verifyAny (algorithm : Algorithm) (segments : Segments) :
    Key → List Key → Except VerificationFault Unit
  | key, [] => (verifyWith algorithm segments key).mapError .refused
  | key, next :: rest =>
    match verifyWith algorithm segments key with
    | .ok () => .ok ()
    | .error _ => verifyAny algorithm segments next rest

/-- Verifies a token with a key set. -/
def verify (token : String) (keys : KeySet) : Except VerificationFault Unit :=
  match header token, segments? token with
  | .error refusal, _ => .error (.header refusal)
  | .ok _, none => .error (.header .invalidToken)
  | .ok header, some segments =>
    match candidates header keys with
    | [] => .error (.noKey header.keyId)
    | key :: rest => verifyAny header.algorithm segments key rest

/-- What a signer holds: a shared secret, the algorithm to name and the identifier of the
key. -/
structure Signer where
  secret : List UInt8
  algorithm : Algorithm
  keyId : Option String
deriving DecidableEq

/-- A signer with HS256. -/
def Signer.hmac (secret : List UInt8) (keyId : String) : Signer :=
  ⟨secret, .hs256, some keyId⟩

/-- The header of a signed token, with its members in their usual order. -/
def Signer.headerText (signer : Signer) (type : String) : String :=
  (Json.object (("typ", .text type) :: ("alg", .text signer.algorithm.name) ::
    Json.optionalMember "kid" .text signer.keyId)).compact

/-- Signs claims. A shared secret cannot be used with an algorithm of another family. -/
def Signer.sign (signer : Signer) (claims : Json) (type : String) : Except Refusal String :=
  match signer.algorithm.digest? with
  | none => .error .invalidAlgorithm
  | some digest =>
    let message := Base64Url.encode (bytesOf (signer.headerText type)) ++ "." ++
      Base64Url.encode (bytesOf claims.compact)
    .ok (message ++ "." ++ mac digest signer.secret message)

end Token

end TrustFederation.Jose
