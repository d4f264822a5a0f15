import TrustFederation.Jose.Algorithm
import TrustFederation.Json.Record
import TrustFederation.Codec.Base64Url
/-!
# Keys and key sets

A key is its material together with what is declared about it. The material stays in its
encoded form and is decoded only when the key is used, so a key set may hold unusable keys.
-/
namespace TrustFederation.Jose

/-- The curves that a key may name. -/
inductive Curve where
  | p256
  | p384
  | p521
  | ed25519
deriving DecidableEq

/-- All curves in their usual order. -/
def Curve.all : List Curve := [.p256, .p384, .p521, .ed25519]

/-- The name of a curve. -/
def Curve.name : Curve → String
  | .p256 => "P-256"
  | .p384 => "P-384"
  | .p521 => "P-521"
  | .ed25519 => "Ed25519"

/-- The curve of a name. -/
def Curve.ofName? (name : String) : Option Curve :=
  Curve.all.find? (·.name == name)

/-- The material of a key, in base64url. -/
inductive Material where
  | ec (curve : Curve) (x y : String)
  | rsa (modulus exponent : String)
  | secret (value : String)
  | okp (curve : Curve) (x : String)
deriving DecidableEq

/-- The family of keys with this material. -/
def Material.family : Material → Family
  | .ec .. => .ec
  | .rsa .. => .rsa
  | .secret _ => .hmac
  | .okp .. => .ed

/-- The encoded parts of the material in the order in which they are decoded. -/
def Material.parts : Material → List String
  | .ec _ x y => [x, y]
  | .rsa modulus exponent => [modulus, exponent]
  | .secret value => [value]
  | .okp _ x => [x]

/-- A key and what is declared about it. -/
structure Key where
  usage : Option String
  operations : Option (List String)
  algorithm : Option KeyAlgorithm
  id : Option String
  certificateUrl : Option String
  certificates : Option (List String)
  thumbprint : Option String
  thumbprint256 : Option String
  material : Material
deriving DecidableEq

/-- A list of keys. -/
structure KeySet where
  keys : List Key
deriving DecidableEq

/-- The first key with an identifier. -/
def KeySet.find? (keys : KeySet) (id : String) : Option Key :=
  keys.keys.find? (·.id == some id)

/-- The decoded material of a key, all parts one after the other. -/
def Key.bytes (key : Key) : Except Codec.Base64Url.Fault (List UInt8) := do
  let parts ← key.material.parts.mapM fun part => Codec.Base64Url.decode part.toUTF8.data.toList
  return parts.flatten

/-! ## Key sets as JSON -/

open Json (optionalMember)

/-- The members that hold the material. -/
def Material.members : Material → List (String × Json)
  | .ec curve x y =>
    [("kty", .text "EC"), ("crv", .text curve.name), ("x", .text x), ("y", .text y)]
  | .rsa modulus exponent => [("kty", .text "RSA"), ("n", .text modulus), ("e", .text exponent)]
  | .secret value => [("kty", .text "oct"), ("k", .text value)]
  | .okp curve x => [("kty", .text "OKP"), ("crv", .text curve.name), ("x", .text x)]

/-- A key as a JSON object. -/
def Key.toJson (key : Key) : Json :=
  .ofMembers (optionalMember "use" .text key.usage ++
    optionalMember "key_ops" .ofTexts key.operations ++
    optionalMember "alg" (fun declared => .text declared.name) key.algorithm ++
    optionalMember "kid" .text key.id ++
    optionalMember "x5u" .text key.certificateUrl ++
    optionalMember "x5c" .ofTexts key.certificates ++
    optionalMember "x5t" .text key.thumbprint ++
    optionalMember "x5t#S256" .text key.thumbprint256 ++
    key.material.members)

/-- A key set as a JSON object. -/
def KeySet.toJson (keys : KeySet) : Json :=
  .ofMembers [("keys", .array (keys.keys.map Key.toJson))]

/-! ## Reading key sets

The members of a key are collected before any of them is looked at. What is declared is read
first, in the order in which it is written; then the material is tried as each kind in turn. -/

open Json (Complaint Decoder Doc Fault Record)

/-- The document is null. -/
def isNull : Doc → Bool
  | .null => true
  | _ => false

/-- The document is null or an object without members. -/
def isVacant : Doc → Bool
  | .object [] none => true
  | doc => isNull doc

/-- Reads a choice between names: a text, or an object with the name as its only member and
a value that counts as none. -/
def readChoice {α : Type} (choose : String → Option α) (known : List String)
    (countsAsNone : Doc → Bool) : Doc → Except Complaint α
  | .string (.ok name) =>
    match choose name with
    | some chosen => .ok chosen
    | none => .error (.unknownVariant name known)
  | .object [(.ok name, value)] none =>
    match choose name with
    | some chosen =>
      if countsAsNone value then .ok chosen else .error (value.mismatch "unit")
    | none => .error (.unknownVariant name known)
  | .object _ _ => .error (.wrongValue .map "map with a single key")
  | doc => .error (doc.mismatch "string or map")

/-- The members of an object as they are written. -/
abbrev Members := List (Except Fault String × Doc)

/-- The document of a member that is given once. -/
def Members.only? (members : Members) (name : String) : Option Doc :=
  match members.filter fun member => member.1.toOption == some name with
  | [(_, doc)] => some doc
  | _ => none

/-- The text of a member that is given once. -/
def Members.text? (members : Members) (name : String) : Option String := do
  let doc ← members.only? name
  (Decoder.text Json.fullDepth doc).toOption

/-- The choice of a member that is given once. -/
def Members.choice? {α : Type} (members : Members) (name : String) (choose : String → Option α) :
    Option α := do
  let doc ← members.only? name
  (readChoice choose [] isNull doc).toOption

/-- The member `kty` names the type of key. -/
def Members.hasType (members : Members) (type : String) : Bool :=
  (members.choice? "kty" fun name => if name = type then some () else none).isSome

/-- The material of an elliptic curve key. -/
def Material.ec? (members : Members) : Option Material :=
  if members.hasType "EC" then do
    let curve ← members.choice? "crv" Curve.ofName?
    let x ← members.text? "x"
    let y ← members.text? "y"
    return .ec curve x y
  else none

/-- The material of an RSA key. -/
def Material.rsa? (members : Members) : Option Material :=
  if members.hasType "RSA" then do
    let modulus ← members.text? "n"
    let exponent ← members.text? "e"
    return .rsa modulus exponent
  else none

/-- The material of a shared secret. -/
def Material.secret? (members : Members) : Option Material :=
  if members.hasType "oct" then (members.text? "k").map .secret else none

/-- The material of an octet key pair. -/
def Material.okp? (members : Members) : Option Material :=
  if members.hasType "OKP" then do
    let curve ← members.choice? "crv" Curve.ofName?
    let x ← members.text? "x"
    return .okp curve x
  else none

/-- The material of a key: the first kind for which all members are there. -/
def Material.ofMembers? (members : Members) : Option Material :=
  Material.ec? members <|> Material.rsa? members <|> Material.secret? members <|>
    Material.okp? members

/-- The declarations of a key. -/
def Key.declarations : Record Key where
  title := "Jwk"
  blank := ⟨none, none, none, none, none, none, none, none, .secret ""⟩
  fields :=
    [.ofOption "use" Decoder.text fun key usage => { key with usage },
     .ofOption "key_ops" Decoder.texts
       fun key operations => { key with operations },
     .ofOption "alg"
       (fun _ => readChoice KeyAlgorithm.ofName? (KeyAlgorithm.all.map (·.name)) isVacant)
       fun key algorithm => { key with algorithm },
     .ofOption "kid" Decoder.text fun key id => { key with id },
     .ofOption "x5u" Decoder.text fun key certificateUrl => { key with certificateUrl },
     .ofOption "x5c" Decoder.texts
       fun key certificates => { key with certificates },
     .ofOption "x5t" Decoder.text fun key thumbprint => { key with thumbprint },
     .ofOption "x5t#S256" Decoder.text
       fun key thumbprint256 => { key with thumbprint256 }]

/-- Reads a key. -/
def Key.decode : Decoder Key
  | depth, .object members stop => do
    let inner ← Json.enter depth
    let _ ← Doc.memberValues inner members
    Json.closeObject stop
    let (_, key) ← Key.declarations.readMembers inner [] Key.declarations.blank members
    match Material.ofMembers? members with
    | some material => return { key with material }
    | none => .error (.noVariant "AlgorithmParameters")
  | _, doc => .error (doc.mismatch "struct Jwk")

/-- Key sets as records with one field. -/
def KeySet.record : Record KeySet where
  title := "JwkSet"
  blank := ⟨[]⟩
  fields := [.ofSetter "keys" .required (Decoder.list Key.decode) fun _ keys => ⟨keys⟩]

/-- Reads a key set. -/
def KeySet.decode : Decoder KeySet := KeySet.record.decode

/-- The key set that a text holds. -/
def KeySet.parse (text : String) : Except Complaint KeySet :=
  Json.decodeText KeySet.decode text.toUTF8.data.toList

end TrustFederation.Jose
