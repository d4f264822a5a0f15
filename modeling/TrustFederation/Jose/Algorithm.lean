import TrustFederation.Digest.Hmac
/-!
# Signature algorithms

The algorithms that a token may name, with the family of keys that each one needs. Keys may
be declared for one of them or for an encryption algorithm, with which nothing here works.
-/
namespace TrustFederation.Jose

/-- The algorithms of signatures. -/
inductive Algorithm where
  | hs256
  | hs384
  | hs512
  | es256
  | es384
  | rs256
  | rs384
  | rs512
  | ps256
  | ps384
  | ps512
  | edDsa
deriving DecidableEq

/-- The families of keys. -/
inductive Family where
  | hmac
  | rsa
  | ec
  | ed
deriving DecidableEq

namespace Algorithm

/-- All algorithms in their usual order. -/
def all : List Algorithm :=
  [.hs256, .hs384, .hs512, .es256, .es384, .rs256, .rs384, .rs512, .ps256, .ps384, .ps512, .edDsa]

/-- The name of an algorithm in tokens and keys. -/
def name : Algorithm → String
  | .hs256 => "HS256"
  | .hs384 => "HS384"
  | .hs512 => "HS512"
  | .es256 => "ES256"
  | .es384 => "ES384"
  | .rs256 => "RS256"
  | .rs384 => "RS384"
  | .rs512 => "RS512"
  | .ps256 => "PS256"
  | .ps384 => "PS384"
  | .ps512 => "PS512"
  | .edDsa => "EdDSA"

/-- The algorithm of a name. -/
def ofName? (name : String) : Option Algorithm :=
  all.find? (·.name == name)

/-- The family of keys that an algorithm needs. -/
def family : Algorithm → Family
  | .hs256 | .hs384 | .hs512 => .hmac
  | .es256 | .es384 => .ec
  | .rs256 | .rs384 | .rs512 | .ps256 | .ps384 | .ps512 => .rsa
  | .edDsa => .ed

/-- The digest of an algorithm that signs with a shared secret. -/
def digest? : Algorithm → Option Digest.Function
  | .hs256 => some .sha256
  | .hs384 => some .sha384
  | .hs512 => some .sha512
  | _ => none

/-- A name is read as the algorithm it belongs to. -/
theorem ofName?_name (algorithm : Algorithm) : ofName? algorithm.name = some algorithm := by
  cases algorithm <;> decide

theorem name_injective {left right : Algorithm} (same : left.name = right.name) :
    left = right := by
  have both := congrArg ofName? same
  simpa [ofName?_name] using both

theorem digest?_isSome_iff {algorithm : Algorithm} :
    algorithm.digest?.isSome ↔ algorithm.family = .hmac := by
  cases algorithm <;> decide

end Algorithm

/-- What a key may be declared for. -/
inductive KeyAlgorithm where
  | signature (algorithm : Algorithm)
  | rsa15
  | rsaOaep
  | rsaOaep256
deriving DecidableEq

namespace KeyAlgorithm

/-- All declarations in their usual order. -/
def all : List KeyAlgorithm :=
  Algorithm.all.map .signature ++ [.rsa15, .rsaOaep, .rsaOaep256]

/-- The name of a declaration in key sets. -/
def name : KeyAlgorithm → String
  | .signature algorithm => algorithm.name
  | .rsa15 => "RSA1_5"
  | .rsaOaep => "RSA-OAEP"
  | .rsaOaep256 => "RSA-OAEP-256"

/-- The name of a declaration in messages. -/
def label : KeyAlgorithm → String
  | .signature algorithm => algorithm.name
  | .rsa15 => "RSA1_5"
  | .rsaOaep => "RSA_OAEP"
  | .rsaOaep256 => "RSA_OAEP_256"

/-- The declaration of a name. -/
def ofName? (name : String) : Option KeyAlgorithm :=
  all.find? (·.name == name)

/-- A name is read as the declaration it belongs to. -/
theorem ofName?_name (declared : KeyAlgorithm) : ofName? declared.name = some declared := by
  rcases declared with algorithm | _ | _ | _
  · cases algorithm <;> decide
  all_goals decide

end KeyAlgorithm

end TrustFederation.Jose
