import TrustFederation.Digest.Sha2
/-!
# Keyed digests

A keyed digest hides a key of one block in two digests, one inside the other. A longer key
is condensed first, a shorter one is filled up with zeros.
-/
namespace TrustFederation.Digest

/-- A digest function together with the size of its blocks in bytes. -/
structure Function where
  blockBytes : Nat
  run : List UInt8 → List UInt8

/-- SHA-256 with its blocks. -/
def Function.sha256 : Function := ⟨64, Digest.sha256⟩

/-- SHA-384 with its blocks. -/
def Function.sha384 : Function := ⟨128, Digest.sha384⟩

/-- SHA-512 with its blocks. -/
def Function.sha512 : Function := ⟨128, Digest.sha512⟩

/-- A key made to fill one block. -/
def Function.blockKey (function : Function) (key : List UInt8) : List UInt8 :=
  let short := if function.blockBytes < key.length then function.run key else key
  short ++ List.replicate (function.blockBytes - short.length) 0

/-- The keyed digest of a message. -/
def hmac (function : Function) (key message : List UInt8) : List UInt8 :=
  let block := function.blockKey key
  let inner := function.run (block.map (· ^^^ 0x36) ++ message)
  function.run (block.map (· ^^^ 0x5C) ++ inner)

end TrustFederation.Digest
