/-!
# The SHA-2 family

SHA-256, SHA-384 and SHA-512 run the same rounds over words of 32 or 64 bits; they differ
in the amounts of the rotations, the round constants and the first state. A message is
followed by one set bit, zeros and its length in bits, so that it fills whole blocks of
sixteen words; each block changes the state by one run of the rounds.
-/
namespace TrustFederation.Digest

/-- The eight words that a message is condensed into. -/
structure Registers (width : Nat) where
  a : BitVec width
  b : BitVec width
  c : BitVec width
  d : BitVec width
  e : BitVec width
  f : BitVec width
  g : BitVec width
  h : BitVec width
deriving DecidableEq

/-- Three amounts by which a word is rotated or shifted to the right. -/
structure Amounts where
  first : Nat
  second : Nat
  third : Nat

/-- What the members of the family with one word size have in common. -/
structure Rounds (width : Nat) where
  constants : List (BitVec width)
  spreadA : Amounts
  spreadE : Amounts
  mixOld : Amounts
  mixNew : Amounts

/-- The sum without carries of three rotations. -/
def spread {width : Nat} (amounts : Amounts) (x : BitVec width) : BitVec width :=
  x.rotateRight amounts.first ^^^ x.rotateRight amounts.second ^^^ x.rotateRight amounts.third

/-- The sum without carries of two rotations and a shift. -/
def mix {width : Nat} (amounts : Amounts) (x : BitVec width) : BitVec width :=
  x.rotateRight amounts.first ^^^ x.rotateRight amounts.second ^^^ (x >>> amounts.third)

/-- The words of a block, newest first, with `count` more words made from them. -/
def extend {width : Nat} (rounds : Rounds width) :
    Nat → List (BitVec width) → List (BitVec width)
  | 0, words => words
  | count + 1, words =>
    extend rounds count
      ((mix rounds.mixNew (words.getD 1 0) + words.getD 6 0 +
        mix rounds.mixOld (words.getD 14 0) + words.getD 15 0) :: words)

/-- One round with a round constant and a word of the block. -/
def Registers.step {width : Nat} (rounds : Rounds width) (r : Registers width)
    (input : BitVec width × BitVec width) : Registers width :=
  let chosen := (r.e &&& r.f) ^^^ (~~~r.e &&& r.g)
  let majority := (r.a &&& r.b) ^^^ (r.a &&& r.c) ^^^ (r.b &&& r.c)
  let first := r.h + spread rounds.spreadE r.e + chosen + input.1 + input.2
  let second := spread rounds.spreadA r.a + majority
  { a := first + second, b := r.a, c := r.b, d := r.c
    e := r.d + first, f := r.e, g := r.f, h := r.g }

/-- Register by register addition. -/
def Registers.add {width : Nat} (left right : Registers width) : Registers width :=
  { a := left.a + right.a, b := left.b + right.b, c := left.c + right.c, d := left.d + right.d
    e := left.e + right.e, f := left.f + right.f, g := left.g + right.g, h := left.h + right.h }

/-- The state after a block of sixteen words, given newest first. -/
def Registers.absorb {width : Nat} (rounds : Rounds width) (r : Registers width)
    (block : List (BitVec width)) : Registers width :=
  let words := (extend rounds (rounds.constants.length - 16) block).reverse
  ((rounds.constants.zip words).foldl (Registers.step rounds) r).add r

/-- The registers in order. -/
def Registers.toList {width : Nat} (r : Registers width) : List (BitVec width) :=
  [r.a, r.b, r.c, r.d, r.e, r.f, r.g, r.h]

/-- The lowest `count` bytes of a number, the highest first. -/
def bigEndian : Nat → Nat → List UInt8
  | 0, _ => []
  | count + 1, value => bigEndian count (value / 256) ++ [UInt8.ofNat value]

/-- The number whose bytes are given, the highest first. -/
def ofBigEndian (bytes : List UInt8) : Nat :=
  bytes.foldl (fun value byte => value * 256 + byte.toNat) 0

/-- A message followed by one set bit, zeros and its length in two words. -/
def padded (wordBytes : Nat) (message : List UInt8) : List UInt8 :=
  let block := 16 * wordBytes
  let used := (message.length + 1 + 2 * wordBytes) % block
  message ++ 0x80 :: List.replicate ((block - used) % block) 0 ++
    bigEndian (2 * wordBytes) (8 * message.length)

/-- The members of a list in groups of `size`, each group with its last member first.
`group` is the group being filled and `room` the number of places left in it; members
that do not fill a group are left out. -/
def groupsFrom {α : Type} (size : Nat) (group : List α) (room : Nat) : List α → List (List α)
  | [] => []
  | member :: rest =>
    if room ≤ 1 then (member :: group) :: groupsFrom size [] size rest
    else groupsFrom size (member :: group) (room - 1) rest

/-- The digest of a message from a first state. -/
def digest {width : Nat} (rounds : Rounds width) (initial : Registers width)
    (message : List UInt8) : List UInt8 :=
  let wordBytes := width / 8
  let words := (groupsFrom wordBytes [] wordBytes (padded wordBytes message)).map
    fun bytes => BitVec.ofNat width (ofBigEndian bytes.reverse)
  let final := (groupsFrom 16 [] 16 words).foldl (Registers.absorb rounds) initial
  final.toList.flatMap fun word => bigEndian wordBytes word.toNat

/-- The rounds over words of 32 bits. -/
def rounds32 : Rounds 32 where
  constants :=
  [0x428A2F98, 0x71374491, 0xB5C0FBCF, 0xE9B5DBA5, 0x3956C25B, 0x59F111F1, 0x923F82A4, 0xAB1C5ED5,
   0xD807AA98, 0x12835B01, 0x243185BE, 0x550C7DC3, 0x72BE5D74, 0x80DEB1FE, 0x9BDC06A7, 0xC19BF174,
   0xE49B69C1, 0xEFBE4786, 0x0FC19DC6, 0x240CA1CC, 0x2DE92C6F, 0x4A7484AA, 0x5CB0A9DC, 0x76F988DA,
   0x983E5152, 0xA831C66D, 0xB00327C8, 0xBF597FC7, 0xC6E00BF3, 0xD5A79147, 0x06CA6351, 0x14292967,
   0x27B70A85, 0x2E1B2138, 0x4D2C6DFC, 0x53380D13, 0x650A7354, 0x766A0ABB, 0x81C2C92E, 0x92722C85,
   0xA2BFE8A1, 0xA81A664B, 0xC24B8B70, 0xC76C51A3, 0xD192E819, 0xD6990624, 0xF40E3585, 0x106AA070,
   0x19A4C116, 0x1E376C08, 0x2748774C, 0x34B0BCB5, 0x391C0CB3, 0x4ED8AA4A, 0x5B9CCA4F, 0x682E6FF3,
   0x748F82EE, 0x78A5636F, 0x84C87814, 0x8CC70208, 0x90BEFFFA, 0xA4506CEB, 0xBEF9A3F7, 0xC67178F2]
  spreadA := ⟨2, 13, 22⟩
  spreadE := ⟨6, 11, 25⟩
  mixOld := ⟨7, 18, 3⟩
  mixNew := ⟨17, 19, 10⟩

/-- The rounds over words of 64 bits. -/
def rounds64 : Rounds 64 where
  constants :=
  [0x428A2F98D728AE22, 0x7137449123EF65CD, 0xB5C0FBCFEC4D3B2F, 0xE9B5DBA58189DBBC,
   0x3956C25BF348B538, 0x59F111F1B605D019, 0x923F82A4AF194F9B, 0xAB1C5ED5DA6D8118,
   0xD807AA98A3030242, 0x12835B0145706FBE, 0x243185BE4EE4B28C, 0x550C7DC3D5FFB4E2,
   0x72BE5D74F27B896F, 0x80DEB1FE3B1696B1, 0x9BDC06A725C71235, 0xC19BF174CF692694,
   0xE49B69C19EF14AD2, 0xEFBE4786384F25E3, 0x0FC19DC68B8CD5B5, 0x240CA1CC77AC9C65,
   0x2DE92C6F592B0275, 0x4A7484AA6EA6E483, 0x5CB0A9DCBD41FBD4, 0x76F988DA831153B5,
   0x983E5152EE66DFAB, 0xA831C66D2DB43210, 0xB00327C898FB213F, 0xBF597FC7BEEF0EE4,
   0xC6E00BF33DA88FC2, 0xD5A79147930AA725, 0x06CA6351E003826F, 0x142929670A0E6E70,
   0x27B70A8546D22FFC, 0x2E1B21385C26C926, 0x4D2C6DFC5AC42AED, 0x53380D139D95B3DF,
   0x650A73548BAF63DE, 0x766A0ABB3C77B2A8, 0x81C2C92E47EDAEE6, 0x92722C851482353B,
   0xA2BFE8A14CF10364, 0xA81A664BBC423001, 0xC24B8B70D0F89791, 0xC76C51A30654BE30,
   0xD192E819D6EF5218, 0xD69906245565A910, 0xF40E35855771202A, 0x106AA07032BBD1B8,
   0x19A4C116B8D2D0C8, 0x1E376C085141AB53, 0x2748774CDF8EEB99, 0x34B0BCB5E19B48A8,
   0x391C0CB3C5C95A63, 0x4ED8AA4AE3418ACB, 0x5B9CCA4F7763E373, 0x682E6FF3D6B2B8A3,
   0x748F82EE5DEFB2FC, 0x78A5636F43172F60, 0x84C87814A1F0AB72, 0x8CC702081A6439EC,
   0x90BEFFFA23631E28, 0xA4506CEBDE82BDE9, 0xBEF9A3F7B2C67915, 0xC67178F2E372532B,
   0xCA273ECEEA26619C, 0xD186B8C721C0C207, 0xEADA7DD6CDE0EB1E, 0xF57D4F7FEE6ED178,
   0x06F067AA72176FBA, 0x0A637DC5A2C898A6, 0x113F9804BEF90DAE, 0x1B710B35131C471B,
   0x28DB77F523047D84, 0x32CAAB7B40C72493, 0x3C9EBE0A15C9BEBC, 0x431D67C49C100D4C,
   0x4CC5D4BECB3E42B6, 0x597F299CFC657E2A, 0x5FCB6FAB3AD6FAEC, 0x6C44198C4A475817]
  spreadA := ⟨28, 34, 39⟩
  spreadE := ⟨14, 18, 41⟩
  mixOld := ⟨1, 8, 7⟩
  mixNew := ⟨19, 61, 6⟩

/-- SHA-256: 32 bytes. -/
def sha256 (message : List UInt8) : List UInt8 :=
  digest rounds32
    ⟨0x6A09E667, 0xBB67AE85, 0x3C6EF372, 0xA54FF53A, 0x510E527F, 0x9B05688C,
      0x1F83D9AB, 0x5BE0CD19⟩ message

/-- SHA-512: 64 bytes. -/
def sha512 (message : List UInt8) : List UInt8 :=
  digest rounds64
    ⟨0x6A09E667F3BCC908, 0xBB67AE8584CAA73B, 0x3C6EF372FE94F82B, 0xA54FF53A5F1D36F1,
      0x510E527FADE682D1, 0x9B05688C2B3E6C1F, 0x1F83D9ABFB41BD6B, 0x5BE0CD19137E2179⟩ message

/-- SHA-384: the first 48 bytes of a run of SHA-512 from a state of its own. -/
def sha384 (message : List UInt8) : List UInt8 :=
  let whole := digest rounds64
    ⟨0xCBBB9D5DC1059ED8, 0x629A292A367CD507, 0x9159015A3070DD17, 0x152FECD8F70E5939,
      0x67332667FFC00B31, 0x8EB44A8768581511, 0xDB0C2E0D64F98FA7, 0x47B5481DBEFA4FA4⟩ message
  whole.take 48

example : (sha256 []).take 4 = [0xE3, 0xB0, 0xC4, 0x42] := by decide +kernel
example : (sha384 []).take 4 = [0x38, 0xB0, 0x60, 0xA7] := by decide +kernel
example : (sha512 []).take 4 = [0xCF, 0x83, 0xE1, 0x35] := by decide +kernel

end TrustFederation.Digest
