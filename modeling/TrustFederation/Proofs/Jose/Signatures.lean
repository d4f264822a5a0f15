import TrustFederation.Jose.Token
import TrustFederation.Proofs.Codec.Base64Url
/-!
# Tokens that a signer makes

A token that a signer makes has three parts without dots, of which the second one is the text of the
claims. There is no blank in it. Which keys verify it is not looked at here.
-/
namespace TrustFederation.Jose.Token

open Codec (Base64Url.decode Base64Url.decode_encode Base64Url.encode Base64Url.encode_ascii)

theorem decode_bytes_of_encode (bytes : List UInt8) :
    Base64Url.decode (bytesOf (Base64Url.encode bytes)) = .ok bytes :=
  Base64Url.decode_encode bytes

/-- Three parts without dots are what is between the dots when they are joined. -/
theorem split_of_three {first second third : String} (one : '.' ∉ first.toList)
    (two : '.' ∉ second.toList) (three : '.' ∉ third.toList) :
    Text.split '.' (first ++ "." ++ second ++ "." ++ third) = [first, second, third] := by
  have letters : (first ++ "." ++ second ++ "." ++ third).toList =
      first.toList ++ '.' :: (second.toList ++ '.' :: third.toList) := by
    simp [String.toList_append]
  rw [Text.split, letters, Text.splitOn_append_separator _ one,
    Text.splitOn_append_separator _ two, Text.splitOn_of_not_mem three]
  simp

variable {signer : Signer} {claims : Json} {type token : String}

/-- A token that a signer makes is put together from three parts in base64url. -/
theorem parts_of_sign (made : signer.sign claims type = .ok token) :
    ∃ digest, signer.algorithm.digest? = some digest ∧
      let header := Base64Url.encode (bytesOf (signer.headerText type))
      let payload := Base64Url.encode (bytesOf claims.compact)
      token = header ++ "." ++ payload ++ "." ++
        mac digest signer.secret (header ++ "." ++ payload) := by
  unfold Signer.sign at made
  cases found : signer.algorithm.digest? with
  | none =>
    simp only [found] at made
    cases made
  | some digest =>
    simp only [found] at made
    exact ⟨digest, rfl, (Except.ok.inj made).symm⟩

theorem split_of_sign (made : signer.sign claims type = .ok token) :
    ∃ digest, signer.algorithm.digest? = some digest ∧
      let header := Base64Url.encode (bytesOf (signer.headerText type))
      let payload := Base64Url.encode (bytesOf claims.compact)
      Text.split '.' token =
        [header, payload, mac digest signer.secret (header ++ "." ++ payload)] := by
  obtain ⟨digest, found, rfl⟩ := parts_of_sign made
  have dotless (bytes : List UInt8) : '.' ∉ (Base64Url.encode bytes).toList :=
    fun member => (Base64Url.encode_ascii bytes '.' member).2.1 rfl
  exact ⟨digest, found, split_of_three (dotless _) (dotless _) (dotless _)⟩

theorem segments_of_split {header payload signature : String}
    (parts : Text.split '.' token = [header, payload, signature]) :
    segments? token = some ⟨header, payload, signature⟩ := by
  rw [segments?, parts]
  rfl

/-- There are no blanks in a token that a signer makes. -/
theorem clean_of_sign (made : signer.sign claims type = .ok token) :
    ∀ letter ∈ token.toList, Text.isBlank letter = false := by
  obtain ⟨digest, -, rfl⟩ := parts_of_sign made
  have clean (bytes : List UInt8) (letter : Char)
      (member : letter ∈ (Base64Url.encode bytes).toList) : Text.isBlank letter = false :=
    (Base64Url.encode_ascii bytes letter member).2.2
  have dot (letter : Char) (member : letter ∈ ".".toList) : Text.isBlank letter = false := by
    rw [show ".".toList = ['.'] from rfl, List.mem_singleton] at member
    rw [member]
    decide
  intro letter member
  simp only [String.toList_append, List.mem_append] at member
  rcases member with (((header | first) | payload) | second) | code
  · exact clean _ letter header
  · exact dot letter first
  · exact clean _ letter payload
  · exact dot letter second
  · exact clean _ letter code

theorem trim_of_sign (made : signer.sign claims type = .ok token) : Text.trim token = token := by
  rw [Text.trim, Text.stripList_of_clean (clean_of_sign made), String.ofList_toList]

/-- The payload of a token that a signer makes is the text of the claims. -/
theorem payload_of_sign (made : signer.sign claims type = .ok token) :
    payload token = .ok (bytesOf claims.compact) := by
  obtain ⟨digest, -, parts⟩ := split_of_sign made
  simp only [payload, payloadSegment?, parts, decode_bytes_of_encode]
  rfl

end TrustFederation.Jose.Token
