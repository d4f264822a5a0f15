import TrustFederation.Proofs.Codec.Misspelling
import TrustFederation.Proofs.Statement.Tokens
import TrustFederation.Proofs.Text.Splitting
/-!
# A payload has one spelling

A token has a payload exactly if it has two dots and the text between them is the encoding of the
payload, letter by letter. So tokens that differ in nothing but the spelling of the same payload do
not exist. Whether the payload is JSON, and what the other two parts hold, is not looked at.
-/
namespace TrustFederation.Jose.Token

open Codec (Base64Url.decode Base64Url.decode_ok_iff Base64Url.encode Base64Url.encode_ascii
  Base64Url.Misspelled Base64Url.misspelled_iff)

/-- A token is cut into three parts exactly if they have no dots and are joined by two. -/
theorem split_three_iff {token header segment signature : String} :
    Text.split '.' token = [header, segment, signature] ↔
      token = header ++ "." ++ segment ++ "." ++ signature ∧
        '.' ∉ header.toList ∧ '.' ∉ segment.toList ∧ '.' ∉ signature.toList := by
  constructor
  · intro cut
    have clean (part : String) (member : part ∈ [header, segment, signature]) :
        '.' ∉ part.toList := Text.not_mem_of_mem_split (cut ▸ member)
    have dotless := And.intro (clean header (by simp))
      (And.intro (clean segment (by simp)) (clean signature (by simp)))
    exact ⟨Text.eq_of_split_eq '.' (cut.trans (split_of_three dotless.1 dotless.2.1
      dotless.2.2).symm), dotless⟩
  · rintro ⟨rfl, one, two, three⟩
    exact split_of_three one two three

/-- A token without three parts has no payload segment. -/
theorem payload_segments_iff {token : String} :
    payload token = .error .segments ↔ token.toList.count '.' ≠ 2 := by
  have length := Text.length_split '.' token
  unfold payload payloadSegment?
  split
  case h_1 missing =>
    split at missing
    · cases missing
    case h_2 other =>
      refine ⟨fun _ two => ?_, fun _ => rfl⟩
      rw [two] at length
      obtain ⟨header, segment, signature, cut⟩ := List.length_eq_three.mp length
      exact other header segment signature cut
  case h_2 segment found =>
    split at found
    case h_1 header first signature cut =>
      rw [cut] at length
      simp only [List.length_cons, List.length_nil] at length
      constructor
      · intro impossible
        cases decoded : Base64Url.decode (bytesOf segment) <;> rw [decoded] at impossible <;>
          cases impossible
      · exact fun differs => absurd (by omega) differs
    · cases found

/-- The payload of a token with three parts is what the second one encodes. -/
theorem payload_of_split {token header segment signature : String}
    (cut : Text.split '.' token = [header, segment, signature]) :
    payload token = (Base64Url.decode (bytesOf segment)).mapError .encoding := by
  rw [payload, payloadSegment?, cut]

theorem payload_ok_iff {token : String} {bytes : List UInt8} :
    payload token = .ok bytes ↔ ∃ header signature,
      Text.split '.' token = [header, Base64Url.encode bytes, signature] := by
  constructor
  · intro taken
    have length := Text.length_split '.' token
    have dots : token.toList.count '.' = 2 := by
      by_contra other
      rw [payload_segments_iff.mpr other] at taken
      cases taken
    rw [dots] at length
    obtain ⟨header, segment, signature, cut⟩ := List.length_eq_three.mp length
    rw [payload_of_split cut, map_error_ok_iff] at taken
    exact ⟨header, signature, Base64Url.decode_ok_iff.mp taken ▸ cut⟩
  · rintro ⟨header, signature, cut⟩
    rw [payload_of_split cut, map_error_ok_iff]
    exact Base64Url.decode_ok_iff.mpr rfl

/-- The payload segment is refused exactly if it spells no bytes. -/
theorem payload_encoding_iff {token header segment signature : String}
    (cut : Text.split '.' token = [header, segment, signature]) :
    (∃ fault, payload token = .error (.encoding fault)) ↔ Base64Url.Misspelled segment := by
  rw [payload_of_split cut, Base64Url.misspelled_iff]
  cases decoded : Base64Url.decode (bytesOf segment) with
  | error fault =>
    refine ⟨fun _ bytes spelled => ?_, fun _ => ⟨fault, rfl⟩⟩
    rw [show Base64Url.decode (bytesOf segment) = .ok bytes from
      Base64Url.decode_ok_iff.mpr spelled] at decoded
    cases decoded
  | ok bytes =>
    refine ⟨?_, fun unspelled => absurd (Base64Url.decode_ok_iff.mp decoded) (unspelled bytes)⟩
    rintro ⟨fault, impossible⟩
    cases impossible

/-- A token has bytes as its payload exactly if it is a first and a last part without dots around
the encoding of the bytes. With the same parts around it, another token with this payload is the
same token. Otherwise a token does not have two dots, or the segment between them has padding or
another letter outside the alphabet, a single symbol too many or a bit too many in its last symbol;
then it is no statement, for the same reason. -/
theorem payload_exact (token : String) :
    (∀ bytes, payload token = .ok bytes ↔ ∃ header signature,
      '.' ∉ header.toList ∧ '.' ∉ signature.toList ∧
        token = header ++ "." ++ Base64Url.encode bytes ++ "." ++ signature) ∧
    (∀ other header first second signature bytes,
      Text.split '.' token = [header, first, signature] →
      Text.split '.' other = [header, second, signature] →
      payload token = .ok bytes → payload other = .ok bytes → token = other) ∧
    (payload token = .error .segments ↔ token.toList.count '.' ≠ 2) ∧
    (∀ header segment signature, Text.split '.' token = [header, segment, signature] →
      ((∃ fault, payload token = .error (.encoding fault)) ↔ Base64Url.Misspelled segment)) ∧
    (∀ fault, payload token = .error fault →
      Statement.ofTrimmed token = .error (.invalidStatement fault.message)) := by
  refine ⟨fun bytes => ?_, ?_, payload_segments_iff, fun header segment signature =>
    payload_encoding_iff, ?_⟩
  · have dotless : '.' ∉ (Base64Url.encode bytes).toList :=
      fun member => (Base64Url.encode_ascii bytes '.' member).2.1 rfl
    simp only [payload_ok_iff, split_three_iff]
    constructor
    · rintro ⟨header, signature, whole, one, -, three⟩
      exact ⟨header, signature, one, three, whole⟩
    · rintro ⟨header, signature, one, three, whole⟩
      exact ⟨header, signature, whole, one, dotless, three⟩
  · intro other header first second signature bytes cut also taken same
    rw [payload_of_split cut, map_error_ok_iff] at taken
    rw [payload_of_split also, map_error_ok_iff] at same
    obtain rfl := (Base64Url.decode_ok_iff.mp taken).trans (Base64Url.decode_ok_iff.mp same).symm
    exact Text.eq_of_split_eq '.' (cut.trans also.symm)
  · intro fault refused
    rw [Statement.ofTrimmed, refused]
    rfl

end TrustFederation.Jose.Token
