import TrustFederation.Codec.Percent
import TrustFederation.Proofs.Codec.Base64Url
import TrustFederation.Proofs.Text.Bytes
/-!
# Encoded parameters decode to themselves

A parameter is read back byte by byte from its written form, and its bytes are a text again. No
written form holds one of the marks that a query is put together with.
-/
namespace TrustFederation.Codec.Percent

/-- A byte that stands for itself is an ASCII character other than the percent sign and the marks of a
query. -/
theorem plain_letter {byte : UInt8} (plain : isPlain byte = true) :
    (Char.ofNat byte.toNat).toNat = byte.toNat ∧ byte.toNat < 128 ∧
      Char.ofNat byte.toNat ∉ ['%', '&', '='] := by
  have every : ∀ code : Fin 256, isPlain (UInt8.ofNat code) = true →
      (Char.ofNat code).toNat = code.val ∧ code.val < 128 ∧ Char.ofNat code ∉ ['%', '&', '='] := by
    decide +kernel
  have found := every ⟨byte.toNat, byte.toNat_lt⟩
  rw [UInt8.ofNat_toNat] at found
  exact found plain

/-- A digit is no mark of a query. -/
theorem hex_digit_unmarked {value : Nat} (small : value < 16) :
    capitalHexDigit value ≠ '&' ∧ capitalHexDigit value ≠ '=' := by
  have every : ∀ digit : Fin 16, capitalHexDigit digit ≠ '&' ∧ capitalHexDigit digit ≠ '=' := by
    decide
  exact every ⟨value, small⟩

/-- The written form of a byte holds neither mark of a query. -/
theorem encode_byte_unmarked (byte : UInt8) : ∀ letter ∈ encodeByte byte,
    letter ≠ '&' ∧ letter ≠ '=' := by
  intro letter member
  unfold encodeByte at member
  split at member
  case isTrue plain =>
    obtain ⟨-, -, others⟩ := plain_letter plain
    simp only [List.mem_cons, List.not_mem_nil, or_false, not_or] at others
    rw [List.mem_singleton.mp member]
    exact others.2
  case isFalse =>
    have below := byte.toNat_lt
    simp only [List.mem_cons, List.not_mem_nil, or_false] at member
    rcases member with rfl | rfl | rfl
    · decide
    · exact hex_digit_unmarked (by omega)
    · exact hex_digit_unmarked (by omega)

/-- The written form of a text holds neither mark of a query. -/
theorem encode_unmarked (text : String) : ∀ letter ∈ (encode text).toList,
    letter ≠ '&' ∧ letter ≠ '=' := by
  intro letter member
  rw [encode, String.toList_ofList] at member
  obtain ⟨byte, -, among⟩ := List.mem_flatMap.mp member
  exact encode_byte_unmarked byte letter among

/-- A byte is read back from its written form, whatever follows. -/
theorem decode_bytes_encode_byte (byte : UInt8) (rest : List Char) :
    decodeBytes (encodeByte byte ++ rest) = (decodeBytes rest).map (byte :: ·) := by
  unfold encodeByte
  split
  case isTrue plain =>
    obtain ⟨code, ascii, other⟩ := plain_letter plain
    have kept : (Char.ofNat byte.toNat).toNat < 128 ∧
        isPlain (UInt8.ofNat (Char.ofNat byte.toNat).toNat) = true := by
      rw [code, UInt8.ofNat_toNat]
      exact ⟨ascii, plain⟩
    rw [List.singleton_append, decodeBytes, if_pos kept, code, UInt8.ofNat_toNat]
    rintro high low more same
    exact absurd (same ▸ List.mem_cons_self) other
  case isFalse =>
    have below := byte.toNat_lt
    simp only [List.cons_append, List.nil_append, decodeBytes,
      hexValue?_capitalHexDigit (show byte.toNat / 16 < 16 by omega),
      hexValue?_capitalHexDigit (show byte.toNat % 16 < 16 by omega)]
    have whole : UInt8.ofNat (byte.toNat / 16 * 16 + byte.toNat % 16) = byte :=
      Base64Url.of_nat_parts byte (by omega)
    cases decodeBytes rest with
    | none => rfl
    | some bytes => exact congrArg (fun first => some (first :: bytes)) whole

theorem decode_bytes_encode (bytes : List UInt8) :
    decodeBytes (bytes.flatMap encodeByte) = some bytes := by
  induction bytes with
  | nil => rfl
  | cons byte rest ih =>
    rw [List.flatMap_cons, decode_bytes_encode_byte, ih, Option.map_some]

/-- A text is read back from its written form. -/
theorem decode_encode (text : String) : decode (encode text) = some text := by
  rw [decode, encode, String.toList_ofList, decode_bytes_encode]
  exact Jose.text_of_bytes text

end TrustFederation.Codec.Percent
