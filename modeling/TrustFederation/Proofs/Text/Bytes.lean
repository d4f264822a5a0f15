import TrustFederation.Jose.Token
/-!
# Texts as bytes

The bytes of a text are those of its letters, one letter after the other, and they are read as this
text again. A letter of ASCII is one byte with its own number; every other letter has only bytes
beyond ASCII.
-/
namespace TrustFederation.Jose

theorem bytes_of_list (letters : List Char) :
    bytesOf (String.ofList letters) = letters.flatMap String.utf8EncodeChar := by
  show (String.ofList letters).toByteArray.data.toList = _
  rw [String.toByteArray_ofList, List.utf8Encode, List.toList_data_toByteArray]

theorem bytes_of_append (text rest : String) :
    bytesOf (text ++ rest) = bytesOf text ++ bytesOf rest := by
  show (text ++ rest).toByteArray.data.toList = _
  rw [String.toByteArray_append, ByteArray.data_append, Array.toList_append]
  rfl

/-- The bytes of a text are read as this text. -/
theorem text_of_bytes (text : String) : String.fromUTF8? ⟨(bytesOf text).toArray⟩ = some text :=
  dif_pos text.isValidUTF8

/-- A letter of ASCII is one byte. -/
theorem bytes_of_ascii {letter : Char} (ascii : letter.toNat < 128) :
    String.utf8EncodeChar letter = [UInt8.ofNat letter.toNat] := by
  unfold String.utf8EncodeChar
  exact if_pos (show letter.toNat ≤ 127 by omega)

/-- A byte with the upper bit and something below it. -/
theorem high_byte (number : Nat) {size base : Nat} (positive : 0 < size) (high : 128 ≤ base)
    (room : size + base ≤ 256) : 128 ≤ (UInt8.ofNat (number % size + base)).toNat := by
  have below := Nat.mod_lt number positive
  rw [UInt8.toNat_ofNat_of_lt' (show number % size + base < 256 by omega)]
  omega

/-- The bytes of a letter beyond ASCII are beyond ASCII. -/
theorem bytes_beyond_ascii {letter : Char} (beyond : 128 ≤ letter.toNat) :
    ∀ byte ∈ String.utf8EncodeChar letter, 128 ≤ byte.toNat := by
  intro byte member
  unfold String.utf8EncodeChar at member
  replace member := (if_neg (show ¬ letter.toNat ≤ 127 by omega)) ▸ member
  split at member
  · simp only [List.mem_cons, List.not_mem_nil, or_false] at member
    rcases member with rfl | rfl <;> exact high_byte _ (by decide) (by decide) (by decide)
  · split at member
    · simp only [List.mem_cons, List.not_mem_nil, or_false] at member
      rcases member with rfl | rfl | rfl <;>
        exact high_byte _ (by decide) (by decide) (by decide)
    · simp only [List.mem_cons, List.not_mem_nil, or_false] at member
      rcases member with rfl | rfl | rfl | rfl <;>
        exact high_byte _ (by decide) (by decide) (by decide)

end TrustFederation.Jose
