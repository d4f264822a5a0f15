import TrustFederation.Proofs.Text.Bytes
import TrustFederation.Text.Blank
/-!
# Encoded bytes decode to themselves

The encoding writes three bytes as four symbols, and the decoding reads four symbols at a time.
It reads the last group differently, because padding is allowed to stand there as far as the
first check goes.
-/
namespace TrustFederation.Codec.Base64Url

/-- The byte of the symbol of a number below 64. -/
def symbolByte (value : Nat) : UInt8 := UInt8.ofNat (symbol value).toNat

theorem value_of_symbol_byte {value : Nat} (small : value < 64) :
    value? (symbolByte value) = some value := value?_symbol small

theorem symbol_byte_ne_pad {value : Nat} (small : value < 64) : symbolByte value ≠ pad := by
  intro same
  have known := value_of_symbol_byte small
  rw [same] at known
  cases known

theorem value_at_symbol_byte {value : Nat} (small : value < 64) (offset : Nat) :
    valueAt offset (symbolByte value) = .ok value := by
  rw [valueAt, value_of_symbol_byte small]

/-- The numbers that stand for bytes are below 64. -/
theorem sextets_small (bytes : List UInt8) : ∀ value ∈ sextets bytes, value < 64 := by
  induction bytes using sextets.induct with
  | case1 => simp [sextets]
  | case2 a =>
    have first := a.toNat_lt
    intro value member
    simp only [sextets, List.mem_cons, List.not_mem_nil, or_false] at member
    omega
  | case3 a b =>
    have first := a.toNat_lt
    have second := b.toNat_lt
    intro value member
    simp only [sextets, List.mem_cons, List.not_mem_nil, or_false] at member
    omega
  | case4 a b c rest ih =>
    have first := a.toNat_lt
    have second := b.toNat_lt
    have third := c.toNat_lt
    intro value member
    simp only [sextets, List.mem_cons] at member
    rcases member with rfl | rfl | rfl | rfl | later
    · omega
    · omega
    · omega
    · omega
    · exact ih value later

theorem sextets_cons (byte : UInt8) (rest : List UInt8) :
    ∃ value others, sextets (byte :: rest) = value :: others := by
  match rest with
  | [] => exact ⟨_, _, rfl⟩
  | [_] => exact ⟨_, _, rfl⟩
  | _ :: _ :: _ => exact ⟨_, _, rfl⟩

theorem last_values_symbol_bytes (offset index : Nat) (values : List Nat)
    (small : ∀ value ∈ values, value < 64) :
    lastValues offset index none (values.map symbolByte) = .ok (values, false) := by
  induction values generalizing index with
  | nil => rfl
  | cons value rest ih =>
    have fits := small value List.mem_cons_self
    have others := ih (index + 1) fun other member => small other (List.mem_cons_of_mem _ member)
    simp only [List.map_cons, lastValues, if_neg (symbol_byte_ne_pad fits),
      value_at_symbol_byte fits, others]
    rfl

/-- A byte is put together again from the upper and the lower part of it. -/
theorem of_nat_parts (byte : UInt8) {size : Nat} {upper lower : Nat}
    (parts : upper * size + lower = byte.toNat) : UInt8.ofNat (upper * size + lower) = byte := by
  rw [parts, UInt8.ofNat_toNat]

theorem octets_of_bytes (a b c : UInt8) :
    octets (a.toNat / 4) (a.toNat % 4 * 16 + b.toNat / 16) (b.toNat % 16 * 4 + c.toNat / 64)
      (c.toNat % 64) = [a, b, c] := by
  have first := a.toNat_lt
  have second := b.toNat_lt
  have third := c.toNat_lt
  rw [octets, of_nat_parts a (by omega), of_nat_parts b (by omega), of_nat_parts c (by omega)]

/-- The last group of an encoding, which stands for at most three bytes, decodes to them. -/
theorem decode_last_sextets (offset : Nat) (bytes : List UInt8) (short : bytes.length ≤ 3) :
    decodeLast offset ((sextets bytes).map symbolByte) = .ok bytes := by
  rw [decodeLast, last_values_symbol_bytes offset 0 _ (sextets_small bytes)]
  match bytes, short with
  | [], _ => rfl
  | [a], _ =>
    have first := a.toNat_lt
    have clear : a.toNat % 4 * 16 % 16 = 0 := by omega
    simp only [sextets, clear, ne_eq, not_true_eq_false, if_false, bind, Except.bind]
    rw [of_nat_parts a (by omega)]
    rfl
  | [a, b], _ =>
    have first := a.toNat_lt
    have second := b.toNat_lt
    have clear : b.toNat % 16 * 4 % 4 = 0 := by omega
    simp only [sextets, clear, ne_eq, not_true_eq_false, if_false, bind, Except.bind]
    rw [of_nat_parts a (by omega), of_nat_parts b (by omega)]
    rfl
  | [a, b, c], _ =>
    simp only [sextets, bind, Except.bind]
    rw [octets_of_bytes]

/-- Four symbols are read in full when more follow. -/
theorem decode_from_sextets (offset : Nat) (bytes : List UInt8) :
    decodeFrom offset ((sextets bytes).map symbolByte) = .ok bytes := by
  induction bytes using sextets.induct generalizing offset with
  | case1 => exact decode_last_sextets offset [] (by decide)
  | case2 a => exact decode_last_sextets offset [a] (by simp)
  | case3 a b => exact decode_last_sextets offset [a, b] (by simp)
  | case4 a b c rest ih =>
    cases rest with
    | nil => exact decode_last_sextets offset [a, b, c] (by simp)
    | cons d others =>
      obtain ⟨next, more, later⟩ := sextets_cons d others
      have small := sextets_small (a :: b :: c :: d :: others)
      simp only [sextets, List.mem_cons] at small
      have tail := ih (offset + 4)
      rw [later, List.map_cons] at tail
      simp only [sextets, later, List.map_cons, decodeFrom,
        value_at_symbol_byte (small _ (.inl rfl)),
        value_at_symbol_byte (small _ (.inr (.inl rfl))),
        value_at_symbol_byte (small _ (.inr (.inr (.inl rfl)))),
        value_at_symbol_byte (small _ (.inr (.inr (.inr (.inl rfl))))), tail, bind, Except.bind]
      rw [octets_of_bytes]
      rfl

theorem stray_end_symbol_bytes {values : List Nat} (small : ∀ value ∈ values, value < 64) :
    strayEnd? (values.map symbolByte) = none := by
  unfold strayEnd?
  rw [List.getLast?_map]
  cases last : values.getLast? with
  | none => rfl
  | some value =>
    have known := value_of_symbol_byte (small value (List.mem_of_getLast? last))
    simp [known]

/-! ## The text of an encoding -/

theorem symbol_ascii {value : Nat} (small : value < 64) :
    (symbol value).toNat < 128 ∧ symbol value ≠ '.' ∧ Text.isBlank (symbol value) = false := by
  have every : ∀ number : Fin 64, (symbol number).toNat < 128 ∧ symbol number ≠ '.' ∧
      Text.isBlank (symbol number) = false := by decide +kernel
  exact every ⟨value, small⟩

/-- Every character of an encoding is an ASCII character, neither a dot nor blank. -/
theorem encode_ascii (bytes : List UInt8) : ∀ letter ∈ (encode bytes).toList,
    letter.toNat < 128 ∧ letter ≠ '.' ∧ Text.isBlank letter = false := by
  intro letter member
  rw [encode, String.toList_ofList] at member
  obtain ⟨value, among, rfl⟩ := List.mem_map.mp member
  exact symbol_ascii (sextets_small bytes value among)

theorem utf8_of_ascii {letters : List Char} (ascii : ∀ letter ∈ letters, letter.toNat < 128) :
    (String.ofList letters).toUTF8.data.toList =
      letters.map fun letter => UInt8.ofNat letter.toNat := by
  refine (Jose.bytes_of_list letters).trans ?_
  induction letters with
  | nil => rfl
  | cons letter rest ih =>
    rw [List.flatMap_cons, Jose.bytes_of_ascii (ascii letter List.mem_cons_self), List.map_cons,
      ih fun other member => ascii other (List.mem_cons_of_mem _ member), List.singleton_append]

/-- The bytes of the text of an encoding are the symbols of its numbers. -/
theorem utf8_of_encode (bytes : List UInt8) :
    (encode bytes).toUTF8.data.toList = (sextets bytes).map symbolByte := by
  have ascii : ∀ letter ∈ (sextets bytes).map symbol, letter.toNat < 128 := by
    intro letter member
    exact (encode_ascii bytes letter (by rwa [encode, String.toList_ofList])).1
  rw [encode, utf8_of_ascii ascii, List.map_map]
  rfl

/-- Decoding the text of an encoding gives the bytes again. -/
theorem decode_encode (bytes : List UInt8) :
    decode (encode bytes).toUTF8.data.toList = .ok bytes := by
  rw [decode, utf8_of_encode, stray_end_symbol_bytes (sextets_small bytes)]
  exact decode_from_sextets 0 bytes

/-- Bytes with one encoding are the same. -/
theorem eq_of_encode_eq {bytes others : List UInt8} (same : encode bytes = encode others) :
    bytes = others := by
  have decoded := decode_encode bytes
  rw [same, decode_encode others] at decoded
  exact (Except.ok.inj decoded).symm

end TrustFederation.Codec.Base64Url
