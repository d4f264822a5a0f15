import TrustFederation.Proofs.Codec.Base64Url
import TrustFederation.Proofs.Outcomes
/-!
# Bytes have one spelling

A text that decodes is the encoding of the bytes that it decodes to. No padding, no symbol of
another alphabet and no bits beyond the last byte get through, so two texts for the same bytes are
the same text. In which order the faults of a text are found is not looked at here.
-/
namespace TrustFederation.Codec.Base64Url

/-- A byte that has a number is the symbol of this number. -/
theorem symbol_byte_of_value {byte : UInt8} {value : Nat} (known : value? byte = some value) :
    value < 64 ∧ symbolByte value = byte := by
  have every : ∀ code : Fin 256, ∀ value ∈ value? (UInt8.ofNat code),
      value < 64 ∧ symbolByte value = UInt8.ofNat code := by decide +kernel
  have spelled := every ⟨byte.toNat, byte.toNat_lt⟩
  rw [UInt8.ofNat_toNat] at spelled
  exact spelled value known

/-- What is read at an offset is the number of the symbol there. -/
theorem spelled_of_value_at {offset : Nat} {byte : UInt8} {value : Nat}
    (read : valueAt offset byte = .ok value) : value < 64 ∧ symbolByte value = byte := by
  unfold valueAt at read
  cases known : value? byte with
  | none =>
    rw [known] at read
    cases read
  | some found =>
    rw [known] at read
    cases read
    exact symbol_byte_of_value known

/-! ## The last group -/

/-- Behind padding no symbol is read any more. -/
theorem last_values_of_padded {offset index first : Nat} {group : List UInt8} {values : List Nat}
    {padded : Bool} (read : lastValues offset index (some first) group = .ok (values, padded)) :
    values = [] ∧ padded = true := by
  induction group generalizing index with
  | nil =>
    cases read
    exact ⟨rfl, rfl⟩
  | cons byte rest ih =>
    rw [lastValues] at read
    split at read
    · split at read
      · cases read
      · exact ih read
    · cases read

/-- The symbols of the last group spell the numbers that are read. With padding there are fewer
numbers than bytes. -/
theorem last_values_spelled {offset index : Nat} {group : List UInt8} {values : List Nat}
    {padded : Bool} (read : lastValues offset index none group = .ok (values, padded)) :
    (padded = false → group = values.map symbolByte ∧ ∀ value ∈ values, value < 64) ∧
      (padded = true → values.length < group.length) := by
  induction group generalizing index values padded with
  | nil =>
    cases read
    simp
  | cons byte rest ih =>
    rw [lastValues] at read
    split at read
    case isTrue pads =>
      split at read
      · cases read
      · obtain ⟨rfl, rfl⟩ := last_values_of_padded read
        simp
    case isFalse symbol =>
      cases here : valueAt (offset + index) byte with
      | error fault =>
        rw [here] at read
        cases read
      | ok value =>
        cases later : lastValues offset (index + 1) none rest with
        | error fault =>
          rw [here, later] at read
          cases read
        | ok found =>
          rw [here, later] at read
          cases read
          obtain ⟨small, spelled⟩ := spelled_of_value_at here
          obtain ⟨clean, fewer⟩ := ih later
          constructor
          · intro unpadded
            obtain ⟨rest_spelled, rest_small⟩ := clean unpadded
            refine ⟨?_, List.forall_mem_cons.mpr ⟨small, rest_small⟩⟩
            rw [List.map_cons, spelled, ← rest_spelled]
          · intro pads
            exact Nat.succ_lt_succ (fewer pads)

/-- Four numbers from a last group leave no room for padding, nor for a fifth one. -/
theorem last_values_full {offset index a b c d : Nat} {group : List UInt8} {more : List Nat}
    {padded : Bool} (short : group.length ≤ 4)
    (read : lastValues offset index none group = .ok (a :: b :: c :: d :: more, padded)) :
    padded = false ∧ more = [] := by
  obtain ⟨clean, fewer⟩ := last_values_spelled read
  have unpadded : padded = false := by
    rw [Bool.eq_false_iff]
    intro pads
    have room := fewer pads
    simp only [List.length_cons] at room
    omega
  refine ⟨unpadded, ?_⟩
  rw [(clean unpadded).1, List.length_map] at short
  simp only [List.length_cons] at short
  exact List.length_eq_zero_iff.mp (by omega)

/-- A number of eight bits is not changed by making it a byte. -/
theorem to_nat_of_small {value : Nat} (small : value < 256) : (UInt8.ofNat value).toNat = value :=
  UInt8.toNat_ofNat_of_lt' small

/-- Four numbers stand for the three bytes that are made of them. -/
theorem sextets_octets {a b c d : Nat} (one : a < 64) (two : b < 64) (three : c < 64)
    (four : d < 64) (rest : List UInt8) :
    sextets (octets a b c d ++ rest) = a :: b :: c :: d :: sextets rest := by
  have first : (UInt8.ofNat (a * 4 + b / 16)).toNat = a * 4 + b / 16 := to_nat_of_small (by omega)
  have second : (UInt8.ofNat (b % 16 * 16 + c / 4)).toNat = b % 16 * 16 + c / 4 :=
    to_nat_of_small (by omega)
  have third : (UInt8.ofNat (c % 4 * 64 + d)).toNat = c % 4 * 64 + d := to_nat_of_small (by omega)
  simp only [octets, List.cons_append, List.nil_append, sextets, first, second, third]
  rw [show (a * 4 + b / 16) / 4 = a by omega,
    show (a * 4 + b / 16) % 4 * 16 + (b % 16 * 16 + c / 4) / 16 = b by omega,
    show (b % 16 * 16 + c / 4) % 16 * 4 + (c % 4 * 64 + d) / 64 = c by omega,
    show (c % 4 * 64 + d) % 64 = d by omega]

/-- Two numbers without further bits stand for the byte that is made of them. -/
theorem sextets_one {a b : Nat} (one : a < 64) (two : b < 64) (clear : b % 16 = 0) :
    sextets [UInt8.ofNat (a * 4 + b / 16)] = [a, b] := by
  have first : (UInt8.ofNat (a * 4 + b / 16)).toNat = a * 4 + b / 16 := to_nat_of_small (by omega)
  simp only [sextets, first]
  rw [show (a * 4 + b / 16) / 4 = a by omega, show (a * 4 + b / 16) % 4 * 16 = b by omega]

/-- Three numbers without further bits stand for the two bytes that are made of them. -/
theorem sextets_two {a b c : Nat} (one : a < 64) (two : b < 64) (three : c < 64)
    (clear : c % 4 = 0) :
    sextets [UInt8.ofNat (a * 4 + b / 16), UInt8.ofNat (b % 16 * 16 + c / 4)] = [a, b, c] := by
  have first : (UInt8.ofNat (a * 4 + b / 16)).toNat = a * 4 + b / 16 := to_nat_of_small (by omega)
  have second : (UInt8.ofNat (b % 16 * 16 + c / 4)).toNat = b % 16 * 16 + c / 4 :=
    to_nat_of_small (by omega)
  simp only [sextets, first, second]
  rw [show (a * 4 + b / 16) / 4 = a by omega,
    show (a * 4 + b / 16) % 4 * 16 + (b % 16 * 16 + c / 4) / 16 = b by omega,
    show (b % 16 * 16 + c / 4) % 16 * 4 = c by omega]

/-- A last group spells the bytes that it decodes to. -/
theorem last_spelled {offset : Nat} {group bytes : List UInt8} (short : group.length ≤ 4)
    (decoded : decodeLast offset group = .ok bytes) : group = (sextets bytes).map symbolByte := by
  unfold decodeLast at decoded
  cases read : lastValues offset 0 none group with
  | error fault =>
    rw [read] at decoded
    cases decoded
  | ok found =>
    obtain ⟨values, padded⟩ := found
    obtain ⟨clean, fewer⟩ := last_values_spelled read
    rw [read] at decoded
    simp only [bind, Except.bind] at decoded
    split at decoded
    case h_1 | h_2 =>
      split at decoded
      case isTrue empty =>
        cases decoded
        exact List.isEmpty_iff.mp empty
      · cases decoded
    case h_3 a b =>
      split at decoded
      · cases decoded
      case isFalse unpadded =>
        split at decoded
        · cases decoded
        case isFalse clear =>
          cases decoded
          obtain ⟨spelled, small⟩ := clean (Bool.eq_false_iff.mpr unpadded)
          rw [spelled, sextets_one (small a (by simp)) (small b (by simp))
            (Decidable.not_not.mp clear)]
    case h_4 a b c =>
      split at decoded
      · cases decoded
      case isFalse unpadded =>
        split at decoded
        · cases decoded
        case isFalse clear =>
          cases decoded
          obtain ⟨spelled, small⟩ := clean (Bool.eq_false_iff.mpr unpadded)
          rw [spelled, sextets_two (small a (by simp)) (small b (by simp)) (small c (by simp))
            (Decidable.not_not.mp clear)]
    case h_5 a b c d more =>
      cases decoded
      obtain ⟨rfl, rfl⟩ := last_values_full short read
      obtain ⟨spelled, small⟩ := clean rfl
      have four := sextets_octets (small a (by simp)) (small b (by simp)) (small c (by simp))
        (small d (by simp)) []
      rw [List.append_nil] at four
      rw [spelled, four]
      rfl

/-! ## Whole texts -/

/-- A text spells the bytes that it decodes to.

Proof: induction over the groups of four symbols. -/
theorem spelled_of_decode_from {offset : Nat} {text bytes : List UInt8}
    (decoded : decodeFrom offset text = .ok bytes) : text = (sextets bytes).map symbolByte := by
  induction offset, text using decodeFrom.induct generalizing bytes with
  | case1 offset a b c d next rest ih =>
    rw [decodeFrom] at decoded
    obtain ⟨first, here, decoded⟩ := bind_ok_iff.mp decoded
    obtain ⟨second, after, decoded⟩ := bind_ok_iff.mp decoded
    obtain ⟨third, further, decoded⟩ := bind_ok_iff.mp decoded
    obtain ⟨fourth, last, decoded⟩ := bind_ok_iff.mp decoded
    obtain ⟨later, remaining, decoded⟩ := bind_ok_iff.mp decoded
    cases decoded
    obtain ⟨one, rfl⟩ := spelled_of_value_at here
    obtain ⟨two, rfl⟩ := spelled_of_value_at after
    obtain ⟨three, rfl⟩ := spelled_of_value_at further
    obtain ⟨four, rfl⟩ := spelled_of_value_at last
    rw [sextets_octets one two three four, ih remaining]
    rfl
  | case2 offset group short =>
    have few : group.length ≤ 4 := by
      rcases group with _ | ⟨a, _ | ⟨b, _ | ⟨c, _ | ⟨d, _ | ⟨next, rest⟩⟩⟩⟩⟩
      case cons.cons.cons.cons.cons => exact absurd rfl (short a b c d next rest)
      all_goals simp
    rw [decodeFrom] at decoded
    · exact last_spelled few decoded
    · exact short

/-- A text decodes to bytes exactly if it is their encoding. -/
theorem decode_ok_iff {text : String} {bytes : List UInt8} :
    decode text.toUTF8.data.toList = .ok bytes ↔ text = encode bytes := by
  constructor
  · intro decoded
    unfold decode at decoded
    split at decoded
    · cases decoded
    · have spelled := spelled_of_decode_from decoded
      rw [← utf8_of_encode] at spelled
      exact String.toByteArray_inj.mp (ByteArray.ext (Array.toList_inj.mp spelled))
  · rintro rfl
    exact decode_encode bytes

end TrustFederation.Codec.Base64Url
