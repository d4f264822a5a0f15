import TrustFederation.Json.Doc
import TrustFederation.Json.Printer
import TrustFederation.Proofs.Codec.Base64Url
/-!
# Integers are read as they were written

An integer is written with a minus sign if it is negative and with its decimal digits, of which the
first is not zero unless it is the only one. Where no more of a number follows, these digits are all
that is read, and they make the integer again, as long as it has 64 bits. Doubles are not looked at.
-/
namespace TrustFederation.Json

open Jose (bytesOf bytes_of_append)

/-- A text does not go on with a number that ended before it. -/
def EndsNumber : List UInt8 → Prop
  | [] => True
  | byte :: _ => isDigit byte = false ∧ byte ≠ 46 ∧ byte ≠ 101 ∧ byte ≠ 69

/-! ## Digits -/

/-- The digits of a natural number. -/
def digitsOf (value : Nat) : List Nat := (Nat.toDigits 10 value).map fun digit => digit.toNat - 48

/-- The digits of a number make it again. -/
theorem of_digits_digits_of (value : Nat) : ofDigits (digitsOf value) = value := by
  have digits : Nat.ofDigitChars 10 (Nat.toDigits 10 value) 0 = value :=
    Nat.ofDigitChars_ten_toDigits
  rw [Nat.ofDigitChars_eq_foldl] at digits
  rw [ofDigits, digitsOf, List.foldl_map]
  refine Eq.trans ?_ digits
  simp only [Nat.mul_comm]
  rfl

/-- A positive number does not begin with a zero. -/
theorem leading_digit {value : Nat} (positive : 0 < value) :
    ∃ first rest, digitsOf value = first :: rest ∧ first ≠ 0 := by
  induction value using Nat.strongRecOn with
  | ind value ih =>
    unfold digitsOf at ih ⊢
    rw [Nat.toDigits_eq_if (by decide)]
    split
    case isTrue small =>
      have itself := Nat.toNat_digitChar_sub_48_of_lt_ten small
      exact ⟨_, [], congrArg (fun digit => [digit]) itself, Nat.ne_of_gt positive⟩
    case isFalse large =>
      obtain ⟨first, rest, same, nonzero⟩ :=
        ih (value / 10) (Nat.div_lt_self positive (by decide)) (by omega)
      refine ⟨first, rest ++ [(value % 10).digitChar.toNat - 48], ?_, nonzero⟩
      rw [List.map_append, same]
      rfl

theorem digit_code {value : Nat} {digit : Char} (member : digit ∈ Nat.toDigits 10 value) :
    48 ≤ digit.toNat ∧ digit.toNat ≤ 57 := by
  have decimal := Nat.isDigit_of_mem_toDigits (by decide) (by decide) member
  simp only [Char.isDigit, Bool.and_eq_true, decide_eq_true_eq, ge_iff_le,
    UInt32.le_iff_toNat_le] at decimal
  exact decimal

/-- The bytes of the digits of a number. -/
theorem bytes_of_nat (value : Nat) :
    bytesOf (toString value) =
      (Nat.toDigits 10 value).map fun digit => UInt8.ofNat digit.toNat := by
  rw [Nat.toString_eq_ofList_toDigits]
  refine Codec.Base64Url.utf8_of_ascii fun digit member => ?_
  have code := digit_code member
  omega

theorem is_digit_of_mem {value : Nat} {byte : UInt8} (member : byte ∈ bytesOf (toString value)) :
    isDigit byte = true := by
  rw [bytes_of_nat] at member
  obtain ⟨digit, among, rfl⟩ := List.mem_map.mp member
  have code := digit_code among
  simp only [isDigit, Bool.and_eq_true, decide_eq_true_eq, UInt8.le_iff_toNat_le,
    UInt8.toNat_ofNat_of_lt' (show digit.toNat < 256 by omega), UInt8.reduceToNat]
  exact code

/-- What is written for a number begins with a digit. -/
theorem first_digit (value : Nat) :
    ∃ first more, bytesOf (toString value) = first :: more ∧ isDigit first = true := by
  cases written : bytesOf (toString value) with
  | nil =>
    rw [bytes_of_nat, List.map_eq_nil_iff] at written
    exact absurd written Nat.toDigits_ne_nil
  | cons first more =>
    exact ⟨first, more, rfl, is_digit_of_mem (written ▸ List.mem_cons_self)⟩

/-- All digits of a number are taken, and nothing behind them. -/
theorem take_digits_written (value : Nat) {rest : List UInt8} (ends : EndsNumber rest) :
    takeDigits (bytesOf (toString value) ++ rest) = (digitsOf value, rest) := by
  have digits : ∀ byte ∈ bytesOf (toString value), isDigit byte = true :=
    fun byte => is_digit_of_mem
  have none_left : rest.takeWhile isDigit = [] ∧ rest.dropWhile isDigit = rest := by
    cases rest with
    | nil => exact ⟨rfl, rfl⟩
    | cons byte more => simp [ends.1]
  rw [takeDigits, List.takeWhile_append_of_pos digits, List.dropWhile_append_of_pos digits,
    none_left.1, none_left.2, List.append_nil, bytes_of_nat, List.map_map, digitsOf]
  refine congrArg (fun digits => (digits, rest)) (List.map_congr_left fun digit member => ?_)
  have code := digit_code member
  exact congrArg (· - 48) (UInt8.toNat_ofNat_of_lt' (show digit.toNat < 256 by omega))

/-! ## Numerals -/

theorem scan_whole_written (value : Nat) {rest : List UInt8} (ends : EndsNumber rest) :
    scanWhole (bytesOf (toString value) ++ rest) = .ok (digitsOf value, rest) := by
  rw [scanWhole, take_digits_written value ends]
  rcases Nat.eq_zero_or_pos value with rfl | positive
  · rfl
  · obtain ⟨first, others, same, nonzero⟩ := leading_digit positive
    rw [same]
    split
    · rename_i impossible
      cases impossible
    · rename_i impossible
      cases impossible
      exact absurd rfl nonzero
    · rename_i whole
      cases whole
      rfl

theorem scan_fraction_absent {rest : List UInt8} (ends : EndsNumber rest) :
    scanFraction rest = .ok (none, rest) := by
  unfold scanFraction
  split
  · exact absurd rfl ends.2.1
  · rfl

theorem scan_exponent_absent {rest : List UInt8} (ends : EndsNumber rest) :
    scanExponent rest = .ok (none, rest) := by
  cases rest with
  | nil => rfl
  | cons mark more => exact if_neg (by simp [ends.2.2.1, ends.2.2.2])

/-- The numeral of an integer. -/
def numeralOf (value : Int) : Numeral := ⟨decide (value < 0), digitsOf value.natAbs, none, none⟩

/-- What is written for an integer: its digits, behind a minus sign if it is negative. -/
theorem bytes_of_int (value : Int) :
    bytesOf (toString value) =
      (if value < 0 then [45] else []) ++ bytesOf (toString value.natAbs) := by
  cases value with
  | ofNat number => rfl
  | negSucc number =>
    rw [if_pos (Int.negSucc_lt_zero number)]
    exact bytes_of_append "-" (Nat.repr (number + 1))

theorem scan_numeral_written (value : Int) {rest : List UInt8} (ends : EndsNumber rest) :
    scanNumeral (bytesOf (toString value) ++ rest) = .ok (numeralOf value, rest) := by
  have whole := scan_whole_written value.natAbs ends
  have fraction := scan_fraction_absent ends
  have exponent := scan_exponent_absent ends
  rw [bytes_of_int]
  by_cases negative : value < 0
  · rw [if_pos negative, List.append_assoc, List.singleton_append, scanNumeral]
    simp only [whole, fraction, exponent, bind, Except.bind, numeralOf, negative]
    rfl
  · obtain ⟨first, more, same, digit⟩ := first_digit value.natAbs
    have unsigned : first ≠ 45 := by
      rintro rfl
      cases digit
    rw [same, List.cons_append] at whole
    rw [if_neg negative, List.nil_append, same, List.cons_append, scanNumeral]
    simp only [whole, fraction, exponent, bind, Except.bind, numeralOf, negative]
    · rfl
    · intro later signed
      exact unsigned (List.cons.inj signed).1

/-- An integer of 64 bits, with or without sign. -/
def Fits (value : Int) : Prop := Word.leastSigned ≤ value ∧ value ≤ Word.largest

theorem value_of_numeral {value : Int} (fits : Fits value) :
    (numeralOf value).value = .ok (.integer value) := by
  have digits := of_digits_digits_of value.natAbs
  unfold Fits Word.leastSigned at fits
  simp only [Numeral.value, numeralOf, digits, Option.isSome_none, Bool.or_self, Bool.false_eq_true,
    if_false, decide_eq_true_eq]
  by_cases negative : value < 0
  · have back : -(value.natAbs : Int) = value := by omega
    rw [if_pos negative, back, if_pos ⟨by omega, fits.1⟩]
  · have back : (value.natAbs : Int) = value := by omega
    rw [if_neg negative, if_pos (by omega), back]

/-- An integer of 64 bits is read as it was written, and what follows it is left. -/
theorem of_numeral_written {value : Int} (fits : Fits value) {rest : List UInt8}
    (ends : EndsNumber rest) :
    Doc.ofNumeral (bytesOf (toString value) ++ rest) =
      (.number (.ok (.integer value)), some rest) := by
  rw [Doc.ofNumeral, scan_numeral_written value ends]
  exact congrArg (fun number => (Doc.number number, some rest)) (value_of_numeral fits)

end TrustFederation.Json
