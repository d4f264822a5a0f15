import TrustFederation.Json.Doc
import TrustFederation.Json.Printer
import TrustFederation.Proofs.Text.Bytes
/-!
# Strings are read as they were written

Inside a string, a letter stands for itself or is written with a backslash. Both ways to pass over a
string agree on where it ends, and the one that reads it finds the bytes of the letters, so a written
string is read as its text, whatever follows.
-/
namespace TrustFederation.Json

open Jose (bytesOf bytes_beyond_ascii bytes_of_append bytes_of_ascii bytes_of_list text_of_bytes)

/-- Written bytes stand for some bytes: they are skipped as a whole, and read as these bytes. -/
structure StandsFor (written bytes : List UInt8) : Prop where
  skipped : ∀ rest, skipString (written ++ rest) = skipString rest
  read : ∀ before rest,
    stringBytes before (written ++ rest) = stringBytes (bytes.reverse ++ before) rest

namespace StandsFor

theorem nil : StandsFor [] [] := ⟨fun _ => rfl, fun _ _ => rfl⟩

theorem append {written bytes more others : List UInt8} (first : StandsFor written bytes)
    (second : StandsFor more others) : StandsFor (written ++ more) (bytes ++ others) := by
  constructor
  · intro rest
    rw [List.append_assoc, first.skipped, second.skipped]
  · intro before rest
    rw [List.append_assoc, first.read, second.read, List.reverse_append, List.append_assoc]

/-- Bytes that are neither a quote nor a backslash nor a control stand for themselves. -/
theorem plain {bytes : List UInt8}
    (clean : ∀ byte ∈ bytes, byte ≠ 34 ∧ byte ≠ 92 ∧ ¬ byte < 32) : StandsFor bytes bytes := by
  induction bytes with
  | nil => exact nil
  | cons byte rest ih =>
    obtain ⟨quote, backslash, control⟩ := clean byte List.mem_cons_self
    have single : StandsFor [byte] [byte] := by
      constructor
      · intro more
        rw [List.singleton_append, skipString.eq_def]
        simp only [quote, backslash, control, if_false]
      · intro before more
        rw [List.singleton_append, stringBytes.eq_def]
        simp only [quote, backslash, control, if_false, List.reverse_singleton,
          List.singleton_append]
    exact single.append (ih fun other member => clean other (List.mem_cons_of_mem _ member))

/-- A backslash and a letter that is short for a byte. -/
theorem short {kind byte : UInt8} (other : kind ≠ 117) (known : shortEscape? kind = some byte) :
    StandsFor [92, kind] [byte] := by
  constructor
  · intro rest
    rw [List.cons_append, List.singleton_append, skipString.eq_def]
    simp [other, known]
  · intro before rest
    rw [List.cons_append, List.singleton_append, stringBytes.eq_def]
    simp [other, known]

/-- A backslash and four hexadecimal digits of an ASCII letter. -/
theorem hex {a b c d : UInt8} {code : Nat} (ascii : code < 128)
    (known : hexEscape? a b c d = some code) :
    StandsFor [92, 117, a, b, c, d] [UInt8.ofNat code] := by
  have number : (Char.ofNat code).toNat = code := by
    have every : ∀ code : Fin 128, (Char.ofNat code).toNat = code.val := by decide
    exact every ⟨code, ascii⟩
  have encoded : String.utf8EncodeChar (Char.ofNat code) = [UInt8.ofNat code] := by
    rw [bytes_of_ascii (by omega), number]
  constructor
  · intro rest
    rw [skipString.eq_def]
    simp [known]
  · intro before rest
    rw [stringBytes.eq_def]
    simp [known, encoded, show code < 55296 by omega]

/-! ## Letters -/

/-- The bytes are a backslash with what stands behind it for a letter of ASCII. -/
def escapes (code : Nat) : List UInt8 → Bool
  | [92, kind] => kind != 117 && shortEscape? kind == some (UInt8.ofNat code)
  | [92, 117, a, b, c, d] => hexEscape? a b c d == some code
  | _ => false

theorem of_escapes {code : Nat} {written : List UInt8} (ascii : code < 128)
    (escaped : escapes code written = true) : StandsFor written [UInt8.ofNat code] := by
  unfold escapes at escaped
  split at escaped
  · simp only [Bool.and_eq_true, bne_iff_ne, beq_iff_eq] at escaped
    exact short escaped.1 escaped.2
  · exact hex ascii (beq_iff_eq.mp escaped)
  · cases escaped

/-- A letter as it stands in a string stands for its bytes. -/
theorem letter (letter : Char) :
    StandsFor ((escapeChar letter).flatMap String.utf8EncodeChar)
      (String.utf8EncodeChar letter) := by
  by_cases ascii : letter.toNat < 128
  · have every : ∀ code : Fin 128, let letter := Char.ofNat code
        (escapeChar letter = [letter] ∧ code.val ≠ 34 ∧ code.val ≠ 92 ∧ 32 ≤ code.val) ∨
          escapes code ((escapeChar letter).flatMap String.utf8EncodeChar) = true := by
      decide +kernel
    have found : (escapeChar letter = [letter] ∧ letter.toNat ≠ 34 ∧ letter.toNat ≠ 92 ∧
        32 ≤ letter.toNat) ∨
          escapes letter.toNat ((escapeChar letter).flatMap String.utf8EncodeChar) = true := by
      have known := every ⟨letter.toNat, ascii⟩
      rwa [Char.ofNat_toNat] at known
    rw [bytes_of_ascii ascii]
    rcases found with ⟨itself, quote, backslash, control⟩ | escaped
    · rw [itself, List.flatMap_singleton, bytes_of_ascii ascii]
      refine plain fun byte member => ?_
      have code : byte.toNat = letter.toNat := by
        rw [List.mem_singleton.mp member]
        exact UInt8.toNat_ofNat_of_lt' (show letter.toNat < 256 by omega)
      simp only [ne_eq, ← UInt8.toNat_inj, UInt8.lt_iff_toNat_lt, code, UInt8.reduceToNat]
      omega
    · exact of_escapes ascii escaped
  · have itself : escapeChar letter = [letter] := by
      unfold escapeChar
      split
      case h_8 => exact if_neg (by omega)
      all_goals exact absurd (by decide) ascii
    rw [itself, List.flatMap_singleton]
    refine plain fun byte member => ?_
    have beyond := bytes_beyond_ascii (Nat.le_of_not_lt ascii) byte member
    simp only [ne_eq, ← UInt8.toNat_inj, UInt8.lt_iff_toNat_lt, UInt8.reduceToNat]
    omega

/-- Letters as they stand in a string stand for their bytes. -/
theorem letters (letters : List Char) :
    StandsFor ((letters.flatMap escapeChar).flatMap String.utf8EncodeChar)
      (letters.flatMap String.utf8EncodeChar) := by
  induction letters with
  | nil => exact nil
  | cons first rest ih =>
    rw [List.flatMap_cons, List.flatMap_append, List.flatMap_cons]
    exact (letter first).append ih

end StandsFor

/-! ## Strings -/

/-- The bytes of a written string: those of its letters between two quotes. -/
theorem bytes_of_string_text (text : String) :
    bytesOf (stringText text) =
      34 :: ((text.toList.flatMap escapeChar).flatMap String.utf8EncodeChar ++ [34]) := by
  rw [stringText, bytes_of_list, List.cons_append, List.flatMap_cons, List.flatMap_append]
  rfl

/-- What stands behind the first quote of a written string is read as its text, and what follows the
string is left. -/
theorem of_string_written (text : String) (rest : List UInt8) :
    Doc.ofString ((text.toList.flatMap escapeChar).flatMap String.utf8EncodeChar ++ 34 :: rest) =
      (.string (.ok text), some rest) := by
  have stands := StandsFor.letters text.toList
  have bytes : text.toList.flatMap String.utf8EncodeChar = bytesOf text := by
    rw [← bytes_of_list, String.ofList_toList]
  have read : readString
      ((text.toList.flatMap escapeChar).flatMap String.utf8EncodeChar ++ 34 :: rest) = .ok text := by
    rw [readString, stands.read, stringBytes.eq_def, bytes]
    simp only [if_true, List.append_nil, List.reverse_reverse, bind, Except.bind, text_of_bytes]
  rw [Doc.ofString, stands.skipped, skipString.eq_def]
  simp only [if_true, read]

end TrustFederation.Json
