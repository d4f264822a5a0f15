import Mathlib.Tactic.ByContra
import TrustFederation.Proofs.Codec.Spelling
/-!
# Which texts spell no bytes

The numbers below 64 that stand for bytes come in groups of four. The last group may have two or
three of them, never one, and then its last number holds nothing beyond the last byte. These are all
the lists of numbers that stand for bytes, so a text spells none exactly if it has a letter outside
the alphabet, a single symbol too many or a bit too many in its last symbol.
-/
namespace TrustFederation.Codec.Base64Url

/-! ## Numbers -/

/-- Numbers in groups of four, where a last group of two or three holds nothing beyond its bytes. -/
structure Grouped (values : List Nat) : Prop where
  small : ∀ value ∈ values, value < 64
  single : values.length % 4 ≠ 1
  pair : values.length % 4 = 2 → ∀ last, values.getLast? = some last → last % 16 = 0
  triple : values.length % 4 = 3 → ∀ last, values.getLast? = some last → last % 4 = 0

/-- Four numbers in front change nothing about the last group. -/
theorem grouped_cons_iff {a b c d : Nat} {rest : List Nat} :
    Grouped (a :: b :: c :: d :: rest) ↔
      (a < 64 ∧ b < 64 ∧ c < 64 ∧ d < 64) ∧ Grouped rest := by
  have length : (a :: b :: c :: d :: rest).length % 4 = rest.length % 4 := by
    simp only [List.length_cons]
    omega
  have last (count : Nat) (some_left : rest.length % 4 = count + 1) :
      (a :: b :: c :: d :: rest).getLast? = rest.getLast? := by
    cases rest with
    | nil => cases some_left
    | cons first others => simp [List.getLast?_cons_cons]
  have below : (∀ value ∈ a :: b :: c :: d :: rest, value < 64) ↔
      (a < 64 ∧ b < 64 ∧ c < 64 ∧ d < 64) ∧ ∀ value ∈ rest, value < 64 := by
    simp only [List.forall_mem_cons, and_assoc]
  constructor
  · rintro ⟨small, single, pair, triple⟩
    rw [length] at single pair triple
    refine ⟨(below.mp small).1, (below.mp small).2, single, fun two => ?_, fun three => ?_⟩
    · exact last 1 two ▸ pair two
    · exact last 2 three ▸ triple three
  · rintro ⟨four, small, single, pair, triple⟩
    refine ⟨below.mpr ⟨four, small⟩, length ▸ single, fun two => ?_, fun three => ?_⟩
    · exact last 1 (length ▸ two) ▸ pair (length ▸ two)
    · exact last 2 (length ▸ three) ▸ triple (length ▸ three)

/-- The numbers that stand for bytes are grouped. -/
theorem grouped_sextets (bytes : List UInt8) : Grouped (sextets bytes) := by
  induction bytes using sextets.induct with
  | case1 => exact ⟨by simp [sextets], by decide, by simp [sextets], by simp [sextets]⟩
  | case2 a => exact ⟨sextets_small [a], by simp [sextets], by simp [sextets], by simp [sextets]⟩
  | case3 a b =>
    exact ⟨sextets_small [a, b], by simp [sextets], by simp [sextets], by simp [sextets]⟩
  | case4 a b c rest ih =>
    have small := sextets_small (a :: b :: c :: rest)
    simp only [sextets, List.forall_mem_cons] at small ⊢
    exact grouped_cons_iff.mpr ⟨⟨small.1, small.2.1, small.2.2.1, small.2.2.2.1⟩, ih⟩

/-- Grouped numbers stand for bytes. -/
theorem bytes_of_grouped : ∀ {values : List Nat}, Grouped values →
    ∃ bytes, sextets bytes = values
  | [], _ => ⟨[], rfl⟩
  | [_], grouped => absurd rfl grouped.single
  | [a, b], grouped => ⟨_, sextets_one (grouped.small a (by simp)) (grouped.small b (by simp))
      (grouped.pair rfl b rfl)⟩
  | [a, b, c], grouped => ⟨_, sextets_two (grouped.small a (by simp))
      (grouped.small b (by simp)) (grouped.small c (by simp)) (grouped.triple rfl c rfl)⟩
  | a :: b :: c :: d :: rest, grouped => by
    obtain ⟨⟨one, two, three, four⟩, others⟩ := grouped_cons_iff.mp grouped
    obtain ⟨bytes, same⟩ := bytes_of_grouped others
    exact ⟨octets a b c d ++ bytes, by rw [sextets_octets one two three four, same]⟩

/-! ## Letters -/

/-- The letter is one of the alphabet. -/
def isSymbol (letter : Char) : Bool := letter.isAlphanum || letter == '-' || letter == '_'

/-- Padding and the other two symbols of the usual alphabet are not in this one. -/
example : isSymbol '=' = false ∧ isSymbol '+' = false ∧ isSymbol '/' = false := by decide

theorem is_symbol_symbol {value : Nat} (small : value < 64) : isSymbol (symbol value) = true := by
  have every : ∀ number : Fin 64, isSymbol (symbol number) = true := by decide +kernel
  exact every ⟨value, small⟩

theorem symbol_injective {value other : Nat} (small : value < 64) (also : other < 64)
    (same : symbol value = symbol other) : value = other := by
  have known := value?_symbol small
  rw [same, value?_symbol also] at known
  exact (Option.some.inj known).symm

/-- A letter of the alphabet is the symbol of a number. -/
theorem symbol_of_is_symbol {letter : Char} (inside : isSymbol letter = true) :
    ∃ value < 64, symbol value = letter := by
  have every : ∀ code : Fin 128, isSymbol (Char.ofNat code) = true →
      ∃ value : Fin 64, symbol value = Char.ofNat code := by decide +kernel
  have ascii : letter.toNat < 128 := by
    have ranges : (decide (65 ≤ letter.val ∧ letter.val ≤ 90) ||
        (97 ≤ letter.val && letter.val ≤ 122) || (48 ≤ letter.val && letter.val ≤ 57) ||
        letter == '-' || letter == '_') = true := inside
    simp only [Bool.or_eq_true, Bool.and_eq_true, decide_eq_true_eq, beq_iff_eq,
      UInt32.le_iff_toNat_le] at ranges
    rcases ranges with (((upper | lower) | digit) | rfl) | rfl
    · exact Nat.lt_of_le_of_lt upper.2 (by decide)
    · exact Nat.lt_of_le_of_lt lower.2 (by decide)
    · exact Nat.lt_of_le_of_lt digit.2 (by decide)
    · decide
    · decide
  have found := every ⟨letter.toNat, ascii⟩
  rw [Char.ofNat_toNat] at found
  obtain ⟨value, same⟩ := found inside
  exact ⟨value, value.isLt, same⟩

/-- Letters of the alphabet are the symbols of numbers. -/
theorem values_of_letters {letters : List Char}
    (inside : ∀ letter ∈ letters, isSymbol letter = true) :
    ∃ values : List Nat, (∀ value ∈ values, value < 64) ∧ letters = values.map symbol := by
  induction letters with
  | nil => exact ⟨[], by simp, rfl⟩
  | cons letter rest ih =>
    obtain ⟨value, small, rfl⟩ := symbol_of_is_symbol (inside letter List.mem_cons_self)
    obtain ⟨values, others, rfl⟩ :=
      ih fun other member => inside other (List.mem_cons_of_mem _ member)
    exact ⟨value :: values, List.forall_mem_cons.mpr ⟨small, others⟩, rfl⟩

/-- What keeps a text from spelling bytes. -/
inductive Misspelled (text : String) : Prop where
  /-- A letter is not in the alphabet: it is padding, a symbol of another alphabet or no symbol. -/
  | foreign {letter : Char} (member : letter ∈ text.toList) (outside : isSymbol letter = false)
  /-- A single symbol is left over. -/
  | single (left : text.toList.length % 4 = 1)
  /-- The last of two or three symbols holds something beyond the last byte. -/
  | bits {value : Nat} (small : value < 64) (last : text.toList.getLast? = some (symbol value))
    (beyond : text.toList.length % 4 = 2 ∧ value % 16 ≠ 0 ∨
      text.toList.length % 4 = 3 ∧ value % 4 ≠ 0)

/-- A text spells bytes exactly if nothing keeps it from it. -/
theorem misspelled_iff {text : String} : Misspelled text ↔ ∀ bytes, text ≠ encode bytes := by
  constructor
  · rintro misspelled bytes rfl
    have grouped := grouped_sextets bytes
    have letters : (encode bytes).toList = (sextets bytes).map symbol := String.toList_ofList
    cases misspelled with
    | foreign member outside =>
      rw [letters] at member
      obtain ⟨value, among, rfl⟩ := List.mem_map.mp member
      rw [is_symbol_symbol (grouped.small value among)] at outside
      cases outside
    | single left =>
      rw [letters, List.length_map] at left
      exact grouped.single left
    | @bits value small last beyond =>
      rw [letters, List.length_map] at beyond
      rw [letters, List.getLast?_map, Option.map_eq_some_iff] at last
      obtain ⟨other, found, same⟩ := last
      obtain rfl := symbol_injective (grouped.small other (List.mem_of_getLast? found)) small same
      rcases beyond with ⟨two, extra⟩ | ⟨three, extra⟩
      · exact extra (grouped.pair two other found)
      · exact extra (grouped.triple three other found)
  · intro unspelled
    by_contra fine
    have inside : ∀ letter ∈ text.toList, isSymbol letter = true := by
      intro letter member
      by_contra outside
      exact fine (.foreign member (Bool.eq_false_iff.mpr outside))
    obtain ⟨values, small, letters⟩ := values_of_letters inside
    have length : text.toList.length = values.length := by rw [letters, List.length_map]
    have last {value : Nat} (found : values.getLast? = some value) :
        text.toList.getLast? = some (symbol value) := by
      rw [letters, List.getLast?_map, found, Option.map_some]
    have grouped : Grouped values := by
      refine ⟨small, fun left => fine (.single (length ▸ left)), ?_, ?_⟩
      · intro two value found
        by_contra extra
        exact fine (.bits (small value (List.mem_of_getLast? found)) (last found)
          (.inl ⟨length ▸ two, extra⟩))
      · intro three value found
        by_contra extra
        exact fine (.bits (small value (List.mem_of_getLast? found)) (last found)
          (.inr ⟨length ▸ three, extra⟩))
    obtain ⟨bytes, same⟩ := bytes_of_grouped grouped
    exact unspelled bytes (by rw [encode, same, ← letters, String.ofList_toList])

end TrustFederation.Codec.Base64Url
