import TrustFederation.Tree.NodeKey
/-!
# The comparisons of identifiers fit together

Identifiers are compared in two ways: up to the case of the letters A to Z, and with every
letter made small. The first comparison is the finer one. Making letters small does not
reach across the separator of node keys, which neither has case nor is passed over, and it
never makes a separator. So two keys with equal small forms have issuers and subjects with
equal small forms.
-/
namespace TrustFederation.Text

/-- Capital letters from A to Z are the only characters that `asciiLower` changes. -/
theorem ascii_lower_cases (c : Char) :
    asciiLower c = c ∨ ∃ index : Fin 26,
      c = Char.ofNat (65 + index) ∧ asciiLower c = Char.ofNat (97 + index) := by
  by_cases capital : 'A' ≤ c ∧ c ≤ 'Z'
  · right
    have lower : 65 ≤ c.toNat := capital.1
    have upper : c.toNat ≤ 90 := capital.2
    refine ⟨⟨c.toNat - 65, by omega⟩, ?_, ?_⟩
    · have position : 65 + (c.toNat - 65) = c.toNat := by omega
      simp [position]
    · have position : 97 + (c.toNat - 65) = c.toNat + 32 := by omega
      simp [asciiLower, capital, position]
  · left
    simp [asciiLower, capital]

/-- Whatever has one value for each capital letter and its small letter has one value for a
character and its `asciiLower`. -/
theorem eq_ascii_lower {α : Type} (view : Char → α)
    (same : ∀ index : Fin 26, view (Char.ofNat (97 + index)) = view (Char.ofNat (65 + index)))
    (c : Char) : view (asciiLower c) = view c := by
  rcases ascii_lower_cases c with unchanged | ⟨index, capital, small⟩
  · rw [unchanged]
  · rw [small, same index, capital]

theorem is_cased_ascii_lower (c : Char) : isCased (asciiLower c) = isCased c :=
  eq_ascii_lower isCased (by decide +kernel) c

theorem is_case_ignorable_ascii_lower (c : Char) :
    isCaseIgnorable (asciiLower c) = isCaseIgnorable c :=
  eq_ascii_lower isCaseIgnorable (by decide +kernel) c

theorem small_form_between_ascii_lower (before after : Bool) (c : Char) :
    smallFormBetween before after (asciiLower c) = smallFormBetween before after c :=
  eq_ascii_lower (smallFormBetween before after)
    (by cases before <;> cases after <;> decide +kernel) c

theorem starts_cased_ascii_lower (text : List Char) :
    startsCased (text.map asciiLower) = startsCased text := by
  induction text with
  | nil => rfl
  | cons c rest ih =>
    simp only [List.map_cons, startsCased, is_case_ignorable_ascii_lower, is_cased_ascii_lower, ih]

/-- The small form of a text does not depend on the case of the letters A to Z. -/
theorem lowercase_from_ascii_lower (before : Bool) (text : List Char) :
    lowercaseFrom before (text.map asciiLower) = lowercaseFrom before text := by
  induction text generalizing before with
  | nil => rfl
  | cons c rest ih =>
    simp only [List.map_cons, lowercaseFrom, small_form_between_ascii_lower,
      starts_cased_ascii_lower, is_case_ignorable_ascii_lower, is_cased_ascii_lower, ih]

/-- Texts that differ in the case of the letters A to Z only have one small form. -/
theorem lowercase_eq_of_same_ascii {left right : String} (same : sameAscii left right = true) :
    lowercase left = lowercase right := by
  unfold lowercase
  rw [← lowercase_from_ascii_lower, sameAscii_iff.mp same, lowercase_from_ascii_lower]

/-- Texts that differ in the case of the letters A to Z only are empty together. -/
theorem is_empty_of_same_ascii {left right : String} (same : sameAscii left right = true) :
    left.isEmpty = right.isEmpty := by
  have lengths := congrArg List.length (sameAscii_iff.mp same)
  rw [List.length_map, List.length_map] at lengths
  rw [Bool.eq_iff_iff, String.isEmpty_iff, String.isEmpty_iff, ← String.toList_eq_nil_iff,
    ← String.toList_eq_nil_iff, ← List.length_eq_zero_iff, ← List.length_eq_zero_iff, lengths]

/-! ## The separator of node keys -/

open TrustFederation.Tree (separator)

/-- The separator has no case and is not passed over. -/
theorem separator_plain : isCaseIgnorable separator = false ∧ isCased separator = false := by
  decide +kernel

theorem starts_cased_append_separator (before after : List Char) :
    startsCased (before ++ separator :: after) = startsCased before := by
  induction before with
  | nil =>
    simp [startsCased, separator_plain]
  | cons c rest ih => simp only [List.cons_append, startsCased, ih]

/-- The texts on the two sides of a separator are made small on their own. -/
theorem lowercase_from_append_separator (cased : Bool) (before after : List Char) :
    lowercaseFrom cased (before ++ separator :: after) =
      lowercaseFrom cased before ++ separator :: lowercaseFrom false after := by
  induction before generalizing cased with
  | nil =>
    have kept (next : Bool) : smallFormBetween cased next separator = [separator] := by
      cases cased <;> cases next <;> decide +kernel
    simp [lowercaseFrom, separator_plain, kept]
  | cons c rest ih =>
    simp only [List.cons_append, lowercaseFrom, starts_cased_append_separator, ih,
      List.append_assoc]

/-- No run of capital letters has the separator among its small letters. -/
theorem capital_runs_above_separator :
    ∀ run ∈ capitalRuns, 33 < (run.first : Int) + run.distance := by
  decide +kernel

theorem separator_not_mem_small_form {c : Char} (other : c ≠ separator) :
    separator ∉ smallForm c := by
  unfold smallForm
  by_cases dotted : c = 'İ'
  · rw [if_pos dotted]
    decide
  · rw [if_neg dotted]
    cases found : capitalRuns.find? (·.holds c.toNat) with
    | none => simpa using fun same => other same.symm
    | some run =>
      have above := capital_runs_above_separator run (List.mem_of_find?_eq_some found)
      have holds : run.holds c.toNat = true := by simpa using List.find?_some found
      have start : run.first ≤ c.toNat := by
        simp only [CapitalRun.holds, Bool.and_eq_true, decide_eq_true_eq] at holds
        exact holds.1.1
      have number : (c.toNat + run.distance).toNat ≠ 33 := by omega
      -- A number that is no code point gives the null character, which is no separator.
      have different : Char.ofNat (c.toNat + run.distance).toNat ≠ separator := by
        intro same
        by_cases valid : (c.toNat + run.distance).toNat.isValidChar
        · rw [Char.ofNat, dif_pos valid] at same
          exact number (congrArg Char.toNat same)
        · rw [Char.ofNat, dif_neg valid] at same
          exact absurd same (by decide)
      simpa using fun same => different same.symm

theorem separator_not_mem_small_form_between {before after : Bool} {c : Char}
    (other : c ≠ separator) : separator ∉ smallFormBetween before after c := by
  unfold smallFormBetween
  by_cases plain : c.toNat < 128
  · rw [if_pos plain]
    rcases ascii_lower_cases c with unchanged | ⟨index, -, small⟩
    · simpa [unchanged] using fun same => other same.symm
    · have letters : ∀ index : Fin 26, separator ≠ Char.ofNat (97 + index) := by decide
      simpa [small] using letters index
  · rw [if_neg plain]
    by_cases sigma : c = 'Σ'
    · rw [if_pos sigma]
      cases before <;> cases after <;> decide
    · rw [if_neg sigma]
      exact separator_not_mem_small_form other

/-- A text without separators has a small form without separators. -/
theorem separator_not_mem_lowercase {text : String} (free : separator ∉ text.toList) :
    separator ∉ (lowercase text).toList := by
  have every (characters : List Char) (cased : Bool) (clean : separator ∉ characters) :
      separator ∉ lowercaseFrom cased characters := by
    induction characters generalizing cased with
    | nil => simp [lowercaseFrom]
    | cons c rest ih =>
      simp only [List.mem_cons, not_or] at clean
      simp only [lowercaseFrom, List.mem_append, not_or]
      exact ⟨separator_not_mem_small_form_between (Ne.symm clean.1), ih _ clean.2⟩
  simpa [lowercase] using every text.toList false free

end TrustFederation.Text

namespace TrustFederation.Tree.NodeKey

/-- The small form of a key is made of the small forms of its parts. -/
theorem lowercase_text (key : NodeKey) :
    (Text.lowercase key.text).toList =
      (Text.lowercase key.issuer).toList ++ separator :: (Text.lowercase key.subject).toList := by
  simp [Text.lowercase, text, Text.lowercase_from_append_separator]

/-- Keys with one small form have parts with one small form. -/
theorem parts_of_lowercase_text_eq {left right : NodeKey}
    (same : Text.lowercase left.text = Text.lowercase right.text) :
    Text.lowercase left.issuer = Text.lowercase right.issuer ∧
      Text.lowercase left.subject = Text.lowercase right.subject := by
  have cut (key : NodeKey) : Text.cutAt separator (Text.lowercase key.text).toList =
      some ((Text.lowercase key.issuer).toList, (Text.lowercase key.subject).toList) :=
    Text.cutAt_eq_some_iff.mpr
      ⟨key.lowercase_text, Text.separator_not_mem_lowercase key.issuer_free⟩
  have parts := cut left
  rw [same, cut right, Option.some.injEq, Prod.mk.injEq, String.toList_inj, String.toList_inj]
    at parts
  exact ⟨parts.1.symm, parts.2.symm⟩

end TrustFederation.Tree.NodeKey
