import TrustFederation.Text.Split
/-!
# Texts and their parts

What a separator cuts a text into says everything about the text: the parts joined again are the
text, and parts that hold no separator are what their joined text is cut into. A text that ends in
a separator and a part without one has this part as its last one.
-/
namespace TrustFederation.Text

variable {separator : Char}

theorem split_ne_nil (separator : Char) (text : String) : split separator text ≠ [] := by
  rw [split, ne_eq, List.map_eq_nil_iff]
  exact splitOn_ne_nil separator text.toList

/-- No part of a text holds the separator. -/
theorem not_mem_of_mem_split {text part : String} (member : part ∈ split separator text) :
    separator ∉ part.toList := by
  obtain ⟨letters, among, rfl⟩ := List.mem_map.mp member
  rw [String.toList_ofList]
  exact not_mem_of_mem_splitOn among

/-- Joining texts joins their letters. -/
theorem join_of_lists (separator : Char) (parts : List (List Char)) :
    join (String.singleton separator) (parts.map String.ofList) =
      String.ofList (joinWith separator parts) := by
  induction parts with
  | nil => rfl
  | cons part others ih =>
    cases others with
    | nil => rfl
    | cons next more =>
      rw [List.map_cons, List.map_cons, join, ← List.map_cons, ih, joinWith, ← String.toList_inj]
      simp [String.toList_append]

/-- The parts of a text joined again are the text. -/
theorem join_split (separator : Char) (text : String) :
    join (String.singleton separator) (split separator text) = text := by
  rw [split, join_of_lists, joinWith_splitOn, String.ofList_toList]

/-- Texts with the same parts are the same. -/
theorem eq_of_split_eq (separator : Char) {text other : String}
    (same : split separator text = split separator other) : text = other := by
  rw [← join_split separator text, same, join_split]

/-- Parts without the separator are what their joined text is cut into. -/
theorem split_join {parts : List String} (nonempty : parts ≠ [])
    (clean : ∀ part ∈ parts, separator ∉ part.toList) :
    split separator (join (String.singleton separator) parts) = parts := by
  have letters : (parts.map String.toList).map String.ofList = parts := by
    simp [List.map_map, Function.comp_def]
  have apart : ∀ part ∈ parts.map String.toList, separator ∉ part := by
    intro part member
    obtain ⟨text, among, rfl⟩ := List.mem_map.mp member
    exact clean text among
  have joined := join_of_lists separator (parts.map String.toList)
  rw [letters] at joined
  rw [joined, split, String.toList_ofList, splitOn_joinWith (by simpa using nonempty) apart,
    letters]

/-- What stands before a separator and what stands behind it are cut on their own. -/
theorem splitOn_append (text rest : List Char) :
    splitOn separator (text ++ separator :: rest) =
      splitOn separator text ++ splitOn separator rest := by
  induction text with
  | nil => simp [splitOn]
  | cons letter more ih =>
    by_cases same : letter = separator
    · simp [splitOn, same, ih]
    · rw [List.cons_append, splitOn, if_neg same, ih, splitOn, if_neg same]
      cases parts : splitOn separator more with
      | nil => exact absurd parts (splitOn_ne_nil separator more)
      | cons first others => rfl

theorem split_append (text rest : String) :
    split separator (text ++ String.singleton separator ++ rest) =
      split separator text ++ split separator rest := by
  have letters : (text ++ String.singleton separator ++ rest).toList =
      text.toList ++ separator :: rest.toList := by
    simp [String.toList_append]
  rw [split, letters, splitOn_append, List.map_append, split, split]

theorem split_of_not_mem {part : String} (clean : separator ∉ part.toList) :
    split separator part = [part] := by
  rw [split, splitOn_of_not_mem clean, List.map_singleton, String.ofList_toList]

/-- A part without the separator that is written behind a text is the last part then. -/
theorem split_append_part (text : String) {part : String} (clean : separator ∉ part.toList) :
    split separator (text ++ String.singleton separator ++ part) =
      split separator text ++ [part] := by
  rw [split_append, split_of_not_mem clean]

/-- A joined text is cut into what its parts are cut into. -/
theorem split_join_eq {parts : List String} (nonempty : parts ≠ []) :
    split separator (join (String.singleton separator) parts) =
      parts.flatMap (split separator) := by
  induction parts with
  | nil => exact absurd rfl nonempty
  | cons part others ih =>
    cases others with
    | nil => simp [join]
    | cons next more => rw [join, split_append, ih (List.cons_ne_nil _ _), ← List.flatMap_cons]

/-- A text has one part more than it has separators. -/
theorem length_split (separator : Char) (text : String) :
    (split separator text).length = text.toList.count separator + 1 := by
  rw [split, List.length_map]
  induction text.toList with
  | nil => rfl
  | cons letter rest ih =>
    by_cases same : letter = separator
    · rw [splitOn, if_pos same, List.length_cons, ih, same, List.count_cons_self]
    · rw [splitOn, if_neg same, List.count_cons_of_ne same]
      cases parts : splitOn separator rest with
      | nil => exact absurd parts (splitOn_ne_nil separator rest)
      | cons first others => rw [← ih, parts, List.length_cons, List.length_cons]

/-- Each text is cut into one part at least. -/
theorem length_le_cut (separator : Char) (texts : List String) :
    texts.length ≤ (texts.flatMap (split separator)).length := by
  induction texts with
  | nil => exact Nat.le_refl 0
  | cons text rest ih =>
    have one := List.length_pos_iff.mpr (split_ne_nil separator text)
    rw [List.flatMap_cons, List.length_append, List.length_cons]
    omega

/-- Texts that are cut into as many parts as they are do not hold the separator, so they are these
parts.

Proof: each text has one part at least, so none of them has more. -/
theorem eq_of_flat_map_split {texts parts : List String} (length : texts.length = parts.length)
    (cut : texts.flatMap (split separator) = parts) : texts = parts := by
  induction texts generalizing parts with
  | nil => exact cut
  | cons text rest ih =>
    rw [List.flatMap_cons] at cut
    have whole := congrArg List.length cut
    rw [List.length_append, ← length, List.length_cons] at whole
    have one := List.length_pos_iff.mpr (split_ne_nil separator text)
    have least := length_le_cut separator rest
    obtain ⟨part, single⟩ := List.length_eq_one_iff.mp
      (show (split separator text).length = 1 by omega)
    have same : part = text := by
      rw [← join_split separator text, single]
      rfl
    subst parts
    have others : rest = rest.flatMap (split separator) := ih (by omega) rfl
    rw [single, same, List.singleton_append, ← others]

end TrustFederation.Text
