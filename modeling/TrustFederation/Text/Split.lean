/-!
# Cutting text at a separator

Tokens, cache keys and node keys are several texts joined by one character. The
functions here work on lists of characters and are inverse to each other: joining
what was cut gives the text again, and cutting what was joined gives the parts
again when no part holds the separator. Nothing here knows what the parts mean.
-/
namespace TrustFederation.Text

/-- The parts of a text between the occurrences of a separator. There is one more
part than there are separators, so the empty text has one empty part. -/
def splitOn (separator : Char) : List Char → List (List Char)
  | [] => [[]]
  | c :: rest =>
    if c = separator then [] :: splitOn separator rest
    else match splitOn separator rest with
      | [] => [[c]]
      | first :: others => (c :: first) :: others

/-- Parts written one after the other with the separator between them. -/
def joinWith (separator : Char) : List (List Char) → List Char
  | [] => []
  | [part] => part
  | part :: next :: others => part ++ separator :: joinWith separator (next :: others)

/-- The text before and after the first separator, if there is one. -/
def cutAt (separator : Char) : List Char → Option (List Char × List Char)
  | [] => none
  | c :: rest =>
    if c = separator then some ([], rest)
    else (cutAt separator rest).map fun (before, after) => (c :: before, after)

/-- `splitOn` on strings. -/
def split (separator : Char) (text : String) : List String :=
  (splitOn separator text.toList).map String.ofList

/-- `joinWith` on strings, with a string as the separator. -/
def join (separator : String) : List String → String
  | [] => ""
  | [part] => part
  | part :: next :: others => part ++ separator ++ join separator (next :: others)

theorem splitOn_ne_nil (separator : Char) (text : List Char) : splitOn separator text ≠ [] := by
  cases text with
  | nil => simp [splitOn]
  | cons c rest =>
    by_cases same : c = separator
    · simp [splitOn, same]
    · simp only [splitOn, same, if_false]
      split <;> simp

theorem joinWith_cons_of_ne_nil (separator : Char) (part : List Char)
    {others : List (List Char)} (nonempty : others ≠ []) :
    joinWith separator (part :: others) = part ++ separator :: joinWith separator others := by
  cases others with
  | nil => exact absurd rfl nonempty
  | cons next rest => rfl

/-- Joining the parts of a text gives the text again. -/
theorem joinWith_splitOn (separator : Char) (text : List Char) :
    joinWith separator (splitOn separator text) = text := by
  induction text with
  | nil => rfl
  | cons c rest ih =>
    by_cases same : c = separator
    · subst same
      simp only [splitOn, if_true]
      rw [joinWith_cons_of_ne_nil _ _ (splitOn_ne_nil _ _), ih]
      rfl
    · simp only [splitOn, same, if_false]
      cases parts : splitOn separator rest with
      | nil => exact absurd parts (splitOn_ne_nil _ _)
      | cons first others =>
        rw [parts] at ih
        cases others with
        | nil => simpa [joinWith] using ih
        | cons next more => simpa [joinWith] using ih

/-- A part never holds the separator. -/
theorem not_mem_of_mem_splitOn {separator : Char} {text part : List Char}
    (member : part ∈ splitOn separator text) : separator ∉ part := by
  induction text generalizing part with
  | nil => simp_all [splitOn]
  | cons c rest ih =>
    by_cases same : c = separator
    · simp only [splitOn, same, if_true, List.mem_cons] at member
      rcases member with rfl | later
      · simp
      · exact ih later
    · simp only [splitOn, same, if_false] at member
      cases parts : splitOn separator rest with
      | nil => exact absurd parts (splitOn_ne_nil _ _)
      | cons first others =>
        rw [parts] at member ih
        simp only [List.mem_cons] at member
        rcases member with rfl | later
        · have clean : separator ∉ first := ih (by simp)
          simp only [List.mem_cons, not_or]
          exact ⟨fun equal => same equal.symm, clean⟩
        · exact ih (by simp [later])

theorem splitOn_append_separator {separator : Char} {part : List Char} (rest : List Char)
    (clean : separator ∉ part) :
    splitOn separator (part ++ separator :: rest) = part :: splitOn separator rest := by
  induction part with
  | nil => simp [splitOn]
  | cons c more ih =>
    simp only [List.mem_cons, not_or] at clean
    have different : c ≠ separator := fun equal => clean.1 equal.symm
    simp [splitOn, different, ih clean.2]

theorem splitOn_of_not_mem {separator : Char} {part : List Char} (clean : separator ∉ part) :
    splitOn separator part = [part] := by
  induction part with
  | nil => rfl
  | cons c more ih =>
    simp only [List.mem_cons, not_or] at clean
    have different : c ≠ separator := fun equal => clean.1 equal.symm
    simp [splitOn, different, ih clean.2]

/-- Cutting joined parts gives the parts again when none holds the separator. -/
theorem splitOn_joinWith {separator : Char} {parts : List (List Char)} (nonempty : parts ≠ [])
    (clean : ∀ part ∈ parts, separator ∉ part) :
    splitOn separator (joinWith separator parts) = parts := by
  induction parts with
  | nil => exact absurd rfl nonempty
  | cons part others ih =>
    cases others with
    | nil => exact splitOn_of_not_mem (clean part (by simp))
    | cons next more =>
      rw [joinWith_cons_of_ne_nil _ _ (by simp),
        splitOn_append_separator _ (clean part (by simp)), ih (by simp)]
      intro other member
      exact clean other (List.mem_cons_of_mem _ member)

/-- A cut splits the text at the separator, and the text before it is free of it. -/
theorem cutAt_eq_some_iff {separator : Char} {text before after : List Char} :
    cutAt separator text = some (before, after) ↔
      text = before ++ separator :: after ∧ separator ∉ before := by
  induction text generalizing before after with
  | nil => simp [cutAt]
  | cons c rest ih =>
    by_cases same : c = separator
    · subst same
      simp only [cutAt, if_true, Option.some.injEq, Prod.mk.injEq]
      constructor
      · rintro ⟨rfl, rfl⟩
        simp
      · rintro ⟨whole, clean⟩
        cases before with
        | nil => simp_all
        | cons d more =>
          simp only [List.cons_append, List.cons.injEq] at whole
          exact absurd (by simp [whole.1]) clean
    · simp only [cutAt, same, if_false, Option.map_eq_some_iff, Prod.mk.injEq, Prod.exists]
      constructor
      · rintro ⟨front, back, found, rfl, rfl⟩
        obtain ⟨whole, clean⟩ := ih.1 found
        refine ⟨by simp [whole], ?_⟩
        simp only [List.mem_cons, not_or]
        exact ⟨fun equal => same equal.symm, clean⟩
      · rintro ⟨whole, clean⟩
        cases before with
        | nil => simp_all
        | cons d more =>
          simp only [List.cons_append, List.cons.injEq] at whole
          simp only [List.mem_cons, not_or] at clean
          exact ⟨more, after, ih.2 ⟨whole.2, clean.2⟩, by simp [whole.1], rfl⟩

theorem cutAt_eq_none_iff {separator : Char} {text : List Char} :
    cutAt separator text = none ↔ separator ∉ text := by
  induction text with
  | nil => simp [cutAt]
  | cons c rest ih =>
    by_cases same : c = separator
    · simp [cutAt, same]
    · simp only [cutAt, same, if_false, Option.map_eq_none_iff, ih, List.mem_cons, not_or]
      exact ⟨fun clean => ⟨fun equal => same equal.symm, clean⟩, fun both => both.2⟩

end TrustFederation.Text
