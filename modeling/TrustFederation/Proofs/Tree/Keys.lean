import TrustFederation.Text.Split
import TrustFederation.Tree.NodeKey
/-!
# The written form of keys

A key is written as its issuer and its subject with the separator between them, and this is its node
in the tree. The texts with one separator are the written forms: reading cuts there, refuses all
other texts, and writing what was read gives the text again. As neither part of a key may hold the
separator, no other key is written alike, whatever else its parts are; they may be empty.
-/
namespace TrustFederation.Tree.NodeKey

/-- Two parts make a key exactly if they are its parts. The key knows that they are free of the
separator. -/
theorem of_parts_ok_iff {issuer subject : String} {key : NodeKey} :
    ofParts issuer subject = .ok key ↔ key.issuer = issuer ∧ key.subject = subject := by
  unfold ofParts
  constructor
  · intro made
    split at made
    · cases made
      exact ⟨rfl, rfl⟩
    · cases made
  · rintro ⟨rfl, rfl⟩
    rw [dif_pos ⟨key.issuer_free, key.subject_free⟩]

/-- Two parts make a key exactly if they are free of the separator. -/
theorem made_of_parts_iff {issuer subject : String} :
    (∃ key, ofParts issuer subject = .ok key) ↔
      separator ∉ issuer.toList ∧ separator ∉ subject.toList := by
  constructor
  · rintro ⟨key, made⟩
    obtain ⟨rfl, rfl⟩ := of_parts_ok_iff.mp made
    exact ⟨key.issuer_free, key.subject_free⟩
  · rintro ⟨issuer_free, subject_free⟩
    exact ⟨⟨issuer, subject, issuer_free, subject_free⟩, of_parts_ok_iff.mpr ⟨rfl, rfl⟩⟩

theorem to_list_text (key : NodeKey) :
    key.text.toList = key.issuer.toList ++ separator :: key.subject.toList := by
  simp [text, String.toList_append]

/-- A key is read from its written form, and only from this. -/
theorem parse_ok_iff {written : String} {key : NodeKey} :
    parse written = .ok key ↔ key.text = written := by
  rw [← String.toList_inj, to_list_text]
  unfold parse
  cases cut : Text.cutAt separator written.toList with
  | none =>
    have free := Text.cutAt_eq_none_iff.mp cut
    constructor
    · intro impossible
      cases impossible
    · intro whole
      exact absurd (whole ▸ by simp) free
  | some parts =>
    obtain ⟨before, after⟩ := parts
    dsimp only
    rw [of_parts_ok_iff]
    constructor
    · rintro ⟨issuer, subject⟩
      rw [(Text.cutAt_eq_some_iff.mp cut).1, issuer, subject, String.toList_ofList,
        String.toList_ofList]
    · intro whole
      have parts := Text.cutAt_eq_some_iff.mpr ⟨whole.symm, key.issuer_free⟩
      rw [cut, Option.some.injEq, Prod.mk.injEq] at parts
      rw [parts.1, parts.2, String.ofList_toList, String.ofList_toList]
      exact ⟨rfl, rfl⟩

/-- The written forms are the texts with one separator. -/
theorem written_iff (written : String) :
    (∃ key : NodeKey, key.text = written) ↔ written.toList.count separator = 1 := by
  constructor
  · rintro ⟨key, rfl⟩
    rw [to_list_text, List.count_append, List.count_cons_self,
      List.count_eq_zero_of_not_mem key.issuer_free, List.count_eq_zero_of_not_mem key.subject_free]
  · intro once
    cases cut : Text.cutAt separator written.toList with
    | none =>
      rw [List.count_eq_zero_of_not_mem (Text.cutAt_eq_none_iff.mp cut)] at once
      cases once
    | some parts =>
      obtain ⟨before, after⟩ := parts
      obtain ⟨whole, issuer_free⟩ := Text.cutAt_eq_some_iff.mp cut
      rw [whole, List.count_append, List.count_cons_self,
        List.count_eq_zero_of_not_mem issuer_free] at once
      have subject_free : separator ∉ after := List.count_eq_zero.mp (by omega)
      have made : ∃ key, ofParts (.ofList before) (.ofList after) = .ok key := by
        rw [made_of_parts_iff, String.toList_ofList, String.toList_ofList]
        exact ⟨issuer_free, subject_free⟩
      obtain ⟨key, same⟩ := made
      obtain ⟨issuer, subject⟩ := of_parts_ok_iff.mp same
      refine ⟨key, ?_⟩
      rw [← String.toList_inj, to_list_text, issuer, subject, String.toList_ofList,
        String.toList_ofList, whole]

/-- A text is read as a key exactly if it holds one separator, and then the key is the one that is
written so. Two parts make a key exactly if none of them holds the separator, and then this key is
read from its written form. So parts that make keys with one written form, which is one node, are
the same. -/
theorem written_form_exact :
    (∀ written, ((∃ key, parse written = .ok key) ↔ written.toList.count separator = 1) ∧
      ∀ key, parse written = .ok key ↔ key.text = written) ∧
    (∀ issuer subject,
      ((∃ key, ofParts issuer subject = .ok key) ↔
        separator ∉ issuer.toList ∧ separator ∉ subject.toList) ∧
      ∀ key, ofParts issuer subject = .ok key →
        key.issuer = issuer ∧ key.subject = subject ∧ parse key.text = .ok key) ∧
    ∀ issuer subject other_issuer other_subject key other, ofParts issuer subject = .ok key →
      ofParts other_issuer other_subject = .ok other → key.text = other.text →
      issuer = other_issuer ∧ subject = other_subject := by
  refine ⟨fun written => ⟨?_, fun key => parse_ok_iff⟩,
    fun issuer subject => ⟨made_of_parts_iff, fun key made => ?_⟩, ?_⟩
  · rw [← written_iff]
    exact exists_congr fun key => parse_ok_iff
  · obtain ⟨rfl, rfl⟩ := of_parts_ok_iff.mp made
    exact ⟨rfl, rfl, parse_ok_iff.mpr rfl⟩
  · intro issuer subject other_issuer other_subject key other made also_made same
    obtain ⟨rfl, rfl⟩ := of_parts_ok_iff.mp made
    obtain ⟨rfl, rfl⟩ := of_parts_ok_iff.mp also_made
    have read := parse_ok_iff.mpr same
    rw [parse_ok_iff.mpr rfl, Except.ok.injEq] at read
    rw [read]
    exact ⟨rfl, rfl⟩

/-- Keys with an empty part, before the separator and behind it, and texts that are no keys. -/
theorem written_form_exact_blank :
    let first : NodeKey := ⟨"", "é", by decide, by decide⟩
    let last : NodeKey := ⟨"é", "", by decide, by decide⟩
    (ofParts "" "é" = .ok first ∧ first.text = "!é" ∧ parse "!é" = .ok first) ∧
      (ofParts "é" "" = .ok last ∧ last.text = "é!" ∧ parse "é!" = .ok last) ∧
      first.text ≠ last.text ∧ (¬ ∃ key, parse "!é!" = .ok key) ∧ (¬ ∃ key, parse "é" = .ok key) ∧
      ¬ ∃ key, ofParts "!" "é" = .ok key := by
  intro first last
  obtain ⟨reads, makes, apart⟩ := written_form_exact
  have made : ofParts "" "é" = .ok first := rfl
  have also_made : ofParts "é" "" = .ok last := rfl
  refine ⟨⟨made, by decide, ((makes "" "é").2 first made).2.2⟩,
    ⟨also_made, by decide, ((makes "é" "").2 last also_made).2.2⟩, fun same => ?_, ?_, ?_, ?_⟩
  · exact absurd (apart "" "é" "é" "" first last made also_made same) (by decide)
  · rw [(reads "!é!").1]
    decide
  · rw [(reads "é").1]
    decide
  · rw [(makes "!" "é").1]
    decide

end TrustFederation.Tree.NodeKey
