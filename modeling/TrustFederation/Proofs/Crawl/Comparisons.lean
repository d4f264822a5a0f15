import TrustFederation.Proofs.Crawl.Acceptance
import TrustFederation.Proofs.Crawl.Invariant
import TrustFederation.Proofs.Text.Folding
import TrustFederation.Proofs.Tree.Attachment
/-!
# Keys, claims and answers compare alike

A parent is looked for in the tree by its key with all letters made small, identifiers are claimed
in small letters, and an answer is compared with what was asked for up to the case of the letters A
to Z. These comparisons fit together: keys are equal in small letters exactly if their issuers are
and their subjects are, and what is equal for an answer is equal for a claim. So a statement that a
crawl accepts is about an identifier that it has claimed, and no key finds a node whose issuer or
subject differs from its own in small letters.
-/
namespace TrustFederation.Crawl

open Text (lowercase sameAscii)
open TrustFederation.Tree (Node NodeKey Store Version)

/-- Keys compare equal exactly if their issuers and their subjects are equal in small letters. -/
theorem matches_text_iff (left right : NodeKey) :
    left.text.matches right.text = true ↔
      lowercase left.issuer = lowercase right.issuer ∧
        lowercase left.subject = lowercase right.subject := by
  rw [Tree.matches_iff_lowercase]
  constructor
  · exact NodeKey.parts_of_lowercase_text_eq
  · rintro ⟨issuers, subjects⟩
    rw [← String.toList_inj, left.lowercase_text, right.lowercase_text, issuers, subjects]

/-- The node that is found for a key has this key up to the case of letters. -/
theorem matches_of_find_node {α : Type} {store : Store α} {version : Version} {root found : Node}
    {key : String} (result : store.findNode version root key = some found) :
    found.matches key = true := (Tree.found_sound result).1

/-- What passes the check is about what was asked for in small letters too. -/
theorem lowercase_of_checked {statement : Statement} {issuer subject : String}
    (checked : checkStatement statement issuer subject = .ok ()) :
    lowercase statement.issuer = lowercase issuer ∧
      lowercase statement.subject = lowercase subject := by
  obtain ⟨issuers, subjects⟩ := (check_statement_ok_iff statement issuer subject).mp checked
  exact ⟨Text.lowercase_eq_of_same_ascii issuers, Text.lowercase_eq_of_same_ascii subjects⟩

/-- The identifier about which a step asks for a statement. -/
def Step.asked? : Step → Option String
  | .resolveRoot entity => some entity
  | .listSubordinates _ => none
  | .fetchSubordinate _ subordinate => some subordinate
  | .fetchConfiguration statement => some statement.subject

/-- What a step in flight asks about is claimed.

Proof: before the version is begun the only step asks about the anchor, which is claimed from the
start. After that what the pending steps promise is claimed, and each promises what it asks for. -/
theorem Crawling.asked_claimed {σ : Type} {client : Client σ} {policy : Policy} {anchor : String}
    {state : State σ} (crawling : Crawling client policy anchor state) {flight : Flight}
    (sent : flight ∈ (state.fill policy).inFlight) {identifier : String}
    (asked : flight.attempt.step.asked? = some identifier) :
    lowercase identifier ∈ state.claimed := by
  rcases crawling.invariant.phase with opening | ⟨version, generation, building⟩
  · rw [opening.step_eq sent] at asked
    obtain rfl : anchor = identifier := Option.some.inj asked
    rw [opening.claimed]
    exact List.mem_singleton_self _
  · have pending := State.pending_of_sent sent
    refine building.promised _ (List.mem_filterMap.mpr ⟨flight.attempt.step, pending, ?_⟩)
    have ready := building.ready _ pending
    generalize flight.attempt.step = step at asked ready
    cases ready with
    | listing => cases asked
    | subordinate =>
      obtain rfl := Option.some.inj asked
      rfl
    | configuration =>
      obtain rfl := Option.some.inj asked
      rfl

/-- Two keys match exactly if their issuers have one form in small letters and their subjects have
one, and what is equal up to the case of the letters A to Z has one form. So a statement that passes
the check is about what was asked for in small letters too, and when a step in flight of a crawl has
asked, this is claimed. A node that is found for a key has the issuer and the subject of the key in
small letters. -/
theorem comparisons_agree :
    (∀ left right : NodeKey, left.text.matches right.text = true ↔
      lowercase left.issuer = lowercase right.issuer ∧
        lowercase left.subject = lowercase right.subject) ∧
    (∀ left right, sameAscii left right = true → lowercase left = lowercase right) ∧
    (∀ statement issuer subject, checkStatement statement issuer subject = .ok () →
      lowercase statement.issuer = lowercase issuer ∧
        lowercase statement.subject = lowercase subject) ∧
    (∀ {σ : Type} (client : Client σ) policy anchor state, Crawling client policy anchor state →
      ∀ flight ∈ (state.fill policy).inFlight, ∀ identifier,
        flight.attempt.step.asked? = some identifier →
        ∀ statement issuer, checkStatement statement issuer identifier = .ok () →
          lowercase statement.subject ∈ state.claimed) ∧
    ∀ {α : Type} (store : Store α) version root (sought found : NodeKey),
      store.findNode version root sought.text = some found.text →
      lowercase found.issuer = lowercase sought.issuer ∧
        lowercase found.subject = lowercase sought.subject := by
  refine ⟨matches_text_iff, fun left right => Text.lowercase_eq_of_same_ascii,
    fun statement issuer subject => lowercase_of_checked, ?_, ?_⟩
  · intro σ client policy anchor state crawling flight sent identifier asked statement issuer
      checked
    rw [(lowercase_of_checked checked).2]
    exact crawling.asked_claimed sent asked
  · intro α store version root sought found result
    exact (matches_text_iff found sought).mp (matches_of_find_node result)

/-- Keys with a sigma before the separator and at the end, where it has the form of the end of a
word; an entity that answers in capital letters when it is asked about in small ones; and a key that
finds a node written in other letters. -/
theorem comparisons_agree_sigma :
    let written : NodeKey := ⟨"ΟΔΟΣ", "ΑΣ", by decide, by decide⟩
    let small : NodeKey := ⟨"οδος", "ας", by decide, by decide⟩
    let inner : NodeKey := ⟨"οδοσ", "ας", by decide, by decide⟩
    let store : Store String :=
      (Store.empty 1).applyAll [.create "r!r" "", .append written.text "r!r" 1]
    let policy : Policy := ⟨.concurrent 2, .retry 2, 1⟩
    let state := (State.start "a" (Store.empty 1) ()).run circle policy (fun _ => 0) 2
    let answer := authorityStatement "A" "B"
    (written.text.matches small.text = true ∧ ¬ written.text.matches inner.text = true) ∧
    lowercase "https://TA.example" = lowercase "https://ta.example" ∧
    (checkStatement answer "a" "b" = .ok () ∧ lowercase answer.issuer = lowercase "a" ∧
      lowercase answer.subject = lowercase "b") ∧
    ((∃ flight ∈ (state.fill policy).inFlight, flight.attempt.step.asked? = some "b") ∧
      lowercase answer.subject ∈ state.claimed) ∧
    (store.findNode 1 "r!r" small.text = some written.text ∧
      lowercase written.issuer = lowercase small.issuer ∧
      lowercase written.subject = lowercase small.subject) := by
  intro written small inner store policy state answer
  obtain ⟨keys, finer, answers, claims, found⟩ := comparisons_agree
  have sought : store.findNode 1 "r!r" small.text = some written.text := by decide +kernel
  have checked : checkStatement answer "a" "b" = .ok () :=
    (check_statement_ok_iff answer "a" "b").mpr (by decide)
  have crawling : Crawling circle policy "a" state := (Crawling.start 1 [] ()).run _ 2
  have sent : ∃ flight ∈ (state.fill policy).inFlight, flight.attempt.step.asked? = some "b" := by
    decide +kernel
  have claimed : lowercase answer.subject ∈ state.claimed := by
    obtain ⟨flight, among, asked⟩ := sent
    exact claims circle policy "a" state crawling flight among "b" asked answer "a" checked
  refine ⟨⟨(keys written small).mpr (by decide +kernel), fun same => ?_⟩, finer _ _ (by decide),
    ⟨checked, answers answer "a" "b" checked⟩, ⟨sent, claimed⟩,
    ⟨sought, found store 1 "r!r" small written sought⟩⟩
  exact absurd ((keys written inner).mp same).1 (by decide +kernel)

end TrustFederation.Crawl
