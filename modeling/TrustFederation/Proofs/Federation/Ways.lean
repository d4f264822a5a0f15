import Mathlib.Data.List.Chain
import TrustFederation.Proofs.Federation.Honest
/-!
# Ways through the listings

A way leads from an entity to one that it lists, and on to one that this lists. Along a way
through an honest federation each statement is linked to the one above it, so the statements on it
and the configurations at its two ends satisfy all rules on chains.
-/
namespace TrustFederation.Federation

open Chain (Linked)
open Jose (KeySet)
open Jose.Token (Holds)

/-- A way through the listings, with the entities on it after its start. -/
inductive Way (federation : Federation) : String → List String → String → Prop where
  | here (entity : String) : Way federation entity [] entity
  | down {authority subordinate last : String} {others : List String}
      (member : subordinate ∈ federation.listing authority)
      (rest : Way federation subordinate others last) :
      Way federation authority (subordinate :: others) last

/-- The statements of the authorities on a way about the next entity. -/
def vouching (federation : Federation) : String → List String → List Statement
  | _, [] => []
  | authority, subordinate :: others =>
    federation.statement authority subordinate :: federation.vouching subordinate others

/-- The configurations and statements on a way, in turn. -/
def laid (federation : Federation) : String → List String → List Statement
  | entity, [] => [federation.configuration entity]
  | authority, subordinate :: others =>
    federation.configuration authority :: federation.statement authority subordinate ::
      federation.laid subordinate others

/-- The statements of a way and the configurations of its two ends, its start first. -/
def endorsed (federation : Federation) (anchor : String) (others : List String) (last : String) :
    List Statement :=
  federation.configuration anchor :: (federation.vouching anchor others ++
    if others = [] then [] else [federation.configuration last])

variable {federation : Federation} {now : Int}

theorem Way.last_mem {anchor last : String} {others : List String}
    (way : federation.Way anchor others last) : last ∈ anchor :: others := by
  induction way with
  | here entity => exact List.mem_singleton_self _
  | down _ _ ih => exact List.mem_cons_of_mem _ ih

/-- A way from an entity of an honest federation leads through its entities. -/
theorem Way.mem_entities (honest : federation.Honest now) {anchor last : String}
    {others : List String} (way : federation.Way anchor others last)
    (start : anchor ∈ federation.entities) :
    ∀ entity ∈ anchor :: others, entity ∈ federation.entities := by
  induction way with
  | here entity =>
    intro other member
    rw [List.mem_singleton.mp member]
    exact start
  | down member _ ih =>
    intro other among
    rcases List.mem_cons.mp among with rfl | later
    · exact start
    · exact ih (honest.listed _ start _ member) other later

/-! ## What is said along a way -/

/-- Every statement on a way is said by an entity. -/
theorem Way.declared_of_vouching (honest : federation.Honest now) {anchor last : String}
    {others : List String} (way : federation.Way anchor others last)
    (start : anchor ∈ federation.entities) :
    ∀ statement ∈ federation.vouching anchor others, ∃ issuer subject,
      issuer ∈ federation.entities ∧ federation.Declares now issuer subject statement := by
  induction way with
  | here entity => simp [vouching]
  | @down authority subordinate last others member _ ih =>
    intro statement among
    rcases List.mem_cons.mp among with rfl | later
    · exact ⟨authority, subordinate, start, honest.statements _ start _ member⟩
    · exact ih (honest.listed _ start _ member) statement later

/-- Along a way, below anything that is about its start with the right keys, each statement is
linked to the one above it. -/
theorem Way.linked_below (honest : federation.Honest now) (legible : federation.Legible)
    {anchor last : String} {others : List String} (way : federation.Way anchor others last)
    (start : anchor ∈ federation.entities) {above : Statement} (about : above.subject = anchor)
    (carries : above.keys = (federation.configuration anchor).keys) :
    (above :: (federation.vouching anchor others ++ [federation.configuration last])).IsChain
      fun upper lower => Linked lower upper := by
  induction way generalizing above with
  | here entity =>
    rw [vouching, List.nil_append, List.isChain_cons_cons]
    exact ⟨honest.linked start (honest.configurations entity start)
      (legible.configurations entity start) about carries, .singleton _⟩
  | @down authority subordinate last others member _ ih =>
    have declared := honest.statements authority start subordinate member
    rw [vouching, List.cons_append, List.isChain_cons_cons]
    exact ⟨honest.linked start declared (legible.statements _ start _ member) about carries,
      ih (honest.listed _ start _ member) declared.about (honest.carried _ start _ member)⟩

/-- Every statement between the two ends of a way, and at them, is said by an entity. -/
theorem Way.declared_of_endorsed (honest : federation.Honest now) {anchor last : String}
    {others : List String} (way : federation.Way anchor others last)
    (start : anchor ∈ federation.entities) :
    ∀ statement ∈ federation.endorsed anchor others last, ∃ issuer subject,
      issuer ∈ federation.entities ∧ federation.Declares now issuer subject statement := by
  intro statement among
  rcases List.mem_cons.mp among with rfl | below
  · exact ⟨anchor, anchor, start, honest.configurations anchor start⟩
  · rcases List.mem_append.mp below with between | ending
    · exact way.declared_of_vouching honest start statement between
    · have member : last ∈ federation.entities :=
        way.mem_entities honest start last way.last_mem
      by_cases empty : others = []
      · simp [empty] at ending
      · rw [if_neg empty, List.mem_singleton] at ending
        rw [ending]
        exact ⟨last, last, member, honest.configurations last member⟩

theorem Way.endorsed_last {anchor last : String} {others : List String}
    (way : federation.Way anchor others last) :
    (federation.endorsed anchor others last).getLast? = some (federation.configuration last) := by
  cases way with
  | here entity => rfl
  | down member rest =>
    rw [endorsed, if_neg (List.cons_ne_nil _ _), ← List.cons_append, List.getLast?_concat]

/-- From the end of a way up to its start, each statement is linked to the next one. -/
theorem Way.linked (honest : federation.Honest now) (legible : federation.Legible)
    {anchor last : String} {others : List String} (way : federation.Way anchor others last)
    (start : anchor ∈ federation.entities) :
    (federation.endorsed anchor others last).reverse.IsChain Linked := by
  rw [List.isChain_reverse]
  cases way with
  | here entity => exact .singleton _
  | down member rest =>
    have below := (Way.down member rest).linked_below honest legible start
      (honest.configurations anchor start).about rfl
    rw [endorsed, if_neg (List.cons_ne_nil _ _)]
    exact below

/-- The rule on signatures finds nothing wrong with a way under keys that hold the secret of its
start. -/
theorem Way.signatures (honest : federation.Honest now) (legible : federation.Legible)
    {anchor last : String} {others : List String} (way : federation.Way anchor others last)
    (start : anchor ∈ federation.entities) (late : now ≤ Word.largestSigned) {trusted : KeySet}
    (holds : Holds trusted (federation.keyId anchor) (federation.secret anchor)) :
    Chain.signatureViolations trusted now
      (federation.endorsed anchor others last).reverse = [] := by
  rw [Chain.signature_violations_nil_iff]
  refine ⟨by simp [endorsed], ?_, ?_, ?_, ?_⟩
  · intro statement member
    obtain ⟨issuer, subject, -, declared⟩ :=
      way.declared_of_endorsed honest start statement (List.mem_reverse.mp member)
    exact declared.timely late
  · intro first head
    rw [List.head?_reverse, way.endorsed_last, Option.some.injEq] at head
    rw [← head]
    exact honest.self_signed legible (way.mem_entities honest start last way.last_mem)
  · intro final tail
    rw [List.getLast?_reverse, endorsed, List.head?_cons, Option.some.injEq] at tail
    rw [← tail]
    exact ⟨honest.self_signed legible start,
      (honest.configurations anchor start).verify (legible.configurations anchor start) holds⟩
  · intro position statement next here after
    obtain ⟨inside, rfl⟩ := List.getElem?_eq_some_iff.mp here
    obtain ⟨within, rfl⟩ := List.getElem?_eq_some_iff.mp after
    exact List.isChain_iff_getElem.mp (way.linked honest legible start) position within

/-- The statements between the two ends of a way, with the configurations of both, satisfy all
rules under keys that hold the secret of its start. Nothing in them is constrained or critical. -/
theorem Way.valid (honest : federation.Honest now) (legible : federation.Legible)
    {anchor last : String} {others : List String} (way : federation.Way anchor others last)
    (start : anchor ∈ federation.entities) (late : now ≤ Word.largestSigned) {trusted : KeySet}
    (holds : Holds trusted (federation.keyId anchor) (federation.secret anchor)) :
    Chain.validate (Chain.standardRules trusted) now
      (federation.endorsed anchor others last).reverse = [] := by
  have every : ∀ statement ∈ (federation.endorsed anchor others last).reverse,
      ∃ issuer subject, issuer ∈ federation.entities ∧
        federation.Declares now issuer subject statement := fun statement member =>
    way.declared_of_endorsed honest start statement (List.mem_reverse.mp member)
  have signatures := way.signatures honest legible start late holds
  have constraints : Chain.constraintViolations
      (federation.endorsed anchor others last).reverse = [] := by
    rw [Chain.constraint_violations_nil_iff]
    intro position statement constraints first _ here constrained
    obtain ⟨issuer, subject, -, declared⟩ := every statement (List.mem_of_getElem? here)
    rw [declared.unconstrained] at constrained
    cases constrained
  have critical : Chain.criticalViolations
      (federation.endorsed anchor others last).reverse = [] := by
    rw [Chain.critical_violations_nil_iff]
    intro statement member
    obtain ⟨issuer, subject, -, declared⟩ := every statement member
    exact declared.understood
  simp only [Chain.validate, Chain.standardRules, List.flatMap_cons, List.flatMap_nil,
    Chain.Rule.violations, signatures, constraints, critical, List.append_nil]

end TrustFederation.Federation
