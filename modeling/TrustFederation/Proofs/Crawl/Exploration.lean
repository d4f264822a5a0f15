import TrustFederation.Proofs.Crawl.Bookkeeping
import TrustFederation.Proofs.Crawl.Contents
/-!
# What a crawl finds

A crawl explores the federation below its anchor: every configuration that it stores is listed in
its turn, and what is listed is claimed and looked up. When it is over and no step was given up, the
entities in its version are the least set that contains the anchor and is closed under the listings
that it got.
-/
namespace TrustFederation.Crawl

open Text (lowercase)
open TrustFederation.Tree (Generation Node Store Version)

variable {σ : Type} {client : Client σ} {policy : Policy} {anchor : String} {history : History σ}
  {moment : Moment σ} {flight : Flight} {state next : State σ} {version : Version}
  {generation : Generation Statement}

/-! ## Configurations in a version -/

/-- The version holds the configuration. -/
def Holds (store : StatementStore) (version : Option Version) (configuration : Statement) : Prop :=
  ∃ number generation node, version = some number ∧
    store.generation? number = some generation ∧
    generation.data? node = some configuration ∧ IsConfiguration configuration

theorem holds_iff_stored {store : StatementStore} {filled : Option Version}
    (configuration : Statement) : Holds store filled configuration ↔
      Stored store filled configuration ∧ IsConfiguration configuration := by
  constructor
  · rintro ⟨number, generation, node, begun, held, stored, own⟩
    exact ⟨⟨number, generation, node, begun, held, stored⟩, own⟩
  · rintro ⟨⟨number, generation, node, begun, held, stored⟩, own⟩
    exact ⟨number, generation, node, begun, held, stored, own⟩

theorem holds_iff {store : StatementStore} (held : store.generation? version = some generation)
    (configuration : Statement) : Holds store (some version) configuration ↔
      (∃ node, generation.data? node = some configuration) ∧ IsConfiguration configuration := by
  rw [holds_iff_stored, stored_iff held]

/-! ## Every configuration is listed -/

/-- The configurations that the version of a crawl holds are those that it has taken up the listings
of. -/
theorem Crawled.holds_iff_taken_up (crawled : Crawled client policy anchor history state)
    (configuration : Statement) : Holds state.store state.report.version configuration ↔
      .listSubordinates configuration ∈ history.steps client policy anchor := by
  rw [holds_iff_stored, crawled.stored_iff_source]
  constructor
  · rintro ⟨⟨step, known, source⟩, own⟩
    cases step with
    | listSubordinates authority =>
      cases source
      exact known
    | fetchConfiguration statement =>
      cases source
      exact absurd (crawled.apt_of_mem known) own.not_subordinate
    | _ => cases source
  · intro known
    exact ⟨⟨_, known, rfl⟩, crawled.apt_of_mem known⟩

/-! ## From a step to the listing -/

/-- A step that has succeeded is followed by the next one about its entity, unless it was a
listing. -/
theorem History.successor_of_completed {step : Step}
    (done : step ∈ history.completed client policy)
    (other : ∀ authority, step ≠ .listSubordinates authority) (anchor : String) :
    ∃ successor ∈ history.steps client policy anchor,
      successor.identifier = step.identifier ∧ weight successor < weight step := by
  obtain ⟨moment, member, flight, outcome, landing, rfl, result⟩ :=
    History.landed_of_completed done
  have brings := (replies_of_execute result).brings moment.state.claimed
  have taken_up := fun step brought =>
    @History.steps_of_brought _ _ _ _ _ _ member landing _ result step brought anchor
  generalize (State.claim moment.state.claimed outcome.next).1 = news at brings taken_up
  generalize (State.claim moment.state.claimed outcome.next).2 = claims at brings
  generalize flight.attempt.step = step at brings other
  cases brings with
  | @further _ successor about lighter =>
    exact ⟨successor, taken_up successor (List.mem_singleton_self _), about, by omega⟩
  | claims => exact absurd rfl (other _)

/-- Where all steps about an entity have succeeded that lead to its listing, one of its
configurations is listed.

Proof: induction over the weight of the steps. -/
theorem History.listing_of_step {identifier : String}
    (settled : ∀ step ∈ history.steps client policy anchor, step.identifier = identifier →
      (∀ authority, step ≠ .listSubordinates authority) →
      step ∈ history.completed client policy)
    {step : Step} (known : step ∈ history.steps client policy anchor)
    (about : step.identifier = identifier) :
    ∃ configuration, .listSubordinates configuration ∈ history.steps client policy anchor ∧
      lowercase configuration.subject = identifier := by
  induction bound : weight step using Nat.strong_induction_on generalizing step with
  | _ heaviness ih =>
    by_cases listing : ∃ authority, step = .listSubordinates authority
    · obtain ⟨authority, rfl⟩ := listing
      exact ⟨authority, known, about⟩
    · have other : ∀ authority, step ≠ .listSubordinates authority :=
        fun authority same => listing ⟨authority, same⟩
      obtain ⟨successor, taken_up, same, lighter⟩ :=
        History.successor_of_completed (settled step known about other) other anchor
      exact ih (weight successor) (bound ▸ lighter) taken_up (same.trans about) rfl

/-! ## Coverage -/

/-- The least set that contains the anchor and, with an entity whose configuration in the version
offers to list subordinates and to fetch statements about them, the identifiers that its listing
named. All letters are made small. -/
inductive Covered (client : Client σ) (policy : Policy) (anchor : String) (history : History σ)
    (generation : Generation Statement) : String → Prop where
  | anchor : Covered client policy anchor history generation (lowercase anchor)
  | listed {node : Node} {authority : Statement} {endpoints : Endpoints}
      {subordinates : List String} {subordinate : String}
      (known : Covered client policy anchor history generation (lowercase authority.subject))
      (stored : generation.data? node = some authority) (own : IsConfiguration authority)
      (offers : authority.endpoints? = some endpoints) (both : endpoints.canListSubordinates = true)
      (listed : Listed client policy history authority subordinates)
      (member : subordinate ∈ subordinates) :
      Covered client policy anchor history generation (lowercase subordinate)

/-- What was named by listings is covered. -/
theorem Named.covered (crawled : Crawled client policy anchor history state)
    (begun : state.report.version = some version)
    (held : state.store.generation? version = some generation) {identifier : String}
    (named : Named client policy anchor history identifier) :
    Covered client policy anchor history generation identifier := by
  induction named with
  | anchor => exact .anchor
  | @listed authority subordinates subordinate known listed member ih =>
    have ledger := crawled.ledger
    have taken_up := ledger.mem_of_completed (ledger.heard authority subordinates listed).1
    obtain ⟨⟨node, stored⟩, own⟩ := (holds_iff held authority).mp
      (begun ▸ (crawled.holds_iff_taken_up authority).mpr taken_up)
    obtain ⟨moment, -, flight, -, -, endpoints, offers, -⟩ := id listed
    obtain ⟨offered, both⟩ := Option.filter_eq_some_iff.mp offers
    exact .listed ih stored own offered both listed member

/-- What is covered is claimed. -/
theorem Covered.claimed (ledger : Ledger client policy anchor history state) {identifier : String}
    (covered : Covered client policy anchor history generation identifier) :
    identifier ∈ state.claimed := by
  cases covered with
  | anchor => exact (ledger.lineage.about _).mpr ⟨.resolveRoot anchor, List.mem_cons_self, rfl⟩
  | listed known stored own offers both listed member =>
    exact (ledger.heard _ _ listed).2.1 _ member

/-- When a crawl is over and gave up no step, all its steps have succeeded. -/
theorem Crawled.completed_of_complete (crawled : Crawled client policy anchor history state)
    (ended : state.pending = []) (complete : state.report.isComplete = true) {step : Step}
    (known : step ∈ history.steps client policy anchor) :
    step ∈ history.completed client policy := by
  obtain ⟨-, -, reported⟩ := crawled.reported
  have nothing : state.report.dropped = [] := by
    simp only [Report.isComplete, Bool.and_eq_true, List.isEmpty_iff] at complete
    exact complete.2
  have kept := List.map_eq_nil_iff.mp (reported.symm.trans nothing)
  refine (crawled.ledger.settled ended known).resolve_right fun given_up => ?_
  rw [kept] at given_up
  cases given_up

/-- An authority whose listing has succeeded has been given one list of subordinates. -/
theorem Crawled.listed_of_completed (crawled : Crawled client policy anchor history state)
    {authority : Statement} {endpoints : Endpoints}
    (done : .listSubordinates authority ∈ history.completed client policy)
    (offers : authority.endpoints? = some endpoints)
    (both : endpoints.canListSubordinates = true) :
    ∃ subordinates, Listed client policy history authority subordinates ∧
      ∀ others, Listed client policy history authority others → others = subordinates := by
  obtain ⟨moment, member, flight, outcome, landing, step, result⟩ :=
    History.landed_of_completed done
  have replies := replies_of_execute result
  rw [step] at replies
  generalize outcome.next = following at replies
  cases replies with
  | leaf nothing =>
    rw [Option.filter_eq_none_iff] at nothing
    exact absurd both (nothing endpoints offers)
  | @listing authority endpoints subordinates offers answer =>
    have listed : Listed client policy history authority subordinates :=
      ⟨moment, member, flight, landing, step, endpoints, offers, answer⟩
    exact ⟨subordinates, listed, (crawled.ledger.heard authority subordinates listed).2.2⟩

/-- When the crawl is over and its report is complete, the entities whose configurations its version
holds are exactly those that are covered by the listings that it got, and it got one from every
entity that offers it.

Proof: what is stored is claimed, and what is claimed was named. What is covered is claimed, and
every step about it has succeeded, so the last one, its listing, was taken up. -/
theorem coverage_of_complete (crawled : Crawled client policy anchor history state)
    (ended : ∀ choice, state.advance client policy choice = none)
    (complete : state.report.isComplete = true) :
    ∃ version generation, state.report.version = some version ∧
      state.store.generation? version = some generation ∧
      (∀ identifier, (∃ node configuration, generation.data? node = some configuration ∧
          IsConfiguration configuration ∧ lowercase configuration.subject = identifier) ↔
        Covered client policy anchor history generation identifier) ∧
      ∀ node configuration endpoints, generation.data? node = some configuration →
        IsConfiguration configuration → configuration.endpoints? = some endpoints →
        endpoints.canListSubordinates = true →
        ∃ subordinates, Listed client policy history configuration subordinates ∧
          ∀ others, Listed client policy history configuration others → others = subordinates := by
  have settled := (State.advance_none_iff client policy 0 state).mp (ended 0)
  have ledger := crawled.ledger
  rcases crawled.crawling.invariant.phase with opening | ⟨version, generation, building⟩
  · simp [Report.isComplete, opening.unbegun] at complete
  have listed_iff (configuration : Statement) :
      .listSubordinates configuration ∈ history.steps client policy anchor ↔
        (∃ node, generation.data? node = some configuration) ∧ IsConfiguration configuration := by
    rw [← crawled.holds_iff_taken_up, building.begun, holds_iff building.held]
  refine ⟨version, generation, building.begun, building.held, ?_, ?_⟩
  · intro identifier
    constructor
    · rintro ⟨node, configuration, stored, own, rfl⟩
      have taken_up := (listed_iff configuration).mpr ⟨⟨node, stored⟩, own⟩
      exact (ledger.named _ (ledger.lineage.claimed_of_mem taken_up)).covered crawled
        building.begun building.held
    · intro covered
      obtain ⟨step, known, about⟩ := (ledger.lineage.about identifier).mp (covered.claimed ledger)
      obtain ⟨configuration, taken_up, subject⟩ := History.listing_of_step
        (fun step known _ _ => crawled.completed_of_complete settled complete known) known about
      obtain ⟨⟨node, stored⟩, own⟩ := (listed_iff configuration).mp taken_up
      exact ⟨node, configuration, stored, own, subject⟩
  · intro node configuration endpoints stored own offers both
    have taken_up := (listed_iff configuration).mpr ⟨⟨node, stored⟩, own⟩
    exact crawled.listed_of_completed (crawled.completed_of_complete settled complete taken_up)
      offers both

/-- The crawl of the circle is complete, so its version holds what the circle's listings cover. -/
theorem coverage_of_circle :
    let policy : Policy := ⟨.concurrent 2, .deferred 2, 1⟩
    let start := State.start "a" (Store.empty 1) ()
    let history := start.moments circle policy (fun turns => turns) 9
    let state := start.run circle policy (fun turns => turns) 9
    ∃ generation, state.store.generation? 1 = some generation ∧
      ∀ identifier, (∃ node configuration, generation.data? node = some configuration ∧
          IsConfiguration configuration ∧ lowercase configuration.subject = identifier) ↔
        Covered circle policy "a" history generation identifier := by
  intro policy start history state
  have crawled : Crawled circle policy "a" history state :=
    (Crawled.start 1 [] ()).run (fun turns => turns) 9
  have ended (choice : Nat) : state.advance circle policy choice = none :=
    (State.advance_none_iff circle policy choice state).mpr (by decide +kernel)
  obtain ⟨version, generation, begun, held, covered, -⟩ :=
    coverage_of_complete crawled ended (by decide +kernel)
  obtain rfl : 1 = version := Option.some.inj
    (Eq.trans (show some 1 = state.report.version by decide +kernel) begun)
  exact ⟨generation, held, covered⟩

end TrustFederation.Crawl
