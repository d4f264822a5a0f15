import Mathlib.Data.List.Nodup
import TrustFederation.Proofs.Crawl.History
/-!
# The lineage of steps

The steps that a crawl takes up about one entity follow one another, and each is lighter than the
one before. So a crawl never takes up a step twice, and of the steps about one entity only the last
may be pending. The identifiers of the steps are the ones that are claimed, and each of these was
named by a listing, or it is the anchor.
-/
namespace TrustFederation.Crawl

open Client (Request)
open Text (lowercase)
open TrustFederation.Tree (Store)

variable {σ : Type}

/-! ## Steps and claims -/

/-- How the steps that were taken up, those that are pending and the claims belong together. -/
structure Lineage (steps pending : List Step) (claimed : List String) : Prop where
  distinct : (steps.map fun step => (step.identifier, weight step)).Nodup
  latest : ∀ step ∈ pending, ∀ other ∈ steps, other.identifier = step.identifier →
    weight step ≤ weight other
  about : ∀ identifier, identifier ∈ claimed ↔ ∃ step ∈ steps, step.identifier = identifier
  single : claimed.Nodup

namespace Lineage

variable {steps pending : List Step} {claimed : List String}

theorem start (anchor : String) :
    Lineage [.resolveRoot anchor] [.resolveRoot anchor] [lowercase anchor] := by
  refine ⟨List.nodup_singleton _, ?_, ?_, List.nodup_singleton _⟩
  · intro step waiting other known _
    rw [List.mem_singleton.mp waiting, List.mem_singleton.mp known]
  · intro identifier
    simp only [List.mem_singleton, exists_eq_left, Step.identifier]
    exact eq_comm

/-- What is no longer pending does not matter. -/
theorem mono (lineage : Lineage steps pending claimed) {fewer : List Step}
    (kept : ∀ step ∈ fewer, step ∈ pending) : Lineage steps fewer claimed :=
  ⟨lineage.distinct, fun step waiting => lineage.latest step (kept step waiting), lineage.about,
    lineage.single⟩

/-- No step is taken up twice. -/
theorem nodup (lineage : Lineage steps pending claimed) : steps.Nodup :=
  lineage.distinct.of_map

theorem claimed_of_mem (lineage : Lineage steps pending claimed) {step : Step}
    (known : step ∈ steps) : step.identifier ∈ claimed :=
  (lineage.about _).mpr ⟨step, known, rfl⟩

/-- Steps about one entity with one weight are the same step. -/
theorem step_eq (lineage : Lineage steps pending claimed) {step other : Step}
    (known : step ∈ steps) (also : other ∈ steps) (about : step.identifier = other.identifier)
    (equal : weight step = weight other) : step = other :=
  List.inj_on_of_nodup_map lineage.distinct known also (Prod.ext about equal)

/-- Only one step about an entity is pending. -/
theorem pending_eq (lineage : Lineage steps pending claimed)
    (known : ∀ step ∈ pending, step ∈ steps) {step other : Step} (waiting : step ∈ pending)
    (also : other ∈ pending) (about : step.identifier = other.identifier) : step = other := by
  have least := lineage.latest step waiting other (known other also) about.symm
  have also_least := lineage.latest other also step (known step waiting) about
  exact lineage.step_eq (known step waiting) (known other also) about
    (Nat.le_antisymm least also_least)

/-- The next step about an entity keeps the lineage. -/
theorem further (lineage : Lineage steps pending claimed) {step successor : Step}
    {others : List Step} (known : ∀ waiting ∈ pending, waiting ∈ steps) (unique : pending.Nodup)
    (before : pending.Perm (step :: others)) (about : successor.identifier = step.identifier)
    (lighter : weight successor + 1 = weight step) :
    Lineage (steps ++ [successor]) (successor :: others) claimed := by
  have waiting : step ∈ pending := before.mem_iff.mpr List.mem_cons_self
  have lightest : ∀ other ∈ steps, other.identifier = step.identifier →
      weight successor < weight other := by
    intro other taken same
    have heavier := lineage.latest step waiting other taken same
    omega
  refine ⟨?_, ?_, ?_, lineage.single⟩
  · rw [List.map_append, List.map_singleton, List.nodup_append]
    refine ⟨lineage.distinct, List.nodup_singleton _, ?_⟩
    intro pair taken other new same
    obtain ⟨earlier, member, rfl⟩ := List.mem_map.mp taken
    rw [List.mem_singleton.mp new, Prod.mk.injEq] at same
    exact absurd same.2 (lightest earlier member (same.1.trans about)).ne'
  · intro pended still other taken same
    rcases List.mem_cons.mp still with rfl | old
    · rcases List.mem_append.mp taken with earlier | new
      · exact (lightest other earlier (same.trans about)).le
      · rw [List.mem_singleton.mp new]
    · have also : pended ∈ pending := before.mem_iff.mpr (List.mem_cons_of_mem _ old)
      rcases List.mem_append.mp taken with earlier | new
      · exact lineage.latest pended also other earlier same
      · -- The step that succeeded was the only pending one about its entity.
        rw [List.mem_singleton.mp new, about] at same
        obtain rfl : step = pended := lineage.pending_eq known waiting also same
        exact absurd old (List.nodup_cons.mp (before.nodup_iff.mp unique)).1
  · intro identifier
    rw [lineage.about identifier]
    constructor
    · rintro ⟨other, taken, rfl⟩
      exact ⟨other, List.mem_append_left _ taken, rfl⟩
    · rintro ⟨other, taken, rfl⟩
      rcases List.mem_append.mp taken with earlier | new
      · exact ⟨other, earlier, rfl⟩
      · rw [List.mem_singleton.mp new]
        exact ⟨step, known step waiting, about.symm⟩

/-- Steps about identifiers that nobody has claimed keep the lineage. -/
theorem claims (lineage : Lineage steps pending claimed) {step : Step} {others : List Step}
    (known : ∀ waiting ∈ pending, waiting ∈ steps) (before : pending.Perm (step :: others))
    {authority : Statement} {news : List String} (distinct : (news.map lowercase).Nodup)
    (fresh : ∀ subordinate ∈ news, lowercase subordinate ∉ claimed) :
    Lineage (steps ++ news.map (.fetchSubordinate authority))
      (news.map (.fetchSubordinate authority) ++ others)
      ((news.map lowercase).reverse ++ claimed) := by
  have apart : ∀ subordinate ∈ news, ∀ other ∈ steps,
      other.identifier ≠ lowercase subordinate := by
    intro subordinate new other taken same
    exact fresh subordinate new (same ▸ lineage.claimed_of_mem taken)
  refine ⟨?_, ?_, ?_, ?_⟩
  · rw [List.map_append, List.nodup_append, List.map_map]
    refine ⟨lineage.distinct, ?_, ?_⟩
    · have identified : (fun subordinate => (lowercase subordinate, 3)) =
          (fun identifier : String => (identifier, 3)) ∘ lowercase := rfl
      show (news.map fun subordinate => (lowercase subordinate, 3)).Nodup
      rw [identified, ← List.map_map]
      exact distinct.map fun one two same => (Prod.mk.inj same).1
    · intro pair taken other new same
      obtain ⟨earlier, member, rfl⟩ := List.mem_map.mp taken
      obtain ⟨subordinate, listed, rfl⟩ := List.mem_map.mp new
      exact apart subordinate listed earlier member (Prod.mk.inj same).1
  · intro pended still other taken same
    rcases List.mem_append.mp still with new | old
    · obtain ⟨subordinate, listed, rfl⟩ := List.mem_map.mp new
      rcases List.mem_append.mp taken with earlier | also
      · exact absurd same (apart subordinate listed other earlier)
      · obtain ⟨second, -, rfl⟩ := List.mem_map.mp also
        exact Nat.le_refl 3
    · have waiting : pended ∈ pending := before.mem_iff.mpr (List.mem_cons_of_mem _ old)
      rcases List.mem_append.mp taken with earlier | also
      · exact lineage.latest pended waiting other earlier same
      · obtain ⟨second, listed, rfl⟩ := List.mem_map.mp also
        exact absurd same.symm (apart second listed pended (known pended waiting))
  · intro identifier
    rw [List.mem_append, List.mem_reverse, lineage.about identifier]
    constructor
    · rintro (new | ⟨other, taken, rfl⟩)
      · obtain ⟨subordinate, listed, rfl⟩ := List.mem_map.mp new
        exact ⟨.fetchSubordinate authority subordinate,
          List.mem_append_right _ (List.mem_map_of_mem listed), rfl⟩
      · exact ⟨other, List.mem_append_left _ taken, rfl⟩
    · rintro ⟨other, taken, rfl⟩
      rcases List.mem_append.mp taken with earlier | also
      · exact .inr ⟨other, earlier, rfl⟩
      · obtain ⟨subordinate, listed, rfl⟩ := List.mem_map.mp also
        exact .inl (List.mem_map_of_mem listed)
  · rw [List.nodup_append, List.nodup_reverse]
    refine ⟨distinct, lineage.single, ?_⟩
    rintro identifier new other old rfl
    obtain ⟨subordinate, listed, rfl⟩ := List.mem_map.mp (List.mem_reverse.mp new)
    exact fresh subordinate listed old

/-- What a step that succeeded brings keeps the lineage. -/
theorem brings (lineage : Lineage steps pending claimed) {step : Step}
    {others news : List Step} {claims : List String}
    (known : ∀ waiting ∈ pending, waiting ∈ steps) (unique : pending.Nodup)
    (before : pending.Perm (step :: others)) (brings : Brings claimed step news claims) :
    Lineage (steps ++ news) (news ++ others) claims := by
  cases brings with
  | further about lighter => exact lineage.further known unique before about lighter
  | claims distinct fresh => exact lineage.claims known before distinct fresh

end Lineage

/-! ## Listings in a history -/

/-- In a turn, the listing of an authority is answered with these subordinates. -/
def Moment.Lists (client : Client σ) (policy : Policy) (moment : Moment σ) (authority : Statement)
    (subordinates : List String) : Prop :=
  ∃ flight, moment.landing? policy = some flight ∧
    flight.attempt.step = .listSubordinates authority ∧
    ∃ endpoints, authority.endpoints?.filter (·.canListSubordinates) = some endpoints ∧
      (client.listing ((Request.plain
        (flight.attempt.useCached policy.cacheThreshold)).withEndpoints endpoints)
        moment.state.world).1 = .ok subordinates

/-- In a history, the listing of an authority was answered with these subordinates. -/
def Listed (client : Client σ) (policy : Policy) (history : History σ) (authority : Statement)
    (subordinates : List String) : Prop :=
  ∃ moment ∈ history, moment.Lists client policy authority subordinates

/-- The anchor and every identifier that a listing of a named authority names, with their letters
made small. -/
inductive Named (client : Client σ) (policy : Policy) (anchor : String) (history : History σ) :
    String → Prop where
  | anchor : Named client policy anchor history (lowercase anchor)
  | listed {authority : Statement} {subordinates : List String} {subordinate : String}
      (known : Named client policy anchor history (lowercase authority.subject))
      (listed : Listed client policy history authority subordinates)
      (member : subordinate ∈ subordinates) :
      Named client policy anchor history (lowercase subordinate)

section Listings

variable {client : Client σ} {policy : Policy} {anchor : String} {history : History σ}
  {moment : Moment σ} {flight : Flight} {authority : Statement} {subordinates others : List String}

theorem listed_concat : Listed client policy (history ++ [moment]) authority subordinates ↔
    Listed client policy history authority subordinates ∨
      moment.Lists client policy authority subordinates := by
  constructor
  · rintro ⟨other, member, lists⟩
    rcases List.mem_append.mp member with earlier | last
    · exact .inl ⟨other, earlier, lists⟩
    · rw [List.mem_singleton.mp last] at lists
      exact .inr lists
  · rintro (⟨other, member, lists⟩ | lists)
    · exact ⟨other, List.mem_append_left _ member, lists⟩
    · exact ⟨moment, List.mem_append_right _ (List.mem_singleton_self _), lists⟩

theorem Named.concat {identifier : String} (named : Named client policy anchor history identifier)
    (moment : Moment σ) : Named client policy anchor (history ++ [moment]) identifier := by
  induction named with
  | anchor => exact .anchor
  | listed _ listed member ih => exact .listed ih (listed_concat.mpr (.inl listed)) member

/-- The listing that is answered in a turn succeeds. -/
theorem Moment.Lists.succeeds (lists : moment.Lists client policy authority subordinates)
    (landing : moment.landing? policy = some flight) :
    flight.attempt.step = .listSubordinates authority ∧
      (flight.land client policy moment.state).result =
        .ok ⟨moment.state.store, none, subordinates.map (.fetchSubordinate authority)⟩ := by
  obtain ⟨other, also, step, endpoints, offers, answer⟩ := lists
  obtain rfl : other = flight := Option.some.inj (also.symm.trans landing)
  refine ⟨step, ?_⟩
  simp only [Flight.land, step, execute, offers, andThen, answer, Except.bind]

/-- A turn answers a listing with one list of subordinates. -/
theorem Moment.Lists.unique (lists : moment.Lists client policy authority subordinates)
    (also : moment.Lists client policy authority others) : subordinates = others := by
  obtain ⟨flight, landing, -, endpoints, offers, answer⟩ := lists
  obtain ⟨other, other_landing, -, other_endpoints, other_offers, other_answer⟩ := also
  obtain rfl : other = flight := Option.some.inj (other_landing.symm.trans landing)
  obtain rfl : other_endpoints = endpoints := Option.some.inj (other_offers.symm.trans offers)
  exact Except.ok.inj (answer.symm.trans other_answer)

/-- What a success claims was claimed before, or a listing has named it. -/
theorem Moment.claimed_of_success (landing : moment.landing? policy = some flight)
    {outcome : Outcome} (result : (flight.land client policy moment.state).result = .ok outcome)
    {identifier : String}
    (member : identifier ∈ (State.claim moment.state.claimed outcome.next).2) :
    identifier ∈ moment.state.claimed ∨ ∃ authority subordinates,
      flight.attempt.step = .listSubordinates authority ∧
      moment.Lists client policy authority subordinates ∧
      ∃ subordinate ∈ subordinates, lowercase subordinate = identifier := by
  have replies := replies_of_execute result
  generalize at_step : flight.attempt.step = step at replies
  generalize outcome.next = next at member replies
  cases replies with
  | @listing authority endpoints subordinates offers answer =>
    obtain ⟨news, claims, kept, -⟩ := claim_listing moment.state.claimed authority subordinates
    rw [claims, List.mem_append, List.mem_reverse] at member
    rcases member with new | old
    · obtain ⟨subordinate, listed, rfl⟩ := List.mem_map.mp new
      have lists : moment.Lists client policy authority subordinates :=
        ⟨flight, landing, at_step, endpoints, offers, answer⟩
      exact .inr ⟨authority, subordinates, rfl, lists, subordinate, kept.subset listed, rfl⟩
    · exact .inl old
  | _ => exact .inl member

end Listings

/-! ## The ledger of a crawl -/

/-- What a crawl has taken up is accounted for, and so are its claims. -/
structure Ledger (client : Client σ) (policy : Policy) (anchor : String) (history : History σ)
    (state : State σ) : Prop where
  balanced : (history.steps client policy anchor).Perm
    (state.pending ++ (history.completed client policy ++ history.dropped client policy))
  lineage : Lineage (history.steps client policy anchor) state.pending state.claimed
  named : ∀ identifier ∈ state.claimed, Named client policy anchor history identifier
  heard : ∀ authority subordinates, Listed client policy history authority subordinates →
    .listSubordinates authority ∈ history.completed client policy ∧
    (∀ subordinate ∈ subordinates, lowercase subordinate ∈ state.claimed) ∧
    ∀ others, Listed client policy history authority others → others = subordinates

namespace Ledger

variable {client : Client σ} {policy : Policy} {anchor : String} {history : History σ}
  {moment : Moment σ} {state next : State σ}

theorem steps_nodup (ledger : Ledger client policy anchor history state) :
    (history.steps client policy anchor).Nodup :=
  ledger.lineage.nodup

theorem mem_of_pending (ledger : Ledger client policy anchor history state) {step : Step}
    (waiting : step ∈ state.pending) : step ∈ history.steps client policy anchor :=
  ledger.balanced.mem_iff.mpr (List.mem_append_left _ waiting)

theorem mem_of_completed (ledger : Ledger client policy anchor history state) {step : Step}
    (done : step ∈ history.completed client policy) :
    step ∈ history.steps client policy anchor :=
  ledger.balanced.mem_iff.mpr (List.mem_append_right _ (List.mem_append_left _ done))

/-- With nothing pending, every step has succeeded or been given up. -/
theorem settled (ledger : Ledger client policy anchor history state) (ended : state.pending = [])
    {step : Step} (known : step ∈ history.steps client policy anchor) :
    step ∈ history.completed client policy ∨ step ∈ history.dropped client policy := by
  have placed := ledger.balanced.mem_iff.mp known
  rw [ended, List.nil_append] at placed
  exact List.mem_append.mp placed

/-- What a turn brings was not taken up before. -/
theorem fresh_of_brought (ledger : Ledger client policy anchor (history ++ [moment]) next)
    {brought completed failed dropped : List Step} {tried : List Trial}
    (records : Recorded client policy anchor history moment brought completed failed dropped tried)
    {step : Step} (new : step ∈ brought) : step ∉ history.steps client policy anchor := by
  have distinct := ledger.steps_nodup
  rw [records.steps] at distinct
  exact fun known => (List.nodup_append.mp distinct).2.2 step known step new rfl

theorem pending_nodup (ledger : Ledger client policy anchor history state) :
    state.pending.Nodup :=
  (List.nodup_append.mp (ledger.balanced.nodup_iff.mp ledger.steps_nodup)).1

/-- The step whose attempt lands does not wait for a round. -/
theorem not_deferred_of_landing (ledger : Ledger client policy anchor history moment.state)
    {flight : Flight} (landing : moment.landing? policy = some flight) :
    flight.attempt.step ∉ moment.state.deferred.map (·.step) := by
  have unique := ledger.pending_nodup
  rw [State.pending, State.scheduled_eq, List.map_append] at unique
  have active : flight.attempt.step ∈ moment.state.active.map (·.step) :=
    List.mem_map_of_mem (Moment.active_of_landing landing)
  exact fun deferred => (List.nodup_append.mp unique).2.2 _ active _ deferred rfl

/-- A pending step has neither succeeded nor been given up. -/
theorem open_of_pending (ledger : Ledger client policy anchor history state) {step : Step}
    (waiting : step ∈ state.pending) :
    step ∉ history.completed client policy ∧ step ∉ history.dropped client policy := by
  have apart := (List.nodup_append.mp (ledger.balanced.nodup_iff.mp ledger.steps_nodup)).2.2
  exact ⟨fun done => apart step waiting step (List.mem_append_left _ done) rfl,
    fun given_up => apart step waiting step (List.mem_append_right _ given_up) rfl⟩

/-- A step that succeeded has not been given up. -/
theorem kept_of_completed (ledger : Ledger client policy anchor history state) {step : Step}
    (done : step ∈ history.completed client policy) :
    step ∉ history.dropped client policy := by
  have settled := (List.nodup_append.mp (ledger.balanced.nodup_iff.mp ledger.steps_nodup)).2.1
  exact fun given_up => (List.nodup_append.mp settled).2.2 step done step given_up rfl

theorem start (retained : Nat) (ops : List (Store.Op Statement)) (world : σ) :
    Ledger client policy anchor []
      (.start anchor ((Store.empty retained).applyAll ops) world) := by
  refine ⟨.refl _, .start anchor, ?_, ?_⟩
  · intro identifier claimed
    rw [List.mem_singleton.mp claimed]
    exact .anchor
  · rintro authority subordinates ⟨moment, member, -⟩
    exact absurd member List.not_mem_nil

/-- A turn in which nothing succeeds keeps the ledger. -/
theorem quiet (ledger : Ledger client policy anchor history moment.state)
    {failed dropped : List Step} {tried : List Trial}
    (records : Recorded client policy anchor history moment [] [] failed dropped tried)
    (silent : ∀ authority subordinates, ¬ moment.Lists client policy authority subordinates)
    (claimed : next.claimed = moment.state.claimed)
    (pending : moment.state.pending.Perm (next.pending ++ dropped)) :
    Ledger client policy anchor (history ++ [moment]) next := by
  have steps := records.steps
  have completed := records.completed
  rw [List.append_nil] at steps completed
  refine ⟨?_, ?_, ?_, ?_⟩
  · rw [steps, completed, records.dropped]
    refine ledger.balanced.trans (List.perm_iff_count.mpr fun step => ?_)
    have kept := pending.count_eq step
    simp only [List.count_append] at kept ⊢
    omega
  · rw [steps, claimed]
    exact ledger.lineage.mono fun step waiting =>
      pending.mem_iff.mpr (List.mem_append_left _ waiting)
  · rw [claimed]
    exact fun identifier member => (ledger.named identifier member).concat moment
  · intro authority subordinates listed
    have earlier := (listed_concat.mp listed).resolve_right (silent authority subordinates)
    obtain ⟨done, heard, unique⟩ := ledger.heard authority subordinates earlier
    rw [completed, claimed]
    refine ⟨done, heard, ?_⟩
    intro others also
    exact unique others ((listed_concat.mp also).resolve_right (silent authority others))

/-- A step that succeeds, with the steps that it brings, keeps the ledger. -/
theorem succeeded (ledger : Ledger client policy anchor history moment.state) {flight : Flight}
    {outcome : Outcome} {others : List Step} (landing : moment.landing? policy = some flight)
    (result : (flight.land client policy moment.state).result = .ok outcome)
    (before : moment.state.pending.Perm (flight.attempt.step :: others))
    (after : next.pending.Perm
      ((State.claim moment.state.claimed outcome.next).1 ++ others))
    (claimed : next.claimed = (State.claim moment.state.claimed outcome.next).2) :
    Ledger client policy anchor (history ++ [moment]) next := by
  have records := recorded_success anchor history landing result
  have brings := (replies_of_execute result).brings moment.state.claimed
  have waiting : flight.attempt.step ∈ moment.state.pending :=
    before.mem_iff.mpr List.mem_cons_self
  have grown : ∀ identifier ∈ moment.state.claimed, identifier ∈ next.claimed := by
    intro identifier member
    rw [claimed]
    exact brings.grown member
  refine ⟨?_, ?_, ?_, ?_⟩
  · rw [records.steps, records.completed, records.dropped]
    refine List.perm_iff_count.mpr fun step => ?_
    have balanced := ledger.balanced.count_eq step
    have landed := before.count_eq step
    have kept := after.count_eq step
    simp only [List.count_append, List.count_cons, List.count_nil] at balanced landed kept ⊢
    omega
  · rw [records.steps, claimed]
    exact (ledger.lineage.brings (fun step => ledger.mem_of_pending) ledger.pending_nodup before
      brings).mono fun step member => after.mem_iff.mp member
  · rw [claimed]
    intro identifier member
    rcases moment.claimed_of_success landing result member with
      old | ⟨authority, subordinates, step, lists, subordinate, listed, rfl⟩
    · exact (ledger.named identifier old).concat moment
    · have known : lowercase authority.subject ∈ moment.state.claimed := by
        rw [step] at waiting
        exact ledger.lineage.claimed_of_mem (ledger.mem_of_pending waiting)
      exact .listed ((ledger.named _ known).concat moment)
        (listed_concat.mpr (.inr lists)) listed
  · -- What is listed now was not before, for its step was pending.
    have new {authority : Statement} {subordinates others : List String}
        (lists : moment.Lists client policy authority subordinates)
        (earlier : Listed client policy history authority others) : False := by
      rw [(lists.succeeds landing).1] at waiting
      exact (ledger.open_of_pending waiting).1 (ledger.heard authority others earlier).1
    intro authority subordinates listed
    rcases listed_concat.mp listed with earlier | lists
    · obtain ⟨done, heard, unique⟩ := ledger.heard authority subordinates earlier
      rw [records.completed]
      refine ⟨List.mem_append_left _ done, fun subordinate member =>
        grown _ (heard subordinate member), ?_⟩
      intro others also
      rcases listed_concat.mp also with also_earlier | also_lists
      · exact unique others also_earlier
      · exact (new also_lists earlier).elim
    · obtain ⟨step, made⟩ := lists.succeeds landing
      rw [records.completed, claimed]
      refine ⟨List.mem_append_right _ (List.mem_singleton.mpr step.symm), ?_, ?_⟩
      · obtain rfl : _ = outcome := Except.ok.inj (made.symm.trans result)
        obtain ⟨news, claims, -, -, -, covered⟩ :=
          claim_listing moment.state.claimed authority subordinates
        rw [claims]
        exact covered
      · intro others also
        rcases listed_concat.mp also with also_earlier | also_lists
        · exact (new lists also_earlier).elim
        · exact also_lists.unique lists

/-- Every turn keeps the ledger. -/
theorem turn (ledger : Ledger client policy anchor history moment.state)
    (passed : Passed client policy moment next) :
    Ledger client policy anchor (history ++ [moment]) next := by
  cases passed with
  | opened idle inactive waited replayed =>
    refine ledger.quiet (recorded_idle anchor history idle) ?_ (by rw [replayed]; rfl) ?_
    · rintro authority subordinates ⟨flight, landing, -⟩
      rw [idle] at landing
      cases landing
    · rw [replayed, List.append_nil]
      exact ((State.scheduled_replay _).map _).symm
  | succeeded flight outcome rest landing result before active deferred claimed =>
    have waiting := State.pending_of_active before
    have brought := State.pending_of_active active
    rw [deferred, List.append_assoc, List.map_append, State.step_of_first] at brought
    exact ledger.succeeded landing result waiting brought claimed
  | failed flight failure rest landing result before active deferred claimed =>
    refine ledger.quiet (recorded_failure anchor history landing result) ?_ claimed ?_
    · intro authority subordinates lists
      have made := (lists.succeeds landing).2
      rw [result] at made
      cases made
    · have left := (State.scheduled_of_failed active deferred).map (·.step)
      refine (State.pending_of_active before).trans ?_
      refine .trans ?_ (left.symm.append_right _)
      split
      · exact (List.perm_append_singleton _ _).symm
      · rw [List.append_nil]
        exact .refl _

end Ledger

/-- Every crawl keeps its ledger. -/
theorem Crawled.ledger {client : Client σ} {policy : Policy} {anchor : String}
    {history : History σ} {state : State σ}
    (crawled : Crawled client policy anchor history state) :
    Ledger client policy anchor history state := by
  induction crawled with
  | start retained ops world => exact .start retained ops world
  | turn choice _ advanced ih => exact ih.turn (passed_of_advance advanced)
  | shared op _ spared ih => exact ⟨ih.balanced, ih.lineage, ih.named, ih.heard⟩

end TrustFederation.Crawl
