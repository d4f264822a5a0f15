import TrustFederation.Proofs.Crawl.Contents
import TrustFederation.Proofs.Crawl.Convergence
import TrustFederation.Proofs.Crawl.Likeness
import TrustFederation.Proofs.Crawl.Tables
/-!
# Schedules

How many attempts are in flight, which of them completes next, and whether a failed step is tried
again at once or in a later round is a matter of the schedule. When the client answers by a table and
no identifier but that of the anchor is listed by two authorities, the schedule does not matter: the
steps of a crawl are the least set that contains the first one and, with a step, what the table says
follows it. So all crawls of such a federation do the same work and build the same tree.
-/
namespace TrustFederation.Crawl

open Text (lowercase)
open TrustFederation.Tree (Generation Store Version)

variable {σ : Type} {client : Client σ} {policy : Policy} {anchor : String} {table : Table}
  {history : History σ} {moment : Moment σ} {flight : Flight} {state next : State σ}
  {outcome : Outcome} {limit : Nat}

/-! ## Claims on a listing -/

/-- The fewer identifiers are claimed, the more steps are taken up. -/
theorem claim_subset {fewer more : List String} (known : fewer ⊆ more) (steps : List Step) :
    (State.claim more steps).1 ⊆ (State.claim fewer steps).1 := by
  induction steps generalizing fewer more with
  | nil => exact List.Subset.refl _
  | cons step rest ih =>
    cases step with
    | fetchSubordinate authority subordinate =>
      simp only [State.claim, List.contains_iff_mem]
      by_cases taken : lowercase subordinate ∈ more
      · rw [if_pos taken]
        by_cases also : lowercase subordinate ∈ fewer
        · rw [if_pos also]
          exact ih known
        · rw [if_neg also]
          exact List.subset_cons_of_subset _ (ih (List.cons_subset.mpr ⟨taken, known⟩))
      · rw [if_neg taken, if_neg fun also => taken (known also)]
        exact List.cons_subset_cons _ (ih (List.cons_subset_cons _ known))
    | _ => exact List.cons_subset_cons _ (ih known)

/-- Of the ways in which a listing spells an identifier one is taken up at most. -/
theorem claim_unique {claimed : List String} {authority : Statement}
    {subordinates : List String} {subordinate other : String}
    (brought : .fetchSubordinate authority subordinate ∈
      (State.claim claimed (subordinates.map (.fetchSubordinate authority))).1)
    (also : .fetchSubordinate authority other ∈
      (State.claim claimed (subordinates.map (.fetchSubordinate authority))).1)
    (same : lowercase subordinate = lowercase other) : subordinate = other := by
  obtain ⟨news, claims, -, distinct, -, -⟩ := claim_listing claimed authority subordinates
  rw [claims] at brought also
  have spelled (name : String)
      (member : Step.fetchSubordinate authority name ∈ news.map (.fetchSubordinate authority)) :
      name ∈ news := by
    obtain ⟨listed, inside, equal⟩ := List.mem_map.mp member
    exact (Step.fetchSubordinate.inj equal).2 ▸ inside
  exact List.inj_on_of_nodup_map distinct (spelled _ brought) (spelled _ also) same

/-- A step that fetches a subordinate statement is brought by the listing of its authority. -/
theorem Moment.lists_of_fetch (landing : moment.landing? policy = some flight)
    (result : (flight.land client policy moment.state).result = .ok outcome)
    {claimed : List String} {authority : Statement} {subordinate : String}
    (brought : .fetchSubordinate authority subordinate ∈ (State.claim claimed outcome.next).1) :
    ∃ subordinates, moment.Lists client policy authority subordinates ∧
      outcome.next = subordinates.map (.fetchSubordinate authority) ∧
      subordinate ∈ subordinates ∧ lowercase subordinate ∉ claimed := by
  have replies := replies_of_execute result
  generalize at_step : flight.attempt.step = step at replies
  generalize outcome.next = next at brought replies
  cases replies with
  | @listing lister endpoints subordinates offers answer =>
    obtain ⟨news, claims, kept, -, fresh, -⟩ := claim_listing claimed lister subordinates
    rw [claims] at brought
    obtain ⟨name, listed, same⟩ := List.mem_map.mp brought
    obtain ⟨rfl, rfl⟩ := Step.fetchSubordinate.inj same
    exact ⟨subordinates, ⟨flight, landing, at_step, endpoints, offers, answer⟩, rfl,
      kept.subset listed, fresh name listed⟩
  | leaf => cases brought
  | _ => cases List.mem_singleton.mp brought

/-- Every crawl has claimed its anchor. -/
theorem Crawling.anchor_claimed (crawling : Crawling client policy anchor state) :
    lowercase anchor ∈ state.claimed := by
  rcases crawling.invariant.phase with opening | ⟨version, generation, building⟩
  · rw [opening.claimed]
    exact List.mem_singleton_self _
  · obtain ⟨top, stored⟩ := building.chart.grown.root_data
    rw [← Text.lowercase_eq_of_same_ascii (building.anchored stored)]
    exact building.known stored

/-- A crawl takes up no step that it would not take up if nothing but the anchor was claimed. -/
theorem Crawling.claim_subset_anchor (crawling : Crawling client policy anchor state)
    (steps : List Step) :
    (State.claim state.claimed steps).1 ⊆ (State.claim [lowercase anchor] steps).1 :=
  claim_subset (List.cons_subset.mpr ⟨crawling.anchor_claimed, List.nil_subset _⟩) steps

/-! ## The steps that are due -/

/-- The least set of steps that contains the first one and, with every step that succeeds by the
table, those that follow it. Only the anchor is claimed from the beginning. -/
inductive Due (client : Client σ) (table : Table) (threshold limit : Nat) (anchor : String) :
    Step → Prop where
  | root : Due client table threshold limit anchor (.resolveRoot anchor)
  | next {step successor : Step} {number : Nat} {next : List Step}
      (due : Due client table threshold limit anchor step)
      (succeeds : Succeeds client table threshold limit step number next)
      (member : successor ∈ (State.claim [lowercase anchor] next).1) :
      Due client table threshold limit anchor successor

/-- Whatever its schedule, a crawl does nothing but what the table says. -/
structure Told (client : Client σ) (policy : Policy) (table : Table) (anchor : String)
    (history : History σ) : Prop where
  due : ∀ step ∈ history.steps client policy anchor,
    Due client table policy.cacheThreshold policy.recovery.attempts anchor step
  spent : ∀ step number, number < (history.failed client policy).count step →
    ∀ next, ¬ Tells client table policy.cacheThreshold step number next
  succeeded : ∀ moment ∈ history, ∀ flight outcome, moment.landing? policy = some flight →
    (flight.land client policy moment.state).result = .ok outcome →
    Succeeds client table policy.cacheThreshold policy.recovery.attempts flight.attempt.step
      ((history.failed client policy).count flight.attempt.step) outcome.next

namespace Told

/-- A turn in which nothing lands changes nothing of what was told. -/
theorem idle (told : Told client policy table anchor history)
    (landing : moment.landing? policy = none) :
    Told client policy table anchor (history ++ [moment]) := by
  obtain ⟨steps, -, -, failed, -⟩ :
    Recorded client policy anchor history moment [] [] [] [] [] :=
      recorded_idle anchor history landing
  rw [List.append_nil] at steps failed
  refine ⟨by rw [steps]; exact told.due, by rw [failed]; exact told.spent, ?_⟩
  intro other member flight outcome landed result
  rw [failed]
  rcases List.mem_append.mp member with earlier | last
  · exact told.succeeded other earlier flight outcome landed result
  · rw [List.mem_singleton.mp last, landing] at landed
    cases landed

/-- A step that succeeds does so as the table says, and what it brings is due. -/
theorem success (told : Told client policy table anchor history)
    (crawled : Crawled client policy anchor history moment.state)
    (tabled : Tabled client policy table (history ++ [moment]))
    (landing : moment.landing? policy = some flight)
    (result : (flight.land client policy moment.state).result = .ok outcome) :
    Told client policy table anchor (history ++ [moment]) := by
  obtain ⟨steps, -, -, failed, -⟩ := recorded_success anchor history landing result
  rw [List.append_nil] at failed
  have waiting := State.pending_of_sent (Moment.sent_of_landing landing)
  have number := (crawled.failures_eq landing).1
  have succeeds : Succeeds client table policy.cacheThreshold policy.recovery.attempts
      flight.attempt.step ((history.failed client policy).count flight.attempt.step)
      outcome.next := by
    refine ⟨told.spent flight.attempt.step, ?_, ?_⟩
    · have scheduled : flight.attempt ∈ moment.state.scheduled := by
        rw [State.scheduled_eq]
        exact List.mem_append_left _ (Moment.active_of_landing landing)
      rw [← number]
      exact (crawled.counted.waiting _ scheduled).2
    · rw [← number]
      exact (crawled.tells_iff tabled landing outcome.next).mp ⟨outcome, result, rfl⟩
  refine ⟨?_, by rw [failed]; exact told.spent, ?_⟩
  · intro step known
    rw [steps] at known
    rcases List.mem_append.mp known with earlier | brought
    · exact told.due step earlier
    · exact .next (told.due _ (crawled.ledger.mem_of_pending waiting)) succeeds
        (crawled.crawling.claim_subset_anchor _ brought)
  · intro other member flying others landed made
    rw [failed]
    rcases List.mem_append.mp member with earlier | last
    · exact told.succeeded other earlier flying others landed made
    · rw [List.mem_singleton.mp last] at landed made
      obtain rfl : flying = flight := Option.some.inj (landed.symm.trans landing)
      obtain rfl : others = outcome := Except.ok.inj (made.symm.trans result)
      exact succeeds

/-- A step that fails has no well-formed matching reply in the table for this attempt. -/
theorem failure (told : Told client policy table anchor history)
    (crawled : Crawled client policy anchor history moment.state)
    (tabled : Tabled client policy table (history ++ [moment]))
    (landing : moment.landing? policy = some flight) {failure : Failure}
    (result : (flight.land client policy moment.state).result = .error failure) :
    Told client policy table anchor (history ++ [moment]) := by
  obtain ⟨steps, -, completed, failed, -⟩ := recorded_failure anchor history landing result
  rw [List.append_nil] at steps
  have waiting := State.pending_of_sent (Moment.sent_of_landing landing)
  have number := (crawled.failures_eq landing).1
  refine ⟨by rw [steps]; exact told.due, ?_, ?_⟩
  · intro step index below next tells
    rw [failed, List.count_append] at below
    by_cases earlier : index < (history.failed client policy).count step
    · exact told.spent step index earlier next tells
    · -- The index is that of the attempt that has failed now.
      have now : flight.attempt.step = step := by
        by_contra other
        rw [List.count_singleton, if_neg (by simpa using other)] at below
        omega
      rw [now, List.count_singleton_self] at below
      obtain rfl : index = flight.attempt.failures := by
        rw [number, now]
        omega
      obtain ⟨outcome, made, -⟩ := (crawled.tells_iff tabled landing next).mpr (now ▸ tells)
      rw [result] at made
      cases made
  · intro other member flying outcome landed made
    rcases List.mem_append.mp member with earlier | last
    · -- A step that succeeded before is not the one that has failed now.
      have done : flying.attempt.step ∈ history.completed client policy := by
        refine List.mem_flatMap.mpr
          ⟨_, History.mem_trials.mpr ⟨other, earlier, flying, landed, rfl⟩, ?_⟩
        rw [Trial.completed, made]
        exact List.mem_singleton_self _
      have differs : flying.attempt.step ≠ flight.attempt.step := fun same =>
        (crawled.ledger.open_of_pending waiting).1 (same ▸ done)
      rw [failed, List.count_append, List.count_singleton, if_neg (by simpa using differs.symm)]
      exact told.succeeded other earlier flying outcome landed made
    · rw [List.mem_singleton.mp last] at landed made
      obtain rfl : flying = flight := Option.some.inj (landed.symm.trans landing)
      rw [result] at made
      cases made

end Told

namespace Crawled

/-- A crawl that is answered by a table does what the table says.

Proof: induction over the turns. -/
theorem told (crawled : Crawled client policy anchor history state)
    (tabled : Tabled client policy table history) :
    Told client policy table anchor history := by
  induction crawled with
  | start retained ops world =>
    refine ⟨?_, ?_, ?_⟩
    · intro step known
      rw [List.mem_singleton.mp known]
      exact .root
    · intro step number below
      exact absurd below (Nat.not_lt_zero _)
    · intro moment member
      cases member
  | @turn history state next choice before advanced ih =>
    have earlier := ih tabled.earlier
    cases passed_of_advance advanced with
    | opened idle => exact earlier.idle idle
    | succeeded flight outcome rest landing result =>
      exact earlier.success before tabled landing result
    | failed flight failure rest landing result =>
      exact earlier.failure before tabled landing result
  | shared op _ spared ih => exact ih tabled

/-! ## When a crawl is over -/

/-- When a crawl is over, the steps that have succeeded are those that succeed by the table. -/
theorem completed_iff_succeeds (crawled : Crawled client policy anchor history state)
    (tabled : Tabled client policy table history) (ended : state.pending = []) {step : Step} :
    step ∈ history.completed client policy ↔ step ∈ history.steps client policy anchor ∧
      ∃ number next, Succeeds client table policy.cacheThreshold policy.recovery.attempts step
        number next := by
  constructor
  · intro done
    obtain ⟨moment, member, flight, outcome, landing, rfl, result⟩ :=
      History.landed_of_completed done
    exact ⟨crawled.ledger.mem_of_completed done, _, _,
      (crawled.told tabled).succeeded moment member flight outcome landing result⟩
  · rintro ⟨known, number, next, succeeds⟩
    refine (crawled.ledger.settled ended known).resolve_right fun given_up => ?_
    have below : number < (history.failed client policy).count step := by
      rw [crawled.counted.dropped step given_up]
      exact succeeds.allowed
    exact (crawled.told tabled).spent step number below next succeeds.tells

/-- When a crawl is over, a step has failed as often as the table says. -/
theorem failures_of_succeeds (crawled : Crawled client policy anchor history state)
    (tabled : Tabled client policy table history) (ended : state.pending = []) {step : Step}
    (known : step ∈ history.steps client policy anchor) {number : Nat} {next : List Step}
    (succeeds : Succeeds client table policy.cacheThreshold policy.recovery.attempts step number
      next) : (history.failed client policy).count step = number := by
  have done := (crawled.completed_iff_succeeds tabled ended).mpr ⟨known, number, next, succeeds⟩
  obtain ⟨moment, member, flight, outcome, landing, rfl, result⟩ :=
    History.landed_of_completed done
  exact (((crawled.told tabled).succeeded moment member flight outcome landing result).unique
    succeeds).1

/-- The steps about an entity other than the anchor begin with the statement about it.

Proof: induction over what the step lacks in weight. A lighter step was brought by the one before
it, which is about the same entity. -/
theorem fetch_of_mem (crawled : Crawled client policy anchor history state) {step : Step}
    (known : step ∈ history.steps client policy anchor)
    (other : step.identifier ≠ lowercase anchor) :
    ∃ authority subordinate,
      .fetchSubordinate authority subordinate ∈ history.steps client policy anchor ∧
      lowercase subordinate = step.identifier := by
  induction lacking : 3 - weight step generalizing step with
  | zero =>
    cases step with
    | fetchSubordinate authority subordinate => exact ⟨authority, subordinate, known, rfl⟩
    | _ => simp only [weight] at lacking; omega
  | succ lacking_less ih =>
    rcases History.brought_of_mem known with
      rfl | ⟨moment, member, flight, outcome, landing, result, brought⟩
    · exact absurd rfl other
    · have earlier := (crawled.tried_of_landing member landing).1
      have brings := (replies_of_execute result).brings moment.state.claimed
      generalize (State.claim moment.state.claimed outcome.next).1 = news at brings brought
      generalize (State.claim moment.state.claimed outcome.next).2 = claims at brings
      generalize flight.attempt.step = leader at brings earlier
      cases brings with
      | further about lighter =>
        obtain rfl := List.mem_singleton.mp brought
        rw [about] at other ⊢
        exact ih earlier other (by omega)
      | claims =>
        obtain ⟨subordinate, -, rfl⟩ := List.mem_map.mp brought
        exact ⟨_, subordinate, known, rfl⟩

end Crawled

/-- In the history no identifier but that of the anchor is listed by two authorities. All letters
are made small. -/
def ListedApart (client : Client σ) (policy : Policy) (anchor : String) (history : History σ) :
    Prop :=
  ∀ authority other subordinates others, Listed client policy history authority subordinates →
    Listed client policy history other others →
    ∀ subordinate ∈ subordinates, ∀ second ∈ others,
      lowercase subordinate = lowercase second → lowercase subordinate ≠ lowercase anchor →
      lowercase authority.subject = lowercase other.subject

namespace Crawled

/-- A subordinate that a listing names is looked up in the way in which this listing spells it first,
if no other authority lists it.

Proof: its identifier is claimed, so some listing has brought a step that fetches a statement about
it. That listing is the same one, and claims made before it hold back no more than spellings. -/
theorem fetched_of_listed (crawled : Crawled client policy anchor history state)
    (apart : ListedApart client policy anchor history) {moment : Moment σ} (member : moment ∈ history)
    {authority : Statement} {subordinates : List String} {subordinate : String}
    (lists : moment.Lists client policy authority subordinates)
    (first : .fetchSubordinate authority subordinate ∈
      (State.claim [lowercase anchor] (subordinates.map (.fetchSubordinate authority))).1)
    (listed : subordinate ∈ subordinates) (other : lowercase subordinate ≠ lowercase anchor) :
    .fetchSubordinate authority subordinate ∈ history.steps client policy anchor := by
  have ledger := crawled.ledger
  have own : Listed client policy history authority subordinates := ⟨moment, member, lists⟩
  obtain ⟨done, claimed, unique⟩ := ledger.heard authority subordinates own
  obtain ⟨step, known, about⟩ := (ledger.lineage.about _).mp (claimed subordinate listed)
  obtain ⟨lister, spelling, fetched, same⟩ := crawled.fetch_of_mem known (about ▸ other)
  rcases History.brought_of_mem fetched with
    root | ⟨round, inside, flight, outcome, landing, result, brought⟩
  · cases root
  obtain ⟨others, also_lists, answered, named, -⟩ := Moment.lists_of_fetch landing result brought
  have also : Listed client policy history lister others := ⟨round, inside, also_lists⟩
  have subjects : lowercase authority.subject = lowercase lister.subject :=
    apart authority lister subordinates others own also subordinate listed spelling named
      (about.symm.trans same.symm) other
  have listing : Step.listSubordinates authority = .listSubordinates lister :=
    ledger.lineage.step_eq (ledger.mem_of_completed done)
      (ledger.mem_of_completed (ledger.heard lister others also).1) subjects rfl
  obtain rfl := Step.listSubordinates.inj listing
  obtain rfl : others = subordinates := unique others also
  rw [answered] at brought
  have spelled := (crawled.crawling_of_mem inside).claim_subset_anchor _ brought
  rwa [claim_unique first spelled (about.symm.trans same.symm)]

/-- What is due has been taken up when the crawl is over.

Proof: induction over what is due. A step that succeeds by the table has succeeded, and what follows
it was brought then, or brought by the same listing. -/
theorem mem_of_due (crawled : Crawled client policy anchor history state)
    (tabled : Tabled client policy table history)
    (apart : ListedApart client policy anchor history) (ended : state.pending = []) {step : Step}
    (due : Due client table policy.cacheThreshold policy.recovery.attempts anchor step) :
    step ∈ history.steps client policy anchor := by
  induction due with
  | root => exact List.mem_cons_self
  | @next step successor number next due succeeds brought ih =>
    have done := (crawled.completed_iff_succeeds tabled ended).mpr ⟨ih, number, next, succeeds⟩
    obtain ⟨moment, member, flight, outcome, landing, rfl, result⟩ :=
      History.landed_of_completed done
    obtain ⟨-, rfl⟩ := ((crawled.told tabled).succeeded moment member flight outcome landing
      result).unique succeeds
    cases successor with
    | fetchSubordinate authority subordinate =>
      obtain ⟨subordinates, lists, answered, listed, fresh⟩ :=
        Moment.lists_of_fetch landing result brought
      rw [answered] at brought
      exact crawled.fetched_of_listed apart member lists brought listed
        fun same => fresh (List.mem_singleton.mpr same)
    | _ =>
      refine History.steps_of_brought member landing result ?_ anchor
      rw [mem_claim _ _ (by simp)] at brought ⊢
      exact brought

/-- When a crawl is over, the steps that it has taken up are those that are due. -/
theorem mem_steps_iff_due (crawled : Crawled client policy anchor history state)
    (tabled : Tabled client policy table history)
    (apart : ListedApart client policy anchor history) (ended : state.pending = []) (step : Step) :
    step ∈ history.steps client policy anchor ↔
      Due client table policy.cacheThreshold policy.recovery.attempts anchor step :=
  ⟨(crawled.told tabled).due step, crawled.mem_of_due tabled apart ended⟩

end Crawled

end TrustFederation.Crawl
