import TrustFederation.Proofs.Crawl.Steps
import TrustFederation.Proofs.Crawl.Turns
/-!
# The invariant of a crawl

Either the first step of a crawl is still to be done, or its version is a chart of what its client
answered and every pending step is ready. Each kind of step, when it succeeds, leaves the crawl
building its version: a listing makes promises about identifiers that nobody has claimed, and a
statement that is attached redeems the promise of its step or hands it on.
-/
namespace TrustFederation.Crawl

open Text (lowercase sameAscii)
open TrustFederation.Tree (Generation Node Store Version)

variable {σ : Type}

/-! ## Claims -/

/-- Of a list of subordinates the ones whose identifiers are not claimed yet are kept, one for
each identifier, and their identifiers are claimed. -/
theorem claim_listing (claimed : List String) (authority : Statement)
    (subordinates : List String) :
    ∃ news : List String,
      State.claim claimed (subordinates.map (.fetchSubordinate authority)) =
        (news.map (.fetchSubordinate authority), (news.map lowercase).reverse ++ claimed) ∧
      news.Sublist subordinates ∧ (news.map lowercase).Nodup ∧
      (∀ subordinate ∈ news, lowercase subordinate ∉ claimed) ∧
      ∀ subordinate ∈ subordinates,
        lowercase subordinate ∈ (news.map lowercase).reverse ++ claimed := by
  induction subordinates generalizing claimed with
  | nil => exact ⟨[], rfl, .slnil, .nil, by simp, by simp⟩
  | cons subordinate rest ih =>
    by_cases taken : lowercase subordinate ∈ claimed
    · obtain ⟨news, claims, kept, single, fresh, covered⟩ := ih claimed
      refine ⟨news, ?_, kept.cons subordinate, single, fresh, ?_⟩
      · rw [List.map_cons, State.claim, if_pos (by simpa using taken), claims]
      · intro other member
        rcases List.mem_cons.mp member with rfl | later
        · exact List.mem_append_right _ taken
        · exact covered other later
    · obtain ⟨news, claims, kept, single, fresh, covered⟩ := ih (lowercase subordinate :: claimed)
      have all : ((subordinate :: news).map lowercase).reverse ++ claimed =
          (news.map lowercase).reverse ++ lowercase subordinate :: claimed := by
        simp
      refine ⟨subordinate :: news, ?_, kept.cons_cons subordinate, ?_, ?_, ?_⟩
      · rw [List.map_cons, State.claim, if_neg (by simpa using taken), claims, all]
        rfl
      · rw [List.map_cons, List.nodup_cons]
        refine ⟨?_, single⟩
        intro again
        obtain ⟨other, member, same⟩ := List.mem_map.mp again
        exact fresh other member (same ▸ List.mem_cons_self)
      · intro other member
        rcases List.mem_cons.mp member with rfl | later
        · exact taken
        · exact fun known => fresh other later (List.mem_cons_of_mem _ known)
      · intro other member
        rw [all]
        rcases List.mem_cons.mp member with rfl | later
        · exact List.mem_append_right _ List.mem_cons_self
        · exact covered other later

/-! ## The invariant -/

/-- The first step of the crawl is still to be done, or it was given up. -/
structure Opening (anchor : String) (state : State σ) : Prop where
  unbegun : state.report.version = none
  claimed : state.claimed = [lowercase anchor]
  steps : state.pending = [.resolveRoot anchor] ∨ state.pending = []

/-- The crawl fills a version that is a chart. No two pending steps promise statements about
one identifier, and what they promise is claimed. -/
structure Building (client : Client σ) (anchor : String) (state : State σ) (version : Version)
    (generation : Generation Statement) : Prop where
  begun : state.report.version = some version
  held : state.store.generation? version = some generation
  chart : Chart generation
  anchored : ∀ {statement}, generation.data? generation.root = some statement →
    sameAscii statement.subject anchor = true
  fetched : ∀ {node statement}, generation.data? node = some statement →
    Fetched client statement
  known : ∀ {node statement}, generation.data? node = some statement →
    lowercase statement.subject ∈ state.claimed
  ready : ∀ step ∈ state.pending, Ready generation step
  single : (state.pending.filterMap Step.promise).Nodup
  promised : ∀ identifier ∈ state.pending.filterMap Step.promise, identifier ∈ state.claimed
  flights : ∀ flight ∈ state.inFlight, flight.version = state.report.version

/-- What holds between any two turns of a crawl. -/
structure Invariant (client : Client σ) (anchor : String) (state : State σ) : Prop where
  numbered : state.store.Numbered
  phase : Opening anchor state ∨ ∃ version generation,
    Building client anchor state version generation

/-- Once its version is begun, a crawl builds it. -/
theorem Invariant.building {client : Client σ} {anchor : String} {state : State σ}
    {version : Version} {generation : Generation Statement}
    (invariant : Invariant client anchor state) (begun : state.report.version = some version)
    (held : state.store.generation? version = some generation) :
    Building client anchor state version generation := by
  rcases invariant.phase with opening | ⟨number, known, building⟩
  · rw [opening.unbegun] at begun
    cases begun
  · obtain rfl : number = version := Option.some.inj (building.begun.symm.trans begun)
    obtain rfl : known = generation := Option.some.inj (building.held.symm.trans held)
    exact building

/-- A flight is one of the things pending. -/
theorem State.pending_of_flight (state : State σ) {flight : Flight}
    (member : flight ∈ state.inFlight) : flight.attempt.step ∈ state.pending := by
  simp only [State.pending, State.scheduled, List.map_append, List.map_map, List.mem_append]
  exact .inl (List.mem_map.mpr ⟨flight, member, rfl⟩)

/-- What is sent off is pending. -/
theorem State.pending_of_sent {policy : Policy} {state : State σ} {flight : Flight}
    (sent : flight ∈ (state.fill policy).inFlight) : flight.attempt.step ∈ state.pending := by
  rw [← State.pending_fill policy state]
  exact (state.fill policy).pending_of_flight sent

variable {client : Client σ} {policy : Policy} {anchor : String} {state next : State σ}
  {version : Version} {generation : Generation Statement}

/-- A crawl still builds its version after steps were given up or put in another order, and after
other versions changed. -/
theorem Building.reordered
    (building : Building client anchor state version generation)
    (held : next.store.generation? version = state.store.generation? version)
    (claimed : next.claimed = state.claimed)
    (begun : next.report.version = state.report.version) (given_up : List Step)
    (pending : state.pending.Perm (given_up ++ next.pending))
    (flights : ∀ flight ∈ next.inFlight, flight.version = state.report.version) :
    Building client anchor next version generation := by
  have kept : ∀ step ∈ next.pending, step ∈ state.pending := fun step member =>
    pending.mem_iff.mpr (List.mem_append_right _ member)
  have promises := pending.filterMap Step.promise
  rw [List.filterMap_append] at promises
  refine ⟨begun.trans building.begun, held.trans building.held, building.chart,
    building.anchored, building.fetched, ?_,
    fun step member => building.ready step (kept step member), ?_, ?_, ?_⟩
  · intro node statement stored
    rw [claimed]
    exact building.known stored
  · exact (List.nodup_append.mp (promises.nodup_iff.mp building.single)).2.1
  · intro identifier member
    rw [claimed]
    exact building.promised identifier (promises.mem_iff.mpr (List.mem_append_right _ member))
  · rw [begun]
    exact flights

/-! ## Promises -/

/-- What was promised is promised by the step that succeeded and by the others. -/
theorem Completed.promised_before {step : Step} {rest : List Step} {outcome : Outcome}
    (completed : Completed policy state next step rest outcome) :
    (state.pending.filterMap Step.promise).Perm
      (step.promise.toList ++ rest.filterMap Step.promise) := by
  have promises := completed.before.filterMap Step.promise
  cases promise : step.promise <;> simpa [List.filterMap_cons, promise] using promises

/-- What is promised now is promised by the steps that were left and by the others. -/
theorem Completed.promised_after {step : Step} {rest : List Step} {outcome : Outcome}
    (completed : Completed policy state next step rest outcome) :
    (next.pending.filterMap Step.promise).Perm
      ((State.claim state.claimed outcome.next).1.filterMap Step.promise ++
        rest.filterMap Step.promise) := by
  have promises := completed.pending.filterMap Step.promise
  rwa [List.filterMap_append] at promises

/-! ## Steps that succeed keep the invariant -/

/-- A listing adds steps for identifiers that were not claimed. -/
theorem Building.listed (building : Building client anchor state version generation)
    {authority : Statement} {rest : List Step} {subordinates : List String}
    (completed : Completed policy state next (.listSubordinates authority) rest
      ⟨state.store, none, subordinates.map (.fetchSubordinate authority)⟩)
    (offers : subordinates ≠ [] → authority.endpoints?.isSome) :
    Building client anchor next version generation := by
  obtain ⟨news, claims, kept, distinct, fresh, -⟩ :=
    claim_listing state.claimed authority subordinates
  have claimed : next.claimed = (news.map lowercase).reverse ++ state.claimed := by
    rw [completed.claimed, claims]
  have grown : ∀ identifier ∈ state.claimed, identifier ∈ next.claimed := by
    intro identifier member
    rw [claimed]
    exact List.mem_append_right _ member
  have old_promises : (state.pending.filterMap Step.promise).Perm (rest.filterMap Step.promise) :=
    completed.promised_before
  have new_promises : (next.pending.filterMap Step.promise).Perm
      (news.map lowercase ++ rest.filterMap Step.promise) := by
    have made : (news.map (Step.fetchSubordinate authority)).filterMap Step.promise =
        news.map lowercase := by
      rw [List.filterMap_map]
      exact congrFun List.filterMap_eq_map news
    have promises := completed.promised_after
    rwa [claims, made] at promises
  refine ⟨completed.version.trans building.begun, ?_, building.chart, building.anchored,
    building.fetched, fun stored => grown _ (building.known stored), ?_, ?_, ?_, ?_⟩
  · rw [completed.store]
    exact building.held
  · intro step member
    rcases completed.next_cases member with new | old
    · rw [claims] at new
      obtain ⟨subordinate, listed, rfl⟩ := List.mem_map.mp new
      have some_listed : subordinates ≠ [] := List.ne_nil_of_mem (kept.subset listed)
      cases building.ready _ completed.waiting with
      | listing stored own =>
        refine .subordinate stored own (offers some_listed) ?_
        intro other known found same
        exact fresh subordinate listed (same ▸ building.known found)
    · exact building.ready step (completed.old old)
  · rw [new_promises.nodup_iff, List.nodup_append]
    refine ⟨distinct, old_promises.nodup_iff.mp building.single, ?_⟩
    rintro identifier new other old rfl
    obtain ⟨subordinate, listed, rfl⟩ := List.mem_map.mp new
    exact fresh subordinate listed (building.promised _ (old_promises.mem_iff.mpr old))
  · intro identifier member
    rcases List.mem_append.mp (new_promises.mem_iff.mp member) with new | old
    · rw [claimed]
      exact List.mem_append_left _ (List.mem_reverse.mpr new)
    · exact grown identifier (building.promised identifier (old_promises.mem_iff.mpr old))
  · rw [completed.version]
    exact completed.flown building.flights

/-- Attaching a statement replaces the step that promised it by the step that follows, and this
one claims nothing new. -/
theorem Building.grafted (building : Building client anchor state version generation)
    {step successor : Step} {rest : List Step} {parent node : Node} {above statement : Statement}
    (completed : Completed policy state next step rest
      ⟨attached state.store version parent node statement, none, [successor]⟩)
    (unclaimed : State.claim state.claimed [successor] = ([successor], state.claimed))
    (promise : step.promise = some (lowercase statement.subject))
    (placed : generation.data? parent = some above) (fits : Fits above statement)
    (fresh : generation.data? node = none) (fetched : Fetched client statement)
    (chart : Chart (generation.graft parent node statement))
    (successor_ready : Ready (generation.graft parent node statement) successor)
    (successor_promise : successor.promise = none ∨ successor.promise = step.promise) :
    Building client anchor next version (generation.graft parent node statement) := by
  have claimed : next.claimed = state.claimed := by
    rw [completed.claimed, unclaimed]
  have old_promises : (state.pending.filterMap Step.promise).Perm
      (lowercase statement.subject :: rest.filterMap Step.promise) := by
    have promises := completed.promised_before
    rwa [promise] at promises
  have new_promises : (next.pending.filterMap Step.promise).Perm
      (successor.promise.toList ++ rest.filterMap Step.promise) := by
    have promises := completed.promised_after
    rw [unclaimed] at promises
    cases promises_next : successor.promise <;>
      simpa [List.filterMap_cons, promises_next] using promises
  have promised : lowercase statement.subject ∈ state.claimed :=
    building.promised _ (old_promises.mem_iff.mpr List.mem_cons_self)
  have single := old_promises.nodup_iff.mp building.single
  refine ⟨completed.version.trans building.begun, ?_, chart, ?_, ?_, ?_, ?_, ?_, ?_, ?_⟩
  · rw [completed.store]
    exact attached_held building.held parent node statement
  · intro root stored
    rw [Tree.root_graft, Tree.data_graft, if_neg (building.chart.grown.root_ne fresh)] at stored
    exact building.anchored stored
  · intro place known stored
    rcases Tree.data_graft_cases stored with ⟨-, rfl⟩ | old
    · exact fetched
    · exact building.fetched old
  · intro place known stored
    rw [claimed]
    rcases Tree.data_graft_cases stored with ⟨-, rfl⟩ | old
    · exact promised
    · exact building.known old
  · intro other member
    rcases completed.next_cases member with new | old
    · rw [unclaimed, List.mem_singleton] at new
      rw [new]
      exact successor_ready
    · refine (building.ready other (completed.old old)).graft placed fresh fits ?_
      rintro identifier promises rfl
      exact (List.nodup_cons.mp single).1 (List.mem_filterMap.mpr ⟨other, old, promises⟩)
  · rw [new_promises.nodup_iff]
    rcases successor_promise with none_promised | same
    · rw [none_promised]
      exact (List.nodup_cons.mp single).2
    · rw [same, promise]
      exact single
  · intro identifier member
    rw [claimed]
    rcases List.mem_append.mp (new_promises.mem_iff.mp member) with new | old
    · rcases successor_promise with none_promised | same
      · rw [none_promised] at new
        exact absurd new (by simp)
      · rw [same, promise] at new
        rw [List.mem_singleton.mp new]
        exact promised
    · exact building.promised identifier (old_promises.mem_iff.mpr (List.mem_cons_of_mem _ old))
  · rw [completed.version]
    exact completed.flown building.flights

/-- The statement of an authority gets its place below the configuration of the authority. -/
theorem Building.subordinate (building : Building client anchor state version generation)
    {node : Node} {authority statement : Statement} {subordinate : String} {key : Tree.NodeKey}
    {rest : List Step}
    (completed : Completed policy state next (.fetchSubordinate authority subordinate) rest
      ⟨attached state.store version node key.text statement, none,
        [.fetchConfiguration statement]⟩)
    (fetched : Fetched client statement) (stored : generation.data? node = some authority)
    (issuer : sameAscii statement.issuer authority.subject = true)
    (subject : sameAscii statement.subject subordinate = true)
    (keyed : statement.nodeKey = .ok key) :
    Building client anchor next version (generation.graft node key.text statement) := by
  have ready := building.ready _ completed.waiting
  obtain ⟨differs, free⟩ := ready.free_subordinate issuer subject
  have about : lowercase statement.subject = lowercase subordinate :=
    Text.lowercase_eq_of_same_ascii subject
  have promise : (Step.fetchConfiguration statement).promise =
      (Step.fetchSubordinate authority subordinate).promise := congrArg some about
  have stands : StandsAt key.text statement := ⟨key, keyed, rfl⟩
  have fresh := building.chart.fresh_node stands (.inr differs) free
  have elsewhere : node ≠ key.text := by
    rintro rfl
    exact absurd (fresh.symm.trans stored) (by simp)
  cases ready with
  | subordinate _ own _ unknown =>
    have fits : Fits authority statement :=
      ⟨fun _ => ⟨differs, issuer⟩, fun other => absurd other own.not_subordinate⟩
    refine building.grafted completed rfl (about ▸ rfl) stored fits fresh fetched
      (building.chart.graft stored stands (.inr differs) free fits
        fun other => absurd other own.not_subordinate) ?_ (.inr promise)
    refine @Ready.configuration _ key.text _ ?_ differs ?_ ?_
    · rw [Tree.data_graft, if_pos rfl]
    · rw [Tree.children_graft, building.chart.grown.childless_of_fresh fresh, if_neg elsewhere]
      rfl
    · intro other known found configuration
      rcases Tree.data_graft_cases found with ⟨-, rfl⟩ | old
      · exact absurd differs configuration.not_subordinate
      · rw [about]
        exact unknown other known old

/-- The configuration of a subordinate gets its place below the statement about it. -/
theorem Building.configuration (building : Building client anchor state version generation)
    {node : Node} {statement configuration : Statement} {key : Tree.NodeKey} {rest : List Step}
    (completed : Completed policy state next (.fetchConfiguration statement) rest
      ⟨attached state.store version node key.text configuration, none,
        [.listSubordinates configuration]⟩)
    (fetched : Fetched client configuration) (stored : generation.data? node = some statement)
    (issuer : sameAscii configuration.issuer statement.subject = true)
    (subject : sameAscii configuration.subject statement.subject = true)
    (keyed : configuration.nodeKey = .ok key) :
    Building client anchor next version (generation.graft node key.text configuration) := by
  have ready := building.ready _ completed.waiting
  obtain ⟨own, free⟩ := ready.free_configuration issuer subject
  have about : lowercase configuration.subject = lowercase statement.subject :=
    Text.lowercase_eq_of_same_ascii subject
  have stands : StandsAt key.text configuration := ⟨key, keyed, rfl⟩
  have fresh := building.chart.fresh_node stands (.inl own) free
  cases ready with
  | @configuration place _ placed differs childless unknown =>
    have fits : Fits statement configuration :=
      ⟨fun other => absurd differs other.not_subordinate, fun _ => ⟨own, subject⟩⟩
    obtain rfl : place = node := building.chart.apart placed stored rfl Iff.rfl
    refine building.grafted completed rfl (about ▸ rfl) stored fits fresh fetched
      (building.chart.graft stored stands (.inl own) free fits fun _ => childless) ?_ (.inl rfl)
    refine @Ready.listing _ key.text _ ?_ own
    rw [Tree.data_graft, if_pos rfl]

end TrustFederation.Crawl
