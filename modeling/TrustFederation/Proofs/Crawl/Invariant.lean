import TrustFederation.Proofs.Crawl.Building
/-!
# What a crawl preserves

Every turn of a crawl keeps the invariant, so between any two turns the version of the crawl is a
tree of statements. Neither the client, nor the policy, nor the order in which attempts complete
is restricted, and others may change the store between turns, as long as they leave the version of
the crawl alone. That a crawl ends is not shown here; a client may keep one going for ever.
-/
namespace TrustFederation.Crawl

open Text (lowercase sameAscii)
open TrustFederation.Tree (Generation Node Store Version)

variable {σ : Type}

/-- The states that a crawl below an anchor can be in. -/
inductive Crawling (client : Client σ) (policy : Policy) (anchor : String) : State σ → Prop where
  /-- A crawl starts with any store that operations have made. -/
  | start (retained : Nat) (ops : List (Store.Op Statement)) (world : σ) :
      Crawling client policy anchor (.start anchor ((Store.empty retained).applyAll ops) world)
  /-- Any attempt in flight may be the next to complete. -/
  | turn {state next : State σ} (choice : Nat) (crawling : Crawling client policy anchor state)
      (advanced : state.advance client policy choice = some next) :
      Crawling client policy anchor next
  /-- Others share the store, and leave the version of the crawl as it is. -/
  | shared {state : State σ} (op : Store.Op Statement)
      (crawling : Crawling client policy anchor state)
      (spared : ∀ version, state.report.version = some version →
        (state.store.apply op).generation? version = state.store.generation? version) :
      Crawling client policy anchor { state with store := state.store.apply op }

/-- A run of the loop leads from states of a crawl to states of this crawl. -/
theorem Crawling.run {client : Client σ} {policy : Policy} {anchor : String} {state : State σ}
    (crawling : Crawling client policy anchor state) (choices : Nat → Nat) (turns : Nat) :
    Crawling client policy anchor (state.run client policy choices turns) := by
  induction turns generalizing state with
  | zero => exact crawling
  | succ turns ih =>
    simp only [State.run]
    cases advanced : state.advance client policy (choices turns) with
    | none => exact crawling
    | some next => exact ih (crawling.turn (choices turns) advanced)

/-! ## Turns keep the invariant -/

variable {client : Client σ} {policy : Policy} {anchor : String} {state next : State σ}
  {version : Version} {generation : Generation Statement}

/-- Before its version is begun, a crawl has sent off its first step only. -/
theorem Opening.step_eq {flight : Flight} (opening : Opening anchor state)
    (sent : flight ∈ (state.fill policy).inFlight) :
    flight.attempt.step = .resolveRoot anchor := by
  have pending := State.pending_of_sent sent
  rcases opening.steps with steps | none_left
  · rw [steps] at pending
    exact List.mem_singleton.mp pending
  · rw [none_left] at pending
    exact absurd pending List.not_mem_nil

/-- Before its version is begun, a crawl has nothing but one step to do. -/
theorem Opening.alone (opening : Opening anchor state) {step : Step} {rest : List Step}
    (before : state.pending.Perm (step :: rest)) :
    state.pending = [.resolveRoot anchor] ∧ rest = [] := by
  rcases opening.steps with steps | none_left
  · have length := (steps ▸ before).length_eq
    exact ⟨steps, by simpa using length⟩
  · rw [none_left] at before
    exact absurd before.length_eq (by simp)

/-- The first version of a crawl is the chart of one configuration. -/
theorem Opening.begin (opening : Opening anchor state) (numbered : state.store.Numbered)
    {configuration : Statement} {key : Tree.NodeKey} {rest : List Step}
    (completed : Completed policy state next (.resolveRoot anchor) rest
      ⟨state.store.create key.text configuration, some (state.store.allocated + 1),
        [.listSubordinates configuration]⟩)
    (fetched : Fetched client configuration)
    (issuer : sameAscii configuration.issuer anchor = true)
    (subject : sameAscii configuration.subject anchor = true)
    (keyed : configuration.nodeKey = .ok key) :
    Building client anchor next (state.store.allocated + 1) (.ofRoot key.text configuration) := by
  have own : IsConfiguration configuration :=
    Text.sameAscii_trans issuer (Text.sameAscii_comm subject)
  obtain ⟨only_root, rfl⟩ := opening.alone completed.before
  have one : next.pending = [.listSubordinates configuration] :=
    List.perm_singleton.mp completed.pending
  have no_promises : next.pending.filterMap Step.promise = [] := by
    rw [one]
    rfl
  refine ⟨completed.version, ?_, .of_root ⟨key, keyed, rfl⟩ own, ?_, ?_, ?_, ?_, ?_, ?_, ?_⟩
  · rw [completed.store, Store.generation_create numbered, if_pos rfl]
  · intro statement stored
    rw [Tree.data_of_root_eq stored]
    exact subject
  · intro node statement stored
    rw [Tree.data_of_root_eq stored]
    exact fetched
  · intro node statement stored
    rw [Tree.data_of_root_eq stored, Text.lowercase_eq_of_same_ascii subject]
    show lowercase anchor ∈ next.claimed
    rw [completed.claimed, opening.claimed]
    exact List.mem_singleton_self _
  · intro step member
    rw [one] at member
    rw [List.mem_singleton.mp member]
    exact @Ready.listing _ key.text _ (by rw [Tree.data_of_root, if_pos rfl]) own
  · rw [no_promises]
    exact List.nodup_nil
  · rw [no_promises]
    exact fun identifier member => absurd member List.not_mem_nil
  · -- The only flight was that of the first step, and it has landed.
    intro flight member
    have listing := next.pending_of_flight member
    rw [one, List.mem_singleton, opening.step_eq (completed.flights flight member)] at listing
    cases listing

/-- The first step of a crawl begins its version. -/
theorem Opening.succeeded (opening : Opening anchor state) (numbered : state.store.Numbered)
    {flight : Flight} {rest : List Step} {outcome : Outcome} {useCached : Bool}
    (sent : flight ∈ (state.fill policy).inFlight)
    (result : execute client flight.attempt.step useCached flight.version state.store
      state.world = (.ok outcome, next.world))
    (completed : Completed policy state next flight.attempt.step rest outcome) :
    Invariant client anchor next := by
  have root := opening.step_eq sent
  rw [root] at result completed
  have executed := execute_root client state.store anchor useCached flight.version state.world
  rw [result] at executed
  cases executed with
  | @created configuration key fetched issuer subject keyed =>
    refine ⟨?_, .inr ⟨_, _, opening.begin numbered completed fetched issuer subject keyed⟩⟩
    rw [completed.store]
    exact numbered.create _ _

/-- A step that succeeds leaves a crawl building its version. -/
theorem Building.succeeded (building : Building client anchor state version generation)
    (numbered : state.store.Numbered)
    {flight : Flight} {rest : List Step} {outcome : Outcome} {useCached : Bool}
    (sent : flight ∈ (state.fill policy).inFlight)
    (result : execute client flight.attempt.step useCached flight.version state.store
      state.world = (.ok outcome, next.world))
    (completed : Completed policy state next flight.attempt.step rest outcome) :
    Invariant client anchor next := by
  have known := State.fill_flights policy building.flights
  rw [(known flight sent).trans building.begun] at result
  have executed := execute_ready client building.chart building.held
    (building.ready _ completed.waiting) useCached state.world
  rw [result] at executed
  generalize flight.attempt.step = step at completed executed
  cases executed with
  | listed subordinates offers =>
    refine ⟨?_, .inr ⟨version, generation, building.listed completed offers⟩⟩
    rw [completed.store]
    exact numbered
  | subordinate fetched stored issuer subject keyed =>
    refine ⟨?_, .inr ⟨version, _, building.subordinate completed fetched stored issuer subject
      keyed⟩⟩
    rw [completed.store]
    exact attached_numbered numbered _ _ _
  | configuration fetched stored issuer subject keyed =>
    refine ⟨?_, .inr ⟨version, _, building.configuration completed fetched stored issuer subject
      keyed⟩⟩
    rw [completed.store]
    exact attached_numbered numbered _ _ _

/-- Every turn keeps the invariant. -/
theorem Invariant.turn (invariant : Invariant client anchor state)
    (turn : Turn client policy state next) : Invariant client anchor next := by
  obtain ⟨numbered, phase⟩ := invariant
  cases turn with
  | replayed _ store claimed begun pending landed =>
    refine ⟨store ▸ numbered, ?_⟩
    rcases phase with opening | ⟨version, generation, building⟩
    · refine .inl ⟨begun.trans opening.unbegun, claimed.trans opening.claimed, ?_⟩
      rcases opening.steps with steps | none_left
      · exact .inl (List.perm_singleton.mp (steps ▸ pending))
      · exact .inr (List.perm_nil.mp (none_left ▸ pending))
    · refine .inr ⟨version, generation, building.reordered (by rw [store]) claimed begun []
        pending.symm ?_⟩
      rw [landed]
      exact fun flight member => absurd member List.not_mem_nil
  | succeeded flight rest outcome sent result completed =>
    rcases phase with opening | ⟨version, generation, building⟩
    · exact opening.succeeded numbered sent result completed
    · exact building.succeeded numbered sent result completed
  | failed flight rest failure sent result before pending store claimed begun flights =>
    refine ⟨store ▸ numbered, ?_⟩
    rcases phase with opening | ⟨version, generation, building⟩
    · refine .inl ⟨begun.trans opening.unbegun, claimed.trans opening.claimed, ?_⟩
      obtain ⟨-, rfl⟩ := opening.alone before
      rw [opening.step_eq sent] at pending
      rcases pending with again | dropped
      · exact .inl (List.perm_singleton.mp again)
      · exact .inr (List.perm_nil.mp dropped)
    · have flown : ∀ other ∈ next.inFlight, other.version = state.report.version :=
        fun other member => State.fill_flights policy building.flights other (flights other member)
      rcases pending with again | dropped
      · exact .inr ⟨version, generation, building.reordered (by rw [store]) claimed begun []
          (before.trans again.symm) flown⟩
      · exact .inr ⟨version, generation, building.reordered (by rw [store]) claimed begun
          [flight.attempt.step] (before.trans (dropped.symm.cons _)) flown⟩

/-- The invariant holds in every state of a crawl. -/
theorem Crawling.invariant (crawling : Crawling client policy anchor state) :
    Invariant client anchor state := by
  induction crawling with
  | start retained ops world =>
    exact ⟨Store.numbered_apply_all retained ops, .inl ⟨rfl, rfl, .inl rfl⟩⟩
  | turn choice _ advanced ih => exact ih.turn (State.turn_of_advance advanced)
  | shared op _ spared ih =>
    refine ⟨ih.numbered.apply op, ?_⟩
    rcases ih.phase with opening | ⟨version, generation, building⟩
    · exact .inl ⟨opening.unbegun, opening.claimed, opening.steps⟩
    · exact .inr ⟨version, generation, building.reordered (spared version building.begun) rfl rfl []
        (.refl _) building.flights⟩

/-- A step in flight fails for no other reason than what the client gave it.

Proof: before the version is begun only the first step is in flight. After that every pending
step is ready, and a flight knows the version. -/
theorem Crawling.rejected (crawling : Crawling client policy anchor state) {flight : Flight}
    (sent : flight ∈ (state.fill policy).inFlight) {useCached : Bool} {failure : Failure}
    (failed : (execute client flight.attempt.step useCached flight.version state.store
      state.world).1 = .error failure) : Rejected client failure := by
  rcases crawling.invariant.phase with opening | ⟨version, generation, building⟩
  · rw [opening.step_eq sent] at failed
    have executed := execute_root client state.store anchor useCached
      flight.version state.world
    rw [failed] at executed
    cases executed with
    | rejected reason => exact reason
  · have known := State.fill_flights policy building.flights
    rw [(known flight sent).trans building.begun] at failed
    have pending := State.pending_of_sent sent
    have executed := execute_ready client building.chart building.held
      (building.ready _ pending) useCached state.world
    rw [failed] at executed
    generalize flight.attempt.step = step at executed
    cases executed with
    | rejected reason => exact reason

/-- A failure about the tree or an internal one comes from the client only. -/
theorem Rejected.client_failed {failure : Failure}
    (rejected : Rejected client failure) {detail : String}
    (own : failure = .tree detail ∨ failure = .internal detail) : ClientFailed client failure := by
  cases rejected with
  | client failed => exact failed
  | mismatched statement issuer subject _ checked =>
    unfold checkStatement at checked
    split at checked <;> cases checked
    rcases own with own | own <;> cases own
  | keyless statement _ unkeyed =>
    unfold Statement.nodeKey Tree.NodeKey.ofParts at unkeyed
    split at unkeyed <;> cases unkeyed
    rcases own with own | own <;> cases own

/-- Between any two turns, the version that a crawl has begun is a tree of statements, and every
step in flight can fail only because of what its client gives it: it never misses a version, a
root or a parent. -/
theorem federation_tree_of_crawling {client : Client σ} {policy : Policy} {anchor : String}
    {state : State σ} (crawling : Crawling client policy anchor state) :
    (∀ version, state.report.version = some version →
      ∃ generation, state.store.generation? version = some generation ∧
        IsFederationTree generation) ∧
    ∀ flight ∈ (state.fill policy).inFlight, ∀ failure,
      (execute client flight.attempt.step (flight.attempt.useCached policy.cacheThreshold)
        flight.version state.store state.world).1 = .error failure →
      Rejected client failure ∧
        ∀ detail, failure = .tree detail ∨ failure = .internal detail →
          ClientFailed client failure := by
  constructor
  · intro version begun
    rcases crawling.invariant.phase with opening | ⟨number, generation, building⟩
    · rw [opening.unbegun] at begun
      cases begun
    · obtain rfl : number = version := Option.some.inj (building.begun.symm.trans begun)
      exact ⟨generation, building.held, building.chart.is_federation_tree⟩
  · intro flight sent failure failed
    have rejected : Rejected client failure := crawling.rejected sent failed
    exact ⟨rejected, fun detail own => rejected.client_failed own⟩

/-! ### A crawl in a circle -/

/-- What an entity with endpoints says about a subject. -/
def authorityStatement (issuer subject : String) : Statement :=
  { Statement.blank with
    issuer := issuer
    subject := subject
    metadata := some [(Statement.federationEntity, .object
      [("federation_fetch_endpoint", .text issuer), ("federation_list_endpoint", .text issuer)])] }

/-- Two entities that list each other, and themselves in capital letters. -/
def circle : Client Unit where
  configuration request world :=
    let subject := (request.parameter? "sub").getD ""
    (.ok (authorityStatement subject subject), world)
  fetch request world :=
    let issuer := (request.endpoints.bind (·.fetch)).getD ""
    (.ok (authorityStatement issuer ((request.parameter? "sub").getD "")), world)
  listing _ world := (.ok ["a", "A", "b", "B"], world)

/-- The circle is crawled from the first entity until nothing is pending, two steps at a time,
and three nodes are in the tree then. -/
theorem federation_tree_of_circle :
    let policy : Policy := ⟨.concurrent 2, .retry 2, 1⟩
    let state := (State.start "a" (Store.empty 1) ()).run circle policy (fun turns => turns) 9
    state.pending = [] ∧ ∃ generation, state.store.generation? 1 = some generation ∧
      generation.entries.length = 3 ∧ IsFederationTree generation := by
  intro policy state
  have crawling : Crawling circle policy "a" state := (Crawling.start 1 [] ()).run _ 9
  have begun : state.report.version = some 1 := by decide +kernel
  obtain ⟨generation, held, tree⟩ := (federation_tree_of_crawling crawling).1 1 begun
  have size : (state.store.generation? 1).map (·.entries.length) = some 3 := by decide +kernel
  rw [held] at size
  exact ⟨by decide +kernel, generation, held, Option.some.inj size, tree⟩

end TrustFederation.Crawl
