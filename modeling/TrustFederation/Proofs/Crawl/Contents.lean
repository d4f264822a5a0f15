import TrustFederation.Proofs.Crawl.History
/-!
# What the version of a crawl holds

A crawl takes up the step that works on a statement in the turn in which it attaches the statement:
a configuration is listed, and what an authority says about a subordinate leads to the configuration
of the subordinate. So the statements that a version holds are those that the steps of its crawl
work on, whatever the client answers and in whatever order attempts complete.
-/
namespace TrustFederation.Crawl

open TrustFederation.Tree (Generation Node Store Version)

variable {σ : Type} {client : Client σ} {policy : Policy} {anchor : String} {history : History σ}
  {flight : Flight} {state : State σ} {version : Version} {generation : Generation Statement}

/-! ## Statements in a version -/

/-- The version holds the statement. -/
def Stored (store : StatementStore) (version : Option Version) (statement : Statement) : Prop :=
  ∃ number generation node, version = some number ∧
    store.generation? number = some generation ∧ generation.data? node = some statement

theorem stored_iff {store : StatementStore} (held : store.generation? version = some generation)
    (statement : Statement) : Stored store (some version) statement ↔
      ∃ node, generation.data? node = some statement := by
  constructor
  · rintro ⟨number, known, node, begun, also, stored⟩
    cases begun
    obtain rfl : known = generation := Option.some.inj (also.symm.trans held)
    exact ⟨node, stored⟩
  · rintro ⟨node, stored⟩
    exact ⟨version, generation, node, rfl, held, stored⟩

theorem stored_congr {store other : StatementStore} {filled : Option Version}
    (same : ∀ number, filled = some number → other.generation? number = store.generation? number)
    (statement : Statement) : Stored other filled statement ↔ Stored store filled statement := by
  constructor <;> rintro ⟨number, generation, node, begun, held, stored⟩
  · exact ⟨number, generation, node, begun, (same number begun).symm.trans held, stored⟩
  · exact ⟨number, generation, node, begun, (same number begun).trans held, stored⟩

/-- Attaching a statement at a fresh node adds this statement and nothing else. -/
theorem stored_attached {store : StatementStore}
    (held : store.generation? version = some generation) {node : Node}
    (fresh : generation.data? node = none) (parent : Node) (statement other : Statement) :
    Stored (attached store version parent node statement) (some version) other ↔
      Stored store (some version) other ∨ statement = other := by
  rw [stored_iff held, stored_iff (attached_held held parent node statement)]
  constructor
  · rintro ⟨place, stored⟩
    rcases Tree.data_graft_cases stored with ⟨-, rfl⟩ | old
    · exact .inr rfl
    · exact .inl ⟨place, old⟩
  · rintro (⟨place, stored⟩ | rfl)
    · exact ⟨place, Tree.data_graft_of_old fresh stored⟩
    · exact ⟨node, by rw [Tree.data_graft, if_pos rfl]⟩

/-! ## Statements that steps work on -/

/-- The statement that a step works on, once it is in the tree. -/
def Step.source? : Step → Option Statement
  | .listSubordinates authority => some authority
  | .fetchConfiguration statement => some statement
  | _ => none

/-- The statement that a step works on is of the kind that the step is for. -/
def Step.Apt : Step → Prop
  | .listSubordinates authority => IsConfiguration authority
  | .fetchConfiguration statement => IsSubordinate statement
  | _ => True

theorem Ready.apt {step : Step} (ready : Ready generation step) : step.Apt := by
  cases ready with
  | listing stored own => exact own
  | subordinate => trivial
  | configuration stored differs => exact differs

/-- What is pending works on statements of the right kind. -/
theorem Crawling.apt_of_pending (crawling : Crawling client policy anchor state) {step : Step}
    (waiting : step ∈ state.pending) : step.Apt := by
  rcases crawling.invariant.phase with opening | ⟨version, generation, building⟩
  · rcases opening.steps with steps | none_left
    · rw [steps] at waiting
      rw [List.mem_singleton.mp waiting]
      trivial
    · rw [none_left] at waiting
      cases waiting
  · exact (building.ready step waiting).apt

/-- A success stores the statements that the next steps work on, and no others. -/
theorem Crawling.stored_of_success (crawling : Crawling client policy anchor state)
    (sent : flight ∈ (state.fill policy).inFlight) {useCached : Bool} {outcome : Outcome}
    (succeeded : (execute client flight.attempt.step useCached flight.version state.store
      state.world).1 = .ok outcome) (statement : Statement) :
    Stored outcome.store (outcome.created.orElse fun _ => state.report.version) statement ↔
      Stored state.store state.report.version statement ∨
        ∃ step ∈ outcome.next, step.source? = some statement := by
  obtain ⟨numbered, opening | ⟨version, generation, building⟩⟩ := crawling.invariant
  · have executed := execute_root client state.store anchor useCached flight.version state.world
    rw [← opening.step_eq sent, succeeded] at executed
    cases executed with
    | @created root key fetched issuer subject keyed =>
      have held : (state.store.create key.text root).generation? (state.store.allocated + 1) =
          some (.ofRoot key.text root) := by
        rw [Store.generation_create numbered, if_pos rfl]
      rw [Option.orElse_some, stored_iff held, opening.unbegun]
      constructor
      · rintro ⟨node, stored⟩
        rw [Tree.data_of_root_eq stored]
        exact .inr ⟨_, List.mem_singleton_self _, rfl⟩
      · rintro (⟨_, _, _, unbegun, -⟩ | ⟨step, member, source⟩)
        · cases unbegun
        · rw [List.mem_singleton.mp member] at source
          cases source
          exact ⟨key.text, by rw [Tree.data_of_root, if_pos rfl]⟩
  · have ready := building.ready _ (State.pending_of_sent sent)
    rw [(State.fill_flights policy building.flights flight sent).trans building.begun] at succeeded
    have executed := execute_ready client building.chart building.held ready useCached state.world
    rw [succeeded] at executed
    generalize flight.attempt.step = step at ready executed
    cases executed with
    -- A listing stores nothing, and the steps that follow it work on no statement of their own.
    | @listed authority subordinates offers =>
      rw [Option.orElse_none, iff_self_or]
      rintro ⟨step, member, source⟩
      obtain ⟨subordinate, -, rfl⟩ := List.mem_map.mp member
      cases source
    | subordinate fetched stored issuer subject keyed =>
      obtain ⟨differs, free⟩ := ready.free_subordinate issuer subject
      have fresh := building.chart.fresh_node ⟨_, keyed, rfl⟩ (.inr differs) free
      rw [Option.orElse_none, building.begun, stored_attached building.held fresh]
      simp only [List.mem_singleton, exists_eq_left, Step.source?, Option.some.injEq]
    | configuration fetched stored issuer subject keyed =>
      obtain ⟨own, free⟩ := ready.free_configuration issuer subject
      have fresh := building.chart.fresh_node ⟨_, keyed, rfl⟩ (.inl own) free
      rw [Option.orElse_none, building.begun, stored_attached building.held fresh]
      simp only [List.mem_singleton, exists_eq_left, Step.source?, Option.some.injEq]

/-- Only steps that fetch a subordinate statement are held back by claims. -/
theorem mem_claim (claimed : List String) (steps : List Step) {step : Step}
    (other : ∀ authority subordinate, step ≠ .fetchSubordinate authority subordinate) :
    step ∈ (State.claim claimed steps).1 ↔ step ∈ steps := by
  induction steps generalizing claimed with
  | nil => rfl
  | cons head rest ih =>
    cases head with
    | fetchSubordinate authority subordinate =>
      have differs := other authority subordinate
      simp only [State.claim]
      split
      · rw [ih, List.mem_cons, or_iff_right differs]
      · rw [List.mem_cons, ih, List.mem_cons]
    | _ => simp only [State.claim, List.mem_cons, ih]

/-- Claims hold back no step that works on a statement. -/
theorem source_mem_claim (claimed : List String) (steps : List Step) (statement : Statement) :
    (∃ step ∈ (State.claim claimed steps).1, step.source? = some statement) ↔
      ∃ step ∈ steps, step.source? = some statement := by
  refine exists_congr fun step => and_congr_left fun source => mem_claim claimed steps ?_
  rintro authority subordinate rfl
  cases source

namespace Crawled

/-- Every step works on a statement of the right kind. -/
theorem apt_of_mem (crawled : Crawled client policy anchor history state) {step : Step}
    (known : step ∈ history.steps client policy anchor) : step.Apt := by
  induction crawled with
  | start retained ops world =>
    rw [List.mem_singleton.mp known]
    trivial
  | @turn history state next choice before advanced ih =>
    have following := (before.turn choice advanced).crawling
    cases passed_of_advance advanced with
    | opened idle =>
      rw [(recorded_idle anchor history idle).steps, List.append_nil] at known
      exact ih known
    | succeeded flight outcome rest landing result active later deferred =>
      rw [(recorded_success anchor history landing result).steps] at known
      rcases List.mem_append.mp known with earlier | brought
      · exact ih earlier
      · have split := State.pending_of_active later
        rw [List.append_assoc, List.map_append, State.step_of_first] at split
        exact following.apt_of_pending
          (split.mem_iff.mpr (List.mem_append_left _ brought))
    | failed flight failure rest landing result =>
      rw [(recorded_failure anchor history landing result).steps, List.append_nil] at known
      exact ih known
  | shared op _ spared ih => exact ih known

/-- The statements that the version of a crawl holds are those that its steps work on. -/
theorem stored_iff_source (crawled : Crawled client policy anchor history state)
    (statement : Statement) : Stored state.store state.report.version statement ↔
      ∃ step ∈ history.steps client policy anchor, step.source? = some statement := by
  induction crawled with
  | start retained ops world =>
    constructor
    · rintro ⟨_, _, _, unbegun, -⟩
      cases unbegun
    · rintro ⟨step, known, source⟩
      rw [List.mem_singleton.mp known] at source
      cases source
  | @turn history state next choice before advanced ih =>
    cases passed_of_advance advanced with
    | opened idle inactive waited replayed =>
      rw [replayed, (recorded_idle anchor history idle).steps, List.append_nil]
      exact ih
    | succeeded flight outcome rest landing result active later deferred claimed store report =>
      have stored := before.crawling.stored_of_success (Moment.sent_of_landing landing) result
        statement
      rw [ih, ← source_mem_claim state.claimed outcome.next] at stored
      rw [store, report, (recorded_success anchor history landing result).steps, stored]
      simp only [List.mem_append, or_and_right, exists_or]
    | failed flight failure rest landing result active later deferred claimed store report =>
      rw [store, report, (recorded_failure anchor history landing result).steps, List.append_nil]
      exact ih
  | shared op before spared ih => exact (stored_congr spared statement).trans ih

end Crawled

end TrustFederation.Crawl
