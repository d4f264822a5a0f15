import Mathlib.Data.List.Perm.Basic
import TrustFederation.Crawl.Loop
/-!
# What one turn of a crawl does

Between two turns the attempts of a crawl are spread over the stack, the flights and the
deferred ones. Which of these an attempt is in decides when it is its turn, and nothing else.
So a turn is described by the steps that are still to be done, in any order: it replays them,
or one of them leaves and, if it succeeds, brings the steps that follow. The order in which
attempts complete is not restricted.
-/
namespace TrustFederation.Crawl

open TrustFederation.Tree (Version)

namespace State

variable {σ : Type}

/-- The attempts that are scheduled. -/
def scheduled (state : State σ) : List Attempt :=
  state.inFlight.map (·.attempt) ++ (state.queue ++ state.deferred)

/-- The steps that are still to be done. -/
def pending (state : State σ) : List Step := state.scheduled.map (·.step)

/-- The attempts that are scheduled and not deferred. -/
def active (state : State σ) : List Attempt := state.inFlight.map (·.attempt) ++ state.queue

theorem scheduled_eq (state : State σ) : state.scheduled = state.active ++ state.deferred :=
  (List.append_assoc _ _ _).symm

/-- Nothing is active when nothing is in flight and nothing waits on the stack. -/
theorem active_eq_nil_iff {state : State σ} :
    state.active = [] ↔ state.inFlight = [] ∧ state.queue = [] := by
  simp [active]

theorem scheduled_of_active {state : State σ} {attempts : List Attempt}
    (active : state.active.Perm attempts) :
    state.scheduled.Perm (attempts ++ state.deferred) := by
  rw [scheduled_eq]
  exact active.append_right _

theorem pending_of_active {state : State σ} {attempts : List Attempt}
    (active : state.active.Perm attempts) :
    state.pending.Perm ((attempts ++ state.deferred).map (·.step)) :=
  (scheduled_of_active active).map _

/-- Sending attempts off changes none of them. -/
theorem active_fill (policy : Policy) (state : State σ) :
    (state.fill policy).active = state.active := by
  have sent (attempts : List Attempt) :
      (attempts.map fun attempt => (⟨attempt, state.report.version⟩ : Flight)).map (·.attempt) =
        attempts := by
    rw [List.map_map]
    exact List.map_id attempts
  simp only [active, fill, List.map_append, sent, List.append_assoc, List.take_append_drop]

theorem scheduled_fill (policy : Policy) (state : State σ) :
    (state.fill policy).scheduled = state.scheduled := by
  rw [scheduled_eq, active_fill, scheduled_eq]
  rfl

theorem pending_fill (policy : Policy) (state : State σ) :
    (state.fill policy).pending = state.pending := by
  rw [pending, scheduled_fill, pending]

/-- A round schedules what was scheduled before. -/
theorem scheduled_replay (state : State σ) : state.replay.scheduled.Perm state.scheduled := by
  simp only [scheduled, replay, List.append_nil]
  exact List.perm_append_comm.append_left _

/-- When no attempt could be sent off, none waits on the stack. -/
theorem queue_nil_of_fill {policy : Policy} {state : State σ}
    (idle : (state.fill policy).inFlight = []) : (state.fill policy).queue = [] := by
  have room : 0 < policy.execution.maxInFlight := by
    cases policy.execution with
    | sequential => exact Nat.zero_lt_one
    | concurrent limit => exact Nat.lt_of_lt_of_le Nat.zero_lt_one (Nat.le_max_right limit 1)
  simp only [fill, List.append_eq_nil_iff, List.map_eq_nil_iff, List.take_eq_nil_iff] at idle ⊢
  obtain ⟨landed, free | waiting⟩ := idle
  · rw [landed, List.length_nil] at free
    omega
  · rw [waiting, List.drop_nil]

/-- The versions that flights know are the present one, if they were before. -/
theorem fill_flights (policy : Policy) {state : State σ}
    (known : ∀ flight ∈ state.inFlight, flight.version = state.report.version) :
    ∀ flight ∈ (state.fill policy).inFlight, flight.version = state.report.version := by
  intro flight member
  simp only [fill, List.mem_append, List.mem_map] at member
  rcases member with old | ⟨attempt, -, rfl⟩
  · exact known flight old
  · rfl

end State

/-- A pending step has succeeded with an outcome. What else was pending still is. -/
structure Completed {σ : Type} (policy : Policy) (state next : State σ) (step : Step)
    (rest : List Step) (outcome : Outcome) : Prop where
  before : state.pending.Perm (step :: rest)
  pending : next.pending.Perm ((State.claim state.claimed outcome.next).1 ++ rest)
  store : next.store = outcome.store
  claimed : next.claimed = (State.claim state.claimed outcome.next).2
  version : next.report.version = outcome.created.orElse fun _ => state.report.version
  flights : ∀ flight ∈ next.inFlight, flight ∈ (state.fill policy).inFlight
  deferred : next.deferred = state.deferred

/-- What a turn that leads from a state to the next one has done. -/
inductive Turn {σ : Type} (client : Client σ) (policy : Policy) (state next : State σ) : Prop where
  /-- The deferred attempts got their round. -/
  | replayed (waited : state.deferred ≠ []) (store : next.store = state.store)
      (claimed : next.claimed = state.claimed)
      (version : next.report.version = state.report.version)
      (pending : next.pending.Perm state.pending) (landed : next.inFlight = [])
  /-- An attempt succeeded, and its successors are pending. -/
  | succeeded (flight : Flight) (rest : List Step) (outcome : Outcome)
      (sent : flight ∈ (state.fill policy).inFlight)
      (result : execute client flight.attempt.step
        (flight.attempt.useCached policy.cacheThreshold) flight.version state.store state.world =
          (.ok outcome, next.world))
      (completed : Completed policy state next flight.attempt.step rest outcome)
  /-- An attempt failed, and its step is pending again or given up. -/
  | failed (flight : Flight) (rest : List Step) (failure : Failure)
      (sent : flight ∈ (state.fill policy).inFlight)
      (result : execute client flight.attempt.step
        (flight.attempt.useCached policy.cacheThreshold) flight.version state.store state.world =
          (.error failure, next.world))
      (before : state.pending.Perm (flight.attempt.step :: rest))
      (pending : next.pending.Perm (flight.attempt.step :: rest) ∨ next.pending.Perm rest)
      (store : next.store = state.store) (claimed : next.claimed = state.claimed)
      (version : next.report.version = state.report.version)
      (flights : ∀ other ∈ next.inFlight, other ∈ (state.fill policy).inFlight)

namespace Completed

variable {σ : Type} {policy : Policy} {state next : State σ} {step other : Step}
  {rest : List Step} {outcome : Outcome}

theorem waiting (completed : Completed policy state next step rest outcome) :
    step ∈ state.pending :=
  completed.before.mem_iff.mpr List.mem_cons_self

theorem old (completed : Completed policy state next step rest outcome) (member : other ∈ rest) :
    other ∈ state.pending :=
  completed.before.mem_iff.mpr (List.mem_cons_of_mem _ member)

theorem still (completed : Completed policy state next step rest outcome) (member : other ∈ rest) :
    other ∈ next.pending :=
  completed.pending.mem_iff.mpr (List.mem_append_right _ member)

/-- A step that was pending is the one that succeeded, or among the others. -/
theorem pending_cases (completed : Completed policy state next step rest outcome)
    (member : other ∈ state.pending) : other = step ∨ other ∈ rest :=
  List.mem_cons.mp (completed.before.mem_iff.mp member)

/-- A step that is pending now has been left by the one that succeeded, or it was pending. -/
theorem next_cases (completed : Completed policy state next step rest outcome)
    (member : other ∈ next.pending) :
    other ∈ (State.claim state.claimed outcome.next).1 ∨ other ∈ rest :=
  List.mem_append.mp (completed.pending.mem_iff.mp member)

/-- Flights that know the version of the crawl go on knowing it. -/
theorem flown (completed : Completed policy state next step rest outcome)
    (known : ∀ flight ∈ state.inFlight, flight.version = state.report.version) :
    ∀ flight ∈ next.inFlight, flight.version = state.report.version :=
  fun flight member => State.fill_flights policy known flight (completed.flights flight member)

end Completed

namespace State

variable {σ : Type}

/-- When an attempt has landed, it and what is left make up what was active. -/
theorem active_landed (state : State σ) {index : Nat} (inside : index < state.inFlight.length) :
    state.active.Perm (state.inFlight[index].attempt ::
      ({ state with inFlight := state.inFlight.eraseIdx index } : State σ).active) := by
  have moved : (state.inFlight[index] :: state.inFlight.eraseIdx index).Perm state.inFlight :=
    List.getElem_cons_eraseIdx_perm inside
  exact ((moved.map (·.attempt)).append_right _).symm

theorem pending_landed (state : State σ) {index : Nat} (inside : index < state.inFlight.length) :
    state.pending.Perm (state.inFlight[index].attempt.step ::
      ({ state with inFlight := state.inFlight.eraseIdx index } : State σ).pending) := by
  simp only [pending, scheduled_eq]
  exact ((state.active_landed inside).append_right state.deferred).map (·.step)

/-- The successors of a successful attempt join what is active. -/
theorem active_succeed (outcome : Outcome) (state : State σ) :
    (state.succeed outcome).active.Perm
      ((claim state.claimed outcome.next).1.map .first ++ state.active) := by
  simp only [active, succeed, ← List.append_assoc]
  exact List.perm_append_comm.append_right _

theorem step_of_first (steps : List Step) :
    (steps.map Attempt.first).map (·.step) = steps := by
  rw [List.map_map]
  exact List.map_id steps

theorem pending_succeed (outcome : Outcome) (state : State σ) :
    (state.succeed outcome).pending.Perm
      ((claim state.claimed outcome.next).1 ++ state.pending) := by
  have joined := ((active_succeed outcome state).append_right
    (state.succeed outcome).deferred).map (·.step)
  rw [List.append_assoc] at joined
  simp only [pending, scheduled_eq, List.map_append, step_of_first] at joined ⊢
  exact joined

/-- The attempt after a failure is active again if it is tried at once, and deferred if it has
to wait. -/
theorem active_fail (policy : Policy) (attempt : Attempt) (state : State σ) :
    (state.fail policy attempt).active.Perm
      ((if policy.recovery.fate attempt.failed.failures = .retry then [attempt.failed] else []) ++
        state.active) := by
  cases fate : policy.recovery.fate attempt.failed.failures with
  | retry =>
    simp only [fail, fate, active, if_true, List.singleton_append]
    exact List.perm_middle
  | defer =>
    simp only [fail, fate, active, reduceCtorEq, if_false, List.nil_append]
    exact .refl _
  | drop =>
    simp only [fail, fate, active, reduceCtorEq, if_false, List.nil_append]
    exact .refl _

theorem deferred_fail (policy : Policy) (attempt : Attempt) (state : State σ) :
    (state.fail policy attempt).deferred = state.deferred ++
      if policy.recovery.fate attempt.failed.failures = .defer then [attempt.failed] else [] := by
  cases fate : policy.recovery.fate attempt.failed.failures <;> simp [fail, fate]

/-- An attempt that failed is scheduled again unless its step is given up. -/
theorem scheduled_of_failed {policy : Policy} {attempt : Attempt} {rest : List Attempt}
    {state next : State σ}
    (active : next.active.Perm
      ((if policy.recovery.fate attempt.failed.failures = .retry then [attempt.failed] else []) ++
        rest))
    (deferred : next.deferred = state.deferred ++
      if policy.recovery.fate attempt.failed.failures = .defer then [attempt.failed] else []) :
    next.scheduled.Perm
      ((if policy.recovery.fate attempt.failed.failures = .drop then [] else [attempt.failed]) ++
        (rest ++ state.deferred)) := by
  refine (scheduled_of_active active).trans ?_
  rw [deferred]
  cases policy.recovery.fate attempt.failed.failures with
  | retry => simp
  | defer =>
    simp only [reduceCtorEq, if_false, if_true, List.nil_append, ← List.append_assoc]
    exact List.perm_append_singleton _ _
  | drop => simp

theorem scheduled_fail (policy : Policy) (attempt : Attempt) (state : State σ) :
    (state.fail policy attempt).scheduled.Perm
      ((if policy.recovery.fate attempt.failed.failures = .drop then [] else [attempt.failed]) ++
        state.scheduled) := by
  rw [state.scheduled_eq]
  exact scheduled_of_failed (active_fail policy attempt state)
    (deferred_fail policy attempt state)

/-- The step of a failed attempt joins what is pending, or it is given up. -/
theorem pending_fail (policy : Policy) (attempt : Attempt) (state : State σ) :
    (state.fail policy attempt).pending.Perm (attempt.step :: state.pending) ∨
      (state.fail policy attempt).pending.Perm state.pending := by
  have left := (scheduled_fail policy attempt state).map (·.step)
  by_cases fate : policy.recovery.fate attempt.failed.failures = .drop
  · rw [if_pos fate] at left
    exact .inr left
  · rw [if_neg fate] at left
    exact .inl left

theorem fail_keeps (policy : Policy) (attempt : Attempt) (state : State σ) :
    (state.fail policy attempt).world = state.world ∧
      (state.fail policy attempt).store = state.store ∧
      (state.fail policy attempt).claimed = state.claimed ∧
      (state.fail policy attempt).report.version = state.report.version ∧
      (state.fail policy attempt).inFlight = state.inFlight := by
  cases fate : policy.recovery.fate attempt.failed.failures <;> simp [fail, fate]

/-- Completing a flight that has landed is a turn. -/
theorem turn_of_complete {client : Client σ} {policy : Policy} {state landed : State σ}
    {flight : Flight} (sent : flight ∈ (state.fill policy).inFlight)
    (before : state.pending.Perm (flight.attempt.step :: landed.pending))
    (world : landed.world = state.world) (store : landed.store = state.store)
    (claimed : landed.claimed = state.claimed)
    (version : landed.report.version = state.report.version)
    (deferred : landed.deferred = state.deferred)
    (flights : ∀ other ∈ landed.inFlight, other ∈ (state.fill policy).inFlight) :
    Turn client policy state (landed.complete client policy flight) := by
  cases result : execute client flight.attempt.step
    (flight.attempt.useCached policy.cacheThreshold) flight.version state.store state.world with
  | mk answer after =>
    have completed : landed.complete client policy flight = match answer with
        | .ok outcome => State.succeed outcome { landed with world := after }
        | .error _ => State.fail policy flight.attempt { landed with world := after } := by
      simp only [complete, store, world, result]
      cases answer <;> rfl
    rw [completed]
    cases answer with
    | ok outcome =>
      refine .succeeded flight landed.pending outcome sent result
        ⟨before, ?_, rfl, ?_, ?_, flights, deferred⟩
      · rw [← claimed]
        exact pending_succeed outcome { landed with world := after }
      · rw [← claimed]
        rfl
      · rw [← version]
        rfl
    | error failure =>
      obtain ⟨kept_world, kept_store, kept_claimed, kept_version, kept_flights⟩ :=
        fail_keeps policy flight.attempt ({ landed with world := after } : State σ)
      refine .failed flight landed.pending failure sent ?_ before
        (pending_fail policy flight.attempt { landed with world := after })
        (kept_store.trans store) (kept_claimed.trans claimed) (kept_version.trans version) ?_
      · rw [kept_world]
        exact result
      · rw [kept_flights]
        exact flights

/-- A turn opens a round for the deferred attempts when nothing else is scheduled. Otherwise the
choice, taken modulo the number of flights, names a flight that lands and is completed. -/
theorem advance_cases {client : Client σ} {policy : Policy} {choice : Nat}
    {state next : State σ} (advanced : state.advance client policy choice = some next) :
    ((state.fill policy).inFlight = [] ∧ state.deferred ≠ [] ∧
      next = (state.fill policy).replay) ∨
    ∃ inside : choice % (state.fill policy).inFlight.length < (state.fill policy).inFlight.length,
      next = complete client policy
        (state.fill policy).inFlight[choice % (state.fill policy).inFlight.length]
        { state.fill policy with
          inFlight := (state.fill policy).inFlight.eraseIdx
            (choice % (state.fill policy).inFlight.length) } := by
  simp only [advance] at advanced
  split at advanced
  case h_1 idle =>
    left
    split at advanced
    · cases advanced
    case isFalse waits =>
      cases advanced
      exact ⟨idle, by simpa [fill] using waits, rfl⟩
  case h_2 oldest others flying =>
    right
    have inside : choice % (state.fill policy).inFlight.length <
        (state.fill policy).inFlight.length := by
      rw [flying]
      exact Nat.mod_lt _ (Nat.succ_pos _)
    have chosen : (oldest :: others).getD (choice % (others.length + 1)) oldest =
        (state.fill policy).inFlight[choice % (state.fill policy).inFlight.length] := by
      rw [List.getD_eq_getElem?_getD, ← List.length_cons (a := oldest), ← flying,
        List.getElem?_eq_getElem inside, Option.getD_some]
    refine ⟨inside, ?_⟩
    rw [chosen, ← List.length_cons (a := oldest), ← flying, Option.some.injEq] at advanced
    exact advanced.symm

/-- Every turn of the loop is one of the three kinds.

Proof: sending attempts off changes nothing that a turn is described by. A turn opens a round for
the deferred attempts, or a flight lands and its result decides. -/
theorem turn_of_advance {client : Client σ} {policy : Policy} {choice : Nat}
    {state next : State σ} (advanced : state.advance client policy choice = some next) :
    Turn client policy state next := by
  rcases advance_cases advanced with ⟨idle, waited, rfl⟩ | ⟨inside, rfl⟩
  · refine .replayed waited rfl rfl rfl ?_ idle
    rw [← pending_fill policy state]
    exact (scheduled_replay _).map _
  · have landed := (state.fill policy).pending_landed inside
    rw [pending_fill] at landed
    exact turn_of_complete (List.getElem_mem inside) landed rfl rfl rfl rfl rfl
      fun other member => List.mem_of_mem_eraseIdx member

/-- The loop ends exactly when nothing is pending. -/
theorem advance_none_iff (client : Client σ) (policy : Policy) (choice : Nat) (state : State σ) :
    state.advance client policy choice = none ↔ state.pending = [] := by
  rw [← pending_fill policy state]
  simp only [advance]
  split
  case h_1 idle =>
    have empty : (state.fill policy).queue = [] := queue_nil_of_fill idle
    simp [pending, scheduled, idle, empty]
  case h_2 oldest others flying =>
    simp [pending, scheduled, flying]

end State

end TrustFederation.Crawl
