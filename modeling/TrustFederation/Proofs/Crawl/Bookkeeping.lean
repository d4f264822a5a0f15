import Mathlib.Algebra.BigOperators.Group.Finset.Basic
import Mathlib.Algebra.GroupWithZero.Nat
import TrustFederation.Proofs.Crawl.Lineage
/-!
# The bookkeeping of a crawl

A step that a crawl has taken up is waiting, in flight, deferred, completed or given up, and only
one of these at a time. What the crawl knows of its failures is the number that its attempt carries.
This number is right in every state, whatever else was tried in between, so each step gets the
attempts that the policy allows, and each attempt asks for an earlier answer or does not ask for it
as the policy says.
-/
namespace TrustFederation.Crawl

open TrustFederation.Tree (Store)

variable {σ : Type} {client : Client σ} {policy : Policy} {anchor : String} {history : History σ}
  {moment : Moment σ} {flight : Flight} {state next : State σ}

/-! ## Attempts of one step -/

/-- Every step may be tried once. -/
theorem Recovery.attempts_pos (recovery : Recovery) : 0 < recovery.attempts := by
  cases recovery with
  | drop => exact Nat.zero_lt_one
  | retry limit => exact Nat.lt_of_lt_of_le Nat.zero_lt_one (Nat.le_max_right limit 1)
  | deferred limit => exact Nat.lt_of_lt_of_le Nat.zero_lt_one (Nat.le_max_right limit 1)

/-- An attempt has failed or succeeded, and it was an attempt of its own step. -/
theorem Trial.count_eq (trial : Trial) (step : Step) :
    trial.failed.count step + trial.completed.count step =
      if trial.attempt.step = step then 1 else 0 := by
  cases result : trial.result <;> by_cases same : trial.attempt.step = step <;>
    simp [Trial.failed, Trial.completed, result, same]

/-- Every attempt of a step has failed or succeeded. -/
theorem History.trials_of_length (history : History σ) (step : Step) :
    (history.trialsOf client policy step).length =
      (history.failed client policy).count step +
        (history.completed client policy).count step := by
  simp only [trialsOf, failed, completed]
  induction history.trials client policy with
  | nil => rfl
  | cons trial rest ih =>
    rw [List.filter_cons, List.flatMap_cons, List.flatMap_cons, List.count_append,
      List.count_append]
    have once := trial.count_eq step
    by_cases same : trial.attempt.step = step
    · rw [if_pos same] at once
      rw [if_pos (by simpa using same), List.length_cons, ih]
      omega
    · rw [if_neg same] at once
      rw [if_neg (by simpa using same), ih]
      omega

/-- A step that failed was tried. -/
theorem History.tried_of_failed {step : Step} (failed : step ∈ history.failed client policy) :
    ∃ trial ∈ history.trials client policy, trial.attempt.step = step := by
  obtain ⟨trial, member, own⟩ := List.mem_flatMap.mp failed
  refine ⟨trial, member, ?_⟩
  unfold Trial.failed at own
  split at own
  · cases own
  · exact (List.mem_singleton.mp own).symm

/-- The numbers that the attempts of a crawl carry are right. -/
structure Counted (client : Client σ) (policy : Policy) (anchor : String) (history : History σ)
    (state : State σ) : Prop where
  waiting : ∀ attempt ∈ state.scheduled,
    attempt.failures = (history.failed client policy).count attempt.step ∧
      attempt.failures < policy.recovery.attempts
  dropped : ∀ step ∈ history.dropped client policy,
    (history.failed client policy).count step = policy.recovery.attempts
  completed : ∀ step ∈ history.completed client policy,
    (history.failed client policy).count step < policy.recovery.attempts
  tried : ∀ trial ∈ history.trials client policy,
    trial.attempt.step ∈ history.steps client policy anchor ∧
      trial.attempt.failures < policy.recovery.attempts
  numbered : ∀ step, (history.trialsOf client policy step).map (·.attempt.failures) =
    List.range (history.trialsOf client policy step).length

namespace Counted

/-- A step that was not taken up has not failed. -/
theorem failed_none (counted : Counted client policy anchor history state) {step : Step}
    (unknown : step ∉ history.steps client policy anchor) :
    (history.failed client policy).count step = 0 := by
  rw [List.count_eq_zero]
  intro failed
  obtain ⟨trial, member, rfl⟩ := History.tried_of_failed failed
  exact unknown (counted.tried trial member).1

/-- The attempt that is made in a turn is numbered by those before it. -/
theorem numbered_turn (counted : Counted client policy anchor history moment.state)
    (ledger : Ledger client policy anchor history moment.state)
    (waiting : flight.attempt ∈ moment.state.scheduled)
    (trials : History.trials client policy (history ++ [moment]) =
      history.trials client policy ++ [flight.land client policy moment.state]) (step : Step) :
    (History.trialsOf client policy step (history ++ [moment])).map (·.attempt.failures) =
      List.range (History.trialsOf client policy step (history ++ [moment])).length := by
  have own : (flight.land client policy moment.state).attempt = flight.attempt := rfl
  rw [History.trialsOf, trials, List.filter_append, List.map_append, List.length_append,
    ← History.trialsOf, counted.numbered step]
  by_cases same : flight.attempt.step = step
  · -- A pending step has not succeeded, so its attempts so far are its failures.
    have pending : step ∈ moment.state.pending := same ▸ List.mem_map_of_mem waiting
    have undone := List.count_eq_zero.mpr (ledger.open_of_pending pending).1
    have number : flight.attempt.failures = (history.trialsOf client policy step).length := by
      rw [History.trials_of_length, undone, (counted.waiting _ waiting).1, same]
      rfl
    rw [List.filter_cons_of_pos (by simp [own, same]), List.filter_nil, List.map_singleton, own,
      List.length_singleton, List.range_succ, number]
  · rw [List.filter_cons_of_neg (by simp [own, same]), List.filter_nil, List.map_nil,
      List.length_nil, List.append_nil, Nat.add_zero]

theorem start (retained : Nat) (ops : List (Store.Op Statement)) (world : σ) :
    Counted client policy anchor []
      (.start anchor ((Store.empty retained).applyAll ops) world) := by
  refine ⟨?_, ?_, ?_, ?_, fun step => rfl⟩
  · intro attempt member
    rw [show attempt = .first (.resolveRoot anchor) from List.mem_singleton.mp member]
    exact ⟨rfl, policy.recovery.attempts_pos⟩
  all_goals
    intro step member
    exact absurd member List.not_mem_nil

/-- A turn in which nothing lands changes no number. -/
theorem idle (counted : Counted client policy anchor history moment.state)
    (records : Recorded client policy anchor history moment [] [] [] [] [])
    (scheduled : next.scheduled.Perm moment.state.scheduled) :
    Counted client policy anchor (history ++ [moment]) next := by
  obtain ⟨steps, trials, completed, failed, dropped⟩ := records
  rw [List.append_nil] at steps trials completed failed dropped
  refine ⟨?_, ?_, ?_, ?_, ?_⟩
  · rw [failed]
    exact fun attempt member => counted.waiting attempt (scheduled.mem_iff.mp member)
  · rw [failed, dropped]
    exact counted.dropped
  · rw [failed, completed]
    exact counted.completed
  · rw [trials, steps]
    exact counted.tried
  · simp only [History.trialsOf, trials]
    exact counted.numbered

/-- An attempt that succeeds failed as often as its number says. -/
theorem succeeded (counted : Counted client policy anchor history moment.state)
    (ledger : Ledger client policy anchor history moment.state)
    (following : Ledger client policy anchor (history ++ [moment]) next)
    {outcome : Outcome} {rest : List Attempt} (landing : moment.landing? policy = some flight)
    (result : (flight.land client policy moment.state).result = .ok outcome)
    (before : moment.state.scheduled.Perm (flight.attempt :: rest))
    (after : next.scheduled.Perm
      ((State.claim moment.state.claimed outcome.next).1.map .first ++ rest)) :
    Counted client policy anchor (history ++ [moment]) next := by
  have records := recorded_success anchor history landing result
  have failed := records.failed
  have dropped := records.dropped
  rw [List.append_nil] at failed dropped
  have waiting : flight.attempt ∈ moment.state.scheduled :=
    before.mem_iff.mpr List.mem_cons_self
  refine ⟨?_, ?_, ?_, ?_, counted.numbered_turn ledger waiting records.trials⟩
  · intro attempt member
    rw [failed]
    rcases List.mem_append.mp (after.mem_iff.mp member) with new | old
    · obtain ⟨step, brought, rfl⟩ := List.mem_map.mp new
      have unknown := following.fresh_of_brought records brought
      exact ⟨(counted.failed_none unknown).symm, policy.recovery.attempts_pos⟩
    · exact counted.waiting attempt (before.mem_iff.mpr (List.mem_cons_of_mem _ old))
  · rw [failed, dropped]
    exact counted.dropped
  · intro step done
    rw [failed]
    rw [records.completed] at done
    rcases List.mem_append.mp done with earlier | last
    · exact counted.completed step earlier
    · rw [List.mem_singleton.mp last, ← (counted.waiting _ waiting).1]
      exact (counted.waiting _ waiting).2
  · intro trial member
    rw [records.steps]
    rw [records.trials] at member
    rcases List.mem_append.mp member with earlier | last
    · obtain ⟨known, allowed⟩ := counted.tried trial earlier
      exact ⟨List.mem_append_left _ known, allowed⟩
    · rw [List.mem_singleton.mp last]
      exact ⟨List.mem_append_left _ (ledger.mem_of_pending (List.mem_map_of_mem waiting)),
        (counted.waiting _ waiting).2⟩

/-- An attempt that fails is counted, and its step is given up when it has used up its
attempts. -/
theorem failed (counted : Counted client policy anchor history moment.state)
    (ledger : Ledger client policy anchor history moment.state)
    {failure : Failure} {rest : List Attempt} (landing : moment.landing? policy = some flight)
    (result : (flight.land client policy moment.state).result = .error failure)
    (before : moment.state.scheduled.Perm (flight.attempt :: rest))
    (after : next.scheduled.Perm
      ((if policy.recovery.fate flight.attempt.failed.failures = .drop then []
        else [flight.attempt.failed]) ++ rest)) :
    Counted client policy anchor (history ++ [moment]) next := by
  obtain ⟨steps, trials, completed, failed, dropped⟩ :=
    recorded_failure anchor history landing result
  rw [List.append_nil] at steps completed
  have waiting : flight.attempt ∈ moment.state.scheduled :=
    before.mem_iff.mpr List.mem_cons_self
  have pending : flight.attempt.step ∈ moment.state.pending := List.mem_map_of_mem waiting
  obtain ⟨number, below⟩ := counted.waiting _ waiting
  have used_up := policy.recovery.fate_eq_drop_iff (Nat.succ_pos flight.attempt.failures)
  have once_more : (History.failed client policy (history ++ [moment])).count flight.attempt.step =
      flight.attempt.failures + 1 := by
    rw [failed, List.count_append, List.count_singleton_self, number]
  have unchanged {step : Step} (other : step ≠ flight.attempt.step) :
      (History.failed client policy (history ++ [moment])).count step =
        (history.failed client policy).count step := by
    rw [failed, List.count_append, List.count_singleton, if_neg (by simpa using other.symm),
      Nat.add_zero]
  refine ⟨?_, ?_, ?_, ?_, counted.numbered_turn ledger waiting trials⟩
  · intro attempt member
    rcases List.mem_append.mp (after.mem_iff.mp member) with again | old
    · split at again
      · cases again
      case isFalse kept =>
        rw [List.mem_singleton.mp again]
        exact ⟨once_more.symm, Nat.lt_of_not_le fun reached => kept (used_up.mpr reached)⟩
    · -- The other attempts that wait are of other steps, so their numbers stay right.
      have single : (flight.attempt.step :: rest.map (·.step)).Nodup :=
        (before.map Attempt.step).nodup_iff.mp ledger.pending_nodup
      rw [unchanged]
      · exact counted.waiting attempt (before.mem_iff.mpr (List.mem_cons_of_mem _ old))
      · rintro same
        exact (List.nodup_cons.mp single).1 (same ▸ List.mem_map_of_mem old)
  · intro step given_up
    rw [dropped] at given_up
    rcases List.mem_append.mp given_up with earlier | now
    · rw [unchanged]
      · exact counted.dropped step earlier
      · rintro rfl
        exact (ledger.open_of_pending pending).2 earlier
    · split at now
      case isTrue reached =>
        rw [List.mem_singleton.mp now, once_more]
        exact Nat.le_antisymm below (used_up.mp reached)
      · cases now
  · intro step done
    rw [completed] at done
    rw [unchanged]
    · exact counted.completed step done
    · rintro rfl
      exact (ledger.open_of_pending pending).1 done
  · intro trial member
    rw [steps]
    rw [trials] at member
    rcases List.mem_append.mp member with earlier | last
    · exact counted.tried trial earlier
    · rw [List.mem_singleton.mp last]
      exact ⟨ledger.mem_of_pending pending, below⟩

end Counted

/-- Every crawl counts right. -/
theorem Crawled.counted (crawled : Crawled client policy anchor history state) :
    Counted client policy anchor history state := by
  induction crawled with
  | start retained ops world => exact .start retained ops world
  | @turn history state next choice before advanced ih =>
    have ledger := before.ledger
    have passed := passed_of_advance advanced
    have following := ledger.turn passed
    cases passed with
    | opened idle inactive waited replayed =>
      exact ih.idle (recorded_idle anchor _ idle) (replayed ▸ State.scheduled_replay _)
    | succeeded flight outcome rest landing result active later deferred =>
      have split : state.scheduled.Perm (flight.attempt :: (rest ++ state.deferred)) :=
        State.scheduled_of_active active
      refine ih.succeeded ledger following landing result split ?_
      rw [← List.append_assoc, ← deferred]
      exact State.scheduled_of_active later
    | failed flight failure rest landing result active later deferred =>
      exact ih.failed ledger landing result (State.scheduled_of_active active)
        (State.scheduled_of_failed later deferred)
  | shared op _ spared ih =>
    exact ⟨ih.waiting, ih.dropped, ih.completed, ih.tried, ih.numbered⟩

/-- A step that lands in a crawl was taken up, and it has attempts left. -/
theorem Crawled.tried_of_landing (crawled : Crawled client policy anchor history state)
    (member : moment ∈ history) (landing : moment.landing? policy = some flight) :
    flight.attempt.step ∈ history.steps client policy anchor ∧
      flight.attempt.failures < policy.recovery.attempts :=
  crawled.counted.tried _ (History.mem_trials.mpr ⟨moment, member, flight, landing, rfl⟩)

/-- The numbers of a report are those of its history. -/
theorem Crawled.reported (crawled : Crawled client policy anchor history state) :
    state.report.completedSteps = (history.completed client policy).length ∧
      state.report.failedAttempts = (history.failed client policy).length ∧
      state.report.dropped = (history.dropped client policy).map Step.text := by
  induction crawled with
  | start retained ops world => exact ⟨rfl, rfl, rfl⟩
  | @turn history state next choice before advanced ih =>
    obtain ⟨ih_completed, ih_failed, ih_dropped⟩ := ih
    cases passed_of_advance advanced with
    | opened idle inactive waited replayed =>
      obtain ⟨-, -, completed, failed, dropped⟩ :
        Recorded client policy anchor history _ [] [] [] [] [] := recorded_idle anchor history idle
      rw [replayed, completed, failed, dropped]
      simp only [List.append_nil]
      exact ⟨ih_completed, ih_failed, ih_dropped⟩
    | succeeded flight outcome rest landing result active later deferred claimed store report =>
      obtain ⟨-, -, completed, failed, dropped⟩ := recorded_success anchor history landing result
      rw [report, completed, failed, dropped, List.length_append, List.append_nil, List.append_nil]
      exact ⟨congrArg (· + 1) ih_completed, ih_failed, ih_dropped⟩
    | failed flight failure rest landing result active later deferred claimed store report =>
      obtain ⟨-, -, completed, failed, dropped⟩ := recorded_failure anchor history landing result
      rw [List.append_nil] at completed
      rw [report, completed, failed, dropped, List.length_append, List.map_append]
      refine ⟨ih_completed, congrArg (· + 1) ih_failed, ?_⟩
      rw [← ih_dropped]
      split <;> rfl
  | shared op _ spared ih => exact ih

/-! ## Rounds -/

/-- In the turn, with nothing waiting and nothing in flight, a round is opened for the step. -/
structure Moment.Opens (moment : Moment σ) (step : Step) : Prop where
  queue : moment.state.queue = []
  flights : moment.state.inFlight = []
  deferred : step ∈ moment.state.deferred.map (·.step)

/-- After the turn with this number, a round was opened for the step. -/
def OpenedSince (history : History σ) (turn : Nat) (step : Step) : Prop :=
  ∃ later moment, turn < later ∧ history[later]? = some moment ∧ moment.Opens step

/-- Steps that were tried and are pending wait for a round, or had one since. -/
def Rested (client : Client σ) (policy : Policy) (history : History σ) (state : State σ) : Prop :=
  ∀ turn moment trial, history[turn]? = some moment → moment.trial? client policy = some trial →
    trial.attempt.step ∈ state.pending →
    trial.attempt.step ∈ state.deferred.map (·.step) ∨ OpenedSince history turn trial.attempt.step

/-- A turn of a longer history is one of the turns before, or the last one. -/
theorem History.turn_cases {other : Moment σ} {turn : Nat}
    (found : (history ++ [moment])[turn]? = some other) :
    turn < history.length ∧ history[turn]? = some other ∨
      turn = history.length ∧ other = moment := by
  obtain ⟨inside, at_turn⟩ := List.getElem?_eq_some_iff.mp found
  rw [List.length_append, List.length_singleton] at inside
  rcases Nat.lt_succ_iff_lt_or_eq.mp inside with earlier | rfl
  · rw [List.getElem?_append_left earlier] at found
    exact .inl ⟨earlier, found⟩
  · rw [List.getElem?_concat_length] at found
    exact .inr ⟨rfl, (Option.some.inj found).symm⟩

theorem OpenedSince.concat {turn : Nat} {step : Step} (opened : OpenedSince history turn step)
    (moment : Moment σ) : OpenedSince (history ++ [moment]) turn step := by
  obtain ⟨later, round, after, found, opens⟩ := opened
  have inside := (List.getElem?_eq_some_iff.mp found).1
  exact ⟨later, round, after, (List.getElem?_append_left inside).trans found, opens⟩

theorem Counted.tried_at (counted : Counted client policy anchor history state) {turn : Nat}
    {trial : Trial} (found : history[turn]? = some moment)
    (tried : moment.trial? client policy = some trial) :
    trial.attempt.step ∈ history.steps client policy anchor :=
  (counted.tried trial
    (List.mem_filterMap.mpr ⟨moment, List.mem_of_getElem? found, tried⟩)).1

namespace Rested

/-- A round is opened when nothing is active, so it is a round for every pending step. -/
theorem opened (idle : moment.landing? policy = none) (inactive : moment.state.active = []) :
    Rested client policy (history ++ [moment]) moment.state.replay := by
  intro turn other trial found tried pending
  obtain ⟨earlier, -⟩ | ⟨-, rfl⟩ := History.turn_cases found
  · right
    obtain ⟨flights, queue⟩ := State.active_eq_nil_iff.mp inactive
    have waits : trial.attempt.step ∈ moment.state.pending :=
      ((State.scheduled_replay moment.state).map _).mem_iff.mp pending
    rw [State.pending, State.scheduled_eq, inactive, List.nil_append] at waits
    exact ⟨history.length, moment, earlier, List.getElem?_concat_length, queue, flights, waits⟩
  · rw [Moment.trial?, idle] at tried
    cases tried

/-- The step that succeeds is no longer pending, and those that it brings were not tried. -/
theorem succeeded (rested : Rested client policy history moment.state)
    (counted : Counted client policy anchor history moment.state)
    (following : Ledger client policy anchor (history ++ [moment]) next)
    {outcome : Outcome} {rest : List Attempt} (landing : moment.landing? policy = some flight)
    (result : (flight.land client policy moment.state).result = .ok outcome)
    (before : moment.state.active.Perm (flight.attempt :: rest))
    (after : next.active.Perm
      ((State.claim moment.state.claimed outcome.next).1.map .first ++ rest))
    (deferred : next.deferred = moment.state.deferred) :
    Rested client policy (history ++ [moment]) next := by
  have records := recorded_success anchor history landing result
  intro turn other trial found tried pending
  obtain ⟨-, earlier⟩ | ⟨-, rfl⟩ := History.turn_cases found
  · have split := State.pending_of_active after
    rw [List.append_assoc, List.map_append, State.step_of_first] at split
    rcases List.mem_append.mp (split.mem_iff.mp pending) with new | old
    · exact absurd (counted.tried_at earlier tried) (following.fresh_of_brought records new)
    · rw [deferred] at old ⊢
      have waited := (State.pending_of_active before).mem_iff.mpr (List.mem_cons_of_mem _ old)
      exact (rested turn other trial earlier tried waited).imp_right (·.concat moment)
  · obtain rfl := Option.some.inj ((Moment.trial_of_landing landing).symm.trans tried)
    refine absurd ?_ (following.open_of_pending pending).1
    rw [records.completed]
    exact List.mem_append_right _ (List.mem_singleton_self _)

/-- The step that fails is deferred, if it is not given up. -/
theorem failed (rested : Rested client policy history moment.state) {limit : Nat}
    (deferring : policy.recovery = .deferred limit)
    (following : Ledger client policy anchor (history ++ [moment]) next)
    {failure : Failure} {rest : List Attempt} (landing : moment.landing? policy = some flight)
    (result : (flight.land client policy moment.state).result = .error failure)
    (before : moment.state.active.Perm (flight.attempt :: rest))
    (after : next.active.Perm
      ((if policy.recovery.fate flight.attempt.failed.failures = .retry then
        [flight.attempt.failed] else []) ++ rest))
    (deferred : next.deferred = moment.state.deferred ++
      if policy.recovery.fate flight.attempt.failed.failures = .defer then
        [flight.attempt.failed] else []) :
    Rested client policy (history ++ [moment]) next := by
  have records := recorded_failure anchor history landing result
  intro turn other trial found tried pending
  rw [deferred, List.map_append, List.mem_append]
  obtain ⟨-, earlier⟩ | ⟨-, rfl⟩ := History.turn_cases found
  · have waited : trial.attempt.step ∈ moment.state.pending := by
      have member := ((State.scheduled_of_failed after deferred).map (·.step)).mem_iff.mp pending
      refine (State.pending_of_active before).mem_iff.mpr ?_
      split at member
      · exact List.mem_cons_of_mem _ member
      · exact member
    exact (rested turn other trial earlier tried waited).imp .inl (·.concat moment)
  · obtain rfl := Option.some.inj ((Moment.trial_of_landing landing).symm.trans tried)
    have kept : policy.recovery.fate flight.attempt.failed.failures ≠ .drop := by
      intro given_up
      refine absurd ?_ (following.open_of_pending pending).2
      rw [records.dropped, if_pos given_up]
      exact List.mem_append_right _ (List.mem_singleton_self _)
    -- Under this policy a step that is not given up is deferred, never tried again at once.
    have waits : policy.recovery.fate flight.attempt.failed.failures = .defer := by
      rw [deferring, Recovery.fate] at kept ⊢
      by_cases below : flight.attempt.failed.failures < limit
      · exact if_pos below
      · exact absurd (if_neg below) kept
    rw [if_pos waits]
    exact .inl (.inr (List.mem_singleton_self _))

end Rested

/-- When failed steps are deferred, a step that was tried is tried again only after a round. -/
theorem Crawled.rested (crawled : Crawled client policy anchor history state) {limit : Nat}
    (deferring : policy.recovery = .deferred limit) : Rested client policy history state := by
  induction crawled with
  | start retained ops world =>
    intro turn moment trial found
    cases found
  | @turn history state next choice before advanced ih =>
    have passed := passed_of_advance advanced
    have following := before.ledger.turn passed
    cases passed with
    | opened idle inactive waited replayed =>
      rw [replayed]
      exact .opened idle inactive
    | succeeded flight outcome rest landing result active later deferred =>
      exact ih.succeeded before.counted following landing result active later deferred
    | failed flight failure rest landing result active later deferred =>
      exact ih.failed deferring following landing result active later deferred
  | shared op _ spared ih => exact ih

/-- Between any two turns with attempts of one step, a round was opened for it. -/
def Spaced (client : Client σ) (policy : Policy) (history : History σ) : Prop :=
  ∀ (turn later : Nat) (first second : Moment σ) (trial again : Trial), turn < later →
    history[turn]? = some first → history[later]? = some second →
    first.trial? client policy = some trial → second.trial? client policy = some again →
    again.attempt.step = trial.attempt.step →
    ∃ between round, turn < between ∧ between < later ∧ history[between]? = some round ∧
      round.Opens trial.attempt.step

/-- When failed steps are deferred, their attempts are spaced by rounds. -/
theorem Crawled.spaced (crawled : Crawled client policy anchor history state) {limit : Nat}
    (deferring : policy.recovery = .deferred limit) : Spaced client policy history := by
  induction crawled with
  | start retained ops world =>
    intro turn later first second trial again _ found
    cases found
  | @turn history state next choice before advanced ih =>
    intro turn later first second trial again after found also tried retried same
    obtain ⟨inside, also⟩ | ⟨rfl, rfl⟩ := History.turn_cases also
    · obtain ⟨-, found⟩ | ⟨rfl, -⟩ := History.turn_cases found
      · obtain ⟨between, round, lower, upper, held, opens⟩ :=
          ih turn later first second trial again after found also tried retried same
        exact ⟨between, round, lower, upper,
          (List.getElem?_append_left (by omega)).trans held, opens⟩
      · exact absurd after (Nat.lt_asymm inside)
    · obtain ⟨-, found⟩ | ⟨rfl, -⟩ := History.turn_cases found
      · obtain ⟨flight, landing, rfl⟩ := Option.map_eq_some_iff.mp retried
        have own : flight.attempt.step = trial.attempt.step := same
        have waiting := own ▸ State.pending_of_sent (Moment.sent_of_landing landing)
        rcases before.rested deferring turn first trial found tried waiting with deferred | opened
        · exact absurd (own ▸ deferred) (before.ledger.not_deferred_of_landing landing)
        · obtain ⟨between, round, lower, held, opens⟩ := opened
          have upper := (List.getElem?_eq_some_iff.mp held).1
          exact ⟨between, round, lower, upper, (List.getElem?_append_left upper).trans held, opens⟩
      · exact absurd after (Nat.lt_irrefl _)
  | shared op _ spared ih => exact ih

/-! ## The accounts of a crawl -/

/-- Where the steps of a crawl are, how often they failed, and how they were tried. -/
structure Accounts (client : Client σ) (policy : Policy) (anchor : String) (history : History σ)
    (state : State σ) : Prop where
  balanced : (history.steps client policy anchor).Perm
    (state.queue.map (·.step) ++ (state.inFlight.map (·.attempt.step) ++
      (state.deferred.map (·.step) ++
        (history.completed client policy ++ history.dropped client policy))))
  distinct : (history.steps client policy anchor).Nodup
  completed_steps : state.report.completedSteps = (history.completed client policy).length
  dropped_steps : state.report.dropped = (history.dropped client policy).map Step.text
  failed_attempts : state.report.failedAttempts =
    ((history.steps client policy anchor).map fun step =>
      (history.failed client policy).count step).sum
  dropped_failures : ∀ step ∈ history.dropped client policy,
    (history.failed client policy).count step = policy.recovery.attempts
  completed_failures : ∀ step ∈ history.completed client policy,
    (history.failed client policy).count step < policy.recovery.attempts
  attempts : ∀ step number trial, (history.trialsOf client policy step)[number]? = some trial →
    trial.attempt.failures = number ∧
      Asks step (decide (policy.cacheThreshold ≤ number)) trial.requests
  rounds : ∀ limit, policy.recovery = .deferred limit → Spaced client policy history
  finished : ∀ choice, state.advance client policy choice = none →
    state.queue = [] ∧ state.inFlight = [] ∧ state.deferred = [] ∧
      state.report.completedSteps + state.report.dropped.length =
        (history.steps client policy anchor).length

/-- How often things of a list occur in another one that holds nothing else adds up to the length
of that one. -/
theorem sum_count {steps failed : List Step} (distinct : steps.Nodup)
    (known : ∀ step ∈ failed, step ∈ steps) :
    (steps.map fun step => failed.count step).sum = failed.length := by
  have inside : failed.toFinset ⊆ steps.toFinset := fun step member =>
    List.mem_toFinset.mpr (known step (List.mem_toFinset.mp member))
  calc (steps.map fun step => failed.count step).sum
      = ∑ step ∈ steps.toFinset, failed.count step := (List.sum_toFinset _ distinct).symm
    _ = ∑ step ∈ failed.toFinset, failed.count step := by
        refine (Finset.sum_subset inside fun step _ absent => ?_).symm
        exact List.count_eq_zero.mpr fun member => absent (List.mem_toFinset.mpr member)
    _ = failed.length := List.sum_toFinset_count_eq_length failed

/-- The failures of the steps of a crawl are its failed attempts. -/
theorem Crawled.failures_sum (crawled : Crawled client policy anchor history state) :
    ((history.steps client policy anchor).map fun step =>
      (history.failed client policy).count step).sum = (history.failed client policy).length := by
  refine sum_count crawled.ledger.steps_nodup fun step failed => ?_
  obtain ⟨trial, member, rfl⟩ := History.tried_of_failed failed
  exact (crawled.counted.tried trial member).1

/-- The attempts of a step are numbered, and each asks the client as its number says. -/
theorem Crawled.attempted (crawled : Crawled client policy anchor history state) {step : Step}
    {number : Nat} {trial : Trial}
    (found : (history.trialsOf client policy step)[number]? = some trial) :
    trial.attempt.failures = number ∧
      Asks step (decide (policy.cacheThreshold ≤ number)) trial.requests := by
  obtain ⟨inside, at_number⟩ := List.getElem?_eq_some_iff.mp found
  have numbered : trial.attempt.failures = number := by
    have at_map := congrArg (fun numbers : List Nat => numbers[number]?)
      (crawled.counted.numbered step)
    simp only [List.getElem?_map, found, Option.map_some, List.getElem?_range inside] at at_map
    exact Option.some.inj at_map
  obtain ⟨tried, own⟩ := List.mem_filter.mp (List.mem_of_getElem? found)
  obtain ⟨moment, member, flight, landing, rfl⟩ := History.mem_trials.mp tried
  refine ⟨numbered, ?_⟩
  have asks := (crawled.crawling_of_mem member).asks (Moment.sent_of_landing landing)
    (flight.attempt.useCached policy.cacheThreshold)
  rw [← numbered, ← of_decide_eq_true own]
  exact asks

/-- In every state of a crawl, each step that was ever taken up is in one place. Its failures are
counted and not forgotten, and they decide how it is tried again and when it is given up. -/
theorem accounts_of_crawled (crawled : Crawled client policy anchor history state) :
    Accounts client policy anchor history state := by
  have ledger := crawled.ledger
  obtain ⟨completed, failed, dropped⟩ := crawled.reported
  refine ⟨?_, ledger.steps_nodup, completed, dropped, failed.trans crawled.failures_sum.symm,
    crawled.counted.dropped, crawled.counted.completed, fun step number trial => crawled.attempted,
    fun limit => crawled.spaced, ?_⟩
  · have places : state.pending.Perm (state.queue.map (·.step) ++
        (state.inFlight.map (·.attempt.step) ++ state.deferred.map (·.step))) := by
      simp only [State.pending, State.scheduled, List.map_append, List.map_map]
      exact List.perm_append_comm_assoc _ _ _
    have settled := places.append_right
      (history.completed client policy ++ history.dropped client policy)
    simp only [List.append_assoc] at settled
    exact ledger.balanced.trans settled
  · intro choice ended
    have settled := (State.advance_none_iff client policy choice state).mp ended
    have count := ledger.balanced.length_eq
    rw [settled, List.nil_append, List.length_append] at count
    simp only [State.pending, State.scheduled, List.map_eq_nil_iff, List.append_eq_nil_iff]
      at settled
    refine ⟨settled.2.1, settled.1, settled.2.2, ?_⟩
    rw [completed, dropped, List.length_map, count]

/-- The circle, in which no statement about another entity is to be had. -/
def silentCircle : Client Unit :=
  { circle with fetch := fun _ world => (.error (.client "silent"), world) }

/-- With two attempts for each step, the statement of the first entity about the second one is
asked for once, then in a round of its own, and then given up. -/
theorem accounts_of_silent_circle :
    let policy : Policy := ⟨.concurrent 2, .deferred 2, 1⟩
    let start := State.start "a" (Store.empty 1) ()
    let history := start.moments silentCircle policy (fun turns => turns) 9
    let state := start.run silentCircle policy (fun turns => turns) 9
    Accounts silentCircle policy "a" history state ∧ state.pending = [] ∧
      state.report = ⟨"a", some 1, 2, 2, 1, ["FetchSubordinate(a -> b)"]⟩ := by
  intro policy start history state
  have crawled : Crawled silentCircle policy "a" history state :=
    (Crawled.start 1 [] ()).run (fun turns => turns) 9
  exact ⟨accounts_of_crawled crawled, by decide +kernel, by decide +kernel⟩

end TrustFederation.Crawl
