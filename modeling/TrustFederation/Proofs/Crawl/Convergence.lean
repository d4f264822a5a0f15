import Mathlib.Algebra.Order.BigOperators.Group.List
import TrustFederation.Proofs.Crawl.Bookkeeping
/-!
# The end of a crawl

Only listings make a crawl longer. Each identifier that they name is claimed once and gives rise to
three steps at most, each step is tried as often as the policy allows, and a round needs a failed
attempt to open it. So a crawl whose listings name few identifiers takes few turns, whatever fails
and in whatever order attempts complete.
-/
namespace TrustFederation.Crawl

open Text (lowercase)
open TrustFederation.Tree (Store)

variable {σ : Type} {client : Client σ} {policy : Policy} {anchor : String} {history : History σ}
  {moment : Moment σ} {state next : State σ} {limit : Nat}

/-! ## Steps and claims -/

/-- A success trades the weight of its step for the weight of what it brings, and three for every
new claim. -/
theorem Brings.balance {claimed claims : List String} {step : Step} {news : List Step}
    (brings : Brings claimed step news claims) :
    worth news + 1 + 3 * claimed.length = weight step + 3 * claims.length := by
  cases brings with
  | further about lighter =>
    simp only [worth]
    omega
  | @claims authority news distinct fresh =>
    rw [worth_listed, List.length_append, List.length_reverse, List.length_map, weight]
    omega

/-- What was done and what is pending is paid for by the claims. -/
def Paid (client : Client σ) (policy : Policy) (history : History σ) (state : State σ) : Prop :=
  (history.completed client policy).length + (history.dropped client policy).length +
    worth state.pending + 1 ≤ 3 * state.claimed.length

/-- Every turn is paid for. -/
theorem Paid.turn (paid : Paid client policy history moment.state) (anchor : String)
    (passed : Passed client policy moment next) :
    Paid client policy (history ++ [moment]) next := by
  unfold Paid at paid ⊢
  cases passed with
  | opened idle inactive waited replayed =>
    obtain ⟨-, -, completed, -, dropped⟩ :
      Recorded client policy anchor history moment [] [] [] [] [] :=
        recorded_idle anchor history idle
    have pending := worth_perm ((State.scheduled_replay moment.state).map (·.step))
    rw [replayed, completed, dropped, List.append_nil, List.append_nil, State.pending, pending]
    exact paid
  | succeeded flight outcome rest landing result active later deferred claimed =>
    obtain ⟨-, -, completed, -, dropped⟩ := recorded_success anchor history landing result
    have balance := ((replies_of_execute result).brings moment.state.claimed).balance
    have waiting := worth_perm (State.pending_of_active active)
    have brought := worth_perm (State.pending_of_active later)
    rw [deferred, List.append_assoc, List.map_append, State.step_of_first, worth_append] at brought
    rw [List.cons_append, List.map_cons, worth] at waiting
    rw [completed, dropped, claimed, List.length_append, List.append_nil, List.length_singleton]
    omega
  | failed flight failure rest landing result active later deferred claimed =>
    obtain ⟨-, -, completed, -, dropped⟩ := recorded_failure anchor history landing result
    have heavy := weight_pos flight.attempt.step
    have waiting := worth_perm (State.pending_of_active active)
    have left := worth_perm ((State.scheduled_of_failed later deferred).map (·.step))
    rw [List.cons_append, List.map_cons, worth] at waiting
    rw [completed, dropped, claimed, List.append_nil, List.length_append, State.pending, left]
    split
    · -- The step that is given up is paid for by its own weight.
      rw [List.length_singleton, List.nil_append]
      omega
    · have again : weight flight.attempt.failed.step = weight flight.attempt.step := rfl
      rw [List.length_nil, List.singleton_append, List.map_cons, worth, again]
      omega

theorem Crawled.paid (crawled : Crawled client policy anchor history state) :
    Paid client policy history state := by
  induction crawled with
  | start retained ops world => exact Nat.le_refl 3
  | turn choice _ advanced ih => exact ih.turn anchor (passed_of_advance advanced)
  | shared op _ spared ih => exact ih

/-- The listings of a history name at most so many identifiers, with their letters made small,
besides that of the anchor. -/
def NamesAtMost (client : Client σ) (policy : Policy) (anchor : String) (history : History σ)
    (limit : Nat) : Prop :=
  ∀ names : List String, names.Nodup →
    (∀ name ∈ names, name ≠ lowercase anchor ∧ ∃ authority subordinates,
      Listed client policy history authority subordinates ∧
      ∃ subordinate ∈ subordinates, lowercase subordinate = name) →
    names.length ≤ limit

/-- A crawl claims the anchor and what its listings name. -/
theorem Crawled.claimed_length (crawled : Crawled client policy anchor history state)
    (few : NamesAtMost client policy anchor history limit) : state.claimed.length ≤ limit + 1 := by
  have ledger := crawled.ledger
  have others := few (state.claimed.erase (lowercase anchor)) (ledger.lineage.single.erase _) ?_
  · have shorter := List.le_length_erase (l := state.claimed) (a := lowercase anchor)
    omega
  · intro name member
    obtain ⟨other, claimed⟩ := ledger.lineage.single.mem_erase_iff.mp member
    refine ⟨other, ?_⟩
    cases ledger.named name claimed with
    | anchor => exact absurd rfl other
    | @listed authority subordinates subordinate known listed named =>
      exact ⟨authority, subordinates, listed, subordinate, named, rfl⟩

/-- Three steps for every identifier that is named, and two for the anchor. -/
theorem Crawled.steps_length (crawled : Crawled client policy anchor history state)
    (few : NamesAtMost client policy anchor history limit) :
    (history.steps client policy anchor).length ≤ 2 + 3 * limit := by
  have balanced := crawled.ledger.balanced.length_eq
  have paid : _ + _ + worth state.pending + 1 ≤ _ := crawled.paid
  have pending := length_le_worth state.pending
  have claimed := crawled.claimed_length few
  rw [List.length_append, List.length_append] at balanced
  omega

/-! ## Attempts and rounds -/

/-- No step is tried more often than the policy allows. -/
theorem Crawled.trials_of_le (crawled : Crawled client policy anchor history state) (step : Step) :
    (history.trialsOf client policy step).length ≤ policy.recovery.attempts := by
  cases count : (history.trialsOf client policy step).length with
  | zero => exact Nat.zero_le _
  | succ last =>
    have inside : last < (history.trialsOf client policy step).length := by omega
    have found := List.getElem?_eq_getElem inside
    have numbered := (crawled.attempted found).1
    have tried := (List.mem_filter.mp (List.getElem_mem inside)).1
    have allowed := (crawled.counted.tried _ tried).2
    omega

/-- Every attempt has failed or succeeded. -/
theorem History.trials_length (history : History σ) :
    (history.trials client policy).length =
      (history.failed client policy).length + (history.completed client policy).length := by
  simp only [failed, completed]
  induction history.trials client policy with
  | nil => rfl
  | cons trial rest ih =>
    rw [List.flatMap_cons, List.flatMap_cons, List.length_append, List.length_append,
      List.length_cons, ih]
    cases result : trial.result <;> simp [Trial.failed, Trial.completed, result] <;> omega

/-- All attempts together are as many as the policy allows for the steps. -/
theorem Crawled.trials_length_le (crawled : Crawled client policy anchor history state) :
    (history.trials client policy).length ≤
      policy.recovery.attempts * (history.steps client policy anchor).length := by
  have ledger := crawled.ledger
  have completions := sum_count ledger.steps_nodup fun step => ledger.mem_of_completed
  calc (history.trials client policy).length
      = ((history.steps client policy anchor).map fun step =>
          (history.failed client policy).count step +
            (history.completed client policy).count step).sum := by
        rw [List.sum_map_add, crawled.failures_sum, completions, History.trials_length]
    _ = ((history.steps client policy anchor).map fun step =>
          (history.trialsOf client policy step).length).sum := by
        simp only [History.trials_of_length]
    _ ≤ policy.recovery.attempts * (history.steps client policy anchor).length := by
        have total := List.sum_le_card_nsmul ((history.steps client policy anchor).map fun step =>
          (history.trialsOf client policy step).length) policy.recovery.attempts ?_
        · rwa [List.length_map, Nat.nsmul_eq_mul, Nat.mul_comm] at total
        · intro count member
          obtain ⟨step, -, rfl⟩ := List.mem_map.mp member
          exact crawled.trials_of_le step

/-- Turns are attempts and rounds, and a round takes deferred attempts, each of which has failed. -/
structure Paced (client : Client σ) (policy : Policy) (history : History σ) (state : State σ) :
    Prop where
  turns : history.length = (history.trials client policy).length + state.report.deferredRounds
  rounds : state.report.deferredRounds + state.deferred.length ≤ state.report.failedAttempts

theorem Paced.turn (paced : Paced client policy history moment.state) (anchor : String)
    (passed : Passed client policy moment next) :
    Paced client policy (history ++ [moment]) next := by
  obtain ⟨turns, rounds⟩ := paced
  cases passed with
  | opened idle inactive waited replayed =>
    obtain ⟨-, trials, -, -, -⟩ :
      Recorded client policy anchor history moment [] [] [] [] [] :=
        recorded_idle anchor history idle
    have some_waited := List.length_pos_iff.mpr waited
    rw [replayed]
    constructor
    · rw [trials, List.append_nil, List.length_append, turns]
      exact Nat.add_assoc _ _ 1
    · simp only [State.replay, List.length_nil]
      omega
  | succeeded flight outcome rest landing result active later deferred claimed store report =>
    obtain ⟨-, trials, -, -, -⟩ := recorded_success anchor history landing result
    constructor
    · rw [report, trials, List.length_append, List.length_append, turns]
      exact Nat.add_right_comm _ _ 1
    · rw [report, deferred]
      exact rounds
  | failed flight failure rest landing result active later deferred claimed store report =>
    obtain ⟨-, trials, -, -, -⟩ := recorded_failure anchor history landing result
    constructor
    · rw [report, trials, List.length_append, List.length_append, turns]
      exact Nat.add_right_comm _ _ 1
    · rw [report, deferred, List.length_append]
      simp only
      split
      · rw [List.length_singleton]
        omega
      · rw [List.length_nil]
        omega

theorem Crawled.paced (crawled : Crawled client policy anchor history state) :
    Paced client policy history state := by
  induction crawled with
  | start retained ops world => exact ⟨rfl, Nat.le_refl 0⟩
  | turn choice _ advanced ih => exact ih.turn anchor (passed_of_advance advanced)
  | shared op _ spared ih => exact ⟨ih.turns, ih.rounds⟩

/-! ## The bounds -/

/-- How much work a crawl does whose listings name at most so many identifiers. -/
structure Bounded (client : Client σ) (policy : Policy) (anchor : String) (history : History σ)
    (state : State σ) (limit : Nat) : Prop where
  distinct : (history.steps client policy anchor).Nodup
  steps : (history.steps client policy anchor).length ≤ 2 + 3 * limit
  attempts : ∀ step, (history.trialsOf client policy step).length ≤ policy.recovery.attempts
  completed_steps : state.report.completedSteps ≤ 2 + 3 * limit
  failed_attempts : state.report.failedAttempts ≤ policy.recovery.attempts * (2 + 3 * limit)
  turns : history.length ≤ 2 * (policy.recovery.attempts * (2 + 3 * limit))

theorem Crawled.bounded (crawled : Crawled client policy anchor history state)
    (few : NamesAtMost client policy anchor history limit) :
    Bounded client policy anchor history state limit := by
  obtain ⟨completed, failed, -⟩ := crawled.reported
  have balanced := crawled.ledger.balanced.length_eq
  have steps := crawled.steps_length few
  have trials : (history.trials client policy).length ≤
      policy.recovery.attempts * (2 + 3 * limit) :=
    crawled.trials_length_le.trans (Nat.mul_le_mul_left _ steps)
  have split := @History.trials_length σ client policy history
  have turns := crawled.paced.turns
  have rounds := crawled.paced.rounds
  rw [List.length_append, List.length_append] at balanced
  refine ⟨crawled.ledger.steps_nodup, steps, crawled.trials_of_le, ?_, ?_, ?_⟩ <;> omega

/-- A run that may take more turns than a crawl has comes to its end. -/
theorem Crawled.ends (crawled : Crawled client policy anchor history state)
    {choices : Nat → Nat} {turns : Nat}
    (few : NamesAtMost client policy anchor
      (history ++ state.moments client policy choices turns) limit)
    (enough : 2 * (policy.recovery.attempts * (2 + 3 * limit)) < turns) :
    (state.run client policy choices turns).pending = [] := by
  have longer := ((crawled.run choices turns).bounded few).turns
  rw [List.length_append] at longer
  exact State.pending_nil_of_moments choices (by omega)

/-- A crawl whose listings name few identifiers does little work, and its loop ends. -/
theorem bounded_of_crawled (crawled : Crawled client policy anchor history state)
    (few : NamesAtMost client policy anchor history limit) :
    Bounded client policy anchor history state limit ∧
    ∀ choices turns,
      NamesAtMost client policy anchor (history ++ state.moments client policy choices turns)
        limit →
      2 * (policy.recovery.attempts * (2 + 3 * limit)) < turns →
      ∀ choice, (state.run client policy choices turns).advance client policy choice = none := by
  refine ⟨crawled.bounded few, ?_⟩
  intro choices turns still_few enough choice
  exact (State.advance_none_iff client policy choice _).mpr (crawled.ends still_few enough)

/-- Besides the first entity, the circle names only the second one. -/
theorem circle_names (policy : Policy) (history : History Unit) :
    NamesAtMost circle policy "a" history 1 := by
  intro names distinct named
  have small : lowercase "a" = "a" ∧ lowercase "A" = "a" ∧ lowercase "b" = "b" ∧
    lowercase "B" = "b" := by decide +kernel
  have inside : names ⊆ ["b"] := by
    intro name member
    obtain ⟨other, authority, subordinates, ⟨moment, -, flight, -, -, endpoints, -, answer⟩,
      subordinate, listed, rfl⟩ := named name member
    cases answer
    simp only [List.mem_cons, List.not_mem_nil, or_false] at listed ⊢
    rcases listed with rfl | rfl | rfl | rfl <;> simp_all
  exact distinct.length_le_of_subset inside

/-- The circle is crawled with five steps at most, and twenty-one turns are enough. -/
theorem bounded_of_circle :
    let policy : Policy := ⟨.concurrent 0, .retry 2, 1⟩
    let start := State.start "a" (Store.empty 1) ()
    Bounded circle policy "a" (start.moments circle policy (fun turns => turns) 9)
      (start.run circle policy (fun turns => turns) 9) 1 ∧
    ∀ choices choice, (start.run circle policy choices 21).advance circle policy choice = none := by
  intro policy start
  have crawled : Crawled circle policy "a" [] start := .start 1 [] ()
  refine ⟨(bounded_of_crawled (crawled.run (fun turns => turns) 9) (circle_names policy _)).1, ?_⟩
  intro choices choice
  exact (bounded_of_crawled crawled (circle_names policy _)).2 choices 21 (circle_names policy _)
    (by decide) choice

/-- The limit on the turns of a load is no limit for federations whose listings name fewer
identifiers than it allows for. -/
theorem load_ends (retained : Nat) (ops : List (Store.Op Statement)) (world : σ)
    (few : NamesAtMost client policy anchor ((State.start anchor
      ((Store.empty retained).applyAll ops) world).moments client policy (fun _ => 0) turnLimit)
      limit)
    (enough : 2 * (policy.recovery.attempts * (2 + 3 * limit)) < turnLimit) :
    ∃ final : State σ, final.pending = [] ∧
      load client policy anchor ((Store.empty retained).applyAll ops) world =
        (final.report, final.store, final.world) :=
  ⟨_, (Crawled.start retained ops world).ends few enough, rfl⟩

end TrustFederation.Crawl
