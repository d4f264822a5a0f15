import TrustFederation.Proofs.Crawl.Confluence
/-!
# Depth first

Crawling a federation can be told as a recursion: to expand a configuration is to list its
subordinates, to claim those that nobody has claimed, and then to look one after the other up, each
one with everything below it before the next. The loop has no recursion. It has a stack, and runs one
step at a time. What the stack holds below the step that runs is what the recursion still has to do
when it returns, so the loop makes the same attempts in the same order as the recursion and leaves
the same tree.
-/
namespace TrustFederation.Crawl

open Text (lowercase)
open TrustFederation.Tree (Store)

variable {σ : Type}

/-! ## The recursion -/

/-- Where a recursive crawl stands. The attempts made so far, oldest first, say what was asked. -/
structure Walk (σ : Type) where
  world : σ
  store : StatementStore
  claimed : List String
  report : Report
  trials : List Trial

namespace Walk

/-- Before the first attempt. -/
def start (anchor : String) (store : StatementStore) (world : σ) : Walk σ :=
  ⟨world, store, [lowercase anchor], ⟨anchor, none, 0, 0, 0, []⟩, []⟩

/-- What an attempt comes to, with the requests that the client gets. -/
def trial (client : Client σ) (threshold : Nat) (attempt : Attempt) (walk : Walk σ) : Trial where
  attempt := attempt
  requests := asked client attempt.step (attempt.useCached threshold) walk.report.version walk.store
    walk.world
  result := (execute client attempt.step (attempt.useCached threshold) walk.report.version walk.store
    walk.world).1

/-- Makes one attempt. -/
def make (client : Client σ) (threshold : Nat) (attempt : Attempt) (walk : Walk σ) :
    Except Failure Outcome × Walk σ :=
  let (result, world) := execute client attempt.step (attempt.useCached threshold)
    walk.report.version walk.store walk.world
  (result, { walk with
    world := world
    trials := walk.trials ++ [walk.trial client threshold attempt] })

/-- Keeps what a successful attempt has attached. -/
def keep (outcome : Outcome) (walk : Walk σ) : Walk σ :=
  { walk with
    store := outcome.store
    report := { walk.report with
      completedSteps := walk.report.completedSteps + 1
      version := outcome.created.orElse fun _ => walk.report.version } }

/-- Counts a failed attempt. -/
def fail (walk : Walk σ) : Walk σ :=
  { walk with report := { walk.report with failedAttempts := walk.report.failedAttempts + 1 } }

/-- Gives a step up. -/
def giveUp (step : Step) (walk : Walk σ) : Walk σ :=
  { walk with report := { walk.report with dropped := walk.report.dropped ++ [step.text] } }

/-- Attempts a step until it succeeds or no attempt is left. A success comes with the steps that
follow. -/
def attempt (client : Client σ) (threshold : Nat) (step : Step) :
    (left failures : Nat) → Walk σ → Option (List Step) × Walk σ
  | 0, _, walk => (none, walk.giveUp step)
  | left + 1, failures, walk =>
    match walk.make client threshold ⟨step, failures⟩ with
    | (.ok outcome, walk) => (some outcome.next, walk.keep outcome)
    | (.error _, walk) => attempt client threshold step left (failures + 1) walk.fail

/-- Attempts a step that fetches a configuration, and goes on from there. -/
def enter (client : Client σ) (threshold attempts : Nat) (goOn : Statement → Walk σ → Walk σ)
    (step : Step) (walk : Walk σ) : Walk σ :=
  match walk.attempt client threshold step attempts 0 with
  | (some [.listSubordinates configuration], walk) => goOn configuration walk
  | (_, walk) => walk

/-- Looks a subordinate up: attempts the statement about it, then its configuration, and goes on from
there. A step that is given up ends the lookup and nothing else. -/
def lookUp (client : Client σ) (threshold attempts : Nat) (goOn : Statement → Walk σ → Walk σ)
    (walk : Walk σ) (step : Step) : Walk σ :=
  match walk.attempt client threshold step attempts 0 with
  | (some [.fetchConfiguration statement], walk) =>
    walk.enter client threshold attempts goOn (.fetchConfiguration statement)
  | (_, walk) => walk

/-- Expands a configuration: lists its subordinates, claims those that are not claimed yet, and looks
them up one after the other, each one with all that is below it. The depth bounds how far down. -/
def expand (client : Client σ) (threshold attempts : Nat) :
    (depth : Nat) → Statement → Walk σ → Walk σ
  | 0, _, walk => walk
  | depth + 1, configuration, walk =>
    match walk.attempt client threshold (.listSubordinates configuration) attempts 0 with
    | (some listed, walk) =>
      let (news, claimed) := State.claim walk.claimed listed
      news.foldl (lookUp client threshold attempts (expand client threshold attempts depth))
        { walk with claimed := claimed }
    | (none, walk) => walk

/-- Crawls below an anchor: attempts its configuration and expands it. -/
def descend (client : Client σ) (threshold attempts depth : Nat) (anchor : String) :
    Walk σ → Walk σ :=
  enter client threshold attempts (expand client threshold attempts depth) (.resolveRoot anchor)

/-- The loop at the same point, with a stack. -/
def toState (walk : Walk σ) (queue : List Attempt) : State σ :=
  ⟨walk.world, walk.store, walk.claimed, queue, [], [], walk.report⟩

variable {client : Client σ} {threshold : Nat}

/-- When a step succeeds, some reply of the client is followed by the next steps. -/
theorem replies_of_attempt {step : Step} {left failures : Nat} {walk after : Walk σ}
    {next : List Step}
    (made : walk.attempt client threshold step left failures = (some next, after)) :
    ∃ useCached world, Replies client useCached world step next := by
  induction left generalizing failures walk with
  | zero => cases made
  | succ left ih =>
    simp only [attempt] at made
    split at made
    case h_1 outcome later ran =>
      cases made
      exact ⟨_, _, replies_of_execute (congrArg Prod.fst ran)⟩
    case h_2 failure later ran => exact ih made

/-- Attempts claim nothing. -/
theorem claimed_attempt (client : Client σ) (threshold : Nat) (step : Step) (left failures : Nat)
    (walk : Walk σ) :
    (walk.attempt client threshold step left failures).2.claimed = walk.claimed := by
  induction left generalizing failures walk with
  | zero => rfl
  | succ left ih =>
    simp only [attempt]
    split
    case h_1 outcome later ran =>
      exact congrArg (fun answer : _ × Walk σ => answer.2.claimed) ran.symm
    case h_2 failure later ran =>
      rw [ih]
      exact congrArg (fun answer : _ × Walk σ => answer.2.claimed) ran.symm

end Walk

/-! ## Turns of the loop -/

/-- The loop leads from one state to another with these attempts, one in a turn, whatever it is told
to choose. -/
inductive Turns (client : Client σ) (policy : Policy) : State σ → List Trial → State σ → Prop where
  | none (state : State σ) : Turns client policy state [] state
  | more {state next final : State σ} {trial : Trial} {trials : List Trial}
      (advanced : ∀ choice, state.advance client policy choice = some next)
      (tried : ∀ choice, (⟨state, choice⟩ : Moment σ).trial? client policy = some trial)
      (rest : Turns client policy next trials final) :
      Turns client policy state (trial :: trials) final

namespace Turns

variable {client : Client σ} {policy : Policy} {state middle final : State σ}
  {trials others : List Trial}

theorem append (first : Turns client policy state trials middle)
    (second : Turns client policy middle others final) :
    Turns client policy state (trials ++ others) final := by
  induction first with
  | none => exact second
  | more advanced tried _ ih => exact .more advanced tried (ih second)

/-- A run goes through the turns first. -/
theorem run_add (made : Turns client policy state trials final) (choices : Nat → Nat)
    (turns : Nat) :
    state.run client policy choices (trials.length + turns) =
      final.run client policy choices turns := by
  induction made with
  | none => rw [List.length_nil, Nat.zero_add]
  | more advanced _ _ ih =>
    rw [List.length_cons, Nat.succ_add]
    simp only [State.run, advanced]
    exact ih

/-- The history of a run begins with the turns, and so do its attempts. -/
theorem moments_add (made : Turns client policy state trials final) (choices : Nat → Nat)
    (turns : Nat) :
    ∃ history : History σ, history.length = trials.length ∧
      history.trials client policy = trials ∧
      state.moments client policy choices (trials.length + turns) =
        history ++ final.moments client policy choices turns := by
  induction made with
  | none => exact ⟨[], rfl, rfl, by rw [List.length_nil, Nat.zero_add, List.nil_append]⟩
  | @more state next final trial trials advanced tried _ ih =>
    obtain ⟨history, length, attempts, moments⟩ := ih
    refine ⟨⟨state, choices (trials.length + turns)⟩ :: history, ?_, ?_, ?_⟩
    · rw [List.length_cons, List.length_cons, length]
    · rw [History.trials, List.filterMap_cons_some (tried _), ← History.trials, attempts]
    · rw [List.length_cons, Nat.succ_add]
      simp only [State.moments, advanced, moments]
      rfl

end Turns

/-! ## The stack is what the recursion still has to do -/

/-- One step at a time, and a failed one is tried again at once. -/
abbrev Policy.oneByOne (limit threshold : Nat) : Policy := ⟨.sequential, .retry limit, threshold⟩

/-- The loop gets from one point of the recursion, with what is on its stack, to another one with the
attempts that the recursion makes in between. Nothing that is claimed is given back. -/
structure Leads (client : Client σ) (limit threshold : Nat) (walk : Walk σ) (queue : List Attempt)
    (after : Walk σ) (rest : List Attempt) : Prop where
  turns : ∃ trials, after.trials = walk.trials ++ trials ∧
    Turns client (.oneByOne limit threshold) (walk.toState queue) trials (after.toState rest)
  grown : walk.claimed.length ≤ after.claimed.length

variable {client : Client σ} {limit threshold : Nat}

namespace Leads

variable {walk middle after : Walk σ} {queue between rest : List Attempt}

theorem refl (walk : Walk σ) (queue : List Attempt) :
    Leads client limit threshold walk queue walk queue :=
  ⟨⟨[], (List.append_nil _).symm, .none _⟩, Nat.le_refl _⟩

theorem trans (first : Leads client limit threshold walk queue middle between)
    (second : Leads client limit threshold middle between after rest) :
    Leads client limit threshold walk queue after rest := by
  obtain ⟨⟨trials, record, turns⟩, grown⟩ := first
  obtain ⟨⟨others, other_record, other_turns⟩, other_grown⟩ := second
  refine ⟨⟨trials ++ others, ?_, turns.append other_turns⟩, grown.trans other_grown⟩
  rw [other_record, record, List.append_assoc]

end Leads

/-- With nothing in flight, the step on the top of the stack is the one that completes. -/
theorem Walk.advance_top (walk : Walk σ) (attempt : Attempt) (queue : List Attempt)
    (choice : Nat) :
    (walk.toState (attempt :: queue)).advance client (.oneByOne limit threshold) choice =
      some ((walk.toState queue).complete client (.oneByOne limit threshold)
        ⟨attempt, walk.report.version⟩) := by
  simp [State.advance, State.fill, Walk.toState, Execution.maxInFlight, Nat.mod_one]

/-- One turn makes the attempt on the top of the stack. -/
theorem Walk.turn_top (walk : Walk σ) (attempt : Attempt) (queue : List Attempt)
    {after : Walk σ} {rest : List Attempt}
    (trials : after.trials = walk.trials ++ [walk.trial client threshold attempt])
    (grown : walk.claimed.length ≤ after.claimed.length)
    (completed : (walk.toState queue).complete client (.oneByOne limit threshold)
      ⟨attempt, walk.report.version⟩ = after.toState rest) :
    Leads client limit threshold walk (attempt :: queue) after rest := by
  refine ⟨⟨_, trials, .more (fun choice => ?_) (fun choice => ?_) (.none _)⟩, grown⟩
  · rw [walk.advance_top, completed]
  · simp [Moment.trial?, Moment.landing?, State.fill, Walk.toState, Execution.maxInFlight,
      Nat.mod_one, Flight.land, Walk.trial]

/-- A flight that lands does what an attempt of the recursion does. -/
theorem Walk.complete_top (client : Client σ) (limit threshold : Nat) (walk : Walk σ)
    (attempt : Attempt) (queue : List Attempt) :
    (walk.toState queue).complete client (.oneByOne limit threshold)
        ⟨attempt, walk.report.version⟩ =
      match walk.make client threshold attempt with
      | (.ok outcome, after) => (after.toState queue).succeed outcome
      | (.error _, after) => (after.toState queue).fail (.oneByOne limit threshold) attempt := by
  simp only [State.complete, Walk.make, Walk.toState]
  cases (execute client attempt.step (attempt.useCached threshold) walk.report.version walk.store
    walk.world).1 <;> rfl

/-- A failed attempt is put back on the top of the stack, or its step is given up. -/
theorem Walk.fail_top (walk : Walk σ) (attempt : Attempt) (queue : List Attempt) :
    (walk.toState queue).fail (.oneByOne limit threshold) attempt =
      if attempt.failures + 1 < limit then walk.fail.toState (attempt.failed :: queue)
      else (walk.fail.giveUp attempt.step).toState queue := by
  by_cases more : attempt.failures + 1 < limit
  · have fate : (Recovery.retry limit).fate attempt.failed.failures = .retry := if_pos more
    rw [if_pos more]
    simp only [State.fail, fate]
    rfl
  · have fate : (Recovery.retry limit).fate attempt.failed.failures = .drop := if_neg more
    rw [if_neg more]
    simp only [State.fail, fate]
    rfl

theorem Walk.trials_make {walk after : Walk σ} {attempt : Attempt} {result : Except Failure Outcome}
    (ran : walk.make client threshold attempt = (result, after)) :
    after.trials = walk.trials ++ [walk.trial client threshold attempt] :=
  congrArg (fun answer : _ × Walk σ => answer.2.trials) ran.symm

theorem Walk.claimed_make {walk after : Walk σ} {attempt : Attempt}
    {result : Except Failure Outcome}
    (ran : walk.make client threshold attempt = (result, after)) : after.claimed = walk.claimed :=
  congrArg (fun answer : _ × Walk σ => answer.2.claimed) ran.symm

/-- Claims are never fewer than before. -/
theorem claim_length (claimed : List String) (steps : List Step) :
    claimed.length ≤ (State.claim claimed steps).2.length := by
  induction steps generalizing claimed with
  | nil => exact Nat.le_refl _
  | cons step rest ih =>
    cases step with
    | fetchSubordinate authority subordinate =>
      simp only [State.claim]
      split
      · exact ih claimed
      · exact Nat.le_of_succ_le (ih (lowercase subordinate :: claimed))
    | _ => exact ih claimed

/-- The point after a success, with what is claimed for the next steps. -/
def Walk.claiming (next : List Step) (walk : Walk σ) : Walk σ :=
  { walk with claimed := (State.claim walk.claimed next).2 }

/-- While the recursion attempts a step, the loop makes the same attempts, and then it has the next
steps on the top of its stack, or none of them if the step was given up.

Proof: induction over the attempts that are left. A failed attempt is put back on the top of the
stack exactly when another one is left. -/
theorem Walk.attempt_leads (step : Step) {left failures : Nat} (positive : 0 < left)
    (total : left + failures = max limit 1) (walk : Walk σ) (queue : List Attempt) :
    match walk.attempt client threshold step left failures with
    | (some next, after) =>
      Leads client limit threshold walk (⟨step, failures⟩ :: queue) (after.claiming next)
        ((State.claim after.claimed next).1.map .first ++ queue)
    | (none, after) =>
      Leads client limit threshold walk (⟨step, failures⟩ :: queue) after queue := by
  induction left generalizing failures walk with
  | zero => exact absurd positive (Nat.lt_irrefl 0)
  | succ left ih =>
    have completed := walk.complete_top client limit threshold ⟨step, failures⟩ queue
    simp only [attempt]
    cases ran : walk.make client threshold ⟨step, failures⟩ with
    | mk result after =>
      have trials := trials_make ran
      have claimed := claimed_make ran
      rw [ran] at completed
      cases result with
      | ok outcome =>
        refine walk.turn_top _ queue trials ?_ completed
        rw [← claimed]
        exact claim_length _ _
      | error failure =>
        have counted : walk.claimed.length ≤ after.fail.claimed.length := by
          rw [← claimed]
          exact Nat.le_refl _
        by_cases more : failures + 1 < limit
        · have again : Leads client limit threshold walk (⟨step, failures⟩ :: queue) after.fail
              (⟨step, failures + 1⟩ :: queue) := by
            refine walk.turn_top _ queue trials counted (completed.trans ?_)
            exact (after.fail_top _ queue).trans (if_pos more)
          have rest := @ih (failures + 1) (by omega) (by omega) after.fail
          simp only
          generalize after.fail.attempt client threshold step left (failures + 1) = made at rest
          obtain ⟨_ | next, final⟩ := made
          · exact again.trans rest
          · exact again.trans rest
        · obtain rfl : left = 0 := by omega
          refine walk.turn_top _ queue trials counted (completed.trans ?_)
          exact (after.fail_top _ queue).trans (if_neg more)

/-- The loop begins with the first attempt of a step, and all of them are left. -/
theorem Walk.first_leads (client : Client σ) (limit threshold : Nat) (step : Step) (walk : Walk σ)
    (queue : List Attempt) :
    match walk.attempt client threshold step (max limit 1) 0 with
    | (some next, after) =>
      Leads client limit threshold walk (.first step :: queue) (after.claiming next)
        ((State.claim after.claimed next).1.map .first ++ queue)
    | (none, after) => Leads client limit threshold walk (.first step :: queue) after queue :=
  walk.attempt_leads step (Nat.le_max_right limit 1) rfl queue

/-! ## The loop does what the recursion does -/

/-- However long the loop runs on from here, it claims no more identifiers than this. -/
def Confined (client : Client σ) (limit threshold : Nat) (choices : Nat → Nat) (most : Nat)
    (walk : Walk σ) (queue : List Attempt) : Prop :=
  ∀ turns, ((walk.toState queue).run client (.oneByOne limit threshold) choices turns).claimed.length
    ≤ most

theorem Confined.leads {choices : Nat → Nat} {most : Nat} {walk after : Walk σ}
    {queue rest : List Attempt}
    (confined : Confined client limit threshold choices most walk queue)
    (leads : Leads client limit threshold walk queue after rest) :
    Confined client limit threshold choices most after rest := by
  obtain ⟨⟨trials, -, made⟩, -⟩ := leads
  intro turns
  rw [← made.run_add choices turns]
  exact confined _

variable {choices : Nat → Nat} {most : Nat}

/-- The loop goes on from a point when the recursion does, with what is left on the stack. -/
def Follows (client : Client σ) (limit threshold : Nat) (choices : Nat → Nat) (most : Nat)
    (walk : Walk σ) (goOn : Statement → Walk σ → Walk σ) : Prop :=
  ∀ configuration later queue, walk.claimed.length ≤ later.claimed.length →
    Confined client limit threshold choices most later
      (.first (.listSubordinates configuration) :: queue) →
    Leads client limit threshold later (.first (.listSubordinates configuration) :: queue)
      (goOn configuration later) queue

theorem Follows.mono {walk after : Walk σ} {goOn : Statement → Walk σ → Walk σ}
    (follows : Follows client limit threshold choices most walk goOn)
    (grown : walk.claimed.length ≤ after.claimed.length) :
    Follows client limit threshold choices most after goOn :=
  fun configuration later queue more confined =>
    follows configuration later queue (grown.trans more) confined

namespace Walk

theorem enter_leads {goOn : Statement → Walk σ → Walk σ} {step : Step}
    (entry : ∀ useCached world next, Replies client useCached world step next →
      ∃ configuration, next = [.listSubordinates configuration])
    (walk : Walk σ) (queue : List Attempt)
    (follows : Follows client limit threshold choices most walk goOn)
    (confined : Confined client limit threshold choices most walk (.first step :: queue)) :
    Leads client limit threshold walk (.first step :: queue)
      (walk.enter client threshold (max limit 1) goOn step) queue := by
  have first := walk.first_leads client limit threshold step queue
  unfold enter
  cases made : walk.attempt client threshold step (max limit 1) 0 with
  | mk result after =>
    rw [made] at first
    cases result with
    | none => exact first
    | some next =>
      obtain ⟨useCached, world, replies⟩ := replies_of_attempt made
      obtain ⟨configuration, rfl⟩ := entry useCached world next replies
      exact first.trans (follows configuration after queue first.grown (confined.leads first))

theorem lookUp_leads {goOn : Statement → Walk σ → Walk σ} {authority : Statement}
    {subordinate : String} (walk : Walk σ) (queue : List Attempt)
    (follows : Follows client limit threshold choices most walk goOn)
    (confined : Confined client limit threshold choices most walk
      (.first (.fetchSubordinate authority subordinate) :: queue)) :
    Leads client limit threshold walk (.first (.fetchSubordinate authority subordinate) :: queue)
      (walk.lookUp client threshold (max limit 1) goOn (.fetchSubordinate authority subordinate))
      queue := by
  have first := walk.first_leads client limit threshold (.fetchSubordinate authority subordinate)
    queue
  unfold lookUp
  cases made : walk.attempt client threshold (.fetchSubordinate authority subordinate)
      (max limit 1) 0 with
  | mk result after =>
    rw [made] at first
    cases result with
    | none => exact first
    | some next =>
      obtain ⟨useCached, world, replies⟩ := replies_of_attempt made
      cases replies with
      | @subordinate _ statement =>
        refine first.trans (enter_leads ?_ after queue (follows.mono first.grown)
          (confined.leads first))
        rintro flag other next (_ | _)
        exact ⟨_, rfl⟩

/-- The subordinates that are looked up one after the other are on the stack, the next one on top. -/
theorem foldl_leads {goOn : Statement → Walk σ → Walk σ} {authority : Statement}
    (news : List String) (walk : Walk σ) (queue : List Attempt)
    (follows : Follows client limit threshold choices most walk goOn)
    (confined : Confined client limit threshold choices most walk
      ((news.map (Step.fetchSubordinate authority)).map .first ++ queue)) :
    Leads client limit threshold walk
      ((news.map (Step.fetchSubordinate authority)).map .first ++ queue)
      ((news.map (Step.fetchSubordinate authority)).foldl
        (lookUp client threshold (max limit 1) goOn) walk) queue := by
  induction news generalizing walk with
  | nil => exact .refl walk queue
  | cons subordinate rest ih =>
    have first := walk.lookUp_leads
      ((rest.map (Step.fetchSubordinate authority)).map Attempt.first ++ queue) follows confined
    exact first.trans (ih _ (follows.mono first.grown) (confined.leads first))

/-- While the recursion expands a configuration, the loop does the same with what was on its stack
left untouched, if the recursion may go deep enough.

Proof: induction over the depth. Each level below claims an identifier of its own, so there are no
more levels than identifiers. -/
theorem expand_leads {depth : Nat} (configuration : Statement) (walk : Walk σ)
    (queue : List Attempt) (deep : most < depth + walk.claimed.length)
    (confined : Confined client limit threshold choices most walk
      (.first (.listSubordinates configuration) :: queue)) :
    Leads client limit threshold walk (.first (.listSubordinates configuration) :: queue)
      (walk.expand client threshold (max limit 1) depth configuration) queue := by
  induction depth generalizing configuration walk queue with
  | zero =>
    have few : walk.claimed.length ≤ most := confined 0
    omega
  | succ depth ih =>
    have first := walk.first_leads client limit threshold (.listSubordinates configuration) queue
    have kept := walk.claimed_attempt client threshold (.listSubordinates configuration)
      (max limit 1) 0
    simp only [expand]
    cases made : walk.attempt client threshold (.listSubordinates configuration)
        (max limit 1) 0 with
    | mk result after =>
      rw [made] at first kept
      cases result with
      | none => exact first
      | some listed =>
        obtain ⟨useCached, world, replies⟩ := replies_of_attempt made
        cases replies with
        | leaf => exact first
        | @listing _ _ subordinates =>
          obtain ⟨news, claims, -, -, -, -⟩ :=
            claim_listing after.claimed configuration subordinates
          simp only [Walk.claiming, claims] at first ⊢
          have opened := confined.leads first
          refine first.trans ?_
          cases news with
          | nil => exact .refl _ queue
          | cons subordinate rest =>
            refine foldl_leads (subordinate :: rest) _ queue ?_ opened
            intro below later others grown confined
            refine ih below later others ?_ confined
            have counted : after.claimed.length = walk.claimed.length := congrArg List.length kept
            simp only [List.length_append, List.length_reverse, List.length_map,
              List.length_cons] at grown
            omega

/-- The loop gets from its start to its end with the attempts that the recursion makes. -/
theorem descend_leads (depth : Nat) (anchor : String) (store : StatementStore) (world : σ)
    (deep : most < depth + 1)
    (confined : Confined client limit threshold choices most (start anchor store world)
      [.first (.resolveRoot anchor)]) :
    Leads client limit threshold (start anchor store world) [.first (.resolveRoot anchor)]
      ((start anchor store world).descend client threshold (max limit 1) depth anchor) [] := by
  refine enter_leads ?_ (start anchor store world) [] ?_ confined
  · rintro useCached other next (_ | _)
    exact ⟨_, rfl⟩
  · intro configuration later queue grown confined
    refine expand_leads configuration later queue ?_ confined
    have one : (start anchor store world).claimed.length = 1 := rfl
    omega

end Walk

/-- Crawling one step at a time, with failed steps tried again at once, is depth-first descent: the
loop comes to its end with the attempts, the requests and the answers of the recursion in their
order, and with what the recursion leaves, if the listings of the crawl name few identifiers and the
recursion may go that deep. -/
theorem run_eq_descend (client : Client σ) (limit threshold : Nat) (anchor : String)
    (retained : Nat) (ops : List (Store.Op Statement)) (world : σ) (choices : Nat → Nat)
    (names depth turns : Nat)
    (few : ∀ turns, NamesAtMost client (.oneByOne limit threshold) anchor
      ((State.start anchor ((Store.empty retained).applyAll ops) world).moments client
        (.oneByOne limit threshold) choices turns) names)
    (deep : names < depth) (enough : 2 * (max limit 1 * (2 + 3 * names)) < turns) :
    let policy : Policy := .oneByOne limit threshold
    let start := State.start anchor ((Store.empty retained).applyAll ops) world
    let walk := (Walk.start anchor ((Store.empty retained).applyAll ops) world).descend client
      threshold (max limit 1) depth anchor
    start.run client policy choices turns = walk.toState [] ∧
      (start.moments client policy choices turns).trials client policy = walk.trials := by
  intro policy start walk
  have crawled : Crawled client policy anchor [] start := .start retained ops world
  have confined : Confined client limit threshold choices (names + 1)
      (Walk.start anchor ((Store.empty retained).applyAll ops) world)
      [.first (.resolveRoot anchor)] :=
    fun turns => (crawled.run choices turns).claimed_length (few turns)
  obtain ⟨⟨trials, record, made⟩, -⟩ := Walk.descend_leads depth anchor
    ((Store.empty retained).applyAll ops) world (by omega) confined
  -- The turns that lead to the end are no more than the crawl may take.
  have within : trials.length < turns := by
    obtain ⟨history, length, -, moments⟩ := made.moments_add choices 0
    have whole : start.moments client policy choices (trials.length + 0) = history ++ [] := moments
    have bounded := ((crawled.run choices (trials.length + 0)).bounded (few _)).turns
    rw [whole, List.nil_append, List.append_nil, length] at bounded
    exact bounded.trans_lt enough
  obtain ⟨rest, rfl⟩ := Nat.exists_eq_add_of_le within.le
  obtain ⟨history, -, attempts, moments⟩ := made.moments_add choices rest
  have still (turns : Nat) : (walk.toState []).run client policy choices turns = walk.toState [] ∧
      (walk.toState []).moments client policy choices turns = [] := by
    cases turns with
    | zero => exact ⟨rfl, rfl⟩
    | succ turns => exact ⟨rfl, rfl⟩
  refine ⟨(made.run_add choices rest).trans (still rest).1, ?_⟩
  have whole : start.moments client policy choices (trials.length + rest) = history := by
    rw [(still rest).2, List.append_nil] at moments
    exact moments
  rw [whole, attempts]
  exact record.symm

/-- In the reluctant federation `b` is looked up with the `d` below it before `c` has its turn, and
giving up `c` costs nothing else. -/
theorem run_eq_descend_reluctant :
    let policy : Policy := .oneByOne 2 1
    let start := State.start "a" (Store.empty 1) []
    let walk := (Walk.start "a" (Store.empty 1) []).descend reluctant 1 2 4 "a"
    start.run reluctant policy (fun _ => 0) 45 = walk.toState [] ∧
      (start.moments reluctant policy (fun _ => 0) 45).trials reluctant policy = walk.trials ∧
      walk.trials.map (·.attempt.step.text) =
        ["ResolveRoot(a)", "SubordinateListing(a)", "FetchSubordinate(a -> b)",
          "FetchSubordinate(a -> b)", "FetchEntityConfiguration(b)", "SubordinateListing(b)",
          "FetchSubordinate(b -> d)", "FetchSubordinate(b -> d)", "FetchEntityConfiguration(d)",
          "SubordinateListing(d)", "FetchSubordinate(a -> c)", "FetchSubordinate(a -> c)"] ∧
      walk.report = ⟨"a", some 1, 8, 4, 0, ["FetchSubordinate(a -> c)"]⟩ := by
  intro policy start walk
  obtain ⟨final, trials⟩ := run_eq_descend reluctant 2 1 "a" 1 [] [] (fun _ => 0) 3 4 45
    (fun _ => reluctant_names _ _) (by decide) (by decide)
  exact ⟨final, trials, by decide +kernel, by decide +kernel⟩

end TrustFederation.Crawl
