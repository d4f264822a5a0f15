import TrustFederation.Proofs.Crawl.Replies
/-!
# The history of a crawl

The history of a crawl is the list of its turns, each with the state that the turn started from and
the choice that was made. What a crawl has done is read off its history: the attempts that were
made, the requests that its client got, and the steps that were taken up, completed and given up.
The loop keeps none of this itself but numbers, so what it counts can be compared with what
happened.
-/
namespace TrustFederation

open Client (Request)

variable {σ : Type}

/-- The client, with the requests that it has got, oldest first. -/
def Client.overheard (client : Client σ) : Client (List Request × σ) where
  configuration request world :=
    let (answer, after) := client.configuration request world.2
    (answer, world.1 ++ [request], after)
  fetch request world :=
    let (answer, after) := client.fetch request world.2
    (answer, world.1 ++ [request], after)
  listing request world :=
    let (answer, after) := client.listing request world.2
    (answer, world.1 ++ [request], after)

namespace Crawl

open TrustFederation.Tree (Store Version)

/-! ## What an attempt asks -/

/-- The requests that a client gets when a step is run. -/
def asked (client : Client σ) (step : Step) (useCached : Bool) (version : Option Version)
    (store : StatementStore) (world : σ) : List Request :=
  (execute client.overheard step useCached version store ([], world)).2.1

/-- Listening to a client changes nothing that it does. -/
theorem execute_overheard (client : Client σ) (step : Step) (useCached : Bool)
    (version : Option Version) (store : StatementStore) (heard : List Request) (world : σ) :
    execute client.overheard step useCached version store (heard, world) =
      ((execute client step useCached version store world).1,
        heard ++ asked client step useCached version store world,
        (execute client step useCached version store world).2) := by
  cases step with
  | resolveRoot entity => rfl
  | listSubordinates authority =>
    simp only [asked, execute]
    cases authority.endpoints?.filter (·.canListSubordinates) with
    | none => rw [List.append_nil]
    | some endpoints => rfl
  | fetchSubordinate authority subordinate =>
    simp only [asked, execute]
    cases requireVersion version with
    | error failure => rw [List.append_nil]
    | ok filled =>
      cases authority.endpoints? with
      | none => rw [List.append_nil]
      | some endpoints => rfl
  | fetchConfiguration statement =>
    simp only [asked, execute]
    cases requireVersion version with
    | error failure => rw [List.append_nil]
    | ok filled => rfl

theorem configuration_request_cached (statement : Statement) (useCached : Bool) :
    (configurationRequest statement useCached).useCached = useCached := by
  unfold configurationRequest
  cases statement.configurationLocation <;> rfl

/-- The requests of an attempt: one, which says whether an earlier answer will do, or none for an
authority that does not offer to list its subordinates. -/
inductive Asks (step : Step) (useCached : Bool) : List Request → Prop where
  | once (request : Request) (flag : request.useCached = useCached) : Asks step useCached [request]
  | nothing (authority : Statement) (listing : step = .listSubordinates authority)
      (offers : authority.endpoints?.filter (·.canListSubordinates) = none) :
      Asks step useCached []

theorem Ready.asks {generation : Tree.Generation Statement} {step : Step}
    (ready : Ready generation step) (client : Client σ) (useCached : Bool) (version : Version)
    (store : StatementStore) (world : σ) :
    Asks step useCached (asked client step useCached (some version) store world) := by
  cases ready with
  | @listing node authority stored own =>
    cases offers : authority.endpoints?.filter (·.canListSubordinates) with
    | none =>
      simp only [asked, execute, offers]
      exact .nothing authority rfl offers
    | some endpoints =>
      simp only [asked, execute, offers]
      exact .once _ rfl
  | @subordinate node authority subordinate stored own offers unknown =>
    obtain ⟨endpoints, offered⟩ := Option.isSome_iff_exists.mp offers
    simp only [asked, execute, requireVersion, offered]
    exact .once _ rfl
  | @configuration node statement stored differs childless unknown =>
    simp only [asked, execute, requireVersion]
    exact .once _ (configuration_request_cached statement useCached)

/-- In a crawl, an attempt in flight asks its client once, if there is anything to ask. -/
theorem Crawling.asks {client : Client σ} {policy : Policy} {anchor : String} {state : State σ}
    (crawling : Crawling client policy anchor state) {flight : Flight}
    (sent : flight ∈ (state.fill policy).inFlight) (useCached : Bool) :
    Asks flight.attempt.step useCached
      (asked client flight.attempt.step useCached flight.version state.store state.world) := by
  rcases crawling.invariant.phase with opening | ⟨version, generation, building⟩
  · rw [opening.step_eq sent]
    exact .once _ rfl
  · rw [State.fill_flights policy building.flights flight sent, building.begun]
    exact (building.ready _ (State.pending_of_sent sent)).asks client useCached version
      state.store state.world

/-! ## Turns and what they do -/

/-- A turn of the loop: the state that it starts from, and the choice among the flights. -/
structure Moment (σ : Type) where
  state : State σ
  choice : Nat

/-- The turns of a crawl, oldest first. -/
abbrev History (σ : Type) := List (Moment σ)

/-- An attempt that was made, with the requests that the client got and the result. -/
structure Trial where
  attempt : Attempt
  requests : List Request
  result : Except Failure Outcome

/-- What an attempt in flight comes to when it lands in a state. -/
def Flight.land (client : Client σ) (policy : Policy) (state : State σ) (flight : Flight) : Trial :=
  let useCached := flight.attempt.useCached policy.cacheThreshold
  { attempt := flight.attempt
    requests := asked client flight.attempt.step useCached flight.version state.store state.world
    result :=
      (execute client flight.attempt.step useCached flight.version state.store state.world).1 }

namespace Moment

/-- The flight that lands in a turn. With nothing in flight the turn opens a round. -/
def landing? (policy : Policy) (moment : Moment σ) : Option Flight :=
  let flights := (moment.state.fill policy).inFlight
  flights[moment.choice % flights.length]?

/-- The attempt that is made in a turn. -/
def trial? (client : Client σ) (policy : Policy) (moment : Moment σ) : Option Trial :=
  (moment.landing? policy).map (·.land client policy moment.state)

theorem sent_of_landing {policy : Policy} {moment : Moment σ} {flight : Flight}
    (landing : moment.landing? policy = some flight) :
    flight ∈ (moment.state.fill policy).inFlight :=
  List.mem_of_getElem? landing

/-- The attempt that lands is among the active ones. -/
theorem active_of_landing {policy : Policy} {moment : Moment σ} {flight : Flight}
    (landing : moment.landing? policy = some flight) : flight.attempt ∈ moment.state.active := by
  rw [← State.active_fill policy]
  exact List.mem_append_left _ (List.mem_map_of_mem (sent_of_landing landing))

end Moment

namespace Trial

/-- The steps that a crawl takes up when these identifiers are claimed. -/
def brought (claimed : List String) (trial : Trial) : List Step :=
  match trial.result with
  | .ok outcome => (State.claim claimed outcome.next).1
  | .error _ => []

/-- The step, if it succeeded. -/
def completed (trial : Trial) : List Step :=
  match trial.result with
  | .ok _ => [trial.attempt.step]
  | .error _ => []

/-- The step, if the attempt failed. -/
def failed (trial : Trial) : List Step :=
  match trial.result with
  | .ok _ => []
  | .error _ => [trial.attempt.step]

/-- The step, if the attempt failed and the step is given up. -/
def dropped (policy : Policy) (trial : Trial) : List Step :=
  match trial.result with
  | .ok _ => []
  | .error _ =>
    if policy.recovery.fate trial.attempt.failed.failures = .drop then [trial.attempt.step] else []

end Trial

/-- The steps that are taken up in a turn. -/
def Moment.brought (client : Client σ) (policy : Policy) (moment : Moment σ) : List Step :=
  (moment.trial? client policy).toList.flatMap (·.brought moment.state.claimed)

namespace History

variable (client : Client σ) (policy : Policy) (anchor : String)

/-- The attempts that were made, oldest first. -/
def trials (history : History σ) : List Trial := history.filterMap (·.trial? client policy)

/-- The attempts of one step, oldest first. -/
def trialsOf (step : Step) (history : History σ) : List Trial :=
  (history.trials client policy).filter (·.attempt.step = step)

/-- The steps that the crawl has taken up, the first one included. -/
def steps (history : History σ) : List Step :=
  .resolveRoot anchor :: history.flatMap (·.brought client policy)

/-- The steps that succeeded. -/
def completed (history : History σ) : List Step :=
  (history.trials client policy).flatMap (·.completed)

/-- The steps that failed, once for every failure. -/
def failed (history : History σ) : List Step :=
  (history.trials client policy).flatMap (·.failed)

/-- The steps that were given up. -/
def dropped (history : History σ) : List Step :=
  (history.trials client policy).flatMap (·.dropped policy)

end History

/-- What a turn adds to the records of a history. -/
structure Recorded (client : Client σ) (policy : Policy) (anchor : String) (history : History σ)
    (moment : Moment σ) (brought completed failed dropped : List Step) (tried : List Trial) :
    Prop where
  steps : History.steps client policy anchor (history ++ [moment]) =
    history.steps client policy anchor ++ brought
  trials : History.trials client policy (history ++ [moment]) =
    history.trials client policy ++ tried
  completed : History.completed client policy (history ++ [moment]) =
    history.completed client policy ++ completed
  failed : History.failed client policy (history ++ [moment]) =
    history.failed client policy ++ failed
  dropped : History.dropped client policy (history ++ [moment]) =
    history.dropped client policy ++ dropped

section Recorded

variable {client : Client σ} {policy : Policy} {moment : Moment σ} {flight : Flight}

theorem Moment.trial_of_landing (landing : moment.landing? policy = some flight) :
    moment.trial? client policy = some (flight.land client policy moment.state) := by
  rw [Moment.trial?, landing, Option.map_some]

/-- The records of a turn come from the attempt that is made in it. -/
theorem recorded (anchor : String) (history : History σ) (moment : Moment σ) :
    Recorded client policy anchor history moment (moment.brought client policy)
      ((moment.trial? client policy).toList.flatMap (·.completed))
      ((moment.trial? client policy).toList.flatMap (·.failed))
      ((moment.trial? client policy).toList.flatMap (·.dropped policy))
      (moment.trial? client policy).toList := by
  have trials : History.trials client policy (history ++ [moment]) =
      history.trials client policy ++ (moment.trial? client policy).toList := by
    cases tried : moment.trial? client policy <;> simp [History.trials, tried]
  refine ⟨?_, trials, ?_, ?_, ?_⟩
  · rw [History.steps, List.flatMap_append, List.flatMap_singleton]
    rfl
  · rw [History.completed, trials, List.flatMap_append, History.completed]
  · rw [History.failed, trials, List.flatMap_append, History.failed]
  · rw [History.dropped, trials, List.flatMap_append, History.dropped]

/-- A turn in which nothing lands leaves no record. -/
theorem recorded_idle (anchor : String) (history : History σ)
    (idle : moment.landing? policy = none) :
    Recorded client policy anchor history moment [] [] [] [] [] := by
  have tried : moment.trial? client policy = none := by
    rw [Moment.trial?, idle, Option.map_none]
  have records := @recorded σ client policy anchor history moment
  rwa [Moment.brought, tried] at records

/-- A success is recorded with the steps that are taken up. -/
theorem recorded_success (anchor : String) (history : History σ)
    (landing : moment.landing? policy = some flight) {outcome : Outcome}
    (result : (flight.land client policy moment.state).result = .ok outcome) :
    Recorded client policy anchor history moment
      (State.claim moment.state.claimed outcome.next).1 [flight.attempt.step] [] []
      [flight.land client policy moment.state] := by
  have records := @recorded σ client policy anchor history moment
  rw [Moment.brought, Moment.trial_of_landing landing] at records
  simp only [Option.toList_some, List.flatMap_singleton, Trial.brought, Trial.completed,
    Trial.failed, Trial.dropped, result] at records
  exact records

/-- A failure is recorded, and whether the step is given up. -/
theorem recorded_failure (anchor : String) (history : History σ)
    (landing : moment.landing? policy = some flight) {failure : Failure}
    (result : (flight.land client policy moment.state).result = .error failure) :
    Recorded client policy anchor history moment [] [] [flight.attempt.step]
      (if policy.recovery.fate flight.attempt.failed.failures = .drop then [flight.attempt.step]
        else [])
      [flight.land client policy moment.state] := by
  have records := @recorded σ client policy anchor history moment
  rw [Moment.brought, Moment.trial_of_landing landing] at records
  simp only [Option.toList_some, List.flatMap_singleton, Trial.brought, Trial.completed,
    Trial.failed, Trial.dropped, result] at records
  exact records

/-- The attempts of a history are those of the flights that landed in its turns. -/
theorem History.mem_trials {history : History σ} {trial : Trial} :
    trial ∈ history.trials client policy ↔ ∃ moment ∈ history, ∃ flight,
      moment.landing? policy = some flight ∧ flight.land client policy moment.state = trial := by
  simp only [trials, List.mem_filterMap, Moment.trial?, Option.map_eq_some_iff]

/-- A step that succeeded has landed in a turn. -/
theorem History.landed_of_completed {history : History σ} {step : Step}
    (done : step ∈ history.completed client policy) :
    ∃ moment ∈ history, ∃ flight outcome, moment.landing? policy = some flight ∧
      flight.attempt.step = step ∧
      (flight.land client policy moment.state).result = .ok outcome := by
  obtain ⟨trial, tried, own⟩ := List.mem_flatMap.mp done
  obtain ⟨moment, member, flight, landing, rfl⟩ := History.mem_trials.mp tried
  unfold Trial.completed at own
  split at own
  case h_1 outcome result =>
    exact ⟨moment, member, flight, outcome, landing, (List.mem_singleton.mp own).symm, result⟩
  · cases own

/-- What a success brings is taken up. -/
theorem History.steps_of_brought {history : History σ} (member : moment ∈ history)
    (landing : moment.landing? policy = some flight) {outcome : Outcome}
    (result : (flight.land client policy moment.state).result = .ok outcome) {step : Step}
    (brought : step ∈ (State.claim moment.state.claimed outcome.next).1) (anchor : String) :
    step ∈ history.steps client policy anchor := by
  refine List.mem_cons_of_mem _ (List.mem_flatMap.mpr ⟨moment, member, ?_⟩)
  rw [Moment.brought, Moment.trial_of_landing landing, Option.toList_some, List.flatMap_singleton,
    Trial.brought, result]
  exact brought

/-- What is taken up is the first step, or a success has brought it. -/
theorem History.brought_of_mem {history : History σ} {anchor : String} {step : Step}
    (known : step ∈ history.steps client policy anchor) :
    step = .resolveRoot anchor ∨ ∃ moment ∈ history, ∃ flight outcome,
      moment.landing? policy = some flight ∧
      (flight.land client policy moment.state).result = .ok outcome ∧
      step ∈ (State.claim moment.state.claimed outcome.next).1 := by
  refine (List.mem_cons.mp known).imp_right fun later => ?_
  obtain ⟨moment, member, brought⟩ := List.mem_flatMap.mp later
  obtain ⟨trial, tried, own⟩ := List.mem_flatMap.mp brought
  obtain ⟨flight, landing, rfl⟩ := Option.map_eq_some_iff.mp (Option.mem_toList.mp tried)
  unfold Trial.brought at own
  split at own
  case h_1 outcome result => exact ⟨moment, member, flight, outcome, landing, result, own⟩
  · cases own

end Recorded

/-! ## What a turn does to the attempts and to the report -/

/-- A turn that leads from the state of a moment to the next one has opened a round, or a flight
has landed and succeeded or failed. -/
inductive Passed (client : Client σ) (policy : Policy) (moment : Moment σ) (next : State σ) :
    Prop where
  | opened (idle : moment.landing? policy = none) (inactive : moment.state.active = [])
      (waited : moment.state.deferred ≠ []) (replayed : next = moment.state.replay)
  | succeeded (flight : Flight) (outcome : Outcome) (rest : List Attempt)
      (landing : moment.landing? policy = some flight)
      (result : (flight.land client policy moment.state).result = .ok outcome)
      (before : moment.state.active.Perm (flight.attempt :: rest))
      (active : next.active.Perm
        ((State.claim moment.state.claimed outcome.next).1.map .first ++ rest))
      (deferred : next.deferred = moment.state.deferred)
      (claimed : next.claimed = (State.claim moment.state.claimed outcome.next).2)
      (store : next.store = outcome.store)
      (report : next.report = { moment.state.report with
        completedSteps := moment.state.report.completedSteps + 1
        version := outcome.created.orElse fun _ => moment.state.report.version })
  | failed (flight : Flight) (failure : Failure) (rest : List Attempt)
      (landing : moment.landing? policy = some flight)
      (result : (flight.land client policy moment.state).result = .error failure)
      (before : moment.state.active.Perm (flight.attempt :: rest))
      (active : next.active.Perm
        ((if policy.recovery.fate flight.attempt.failed.failures = .retry then
          [flight.attempt.failed] else []) ++ rest))
      (deferred : next.deferred = moment.state.deferred ++
        if policy.recovery.fate flight.attempt.failed.failures = .defer then
          [flight.attempt.failed] else [])
      (claimed : next.claimed = moment.state.claimed)
      (store : next.store = moment.state.store)
      (report : next.report = { moment.state.report with
        failedAttempts := moment.state.report.failedAttempts + 1
        dropped := moment.state.report.dropped ++
          if policy.recovery.fate flight.attempt.failed.failures = .drop then
            [flight.attempt.step.text] else [] })

theorem State.report_fail (policy : Policy) (attempt : Attempt) (state : State σ) :
    (state.fail policy attempt).report = { state.report with
      failedAttempts := state.report.failedAttempts + 1
      dropped := state.report.dropped ++
        if policy.recovery.fate attempt.failed.failures = .drop then [attempt.step.text]
        else [] } := by
  cases fate : policy.recovery.fate attempt.failed.failures <;> simp [State.fail, fate]

/-- Completing a flight that has landed is a turn that succeeds or fails. -/
theorem passed_of_complete {client : Client σ} {policy : Policy} {moment : Moment σ}
    {flight : Flight} {landed : State σ} (landing : moment.landing? policy = some flight)
    (before : moment.state.active.Perm (flight.attempt :: landed.active))
    (world : landed.world = moment.state.world) (store : landed.store = moment.state.store)
    (claimed : landed.claimed = moment.state.claimed)
    (deferred : landed.deferred = moment.state.deferred)
    (report : landed.report = moment.state.report) :
    Passed client policy moment (landed.complete client policy flight) := by
  cases run : execute client flight.attempt.step (flight.attempt.useCached policy.cacheThreshold)
    flight.version moment.state.store moment.state.world with
  | mk result after =>
    have made : (flight.land client policy moment.state).result = result := by
      simp only [Flight.land, run]
    have completed : landed.complete client policy flight = match result with
        | .ok outcome => State.succeed outcome { landed with world := after }
        | .error _ => State.fail policy flight.attempt { landed with world := after } := by
      simp only [State.complete, store, world, run]
      cases result <;> rfl
    rw [completed]
    cases result with
    | ok outcome =>
      refine .succeeded flight outcome landed.active landing made before ?_ deferred ?_ rfl ?_
      · rw [← claimed]
        exact State.active_succeed outcome { landed with world := after }
      · simp only [State.succeed, claimed]
      · simp only [State.succeed, report]
    | error failure =>
      obtain ⟨-, kept_store, kept_claimed, -, -⟩ :=
        State.fail_keeps policy flight.attempt { landed with world := after }
      refine .failed flight failure landed.active landing made before
        (State.active_fail policy flight.attempt { landed with world := after }) ?_
        (kept_claimed.trans claimed) (kept_store.trans store) ?_
      · rw [State.deferred_fail]
        exact congrArg (· ++ _) deferred
      · rw [State.report_fail]
        simp only [report]

/-- Every turn of the loop passes in one of the three ways. -/
theorem passed_of_advance {client : Client σ} {policy : Policy} {choice : Nat}
    {state next : State σ} (advanced : state.advance client policy choice = some next) :
    Passed client policy ⟨state, choice⟩ next := by
  rcases State.advance_cases advanced with ⟨idle, waited, rfl⟩ | ⟨inside, rfl⟩
  · have inactive : state.active = [] := by
      rw [← State.active_fill policy]
      exact State.active_eq_nil_iff.mpr ⟨idle, State.queue_nil_of_fill idle⟩
    -- A round starts from the state itself: there was nothing to send off.
    have filled : state.fill policy = state := by
      obtain ⟨landed, empty⟩ := State.active_eq_nil_iff.mp inactive
      cases state
      simp_all [State.fill]
    refine .opened ?_ inactive waited (by rw [filled])
    simp [Moment.landing?, idle]
  · have before := (state.fill policy).active_landed inside
    rw [State.active_fill] at before
    exact passed_of_complete (List.getElem?_eq_getElem inside) before rfl rfl rfl rfl rfl

/-! ## Crawls with their histories -/

/-- The states that a crawl below an anchor can be in, with the turns that have led there. -/
inductive Crawled (client : Client σ) (policy : Policy) (anchor : String) :
    History σ → State σ → Prop where
  /-- A crawl starts with any store that operations have made. -/
  | start (retained : Nat) (ops : List (Store.Op Statement)) (world : σ) :
      Crawled client policy anchor []
        (.start anchor ((Store.empty retained).applyAll ops) world)
  /-- Any attempt in flight may be the next to complete. -/
  | turn {history : History σ} {state next : State σ} (choice : Nat)
      (crawled : Crawled client policy anchor history state)
      (advanced : state.advance client policy choice = some next) :
      Crawled client policy anchor (history ++ [⟨state, choice⟩]) next
  /-- Others share the store, and leave the version of the crawl as it is. -/
  | shared {history : History σ} {state : State σ} (op : Store.Op Statement)
      (crawled : Crawled client policy anchor history state)
      (spared : ∀ version, state.report.version = some version →
        (state.store.apply op).generation? version = state.store.generation? version) :
      Crawled client policy anchor history { state with store := state.store.apply op }

/-- The turns of a run of the loop. -/
def State.moments (client : Client σ) (policy : Policy) (choices : Nat → Nat) :
    Nat → State σ → History σ
  | 0, _ => []
  | turns + 1, state =>
    match state.advance client policy (choices turns) with
    | none => []
    | some next => ⟨state, choices turns⟩ :: State.moments client policy choices turns next

variable {client : Client σ} {policy : Policy} {anchor : String} {history : History σ}
  {state : State σ}

namespace Crawled

/-- A crawl with its history is a crawl. -/
theorem crawling (crawled : Crawled client policy anchor history state) :
    Crawling client policy anchor state := by
  induction crawled with
  | start retained ops world => exact .start retained ops world
  | turn choice _ advanced ih => exact .turn choice ih advanced
  | shared op _ spared ih => exact .shared op ih spared

/-- Every turn in the history started from a state of the crawl. -/
theorem crawling_of_mem (crawled : Crawled client policy anchor history state)
    {moment : Moment σ} (member : moment ∈ history) :
    Crawling client policy anchor moment.state := by
  induction crawled with
  | start retained ops world => cases member
  | turn choice before advanced ih =>
    rcases List.mem_append.mp member with earlier | last
    · exact ih earlier
    · rw [List.mem_singleton.mp last]
      exact before.crawling
  | shared op _ spared ih => exact ih member

/-- A run of the loop adds its turns to the history. -/
theorem run (crawled : Crawled client policy anchor history state) (choices : Nat → Nat)
    (turns : Nat) :
    Crawled client policy anchor (history ++ state.moments client policy choices turns)
      (state.run client policy choices turns) := by
  induction turns generalizing history state with
  | zero =>
    rw [State.moments, List.append_nil]
    exact crawled
  | succ turns ih =>
    simp only [State.moments, State.run]
    cases advanced : state.advance client policy (choices turns) with
    | none =>
      rw [List.append_nil]
      exact crawled
    | some next =>
      have further := ih (crawled.turn (choices turns) advanced)
      rwa [List.append_assoc] at further

end Crawled

/-- A run that has taken fewer turns than it might have has come to its end. -/
theorem State.pending_nil_of_moments (choices : Nat → Nat) {turns : Nat}
    (fewer : (state.moments client policy choices turns).length < turns) :
    (state.run client policy choices turns).pending = [] := by
  induction turns generalizing state with
  | zero => exact absurd fewer (Nat.not_lt_zero _)
  | succ turns ih =>
    simp only [State.moments, State.run] at fewer ⊢
    cases advanced : state.advance client policy (choices turns) with
    | none => exact (State.advance_none_iff client policy _ state).mp advanced
    | some next =>
      rw [advanced] at fewer
      exact ih (Nat.lt_of_succ_lt_succ fewer)

end Crawl

end TrustFederation
