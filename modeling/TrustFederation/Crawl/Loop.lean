import TrustFederation.Crawl.Execute
import TrustFederation.Crawl.Strategy
/-!
# The loop of a crawl

Scheduled steps wait on a stack. As many as the policy allows are in flight; when one of
them completes, its successors are put on the stack, or its failure is dealt with. Which
one completes next is not up to the crawl, so it is a choice that is given from outside.
Every identifier is claimed once, with its letters made small, when it is first listed, so
no entity is crawled twice. Deferred steps wait until nothing else is left.
-/
namespace TrustFederation.Crawl

open TrustFederation.Tree (Version)

/-- What a crawl did. -/
structure Report where
  root : String
  /-- The version that was built, if the anchor could be fetched. -/
  version : Option Version
  completedSteps : Nat
  failedAttempts : Nat
  deferredRounds : Nat
  /-- The steps that were given up. -/
  dropped : List String
deriving DecidableEq

/-- The crawl built a version and gave up no step. -/
def Report.isComplete (report : Report) : Bool :=
  report.version.isSome && report.dropped.isEmpty

/-- An attempt in flight, with the version known when it started. -/
structure Flight where
  attempt : Attempt
  version : Option Version
deriving DecidableEq

/-- The state of a crawl over a world `σ`. -/
structure State (σ : Type) where
  world : σ
  store : StatementStore
  /-- The identifiers claimed so far. -/
  claimed : List String
  /-- The attempts that wait, the next one first. -/
  queue : List Attempt
  /-- The attempts in flight, oldest first. -/
  inFlight : List Flight
  /-- The attempts that wait for the next round, oldest first. -/
  deferred : List Attempt
  report : Report

namespace State

variable {σ : Type}

/-- The state before the first step. -/
def start (root : String) (store : StatementStore) (world : σ) : State σ where
  world := world
  store := store
  claimed := [Text.lowercase root]
  queue := [.first (.resolveRoot root)]
  inFlight := []
  deferred := []
  report := ⟨root, none, 0, 0, 0, []⟩

/-- Sends waiting attempts off until the limit is reached. -/
def fill (policy : Policy) (state : State σ) : State σ :=
  let free := policy.execution.maxInFlight - state.inFlight.length
  { state with
    inFlight := state.inFlight ++
      (state.queue.take free).map fun attempt => ⟨attempt, state.report.version⟩
    queue := state.queue.drop free }

/-- The steps whose subordinates are not claimed yet, and the claims with theirs. -/
def claim (claimed : List String) : List Step → List Step × List String
  | [] => ([], claimed)
  | .fetchSubordinate authority subordinate :: rest =>
    let identifier := Text.lowercase subordinate
    if claimed.contains identifier then claim claimed rest
    else
      let (steps, all) := claim (identifier :: claimed) rest
      (.fetchSubordinate authority subordinate :: steps, all)
  | step :: rest =>
    let (steps, all) := claim claimed rest
    (step :: steps, all)

/-- Takes up what a successful attempt leaves. -/
def succeed (outcome : Outcome) (state : State σ) : State σ :=
  let (steps, claimed) := claim state.claimed outcome.next
  { state with
    store := outcome.store
    claimed := claimed
    queue := steps.map .first ++ state.queue
    report := { state.report with
      completedSteps := state.report.completedSteps + 1
      version := outcome.created.orElse fun _ => state.report.version } }

/-- Deals with an attempt that failed. -/
def fail (policy : Policy) (attempt : Attempt) (state : State σ) : State σ :=
  let failed := attempt.failed
  let counted := { state with
    report := { state.report with failedAttempts := state.report.failedAttempts + 1 } }
  match policy.recovery.fate failed.failures with
  | .retry => { counted with queue := failed :: counted.queue }
  | .defer => { counted with deferred := counted.deferred ++ [failed] }
  | .drop => { counted with
      report := { counted.report with dropped := counted.report.dropped ++ [attempt.step.text] } }

/-- Completes an attempt that has left the list of those in flight. -/
def complete (client : Client σ) (policy : Policy) (flight : Flight) (state : State σ) :
    State σ :=
  let (result, world) := execute client flight.attempt.step
    (flight.attempt.useCached policy.cacheThreshold) flight.version state.store state.world
  let after := { state with world := world }
  match result with
  | .ok outcome => after.succeed outcome
  | .error _ => after.fail policy flight.attempt

/-- Opens a round for the deferred attempts. -/
def replay (state : State σ) : State σ :=
  { state with
    queue := state.deferred ++ state.queue
    deferred := []
    report := { state.report with deferredRounds := state.report.deferredRounds + 1 } }

/-- One turn of the loop: attempts are sent off, and then the one that is chosen completes,
counted from the oldest and round again. With nothing in flight the deferred attempts get
their round; with none of them either the crawl is over. -/
def advance (client : Client σ) (policy : Policy) (choice : Nat) (state : State σ) :
    Option (State σ) :=
  let filled := state.fill policy
  match filled.inFlight with
  | [] => if filled.deferred.isEmpty then none else some filled.replay
  | oldest :: others =>
    let index := choice % (others.length + 1)
    let chosen := (oldest :: others).getD index oldest
    some (complete client policy chosen
      { filled with inFlight := (oldest :: others).eraseIdx index })

/-- Runs the loop for at most `turns` turns, each with its choice. -/
def run (client : Client σ) (policy : Policy) (choices : Nat → Nat) :
    Nat → State σ → State σ
  | 0, state => state
  | turns + 1, state =>
    match state.advance client policy (choices turns) with
    | none => state
    | some next => run client policy choices turns next

end State

/-- How many turns a crawl may take. No federation that answers with finitely many
identifiers comes near it. -/
def turnLimit : Nat := 0x10000000000

/-- Crawls the federation below an anchor into a version of its own, completing the attempts
in flight in the order in which they were started. -/
def load {σ : Type} (client : Client σ) (policy : Policy) (root : String)
    (store : StatementStore) (world : σ) : Report × StatementStore × σ :=
  let final := (State.start root store world).run client policy (fun _ => 0) turnLimit
  (final.report, final.store, final.world)

/-- Publishes the version that a crawl built, unless a newer one is published already. -/
def Report.publish (report : Report) (store : StatementStore) : StatementStore :=
  match report.version with
  | some version => store.publish version
  | none => store

end TrustFederation.Crawl
