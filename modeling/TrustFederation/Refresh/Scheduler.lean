import TrustFederation.Crawl.Loop
import TrustFederation.Refresh.State
/-!
# The scheduler of refreshes

A scheduler crawls a federation whenever a refresh is asked for, and its jobs ask for one
at once, then after every period, and when a notice was left. A job that comes late makes
up for every period that it missed. Several notices are one. Each crawl publishes what it
built. While a crawl runs, the world may ask the scheduler for another one; so the client of
a crawl sees the state of the scheduler beside its own.
-/
namespace TrustFederation.Refresh

open Crawl (Policy Report StatementStore)

/-- What a scheduler crawls, and how. -/
structure Plan (σ : Type) where
  client : Client (State × σ)
  policy : Policy
  root : String
  /-- The seconds between two refreshes of a job. A job without a period never runs. -/
  period : Nat

/-- A scheduler: the state of refreshing, whether a notice is left, the tree, the world, the
crawls finished so far, the time, and for each job when it is due next. -/
structure Scheduler (σ : Type) where
  state : State
  notice : Bool
  store : StatementStore
  world : σ
  crawls : Nat
  now : Nat
  jobs : List Nat

namespace Scheduler

variable {σ : Type}

/-- A scheduler at the beginning of time, without jobs. -/
def start (store : StatementStore) (world : σ) : Scheduler σ :=
  ⟨.idle, false, store, world, 0, 0, []⟩

/-- Runs one crawl and publishes what it built. -/
def crawl (plan : Plan σ) (scheduler : Scheduler σ) : Report × Scheduler σ :=
  let (report, store, state, world) := Crawl.load plan.client plan.policy plan.root
    scheduler.store (scheduler.state, scheduler.world)
  (report, { scheduler with
    state := state
    world := world
    store := report.publish store
    crawls := scheduler.crawls + 1 })

/-- Crawls until no crawl is due any more. The report is that of the last crawl. The first
argument bounds the number of crawls that follow. -/
def crawlUntilDone (plan : Plan σ) : Nat → Scheduler σ → Report × Scheduler σ
  | 0, scheduler => scheduler.crawl plan
  | bound + 1, scheduler =>
    let (report, after) := scheduler.crawl plan
    match after.state.finish with
    | (true, state) => crawlUntilDone plan bound { after with state := state }
    | (false, state) => (report, { after with state := state })

/-- Refreshes, unless a crawl runs already, which then becomes stale. -/
def refresh (plan : Plan σ) (scheduler : Scheduler σ) : Option Report × Scheduler σ :=
  match scheduler.state.begin with
  | (false, state) => (none, { scheduler with state := state })
  | (true, state) =>
    let (report, after) := crawlUntilDone plan Crawl.turnLimit { scheduler with state := state }
    (some report, after)

/-- Asks for a refresh by a job, or makes the crawl that runs stale. -/
def requestRefresh (scheduler : Scheduler σ) : Scheduler σ :=
  let (notice, state) := scheduler.state.request
  { scheduler with state := state, notice := scheduler.notice || notice }

/-- The first job that is due, made to be due a period later. -/
def takeDue (now period : Nat) : List Nat → Option (List Nat)
  | [] => none
  | due :: rest =>
    if due ≤ now then some ((due + period) :: rest)
    else (takeDue now period rest).map (due :: ·)

/-- What the jobs do next: a refresh that is due, or one for a notice, or nothing. -/
def jobTurn (plan : Plan σ) (scheduler : Scheduler σ) : Option (Scheduler σ) :=
  match takeDue scheduler.now plan.period scheduler.jobs with
  | some jobs => some (refresh plan { scheduler with jobs := jobs }).2
  | none =>
    if scheduler.notice && !scheduler.jobs.isEmpty then
      some (refresh plan { scheduler with notice := false }).2
    else none

/-- Lets the jobs run, for at most a number of turns. -/
def settleFor (plan : Plan σ) : Nat → Scheduler σ → Scheduler σ
  | 0, scheduler => scheduler
  | turns + 1, scheduler =>
    match scheduler.jobTurn plan with
    | some next => settleFor plan turns next
    | none => scheduler

/-- Lets the jobs run until they have nothing left to do. -/
def settle (plan : Plan σ) (scheduler : Scheduler σ) : Scheduler σ :=
  let turns := scheduler.jobs.foldl (fun sum due => sum + (scheduler.now + 1 - due)) 1
  settleFor plan turns scheduler

/-- Starts a job. It is due at once. -/
def startJob (plan : Plan σ) (scheduler : Scheduler σ) : Scheduler σ :=
  if plan.period = 0 then scheduler
  else { scheduler with jobs := scheduler.jobs ++ [scheduler.now] }

/-- Stops the job that was started last. -/
def stopJob (scheduler : Scheduler σ) : Scheduler σ :=
  { scheduler with jobs := scheduler.jobs.dropLast }

/-- Lets time pass. -/
def advance (seconds : Nat) (scheduler : Scheduler σ) : Scheduler σ :=
  { scheduler with now := scheduler.now + seconds }

end Scheduler

end TrustFederation.Refresh
