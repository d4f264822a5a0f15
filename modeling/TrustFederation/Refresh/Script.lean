import TrustFederation.Client.Script
import TrustFederation.Refresh.State
/-!
# A script that calls the scheduler back

Triggers tie a call of a scripted federation, counted over the whole life of the script, to
what is then asked of the scheduler. Each thing that is asked is recorded as an event.
-/
namespace TrustFederation.Refresh

open Client (Script)
open Text (Dictionary)

/-- What a trigger asks of the scheduler. -/
inductive Action where
  | refresh
  | requestRefresh
  | state
deriving DecidableEq

/-- The name of an action. -/
def Action.name : Action → String
  | .refresh => "refresh"
  | .requestRefresh => "request_refresh"
  | .state => "state"

/-- What is asked at the `count`-th call of a name. -/
structure Trigger where
  call : String
  count : Nat
  actions : List Action
deriving DecidableEq

/-- Something that was asked at a call, what came of it, and the state then. -/
structure Event where
  call : String
  action : Action
  accepted : Bool
  state : State
deriving DecidableEq

/-- A script with its triggers, how often each call was made, and the events so far, last
one first. -/
structure WatchedScript where
  script : Script
  triggers : List Trigger
  counts : Dictionary Nat
  events : List Event
deriving DecidableEq

/-- What an action comes to and the state after it. While a crawl runs a refresh only makes
it stale. -/
def Action.apply (action : Action) (state : State) : Bool × State :=
  match action with
  | .refresh => state.begin
  | .requestRefresh => (true, state.request.2)
  | .state => (true, state)

namespace WatchedScript

/-- Performs actions at a call. -/
def perform (call : String) : List Action → State × WatchedScript → State × WatchedScript
  | [], world => world
  | action :: rest, (state, watched) =>
    let (accepted, next) := action.apply state
    perform call rest
      (next, { watched with events := ⟨call, action, accepted, next⟩ :: watched.events })

/-- Counts a call and performs what its triggers ask for. -/
def arrive (call : String) (world : State × WatchedScript) : State × WatchedScript :=
  let watched := world.2
  let count := (watched.counts.lookup call).getD 0 + 1
  let due := watched.triggers.filter fun trigger => trigger.call == call && trigger.count == count
  perform call (due.flatMap (·.actions))
    (world.1, { watched with counts := watched.counts.insert call count })

/-- Answers a call after its triggers. -/
def answer {α : Type} (call : String) (ask : Script → Except Failure α × Script)
    (world : State × WatchedScript) : Except Failure α × State × WatchedScript :=
  let (state, watched) := arrive call world
  let (result, script) := ask watched.script
  (result, state, { watched with script := script })

/-- The script as the client of a scheduler. -/
def client : TrustFederation.Client (State × WatchedScript) where
  configuration request := answer (Script.configurationCall request) (Script.configuration request)
  fetch request := answer (Script.fetchCall request) (Script.fetch request)
  listing request := answer (Script.listingCall request) (Script.listing request)

end WatchedScript

end TrustFederation.Refresh
