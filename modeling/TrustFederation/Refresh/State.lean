/-!
# The state of refreshing

At most one crawl runs at a time. A refresh that is asked for while one runs marks it as
stale, and a stale crawl is followed by another one. However often it is asked for, one
crawl follows.
-/
namespace TrustFederation.Refresh

/-- Whether a crawl runs, and whether another one is due after it. -/
inductive State where
  | idle
  | running
  | stale
deriving DecidableEq

namespace State

/-- Asks for a crawl: whether the caller is to run it, and the state then. -/
def begin : State → Bool × State
  | .idle => (true, .running)
  | .running | .stale => (false, .stale)

/-- Ends a crawl: whether another one is due, and the state then. -/
def finish : State → Bool × State
  | .stale => (true, .running)
  | .running | .idle => (false, .idle)

/-- Asks for a crawl by somebody else: whether a notice is to be left, and the state then. -/
def request : State → Bool × State
  | .idle => (true, .idle)
  | .running | .stale => (false, .stale)

/-- The name of a state. -/
def name : State → String
  | .idle => "Idle"
  | .running => "Running"
  | .stale => "Stale"

end State

end TrustFederation.Refresh
