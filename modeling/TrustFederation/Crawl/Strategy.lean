import TrustFederation.Crawl.Step
/-!
# How steps are run, and what becomes of failed ones
-/
namespace TrustFederation.Crawl

/-- How many steps may run at once. -/
inductive Execution where
  | sequential
  | concurrent (limit : Nat)
deriving DecidableEq

/-- The number of steps that may run at once. It is never zero. -/
def Execution.maxInFlight : Execution → Nat
  | .sequential => 1
  | .concurrent limit => max limit 1

/-- What becomes of failed steps. The limit counts all attempts, the first one included. -/
inductive Recovery where
  | drop
  | retry (maxAttempts : Nat)
  | deferred (maxAttempts : Nat)
deriving DecidableEq

/-- The fate of a failed step. -/
inductive Fate where
  /-- It is tried again at once. -/
  | retry
  /-- It is tried again when nothing else is left. -/
  | defer
  /-- It is given up, with all that would have followed from it. -/
  | drop
deriving DecidableEq

/-- The fate of a step after a number of failures. -/
def Recovery.fate (recovery : Recovery) (failures : Nat) : Fate :=
  match recovery with
  | .drop => .drop
  | .retry maxAttempts => if failures < maxAttempts then .retry else .drop
  | .deferred maxAttempts => if failures < maxAttempts then .defer else .drop

/-- How often a step may fail before it is given up. -/
def Recovery.attempts : Recovery → Nat
  | .drop => 1
  | .retry maxAttempts | .deferred maxAttempts => max maxAttempts 1

/-- How a crawl is run. -/
structure Policy where
  execution : Execution
  recovery : Recovery
  /-- After this many failures an earlier answer will do. -/
  cacheThreshold : Nat
deriving DecidableEq

/-- A failed step is given up exactly when it has used up its attempts. -/
theorem Recovery.fate_eq_drop_iff {recovery : Recovery} {failures : Nat} (failed : 0 < failures) :
    recovery.fate failures = .drop ↔ recovery.attempts ≤ failures := by
  have given_up {other : Fate} (differs : other ≠ .drop) (limit : Nat) :
      (if failures < limit then other else .drop) = .drop ↔ max limit 1 ≤ failures := by
    have spent : max limit 1 ≤ failures ↔ ¬failures < limit := by omega
    rw [ite_eq_right_iff, spent]
    exact ⟨fun dropped below => differs (dropped below), fun spent below => absurd below spent⟩
  cases recovery with
  | drop => exact iff_of_true rfl failed
  | retry limit => exact given_up (by decide) limit
  | deferred limit => exact given_up (by decide) limit

end TrustFederation.Crawl
