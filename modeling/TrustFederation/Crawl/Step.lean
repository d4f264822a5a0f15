import TrustFederation.Client.Request
/-!
# Steps of a crawl

A crawl is made of steps: it fetches the configuration of the anchor, lists the subordinates
of an authority, fetches the statement of the authority about one of them, and then its
configuration. A step that is scheduled carries the number of its failures so far.
-/
namespace TrustFederation.Crawl

/-- One piece of work. -/
inductive Step where
  /-- Fetch the configuration of the anchor and start a version. -/
  | resolveRoot (entity : String)
  /-- List the subordinates of an authority, given by its configuration. -/
  | listSubordinates (authority : Statement)
  /-- Fetch the statement of an authority about one subordinate. -/
  | fetchSubordinate (authority : Statement) (subordinate : String)
  /-- Fetch the configuration of the subject of a subordinate statement. -/
  | fetchConfiguration (statement : Statement)
deriving DecidableEq

/-- The name of the kind of a step. -/
def Step.name : Step → String
  | .resolveRoot _ => "ResolveRoot"
  | .listSubordinates _ => "SubordinateListing"
  | .fetchSubordinate .. => "FetchSubordinate"
  | .fetchConfiguration _ => "FetchEntityConfiguration"

/-- What a step works on. -/
def Step.object : Step → String
  | .resolveRoot entity => entity
  | .listSubordinates authority => authority.subject
  | .fetchSubordinate authority subordinate => authority.subject ++ " -> " ++ subordinate
  | .fetchConfiguration statement => statement.subject

/-- The text of a step. -/
def Step.text (step : Step) : String := step.name ++ "(" ++ step.object ++ ")"

/-- A step with the number of its failures. -/
structure Attempt where
  step : Step
  failures : Nat
deriving DecidableEq

/-- The first attempt of a step. -/
def Attempt.first (step : Step) : Attempt := ⟨step, 0⟩

/-- The attempt after a failure. -/
def Attempt.failed (attempt : Attempt) : Attempt :=
  { attempt with failures := attempt.failures + 1 }

/-- An earlier answer will do for the attempt. -/
def Attempt.useCached (threshold : Nat) (attempt : Attempt) : Bool :=
  threshold ≤ attempt.failures

end TrustFederation.Crawl
