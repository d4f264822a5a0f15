import TrustFederation.Statement.Reader
/-!
# Requests to federation entities

A request carries query parameters, the endpoints of the entity it is addressed to, and
whether an earlier answer will do.
-/
namespace TrustFederation.Client

open Text (Dictionary)

/-- The parameter that names the subject. -/
def subjectParameter : String := "sub"

/-- The parameter that names the place of a configuration. -/
def locationParameter : String := "location"

/-- A request. -/
structure Request where
  parameters : Dictionary String
  endpoints : Option Endpoints
  useCached : Bool
deriving DecidableEq

/-- A request without parameters and endpoints. -/
def Request.plain (useCached : Bool) : Request := ⟨[], none, useCached⟩

/-- A request with one more parameter. -/
def Request.withParameter (request : Request) (name value : String) : Request :=
  { request with parameters := request.parameters.insert name value }

/-- A request that is addressed to an entity with the endpoints given. -/
def Request.withEndpoints (request : Request) (endpoints : Endpoints) : Request :=
  { request with endpoints := some endpoints }

/-- The value of a parameter. -/
def Request.parameter? (request : Request) (name : String) : Option String :=
  request.parameters.lookup name

end TrustFederation.Client

namespace TrustFederation

/-- What a crawl asks of the world: configurations, subordinate statements and lists of
subordinates. Every answer may change the state `σ` of the world. -/
structure Client (σ : Type) where
  configuration : Client.Request → σ → Except Failure Statement × σ
  fetch : Client.Request → σ → Except Failure Statement × σ
  listing : Client.Request → σ → Except Failure (List String) × σ

end TrustFederation
