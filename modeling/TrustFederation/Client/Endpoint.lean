import TrustFederation.Client.Request
import TrustFederation.Codec.Percent
/-!
# Addresses of requests

The configuration of an entity is found at a well-known path below its identifier, or at a
place that the request names. Other requests go to an endpoint, with the parameters as
its query.
-/
namespace TrustFederation.Client

open Text (Dictionary)

/-- The path of a configuration below the identifier of the entity. -/
def wellKnownPath : String := "/.well-known/openid-federation"

/-- One parameter in a query. -/
def queryItem (parameter : String × String) : String :=
  Codec.Percent.encode parameter.1 ++ "=" ++ Codec.Percent.encode parameter.2

/-- An endpoint with parameters as its query, after `&` if the endpoint has a query already
and after `?` otherwise. -/
def endpointUrl (endpoint : String) (parameters : Dictionary String) : String :=
  if parameters.isEmpty then endpoint
  else
    let mark := if endpoint.toList.contains '?' then "&" else "?"
    endpoint ++ mark ++ Text.join "&" (parameters.map queryItem)

/-- Where a configuration is to be found. -/
def configurationUrl (request : Request) : Except Failure String :=
  match request.parameter? locationParameter with
  | some location => .ok location
  | none =>
    match request.parameter? subjectParameter with
    | some subject => .ok (Text.trimEnd '/' subject ++ wellKnownPath)
    | none => .error (.invalidRequest "Entity configuration request needs sub")

/-- The address of a request for a configuration. The subject is part of the place, not of
the query. -/
def Request.configurationAddress (request : Request) : Except Failure String := do
  let place ← configurationUrl request
  return endpointUrl place
    ((request.parameters.erase subjectParameter).erase locationParameter)

/-- The address of a request to an endpoint that the addressed entity must offer under the
name given. -/
def Request.endpointAddress (request : Request) (name : String)
    (select : Endpoints → Option String) : Except Failure String :=
  match request.endpoints.bind select with
  | some endpoint => .ok (endpointUrl endpoint request.parameters)
  | none => .error (.invalidRequest ("Entity exposes no " ++ name))

end TrustFederation.Client
