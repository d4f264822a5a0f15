import TrustFederation.Failure
/-!
# Resolve requests and their keys

A request names a subject, the trust anchor and perhaps an entity type. Answers may be kept
under a key that joins the resolver and the parts of the request by vertical bars, an
absent type being written as an empty one.
-/
namespace TrustFederation.Resolve

/-- A request to resolve a subject. -/
structure Request where
  subject : String
  trustAnchor : String
  entityType : Option String
deriving DecidableEq

namespace Request

/-- The mark between the parts of a key. -/
def separator : Char := '|'

/-- The key of a request at a resolver. -/
def cacheKey (request : Request) (resolver : String) : String :=
  Text.join (String.singleton separator)
    [resolver, request.subject, request.trustAnchor, request.entityType.getD ""]

/-- The resolver and the request of a key. -/
def ofCacheKey (key : String) : Except Failure (String × Request) :=
  match Text.split separator key with
  | [resolver, subject, trustAnchor, entityType] =>
    if subject.isEmpty || trustAnchor.isEmpty then
      .error (.invalidRequest s!"Resolve cache key lacks subject or trust anchor: {key}")
    else
      .ok (resolver, ⟨subject, trustAnchor, if entityType.isEmpty then none else some entityType⟩)
  | _ => .error (.invalidRequest s!"Malformed resolve cache key: {key}")

end Request

/-- A request for the entities with any of some entity types and all of some trust marks. -/
structure DiscoveryRequest where
  trustAnchor : String
  entityTypes : List String
  trustMarks : List String
deriving DecidableEq

end TrustFederation.Resolve
