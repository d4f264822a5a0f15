import TrustFederation.Json.Record
/-!
# Registered claims of a payload

A signed payload must be JSON, and its registered claims must be readable as fields, each
given at most once. No time, subject, issuer or audience is checked: a claim of the wrong
type does no harm. Three claims are read with an expectation, though, and a list or an
object there stops the reader, which then misses the separator after the claim.
-/
namespace TrustFederation.Jose.RegisteredClaims

open Json (Complaint Decoder Doc Fault Presence Record RecordField)

/-- Passes over a time. An empty list or object is passed over as a whole. -/
def skipTime (separator : Fault) : Doc → Except Complaint Unit
  | .list (_ :: _) _ => .error (.syntactic separator)
  | .object (_ :: _) _ => .error (.syntactic separator)
  | _ => .ok ()

/-- Passes over a name. -/
def skipName (separator : Fault) : Doc → Except Complaint Unit
  | .list _ _ => .error (.syntactic separator)
  | .object _ _ => .error (.syntactic separator)
  | _ => .ok ()

/-- A claim that is read only to see whether it can be. -/
def claim (name : String) (presence : Presence) (skip : Doc → Except Complaint Unit) :
    RecordField Unit :=
  ⟨name, [], presence, fun _ doc _ => skip doc⟩

/-- The registered claims, where a stopped reader misses the separator given. -/
def record (separator : Fault) : Record Unit where
  title := "ClaimsForValidation"
  blank := ()
  fields :=
    [claim "exp" .optional (skipTime separator),
     claim "nbf" .optional (skipTime separator),
     claim "sub" .named (skipName separator),
     claim "iss" .named (fun _ => .ok ()),
     claim "aud" .named (fun _ => .ok ())]

/-- Reads the registered claims of a document that is known to be JSON. -/
def decode : Decoder Unit
  | depth, .list items stop => (record .listSeparator).decode depth (.list items stop)
  | depth, doc => (record .objectSeparator).decode depth doc

/-- The payload is JSON and its registered claims can be read. -/
def check (payload : List UInt8) : Except Complaint Unit := do
  let _ ← Json.decodeText Decoder.value payload
  Json.decodeText decode payload

end TrustFederation.Jose.RegisteredClaims
