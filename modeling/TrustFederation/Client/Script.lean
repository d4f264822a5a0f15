import TrustFederation.Client.Request
/-!
# A federation given by tables

A script answers the requests of a crawl from tables of tokens and listings. Every call has
a name and is recorded. A call may be made to fail a number of times, or as long as no
earlier answer will do.
-/
namespace TrustFederation.Client

open Text (Dictionary)

/-- The tables of a federation, the failures that are left, and the calls made so far, last
one first. -/
structure Script where
  configurations : Dictionary String
  /-- Tokens by issuer and subject, with a blank between them. -/
  subordinates : Dictionary String
  listings : Dictionary (List String)
  failing : Dictionary Nat
  failingUnlessCached : List String
  calls : List (String × Bool)
deriving DecidableEq

namespace Script

/-- A script without entries. -/
def empty : Script := ⟨[], [], [], [], [], []⟩

/-- An endpoint without the ending that names its purpose; nothing if it ends differently. -/
def authorityOf (ending : String) (endpoint : Option String) : String :=
  match endpoint with
  | none => ""
  | some address =>
    if ending.toList.isSuffixOf address.toList then
      String.ofList (address.toList.take (address.length - ending.length))
    else ""

/-- The entity, or the place, whose configuration is asked for. -/
def configurationEntry (request : Request) : String :=
  ((request.parameter? "location").orElse fun _ => request.parameter? "sub").getD ""

/-- The issuer and the subject of the statement that is asked for. -/
def subordinateEntry (request : Request) : String :=
  authorityOf "/fetch" (request.endpoints.bind (·.fetch)) ++ " " ++
    (request.parameter? "sub").getD ""

/-- The entity whose subordinates are asked for. -/
def listingEntry (request : Request) : String :=
  authorityOf "/list" (request.endpoints.bind (·.list))

/-- Records a call and decides whether it fails. -/
def begin (script : Script) (name : String) (cached : Bool) : Option Failure × Script :=
  let recorded := { script with calls := (name, cached) :: script.calls }
  if script.failingUnlessCached.contains name && !cached then
    (some (.client (name ++ " unavailable")), recorded)
  else match script.failing.lookup name with
    | some (left + 1) =>
      (some (.client (name ++ " failed")),
        { recorded with failing := script.failing.insert name left })
    | _ => (none, recorded)

/-- Answers a call from the entry of a table. -/
def answer {α : Type} (script : Script) (name : String) (cached : Bool)
    (entry : Option (Except Failure α)) : Except Failure α × Script :=
  match script.begin name cached with
  | (some failure, after) => (.error failure, after)
  | (none, after) => (entry.getD (.error (.client (name ++ " returned 404"))), after)

/-- The name of a call for a configuration. -/
def configurationCall (request : Request) : String := "config " ++ configurationEntry request

/-- The name of a call for a subordinate statement. -/
def fetchCall (request : Request) : String := "fetch " ++ subordinateEntry request

/-- The name of a call for a listing. -/
def listingCall (request : Request) : String := "list " ++ listingEntry request

/-- The configuration that is asked for. -/
def configuration (request : Request) (script : Script) : Except Failure Statement × Script :=
  script.answer (configurationCall request) request.useCached
    ((script.configurations.lookup (configurationEntry request)).map Statement.ofToken)

/-- The subordinate statement that is asked for. -/
def fetch (request : Request) (script : Script) : Except Failure Statement × Script :=
  script.answer (fetchCall request) request.useCached
    ((script.subordinates.lookup (subordinateEntry request)).map Statement.ofToken)

/-- The listing that is asked for. -/
def listing (request : Request) (script : Script) : Except Failure (List String) × Script :=
  script.answer (listingCall request) request.useCached
    ((script.listings.lookup (listingEntry request)).map .ok)

/-- The script as the client of a crawl. -/
def client : Client Script where
  configuration := configuration
  fetch := fetch
  listing := listing

end Script

end TrustFederation.Client
