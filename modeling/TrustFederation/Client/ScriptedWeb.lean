import TrustFederation.Client.Web
/-!
# A web given by a table

Each address has a list of answers, which are given in turn, the last one for ever. An
address without an entry answers that it is not found. Redirects are followed up to ten
times. The web may also be out of reach as a whole; then no request arrives.
-/
namespace TrustFederation.Client

open Text (Dictionary)

/-- One answer of an address. -/
inductive ScriptedAnswer where
  /-- The connection is closed without an answer. -/
  | closed
  /-- A status, a body and the place to go on to. -/
  | reply (status : Nat) (body : String) (location : Option String)
deriving DecidableEq

/-- The answers that are left, whether the web can be reached, and the requests that arrived,
last one first. -/
structure ScriptedWeb where
  answers : Dictionary (List ScriptedAnswer)
  reachable : Bool
  arrived : List String
deriving DecidableEq

namespace ScriptedWeb

/-- A web without answers. -/
def empty (reachable : Bool) : ScriptedWeb := ⟨[], reachable, []⟩

/-- The web with other answers for some addresses. -/
def merge (web : ScriptedWeb) (answers : List (String × List ScriptedAnswer)) : ScriptedWeb :=
  { web with
    answers := answers.foldl (fun kept (address, given) => kept.insert address given)
      web.answers }

/-- The next answer of an address. -/
def next (web : ScriptedWeb) (address : String) : ScriptedAnswer × ScriptedWeb :=
  let seen := { web with arrived := address :: web.arrived }
  match web.answers.lookup address with
  | some (answer :: later :: rest) =>
    (answer, { seen with answers := web.answers.insert address (later :: rest) })
  | some [answer] => (answer, seen)
  | _ => (.reply 404 "" none, seen)

/-- The statuses that redirect. -/
def redirects : List Nat := [301, 302, 303, 307, 308]

/-- Asks an address and follows at most `left` redirects. -/
def follow : Nat → String → ScriptedWeb → Reply × ScriptedWeb
  | left, address, web =>
    if !web.reachable then (.noAnswer address, web)
    else match web.next address with
      | (.closed, after) => (.noAnswer address, after)
      | (.reply status body none, after) => (.answer status body, after)
      | (.reply status body (some location), after) =>
        if redirects.contains status then
          match Target.ofAddress location, left with
          | .web _, 0 => (.endlessRedirect address, after)
          | .web further, left + 1 => follow left further after
          | _, _ => (.answer status body, after)
        else (.answer status body, after)

/-- The table as a web. -/
def web : Web ScriptedWeb := .ofNormal (follow 10)

end ScriptedWeb

end TrustFederation.Client
