import TrustFederation.Address.Basic
/-!
# Addresses on the web

Before a request leaves, its address is brought into normal form and loses its user. Only
addresses with a host and one of the two web schemes can be asked.
-/
namespace TrustFederation.Client

/-- What an address turns out to be. -/
inductive Target where
  /-- It is no absolute address, or lacks a host that it must have. -/
  | malformed
  /-- It cannot be asked. Its normal form is kept. -/
  | unsupported (address : String)
  /-- It can be asked. Its normal form is kept. -/
  | web (address : String)
deriving DecidableEq

namespace Target

/-- The bytes of the longest address that can be asked. -/
def longest : Nat := 65534

/-- The character may not stand in the host of a request, though it may in a name. -/
def isUnsendable (c : Char) : Bool := "\"`\x7b\x7d".toList.contains c

/-- A request to the host can be sent. -/
def isSendable : Address.Host → Bool
  | .absent => false
  | .name name => !name.any isUnsendable
  | .ipv4 _ | .ipv6 _ => true

/-- The target of an address in normal form. An address without a host keeps its user. -/
def ofNormal (address : Address) : Target :=
  if address.host = .absent then .unsupported address.render
  else
    let bare := address.withoutCredentials
    let text := bare.render
    if (bare.scheme = "http" ∨ bare.scheme = "https") ∧ isSendable bare.host ∧
      text.utf8ByteSize ≤ longest then .web text
    else .unsupported text

/-- What the text of an address turns out to be. -/
def ofAddress (address : String) : Target := (Address.ofText? address).elim .malformed ofNormal

example : ofAddress "http://me@[::1]:81/" = .web "http://[::1]:81/" := by decide +kernel
example : ofAddress "mailto:me@ia.example" = .unsupported "mailto:me@ia.example" := by
  decide +kernel
example : ofAddress "ia.example/path" = .malformed := by decide +kernel

end Target

end TrustFederation.Client
