import TrustFederation.Address.Ipv6
import TrustFederation.Domain.Name
/-!
# Hosts

In the schemes of the web and their relatives a host is a domain name or a numeric address. In
other schemes it is any text without the characters that would end it.
-/
namespace TrustFederation.Address

/-- The host of an address. -/
inductive Host where
  /-- There is none. -/
  | absent
  /-- A name in the letters of ASCII. -/
  | name (text : List Char)
  | ipv4 (address : Ipv4)
  | ipv6 (address : Ipv6)
deriving DecidableEq

namespace Host

/-- The text of a host. -/
def render : Host → List Char
  | .absent => []
  | .name text => text
  | .ipv4 address => address.render
  | .ipv6 address => '[' :: address.render ++ [']']

/-- The text between brackets, or the text itself if it does not begin with one. A bracket
must be closed by the last character. -/
def unbracket? : List Char → Option (List Char × Bool)
  | '[' :: rest => if rest.getLast? = some ']' then some (rest.dropLast, true) else none
  | text => some (text, false)

/-- The host that a text stands for where hosts are domain names. -/
def ofDomain? (text : List Char) : Option Host := do
  let (inner, isBracketed) ← unbracket? text
  if isBracketed then (Ipv6.ofText? inner).map .ipv6
  else
    let name ← Domain.ofText? (← Codec.Percent.unescape? inner)
    if name.isEmpty then none
    else if Ipv4.endsInNumber name then (Ipv4.ofName? name).map .ipv4
    else some (.name name)

/-- The character may not stand in a host that is no domain name. -/
def isForbidden (c : Char) : Bool := "\x00\t\n\r #/:<>?@[\\]^|".toList.contains c

/-- The character is kept in a host that is no domain name. -/
def isKept (c : Char) : Bool := 32 ≤ c.toNat && c.toNat < 127

/-- The host that a text stands for where hosts are no domain names. -/
def ofOther? (text : List Char) : Option Host := do
  let (inner, isBracketed) ← unbracket? text
  if isBracketed then (Ipv6.ofText? inner).map .ipv6
  else if inner.any isForbidden then none
  else if inner.isEmpty then some .absent
  else some (.name (Codec.Percent.escape isKept inner))

end Host

end TrustFederation.Address
