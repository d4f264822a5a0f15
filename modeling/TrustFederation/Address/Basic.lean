import TrustFederation.Address.Host
import TrustFederation.Address.Path
import TrustFederation.Text.Digits
/-!
# Addresses

An address names a scheme and, as a rule, a host, a path, a query and a fragment. It is read
into its parts in normal form, and written from them. How it is read depends on the scheme:
some have domain names as hosts, files need no host, and all others are read with less care.
-/
namespace TrustFederation.Address

/-- What stands between two slashes and the path. Name and password are those of a user. -/
structure Authority where
  user : List Char
  password : List Char
  host : Host
  port : Option Nat
deriving DecidableEq

/-- An authority without anything. -/
def Authority.empty : Authority := ⟨[], [], .absent, none⟩

/-- The name and password of the user as they are written. -/
def Authority.credentials (authority : Authority) : List Char :=
  let secret := if authority.password.isEmpty then [] else ':' :: authority.password
  if authority.user.isEmpty && secret.isEmpty then [] else authority.user ++ secret ++ ['@']

/-- The written form of an authority. -/
def Authority.render (authority : Authority) : List Char :=
  authority.credentials ++ authority.host.render ++
    match authority.port with
    | some port => ':' :: Nat.toDigits 10 port
    | none => []

/-- How the addresses of a scheme are read. -/
inductive SchemeKind where
  /-- Hosts are domain names, and the scheme implies a port. -/
  | hosted (port : Nat)
  /-- Files. -/
  | file
  /-- Anything else. -/
  | other
deriving DecidableEq

/-- The kind of a scheme. -/
def SchemeKind.ofName (scheme : String) : SchemeKind :=
  match scheme with
  | "http" | "ws" => .hosted 80
  | "https" | "wss" => .hosted 443
  | "ftp" => .hosted 21
  | "file" => .file
  | _ => .other

/-- Hosts are domain names. -/
def SchemeKind.hasDomains (kind : SchemeKind) : Bool := kind != .other

/-- What follows the path: a query and a fragment. -/
structure Tail where
  query : Option (List Char)
  fragment : Option (List Char)
deriving DecidableEq

/-- The written form of a tail. -/
def Tail.render (tail : Tail) : List Char :=
  tail.query.elim [] ('?' :: ·) ++ tail.fragment.elim [] ('#' :: ·)

end Address

/-- An address in normal form. One without an authority has no slashes before its path. -/
structure Address where
  scheme : String
  authority : Option Address.Authority
  path : List Char
  tail : Address.Tail
deriving DecidableEq

namespace Address

/-- The host of an address. -/
def host (address : Address) : Host := address.authority.elim .absent (·.host)

/-- The written form of an address. A path that would look like an authority is set apart from
the scheme. -/
def render (address : Address) : String :=
  let place := match address.authority with
    | some authority => "//".toList ++ authority.render
    | none => if "//".toList.isPrefixOf address.path then "/.".toList else []
  String.ofList (address.scheme.toList ++ ':' :: place ++ address.path ++ address.tail.render)

/-- The address without the name and password of a user. Those that are no text in any
encoding are left: a name, or a password without a name. -/
def withoutCredentials (address : Address) : Address :=
  match address.authority with
  | none => address
  | some authority =>
    match Codec.Percent.unescape? authority.user with
    | none => address
    | some user =>
      if user.isEmpty && (Codec.Percent.unescape? authority.password).isNone then address
      else { address with authority := some { authority with user := [], password := [] } }

/-! ## Reading -/

/-- The character may stand in a scheme after its first letter. -/
def isSchemeChar (c : Char) : Bool :=
  c.isAlphanum || c == '+' || c == '-' || c == '.'

/-- The scheme of an address with small letters, and what follows its colon. -/
def scheme? (text : List Char) : Option (String × List Char) := do
  let (first :: more, rest) ← Text.cutAt ':' text | none
  if first.isAlpha && more.all isSchemeChar then
    some (String.ofList ((first :: more).map Text.asciiLower), rest)
  else none

/-- The character is visible and of ASCII. -/
def isVisible (c : Char) : Bool := 32 < c.toNat && c.toNat < 127

/-- The character is kept in a query. -/
def isKeptInQuery (hasDomains : Bool) (c : Char) : Bool :=
  isVisible c && !"\"#<>".toList.contains c && !(hasDomains && c == '\'')

/-- The character is kept in a fragment. -/
def isKeptInFragment (c : Char) : Bool := isVisible c && !"\"<>`".toList.contains c

/-- The character is kept in the name or password of a user. -/
def isKeptInUser (c : Char) : Bool := isKeptInPath c && !"/:;=@[\\]^|".toList.contains c

/-- The text before a query or fragment, and these. -/
def cutTail (hasDomains : Bool) (text : List Char) : List Char × Tail :=
  let (beforeFragment, fragment) := match Text.cutAt '#' text with
    | some (before, after) => (before, some (Codec.Percent.escape isKeptInFragment after))
    | none => (text, none)
  match Text.cutAt '?' beforeFragment with
  | some (before, after) =>
    (before, ⟨some (Codec.Percent.escape (isKeptInQuery hasDomains) after), fragment⟩)
  | none => (beforeFragment, ⟨none, fragment⟩)

/-- The character ends an authority. -/
def endsAuthority (hasDomains : Bool) (c : Char) : Bool :=
  isSlash hasDomains c || c == '?' || c == '#'

/-- The text before and after the last occurrence of a character. -/
def cutAtLast (separator : Char) (text : List Char) : Option (List Char × List Char) :=
  (Text.cutAt separator text.reverse).map fun (after, before) => (before.reverse, after.reverse)

/-- The text of a host, up to a colon that does not stand in brackets, and what follows it. -/
def cutHost (inBrackets : Bool) : List Char → List Char × List Char
  | [] => ([], [])
  | c :: rest =>
    if c = ':' ∧ inBrackets = false then ([], c :: rest)
    else
      let (host, later) := cutHost (c == '[' || inBrackets && c != ']') rest
      (c :: host, later)

/-- The port of a text that follows a host, and what follows the port. A port that the scheme
implies is none. -/
def readPort (kind : SchemeKind) (text : List Char) : Option (Option Nat × List Char) :=
  match text with
  | ':' :: rest =>
    let digits := rest.takeWhile Char.isDigit
    let later := rest.dropWhile Char.isDigit
    let port := Text.ofDigits digits
    if 65535 < port || !(later.head?.all (isSlash true)) then none
    else some (if digits.isEmpty || kind == .hosted port then none else some port, later)
  | _ => some (none, text)

/-- The name and password of a user. -/
def readCredentials (text : List Char) : List Char × List Char :=
  let (user, password) := (Text.cutAt ':' text).getD (text, [])
  (Codec.Percent.escape isKeptInUser user, Codec.Percent.escape isKeptInUser password)

/-- Reads an authority, and gives what follows it. What is written before the last `@` is the user.
A port or a user needs a host, and so does an `@` with nothing before it unless the address
ends there. -/
def readAuthority (kind : SchemeKind) (text rest : List Char) : Option (Authority × List Char) := do
  let (user, place) := (cutAtLast '@' text).getD ([], text)
  let isBareMark := text.head? == some '@' && user.isEmpty
  let (user, password) := readCredentials user
  let (hostText, afterHost) := cutHost false place
  let host ← if kind.hasDomains then Host.ofDomain? hostText else Host.ofOther? hostText
  let (port, later) ← readPort kind afterHost
  let authority : Authority := ⟨user, password, host, port⟩
  if host = .absent ∧ (!afterHost.isEmpty || !authority.credentials.isEmpty ||
      isBareMark && !rest.isEmpty) then none
  else some (authority, later)

/-- Reads an address after the slashes that begin its authority. -/
def readHosted (kind : SchemeKind) (scheme : String) (text : List Char) : Option Address := do
  let hasDomains := kind.hasDomains
  let (beforeTail, tail) := cutTail hasDomains text
  let isIn (c : Char) : Bool := !endsAuthority hasDomains c
  let (authority, later) ←
    readAuthority kind (beforeTail.takeWhile isIn) (text.dropWhile isIn)
  let pathText := later ++ beforeTail.dropWhile isIn
  let path := if !hasDomains && pathText.isEmpty then [] else normalPath hasDomains pathText
  return ⟨scheme, some authority, path, tail⟩

/-- The host of a file: none if the text is the name of a drive, or the host where everything
is at hand. -/
def fileHost? (text : List Char) : Option Host :=
  if text.isEmpty then some .absent
  else match Host.ofDomain? text with
    | some (.name name) => some (if name = "localhost".toList then .absent else .name name)
    | other => other

/-- Reads the address of a file. -/
def readFile (scheme : String) (text : List Char) : Option Address := do
  let (beforeTail, tail) := cutTail true text
  let ofPath (host : Host) (path : List Char) : Address :=
    let (normal, hasDrive) := normalFilePath path
    ⟨scheme, some { Authority.empty with host := if hasDrive then .absent else host }, normal, tail⟩
  match beforeTail with
  | first :: rest =>
    if !isSlash true first then return ofPath .absent beforeTail
    else match rest with
      | second :: later =>
        if !isSlash true second then return ofPath .absent rest
        else
          let hostText := later.takeWhile (!isSlash true ·)
          if isDrive hostText then return ofPath .absent later
          else
            let host ← fileHost? hostText
            let path := later.dropWhile (!isSlash true ·)
            return ofPath host (if host = .absent then path else path.drop 1)
      | [] => return ofPath .absent rest
  | [] => return ofPath .absent []

/-- The character is kept in a path that is no list of segments. -/
def isKeptInOpaquePath (c : Char) : Bool := 32 ≤ c.toNat && c.toNat < 127

/-- Reads an address without an authority. -/
def readBare (scheme : String) (text : List Char) : Address :=
  let (path, tail) := cutTail false text
  let normal := if path.head? = some '/' then normalPath false path
    else Codec.Percent.escape isKeptInOpaquePath path
  ⟨scheme, none, normal, tail⟩

/-- Reads an address. Controls and blanks around it, and line ends and tabs in it, do not
count. -/
def ofText? (text : String) : Option Address := do
  let bare := (text.toList.dropWhile (·.toNat ≤ 32)).reverse.dropWhile (·.toNat ≤ 32)
  let (scheme, rest) ← scheme? (bare.reverse.filter fun c => !"\t\n\r".toList.contains c)
  match SchemeKind.ofName scheme with
  | .hosted port => readHosted (.hosted port) scheme (rest.dropWhile (isSlash true))
  | .file => readFile scheme rest
  | .other =>
    match rest with
    | '/' :: '/' :: later => readHosted .other scheme later
    | _ => return readBare scheme rest

example : (ofText? " FOO://me:@H:8/a/../b c?d#e").map render = some "foo://me@H:8/b%20c?d#e" := by
  decide +kernel
example : (ofText? "file:/C|/../x").map render = some "file:///C:/x" := by decide +kernel
example : (ofText? "http:\\\\1.1:080").map render = some "http://1.0.0.1/" := by decide +kernel
example : ofText? "http://?sub=x" = none ∧ ofText? "foo:// /" = none := by decide +kernel

end Address

end TrustFederation
