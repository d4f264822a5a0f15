import TrustFederation.Codec.Percent
import TrustFederation.Text.Ascii
import TrustFederation.Text.Split
/-!
# Paths

A path is a list of segments. Segments of dots move in the path and do not stay in it. A letter
with a colon or bar after it is the name of a drive, which no dots leave.
-/
namespace TrustFederation.Address

/-- What a segment does. -/
inductive Move where
  /-- It is one more part of the path. -/
  | enter
  /-- It stays where it is. -/
  | stay
  /-- It leaves the last part. -/
  | leave
deriving DecidableEq

/-- What a segment does. A dot may be written as a byte. -/
def Move.ofSegment (segment : List Char) : Move :=
  match Text.asciiLowercase (String.ofList segment) with
  | "." | "%2e" => .stay
  | ".." | ".%2e" | "%2e." | "%2e%2e" => .leave
  | _ => .enter

/-- The segment is the name of a drive. -/
def isDrive : List Char → Bool
  | [letter, mark] => letter.isAlpha && (mark == ':' || mark == '|')
  | _ => false

/-- The parts that are left when the last one, which is the first given, is left. -/
def leaveLast : List (List Char) → List (List Char)
  | last :: earlier => if isDrive last then last :: earlier else earlier
  | [] => []

/-- The parts after segments. `kept` holds the parts so far, last one first, and `enter` is how
a part is added to them. A path that ends in dots ends in an empty part. -/
def follow (enter : List (List Char) → List Char → List (List Char)) (kept : List (List Char)) :
    List (List Char) → List (List Char)
  | [] => kept.reverse
  | segment :: rest =>
    let (next, isDots) := match Move.ofSegment segment with
      | .enter => (enter kept segment, false)
      | .stay => (kept, true)
      | .leave => (leaveLast kept, true)
    if isDots && rest.isEmpty then ([] :: next).reverse else follow enter next rest

/-- The character is a slash or counts as one where hosts are domain names. -/
def isSlash (hasDomains : Bool) (c : Char) : Bool := c == '/' || hasDomains && c == '\\'

/-- The segments of a path without its first slash. -/
def segments (hasDomains : Bool) (path : List Char) : List (List Char) :=
  Text.splitOn '/' (path.map fun c => if isSlash hasDomains c then '/' else c)

/-- A path with its first slash. -/
def renderPath (parts : List (List Char)) : List Char := '/' :: Text.joinWith '/' parts

/-- The character is kept in a path. -/
def isKeptInPath (c : Char) : Bool :=
  32 < c.toNat && c.toNat < 127 && !"\"#<>?`\x7b\x7d".toList.contains c

/-- The normal form of a path. What stands before a first slash counts as if it stood after
one. -/
def normalPath (hasDomains : Bool) (path : List Char) : List Char :=
  let bare := match path with
    | c :: rest => if isSlash hasDomains c then rest else path
    | [] => []
  let add (kept : List (List Char)) (segment : List Char) := segment :: kept
  renderPath (follow add [] (segments hasDomains (Codec.Percent.escape isKeptInPath bare)))

/-- The parts after one more part of the path of a file. The name of a drive at the start of
a path has a colon. -/
def enterFile (kept : List (List Char)) (segment : List Char) : List (List Char) :=
  (if kept.isEmpty && isDrive segment then segment.take 1 ++ [':'] else segment) :: kept

/-- The normal form of the path of a file, and whether it begins with a drive. All slashes at
its start are one. -/
def normalFilePath (path : List Char) : List Char × Bool :=
  let parts := follow enterFile [] (segments true (Codec.Percent.escape isKeptInPath path))
  (renderPath (Text.splitOn '/' ((Text.joinWith '/' parts).dropWhile (· == '/'))),
    parts.head?.any isDrive)

example : normalPath true "/a/../b c/%2E/.".toList = "/b%20c/".toList := by decide +kernel
example : normalPath false "/C:/../x".toList = "/C:/x".toList := by decide +kernel

end TrustFederation.Address
