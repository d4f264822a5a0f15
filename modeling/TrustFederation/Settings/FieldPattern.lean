import TrustFederation.Codec.Hex
import TrustFederation.Text.Alphanumeric
import TrustFederation.Text.Blank
/-!
# Patterns of field values

A log filter may ask that a field matches a pattern, a regular expression on characters. Only
whether a pattern is well formed matters here. There are groups, classes, repetitions, escapes
and flags, but no looking around and no references to groups.

The classes of digits, blanks and word characters, the places at the ends of words, and
letters of either case are known for ASCII only. Where patterns are about all characters, as
they are at first, they cannot be asked for. A pattern about ASCII, with the flag `u` off, must
in turn not match parts of other characters.

A closing brace ends the field, so none stands in a pattern, and nothing that an opening brace
begins is ever complete.
-/
namespace TrustFederation.Settings

/-- How a part of a pattern is read. -/
structure PatternFlags where
  /-- Letters match in either case. -/
  caseless : Bool
  /-- Blanks do not count, and comments may be given. -/
  verbose : Bool
  /-- The part is about all characters and not about ASCII. -/
  full : Bool
deriving DecidableEq

namespace PatternFlags

/-- The flags at the start of a pattern. -/
def initial : PatternFlags := ⟨false, false, true⟩

/-- The text after the blanks and comments at its start. A comment ends with its line. -/
def afterComments (inComment : Bool) : List Char → List Char
  | [] => []
  | c :: rest =>
    if inComment then afterComments (c != '\n') rest
    else if Text.isBlank c then afterComments false rest
    else if c = '#' then afterComments true rest
    else c :: rest

/-- The text from the first character on that counts. -/
def skip (flags : PatternFlags) (text : List Char) : List Char :=
  if flags.verbose then afterComments false text else text

/-- The flags after one more flag was given or taken away. -/
def set? (flags : PatternFlags) (name : Char) (value : Bool) : Option PatternFlags :=
  match name with
  | 'i' => some { flags with caseless := value }
  | 'x' => some { flags with verbose := value }
  | 'u' => some { flags with full := value }
  | 'm' | 's' | 'U' | 'R' => some flags
  | _ => none

/-- The flags after several were given and, after a hyphen, several taken away. No flag may
be named twice, and something must follow the hyphen. -/
def setAll? (flags : PatternFlags) (value : Bool) (named : List Char) :
    List Char → Option PatternFlags
  | [] => some flags
  | name :: rest =>
    if name = '-' then if value && !rest.isEmpty then setAll? flags false named rest else none
    else if named.contains name then none
    else do setAll? (← flags.set? name value) value (name :: named) rest

end PatternFlags

/-! ## Escapes -/

/-- What a character or an escape stands for. -/
inductive PatternAtom where
  /-- A character. It may be written as a byte. -/
  | char (point : Nat) (isByte : Bool)
  /-- The digits, blanks or word characters, or all others. -/
  | kind (negated : Bool)
  /-- A place between characters. -/
  | place (atWord : Bool)
deriving DecidableEq

namespace PatternAtom

/-- The atom can be matched where it stands by itself. -/
def isAllowed (flags : PatternFlags) : PatternAtom → Bool
  | .char point isByte => if flags.full then !flags.caseless else !isByte || point < 128
  | .kind negated => !flags.full && !negated
  | .place atWord => !(flags.full && atWord)

/-- The atom can be matched as a member of a class. -/
def isMember (flags : PatternFlags) : PatternAtom → Bool
  | .char point _ => if flags.full then !flags.caseless else point < 128
  | .kind negated => !flags.full && !negated
  | .place _ => false

/-- Two atoms are the ends of a range. -/
def isRange : PatternAtom → PatternAtom → Bool
  | .char low _, .char high _ => low ≤ high
  | _, _ => false

/-- The controls that have a letter. -/
def controls : List (Char × Nat) :=
  [('a', 7), ('t', 9), ('n', 10), ('v', 11), ('f', 12), ('r', 13)]

/-- How many digits a code point has after a letter. -/
def digitCounts : List (Char × Nat) := [('x', 2), ('u', 4), ('U', 8)]

/-- Reads a number of hexadecimal digits. -/
def readHex (flags : PatternFlags) : Nat → Nat → List Char → Option (Nat × List Char)
  | 0, value, text => some (value, text)
  | count + 1, value, text =>
    match flags.skip text with
    | [] => none
    | digit :: rest => do readHex flags count (value * 16 + (← Codec.hexValue? digit)) rest

/-- Reads an escape whose backslash has been passed. Marks of ASCII stand for themselves. -/
def readEscape (flags : PatternFlags) : List Char → Option (PatternAtom × List Char)
  | [] => none
  | c :: rest =>
    match digitCounts.lookup c with
    | some count => do
      let (point, later) ← readHex flags count 0 rest
      if point.isValidChar then some (.char point (c == 'x'), later) else none
    | none =>
      if "dsw".toList.contains c then some (.kind false, rest)
      else if "DSW".toList.contains c then some (.kind true, rest)
      else if "bB<>".toList.contains c then some (.place true, rest)
      else if "Az".toList.contains c then some (.place false, rest)
      else match controls.lookup c with
        | some point => some (.char point false, rest)
        | none => if c.toNat < 128 && !c.isAlphanum then some (.char c.toNat false, rest) else none

/-- Reads a character or an escape. -/
def read (flags : PatternFlags) : List Char → Option (PatternAtom × List Char)
  | [] => none
  | '\\' :: rest => readEscape flags rest
  | c :: rest => some (.char c.toNat false, rest)

end PatternAtom

/-! ## Classes -/

/-- How far a class has been read. -/
inductive ClassStage where
  /-- Nothing of it. -/
  | fresh
  /-- Hyphens, which stand for themselves at its start. -/
  | hyphens
  /-- More than that. -/
  | inside
deriving DecidableEq

/-- The names of classes of ASCII characters. -/
def asciiClasses : List String :=
  ["alnum", "alpha", "ascii", "blank", "cntrl", "digit", "graph", "lower", "print", "punct",
   "space", "upper", "word", "xdigit"]

/-- Reads a class of ASCII characters whose opening bracket has been passed: whether it is
negated, and the text after it. -/
def readAsciiClass (text : List Char) : Option (Bool × List Char) := do
  let ':' :: named := text | none
  let (negated, start) := match named with
    | '^' :: rest => (true, rest)
    | rest => (false, rest)
  let ':' :: ']' :: later := start.dropWhile (· != ':') | none
  if asciiClasses.contains (String.ofList (start.takeWhile (· != ':'))) then
    some (negated, later)
  else none

/-- The text after the start of a class whose opening bracket has been passed, if the class
may be negated where it is. -/
def openClass (flags : PatternFlags) (isNested : Bool) (text : List Char) :
    Option (List Char) :=
  match flags.skip text with
  | '^' :: rest => if flags.full && !(isNested && flags.caseless) then some rest else none
  | rest => some rest

/-- The text after the class that is being read. `depth` is the number of classes around the
present one, and the first argument bounds the number of steps. -/
def skipClass (flags : PatternFlags) : Nat → Nat → ClassStage → List Char → Option (List Char)
  | 0, _, _, _ => none
  | bound + 1, depth, stage, text =>
    match flags.skip text with
    | [] => none
    | '[' :: rest =>
      match readAsciiClass rest with
      | some (negated, later) =>
        if if flags.full then !flags.caseless else !negated then
          skipClass flags bound depth .inside later
        else none
      | none => do skipClass flags bound (depth + 1) .fresh (← openClass flags true rest)
    | c :: rest =>
      let member (atom : PatternAtom) (later : List Char) (next : ClassStage) :=
        if atom.isMember flags then skipClass flags bound depth next later else none
      if c = '-' ∧ stage ≠ .inside then member (.char c.toNat false) rest .hyphens
      else if c = ']' ∧ stage = .fresh then member (.char c.toNat false) rest .inside
      else if c = ']' then
        match depth with
        | 0 => some rest
        | outer + 1 => skipClass flags bound outer .inside rest
      else if "&-~".toList.contains c ∧ rest.head? = some c then
        skipClass flags bound depth .inside rest.tail
      else do
        let (first, afterFirst) ← PatternAtom.read flags (c :: rest)
        match flags.skip afterFirst with
        | '-' :: afterHyphen =>
          match flags.skip afterHyphen with
          | ']' :: _ | '-' :: _ => member first ('-' :: afterHyphen) .inside
          | start => do
            let (second, later) ← PatternAtom.read flags start
            if first.isRange second && second.isMember flags then member first later .inside
            else none
        | later => member first later .inside

/-! ## Groups -/

/-- What stands after an opening parenthesis. -/
inductive GroupStart where
  /-- Flags for the rest of the group around, which are all that the parentheses hold. -/
  | flags (set : PatternFlags)
  /-- A group that is read with some flags and may have a name. -/
  | group (set : PatternFlags) (name : Option (List Char))
deriving DecidableEq

/-- The character may stand in the name of a group. -/
def isGroupNameChar (c : Char) : Bool :=
  Text.isLetterOrNumber c || "_.[]".toList.contains c

/-- The text is the name of a group. -/
def isGroupName : List Char → Bool
  | [] => false
  | c :: rest => (Text.isLetter c || c == '_') && rest.all isGroupNameChar

/-- Reads the name of a group up to the bracket that ends it. -/
def readGroupName (text : List Char) : Option (List Char × List Char) :=
  match text.dropWhile (· != '>') with
  | [] => none
  | _ :: later =>
    let name := text.takeWhile (· != '>')
    if isGroupName name then some (name, later) else none

/-- Reads the flags of a group, or flags without one. -/
def readFlags (flags : PatternFlags) (text : List Char) : Option (GroupStart × List Char) := do
  let isEnd (c : Char) : Bool := c == ':' || c == ')'
  let given := text.takeWhile (!isEnd ·)
  let set ← flags.setAll? true [] given
  match text.dropWhile (!isEnd ·) with
  | ':' :: later => some (.group set none, later)
  | ')' :: later => if given.isEmpty then none else some (.flags set, later)
  | _ => none

/-- Reads what stands after an opening parenthesis. -/
def readGroupStart (flags : PatternFlags) (text : List Char) : Option (GroupStart × List Char) :=
  let named (rest : List Char) : Option (GroupStart × List Char) := do
    let (name, later) ← readGroupName rest
    some (.group flags (some name), later)
  match flags.skip text with
  | '?' :: '=' :: _ | '?' :: '!' :: _ | '?' :: '<' :: '=' :: _ | '?' :: '<' :: '!' :: _ => none
  | '?' :: 'P' :: '<' :: rest | '?' :: '<' :: rest => named rest
  | '?' :: rest => readFlags flags rest
  | rest => some (.group flags none, rest)

/-! ## Patterns -/

/-- How far a pattern has been read. -/
structure PatternStage where
  /-- The flags of the group that is open. -/
  flags : PatternFlags
  /-- The flags of the groups around it, the innermost one first. -/
  outer : List PatternFlags
  /-- The names given to groups. -/
  names : List (List Char)
  /-- What stands before can be repeated. -/
  isRepeatable : Bool
deriving DecidableEq

/-- The stage inside a group or after flags. -/
def PatternStage.enter? (stage : PatternStage) : GroupStart → Option PatternStage
  | .flags set => some { stage with flags := set, isRepeatable := false }
  | .group set name =>
    let names := name.toList
    if names.any stage.names.contains then none
    else some ⟨set, stage.flags :: stage.outer, names ++ stage.names, false⟩

/-- The stage after a group, if one is open. -/
def PatternStage.leave? (stage : PatternStage) : Option PatternStage :=
  match stage.outer with
  | [] => none
  | flags :: outer => some { stage with flags, outer, isRepeatable := true }

/-- The rest of a pattern is well formed. The first argument bounds the number of steps. -/
def PatternStage.accepts : Nat → PatternStage → List Char → Bool
  | 0, _, _ => false
  | bound + 1, stage, text =>
    let again (rest : List Char) : Bool := accepts bound { stage with isRepeatable := true } rest
    match stage.flags.skip text with
    | [] => stage.outer.isEmpty
    | '(' :: rest =>
      match readGroupStart stage.flags rest with
      | some (start, later) => (stage.enter? start).any (accepts bound · later)
      | none => false
    | ')' :: rest => stage.leave?.any (accepts bound · rest)
    | '|' :: rest => accepts bound { stage with isRepeatable := false } rest
    | '[' :: rest =>
      match (openClass stage.flags false rest).bind
          (skipClass stage.flags (rest.length + 1) 0 .fresh) with
      | some later => again later
      | none => false
    | '*' :: rest | '+' :: rest | '?' :: rest =>
      stage.isRepeatable && again (if rest.head? = some '?' then rest.tail else rest)
    | '\x7b' :: _ => false
    | '.' :: rest => stage.flags.full && again rest
    | '^' :: rest | '$' :: rest => again rest
    | start =>
      match PatternAtom.read stage.flags start with
      | some (atom, later) => atom.isAllowed stage.flags && again later
      | none => false

/-- The text is a well-formed pattern. -/
def isPattern (text : String) : Bool :=
  PatternStage.accepts (text.length + 1) ⟨.initial, [], [], false⟩ text.toList

example : isPattern "a*|(?:b+)?[^c-e]" = true := by decide +kernel
example : isPattern "(?-u)\\w+" = true ∧ isPattern "\\w+" = false := by decide +kernel
example : isPattern "(?=a)" = false ∧ isPattern "[a-" = false ∧ isPattern "*" = false := by
  decide +kernel

end TrustFederation.Settings
