import TrustFederation.Json.Scan
/-!
# JSON documents as they are written

A document keeps what a value forgets: the order of members, repeated names, and every
fault at the place where it stands. What a document means depends on what is asked of it:
a member that is not asked for is only skipped, and then some faults do not matter. Reading
a text into a document therefore never fails; a fault ends the document instead.
-/
namespace TrustFederation.Json

/-- How the items of a list or the members of an object end when they are not closed. -/
inductive Stop where
  /-- The text ends where a separator, the close or the first member is expected. -/
  | atEnd
  /-- The text ends after a comma. -/
  | afterComma
  /-- A comma stands before the close. -/
  | commaBeforeClose
  /-- Something else stands where a separator or the close is expected. -/
  | noSeparator
  /-- Something else stands where a name is expected. -/
  | notName
  /-- A name is no string. -/
  | brokenName (fault : Break)
deriving DecidableEq

/-- The fault of a list that is read or skipped. -/
def Stop.listBreak : Stop → Break
  | .atEnd => ⟨.endInList, .endInList⟩
  | .afterComma => ⟨.endInValue, .endInValue⟩
  | .commaBeforeClose => ⟨.trailingComma, .noValue⟩
  | .noSeparator => ⟨.listSeparator, .listSeparator⟩
  | .notName => ⟨.nameNotText, .nameNotText⟩
  | .brokenName fault => fault

/-- The fault of an object that is read or skipped. -/
def Stop.objectBreak : Stop → Break
  | .atEnd => ⟨.endInObject, .endInObject⟩
  | .afterComma => ⟨.endInValue, .endInObject⟩
  | .commaBeforeClose => ⟨.trailingComma, .nameNotText⟩
  | .noSeparator => ⟨.objectSeparator, .objectSeparator⟩
  | .notName => ⟨.nameNotText, .nameNotText⟩
  | .brokenName fault => fault

/-- The fault of a list after the last item that its reader wants. -/
def Stop.closingFault : Stop → Fault
  | .atEnd => .endInList
  | .commaBeforeClose => .trailingComma
  | _ => .trailingCharacters

/-- What stands where a broken document should be. -/
inductive Remnant where
  /-- No value begins there. -/
  | nothing
  /-- A string. -/
  | text
  /-- Anything else. -/
  | other
deriving DecidableEq

/-- A document. A broken document is the last thing that was read. -/
inductive Doc where
  | null
  | bool (value : Bool)
  | number (value : Except Fault Number)
  | string (value : Except Fault String)
  | list (items : List Doc) (stop : Option Stop)
  | object (members : List (Except Fault String × Doc)) (stop : Option Stop)
  | broken (remnant : Remnant) (fault : Break)

namespace Doc

/-- The document that is missing where no value begins. -/
def missing (fault : Fault) : Doc := .broken .nothing ⟨fault, fault⟩

/-- The rest of a text after the bytes of a word, if they stand there. -/
def word (bytes : List UInt8) (input : List UInt8) : Except Fault (List UInt8) :=
  match bytes, input with
  | [], rest => .ok rest
  | _ :: _, [] => .error .endInValue
  | expected :: more, byte :: rest => if byte = expected then word more rest else .error .word

/-- A document made of one word, and the text after it. -/
def ofWord (value : Doc) (bytes : List UInt8) (input : List UInt8) :
    Doc × Option (List UInt8) :=
  match word bytes input with
  | .ok rest => (value, some rest)
  | .error found => (.broken .other ⟨found, found⟩, none)

/-- A string whose opening quote has been passed, and the text after it. -/
def ofString (input : List UInt8) : Doc × Option (List UInt8) :=
  match skipString input with
  | .ok rest => (.string (readString input), some rest)
  | .error skipping =>
    match readString input with
    | .error reading => (.broken .text ⟨reading, skipping⟩, none)
    | .ok _ => (.broken .text ⟨skipping, skipping⟩, none)

/-- A number, and the text after it. -/
def ofNumeral (input : List UInt8) : Doc × Option (List UInt8) :=
  match scanNumeral input with
  | .ok (numeral, rest) => (.number numeral.value, some rest)
  | .error found => (.broken .other found, none)

mutual

/-- The document at the start of a text, and the text after it unless the document is
broken. The first argument bounds the number of nested calls. -/
def readFrom : Nat → List UInt8 → Doc × Option (List UInt8)
  | 0, _ => (.missing .endInValue, none)
  | bound + 1, input =>
    match skipSpace input with
    | [] => (.missing .endInValue, none)
    | byte :: rest =>
      if byte = 91 then
        match skipSpace rest with
        | [] => (.list [] (some .atEnd), none)
        | next :: more =>
          if next = 93 then (.list [] none, some more)
          else
            let (items, stop, later) := readItems bound (next :: more)
            (.list items stop, later)
      else if byte = 123 then
        match skipSpace rest with
        | [] => (.object [] (some .atEnd), none)
        | next :: more =>
          if next = 125 then (.object [] none, some more)
          else
            let (members, stop, later) := readMembers bound (next :: more)
            (.object members stop, later)
      else if byte = 34 then ofString rest
      else if byte = 110 then ofWord .null [117, 108, 108] rest
      else if byte = 116 then ofWord (.bool true) [114, 117, 101] rest
      else if byte = 102 then ofWord (.bool false) [97, 108, 115, 101] rest
      else if byte = 45 ∨ isDigit byte then ofNumeral (byte :: rest)
      else (.broken .other ⟨.noValue, .noValue⟩, none)

/-- The items from the one at the start of a text on, how they end, and the text after the
close. -/
def readItems : Nat → List UInt8 → List Doc × Option Stop × Option (List UInt8)
  | 0, _ => ([], some .atEnd, none)
  | bound + 1, input =>
    match readFrom bound input with
    | (item, none) => ([item], none, none)
    | (item, some rest) =>
      match skipSpace rest with
      | [] => ([item], some .atEnd, none)
      | byte :: more =>
        if byte = 93 then ([item], none, some more)
        else if byte = 44 then
          match skipSpace more with
          | [] => ([item], some .afterComma, none)
          | next :: later =>
            if next = 93 then ([item], some .commaBeforeClose, none)
            else
              let (items, stop, beyond) := readItems bound (next :: later)
              (item :: items, stop, beyond)
        else ([item], some .noSeparator, none)

/-- The members from the one at the start of a text on, how they end, and the text after
the close. -/
def readMembers :
    Nat → List UInt8 → List (Except Fault String × Doc) × Option Stop × Option (List UInt8)
  | 0, _ => ([], some .atEnd, none)
  | bound + 1, input =>
    match input with
    | [] => ([], some .atEnd, none)
    | quote :: rest =>
      if quote ≠ 34 then ([], some .notName, none)
      else match ofString rest with
        | (.string name, some afterName) =>
          match skipSpace afterName with
          | [] => ([(name, .missing .endInObject)], none, none)
          | colon :: written =>
            if colon ≠ 58 then ([(name, .missing .noColon)], none, none)
            else match readFrom bound written with
              | (value, none) => ([(name, value)], none, none)
              | (value, some afterValue) =>
                match skipSpace afterValue with
                | [] => ([(name, value)], some .atEnd, none)
                | byte :: more =>
                  if byte = 125 then ([(name, value)], none, some more)
                  else if byte = 44 then
                    match skipSpace more with
                    | [] => ([(name, value)], some .afterComma, none)
                    | next :: later =>
                      if next = 125 then ([(name, value)], some .commaBeforeClose, none)
                      else
                        let (members, stop, beyond) := readMembers bound (next :: later)
                        ((name, value) :: members, stop, beyond)
                  else ([(name, value)], some .noSeparator, none)
        | (.broken _ found, _) => ([], some (.brokenName found), none)
        | _ => ([], some .notName, none)

end

mutual

/-- The first fault that matters when a document is skipped. -/
def skipFault? : Doc → Option Fault
  | .broken _ found => some found.skipping
  | .list items stop =>
    match skipFaultOfItems? items with
    | some found => some found
    | none => stop.map fun found => found.listBreak.skipping
  | .object members stop =>
    match skipFaultOfMembers? members with
    | some found => some found
    | none => stop.map fun found => found.objectBreak.skipping
  | _ => none

/-- The first fault of items that are skipped. -/
def skipFaultOfItems? : List Doc → Option Fault
  | [] => none
  | item :: rest =>
    match skipFault? item with
    | some found => some found
    | none => skipFaultOfItems? rest

/-- The first fault of members that are skipped. -/
def skipFaultOfMembers? : List (Except Fault String × Doc) → Option Fault
  | [] => none
  | (_, value) :: rest =>
    match skipFault? value with
    | some found => some found
    | none => skipFaultOfMembers? rest

end

end Doc

mutual

/-- The document that a value is written as. -/
def toDoc : Json → Doc
  | .null => .null
  | .bool value => .bool value
  | .number value => .number (.ok value)
  | .text value => .string (.ok value)
  | .array items => .list (toDocs items) none
  | .object members => .object (toDocMembers members) none

/-- The documents of items. -/
def toDocs : List Json → List Doc
  | [] => []
  | item :: rest => toDoc item :: toDocs rest

/-- The documents of members. -/
def toDocMembers : List (String × Json) → List (Except Fault String × Doc)
  | [] => []
  | (name, value) :: rest => (.ok name, toDoc value) :: toDocMembers rest

end

end TrustFederation.Json
