import TrustFederation.Json.Decode
/-!
# Documents with named fields

A record is written as an object, whose unknown members are skipped, or as a list of its
fields in their order. Each field may be given once. Whether a field may be left out
depends on how the record is written.
-/
namespace TrustFederation.Json

/-- When a field may be left out. -/
inductive Presence where
  /-- It may not be left out. -/
  | required
  /-- It may be left out of an object, but not of a list. -/
  | named
  /-- It may be left out. -/
  | optional
deriving DecidableEq

/-- A field of records of type `α`: its name, other names for it, when it may be left out,
and how its document changes the record. -/
structure RecordField (α : Type) where
  name : String
  aliases : List String
  presence : Presence
  read : Nat → Doc → α → Except Complaint α

/-- A field that is set from the document of its value. -/
def RecordField.ofSetter {α β : Type} (name : String) (presence : Presence) (decode : Decoder β)
    (set : α → β → α) : RecordField α :=
  ⟨name, [], presence, fun depth doc record => (decode depth doc).map (set record)⟩

/-- A field that may be left out or null. -/
def RecordField.ofOption {α β : Type} (name : String) (decode : Decoder β)
    (set : α → Option β → α) : RecordField α :=
  .ofSetter name .optional (Decoder.optional decode) set

/-- The field is meant by a name. -/
def RecordField.answersTo {α : Type} (field : RecordField α) (name : String) : Bool :=
  field.name == name || field.aliases.contains name

/-- A kind of record: its title in complaints, the record without any field, and the
fields in order. -/
structure Record (α : Type) where
  title : String
  blank : α
  fields : List (RecordField α)

namespace Record

variable {α : Type}

/-- What a list of the wrong length should have been. -/
def expectation (record : Record α) : String :=
  let count := record.fields.length
  "struct " ++ record.title ++ s!" with {count} element" ++ (if count = 1 then "" else "s")

/-- Reads the members of an object into a record. `given` holds the names of the fields that
were given so far. -/
def readMembers (record : Record α) (depth : Nat) :
    List String → α → List (Except Fault String × Doc) → Except Complaint (List String × α)
  | given, state, [] => .ok (given, state)
  | given, state, (name, doc) :: rest => do
    let found ← readable name
    match record.fields.find? (·.answersTo found) with
    | none =>
      match doc.skipFault? with
      | some fault => .error (.syntactic fault)
      | none => readMembers record depth given state rest
    | some field =>
      if given.contains field.name then .error (.duplicateField field.name)
      else
        let next ← field.read depth doc state
        readMembers record depth (field.name :: given) next rest

/-- The first required field that was not given. -/
def missing? (record : Record α) (given : List String) : Option String :=
  (record.fields.find? fun field =>
    field.presence == .required && !given.contains field.name).map (·.name)

/-- Complains about a list that ends before field number `index`. -/
def shortList (record : Record α) (index : Nat) : List (RecordField α) → α → Except Complaint α
  | [], state => .ok state
  | field :: rest, state =>
    if field.presence = .optional then shortList record (index + 1) rest state
    else .error (.wrongLength index record.expectation)

/-- Reads the items of a list into a record, from field number `index` on. -/
def readItems (record : Record α) (depth : Nat) (stop : Option Stop) :
    Nat → List (RecordField α) → List Doc → α → Except Complaint α
  | _, [], [], state =>
    match stop with
    | none => .ok state
    | some found => .error (.syntactic found.closingFault)
  | _, [], _ :: _, _ => .error (.syntactic .trailingCharacters)
  | index, field :: fields, [], state => do
    closeList stop
    shortList record index (field :: fields) state
  | index, field :: fields, item :: items, state => do
    let next ← field.read depth item state
    readItems record depth stop (index + 1) fields items next

/-- Reads a record. -/
def decode (record : Record α) : Decoder α
  | depth, .object members stop => do
    let inner ← enter depth
    let (given, state) ← readMembers record inner [] record.blank members
    closeObject stop
    match record.missing? given with
    | some name => .error (.missingField name)
    | none => .ok state
  | depth, .list items stop => do
    let inner ← enter depth
    readItems record inner stop 0 record.fields items record.blank
  | _, doc => .error (doc.mismatch ("struct " ++ record.title))

end Record

end TrustFederation.Json
