import TrustFederation.Proofs.Outcomes
import TrustFederation.Proofs.Statement.Tokens
import TrustFederation.Proofs.Text.Dictionaries
/-!
# The order of metadata

The metadata of a statement that was read from a token stand in ascending order of the entity
types, each type once, however they were written. They are a dictionary when they are read, and no
other field of a statement touches them.
-/
namespace TrustFederation

/-! ## Records -/

namespace Json

variable {α β : Type}

/-- Reading a field keeps a property of records. -/
def RecordField.Keeps (property : α → Prop) (field : RecordField α) : Prop :=
  ∀ depth doc state next, property state → field.read depth doc state = .ok next → property next

theorem RecordField.keeps_of_setter {property : α → Prop} {name : String} {presence : Presence}
    {decode : Decoder β} {set : α → β → α}
    (sets : ∀ state depth doc value, property state → decode depth doc = .ok value →
      property (set state value)) :
    (RecordField.ofSetter name presence decode set).Keeps property := by
  intro depth doc state next holds read
  cases found : decode depth doc with
  | error complaint => simp [RecordField.ofSetter, found, Except.map] at read
  | ok value =>
    obtain rfl : set state value = next := by
      simpa [RecordField.ofSetter, found, Except.map] using read
    exact sets state depth doc value holds found

namespace Record

variable {record : Record α} {property : α → Prop}

theorem members_keep (keeps : ∀ field ∈ record.fields, field.Keeps property) {depth : Nat}
    {members : List (Except Fault String × Doc)} {given names : List String} {state next : α}
    (holds : property state)
    (read : record.readMembers depth given state members = .ok (names, next)) : property next := by
  induction members generalizing given state with
  | nil =>
    cases read
    exact holds
  | cons member rest ih =>
    obtain ⟨name, doc⟩ := member
    rw [readMembers] at read
    obtain ⟨found, -, read⟩ := bind_ok_iff.mp read
    split at read
    · split at read
      · cases read
      · exact ih holds read
    case h_2 field known =>
      split at read
      · cases read
      · obtain ⟨after, set, read⟩ := bind_ok_iff.mp read
        exact ih (keeps field (List.mem_of_find?_eq_some known) depth doc state after holds set) read

theorem short_list_keeps {index : Nat} {fields : List (RecordField α)} {state next : α}
    (holds : property state) (read : record.shortList index fields state = .ok next) :
    property next := by
  induction fields generalizing index with
  | nil =>
    cases read
    exact holds
  | cons field rest ih =>
    rw [shortList] at read
    split at read
    · exact ih read
    · cases read

theorem items_keep {depth index : Nat} {stop : Option Stop} {fields : List (RecordField α)}
    {items : List Doc} {state next : α} (keeps : ∀ field ∈ fields, field.Keeps property)
    (holds : property state)
    (read : record.readItems depth stop index fields items state = .ok next) : property next := by
  induction fields generalizing index items state with
  | nil =>
    cases items with
    | nil =>
      cases stop with
      | none =>
        cases read
        exact holds
      | some found => cases read
    | cons item rest => cases read
  | cons field fields ih =>
    cases items with
    | nil =>
      obtain ⟨-, -, read⟩ := bind_ok_iff.mp read
      exact short_list_keeps holds read
    | cons item items =>
      obtain ⟨after, set, read⟩ := bind_ok_iff.mp read
      exact ih (fun other member => keeps other (List.mem_cons_of_mem _ member))
        (keeps field List.mem_cons_self depth item state after holds set) read

/-- What is read as a record has every property that the blank record has and each field keeps. -/
theorem decode_keeps (keeps : ∀ field ∈ record.fields, field.Keeps property)
    (blank : property record.blank) {depth : Nat} {doc : Doc} {value : α}
    (read : record.decode depth doc = .ok value) : property value := by
  cases doc with
  | object members stop =>
    obtain ⟨inner, -, read⟩ := bind_ok_iff.mp read
    obtain ⟨⟨given, state⟩, filled, read⟩ := bind_ok_iff.mp read
    obtain ⟨-, -, read⟩ := bind_ok_iff.mp read
    have holds := members_keep keeps blank filled
    split at read
    · cases read
    · cases read
      exact holds
  | list items stop =>
    obtain ⟨inner, -, read⟩ := bind_ok_iff.mp read
    exact items_keep keeps blank read
  | _ => cases read

end Record

/-- A decoded text is the value of its document. -/
theorem doc_of_decode_text {decode : Decoder α} {text : List UInt8} {value : α}
    (read : decodeText decode text = .ok value) : ∃ doc, decode fullDepth doc = .ok value := by
  obtain ⟨found, decoded, rest⟩ := bind_ok_iff.mp read
  refine ⟨_, decoded.trans (congrArg Except.ok ?_)⟩
  split at rest
  · split at rest
    · exact Except.ok.inj rest
    · cases rest
  · exact Except.ok.inj rest

end Json

/-! ## Metadata -/

namespace Statement

open Json (Decoder RecordField)

/-- The metadata stand in ascending order of the entity types. -/
def MetadataAscending (statement : Statement) : Prop :=
  ∀ metadata, statement.metadata = some metadata → Text.Dictionary.Ascending metadata

theorem ascending_of_members {depth : Nat} {doc : Json.Doc} {found : Option (Text.Dictionary Json)}
    (read : Decoder.optional Decoder.members depth doc = .ok found) :
    ∀ metadata, found = some metadata → Text.Dictionary.Ascending metadata := by
  rintro metadata rfl
  cases doc with
  | object members stop =>
    cases decoded : Decoder.members depth (.object members stop) with
    | error complaint => simp [Decoder.optional, decoded, Except.map] at read
    | ok entries =>
      obtain rfl : entries = metadata := by simpa [Decoder.optional, decoded, Except.map] using read
      obtain ⟨inner, -, taken⟩ := bind_ok_iff.mp decoded
      obtain ⟨values, -, taken⟩ := bind_ok_iff.mp taken
      obtain ⟨-, -, taken⟩ := bind_ok_iff.mp taken
      obtain rfl := Except.ok.inj taken
      exact Text.Dictionary.ascending_of_list values
  | _ => cases read

/-- A field that leaves the metadata alone keeps their order. -/
theorem keeps_metadata {β : Type} {name : String} {presence : Json.Presence} {decode : Decoder β}
    {set : Statement → β → Statement}
    (untouched : ∀ statement value, (set statement value).metadata = statement.metadata) :
    (RecordField.ofSetter name presence decode set).Keeps MetadataAscending := by
  refine RecordField.keeps_of_setter ?_
  intro state depth doc value ascending _ metadata declared
  rw [untouched] at declared
  exact ascending metadata declared

theorem ascending_of_record {depth : Nat} {doc : Json.Doc} {statement : Statement}
    (read : record.decode depth doc = .ok statement) : statement.MetadataAscending := by
  refine Json.Record.decode_keeps ?_ (fun metadata declared => by cases declared) read
  have metadata : (RecordField.ofOption "metadata" Decoder.members
      fun (statement : Statement) metadata => { statement with metadata }).Keeps
        MetadataAscending :=
    RecordField.keeps_of_setter fun _ _ _ _ _ decoded => ascending_of_members decoded
  intro field member
  simp only [record, List.mem_cons, List.not_mem_nil, or_false] at member
  rcases member with rfl | rfl | rfl | rfl | rfl | rfl | rfl | rfl | rfl | rfl | rfl | rfl | rfl | rfl
  case inr.inr.inr.inr.inr.inl => exact metadata
  all_goals exact keeps_metadata fun _ _ => rfl

/-- The entity types of a statement that was read from a token stand in ascending order, each one
once. -/
theorem entity_types_ascending {text : String} {statement : Statement}
    (read : ofToken text = .ok statement) : statement.entityTypes.Pairwise (· < ·) := by
  obtain ⟨bytes, claims, -, decoded, -, -, rfl⟩ := of_trimmed_ok_iff.mp read
  obtain ⟨doc, recorded⟩ := Json.doc_of_decode_text decoded
  have ascending := ascending_of_record recorded
  unfold entityTypes
  cases declared : claims.metadata with
  | none => exact List.Pairwise.nil
  | some metadata => exact ascending metadata declared

end Statement

end TrustFederation
