import TrustFederation.Proofs.Json.Documents
import TrustFederation.Proofs.Outcomes
import TrustFederation.Proofs.Text.Dictionaries
/-!
# Values come back

What a value is written as is read as this value again, if its members stand in the order of their
names, as they do in every value that was ever read, and if it is not nested deeper than values may
be. A member that is not asked for is skipped without a fault, however deep it is.
-/
namespace TrustFederation.Json

open Jose (bytesOf)
open Text (Dictionary)

/-- A value is nested at most so deep, and all its members stand in the order of their names. -/
inductive Within : Nat → Json → Prop where
  | null {levels : Nat} : Within levels .null
  | bool {levels : Nat} (value : Bool) : Within levels (.bool value)
  | number {levels : Nat} (value : Number) : Within levels (.number value)
  | text {levels : Nat} (value : String) : Within levels (.text value)
  | array {levels : Nat} {items : List Json} (each : ∀ item ∈ items, Within levels item) :
    Within (levels + 1) (.array items)
  | object {levels : Nat} {members : List (String × Json)} (ordered : Dictionary.Ascending members)
    (each : ∀ member ∈ members, Within levels member.2) : Within (levels + 1) (.object members)

theorem Within.ordered {levels : Nat} {members : List (String × Json)}
    (within : Within levels (.object members)) : Dictionary.Ascending members := by
  cases within
  assumption

/-! ## Documents of values -/

theorem enter_ok (levels : Nat) : enter (levels + 2) = .ok (levels + 1) := rfl

theorem item_values_of_docs {depth : Nat} {items : List Json}
    (each : ∀ item ∈ items, Doc.value depth item.toDoc = .ok item) :
    Doc.itemValues depth (toDocs items) = .ok items := by
  induction items with
  | nil => rfl
  | cons item items ih =>
    rw [toDocs, Doc.itemValues, each item List.mem_cons_self,
      ih fun other member => each other (List.mem_cons_of_mem _ member)]
    rfl

theorem member_values_of_docs {depth : Nat} {members : List (String × Json)}
    (each : ∀ member ∈ members, Doc.value depth member.2.toDoc = .ok member.2) :
    Doc.memberValues depth (toDocMembers members) = .ok members := by
  induction members with
  | nil => rfl
  | cons member members ih =>
    rw [toDocMembers, Doc.memberValues, each member List.mem_cons_self,
      ih fun other among => each other (List.mem_cons_of_mem _ among)]
    rfl

/-- One level more than a value has is enough to read it from its document. -/
theorem Within.value_of_doc {levels : Nat} {value : Json} (within : Within levels value) :
    Doc.value (levels + 1) value.toDoc = .ok value := by
  induction within with
  | null => rfl
  | bool value => rfl
  | number value => rfl
  | text value => rfl
  | array each ih =>
    rw [toDoc, Doc.value, enter_ok]
    simp only [bind, Except.bind, item_values_of_docs ih, closeList]
    rfl
  | object ordered each ih =>
    rw [toDoc, Doc.value, enter_ok]
    simp only [bind, Except.bind, member_values_of_docs ih, closeObject, ofMembers,
      ordered.of_list_eq]
    rfl

mutual

/-- There is no fault in the document of a value. -/
theorem skip_fault_of_doc : ∀ value : Json, value.toDoc.skipFault? = none
  | .null => rfl
  | .bool _ => rfl
  | .number _ => rfl
  | .text _ => rfl
  | .array items => by
    rw [toDoc, Doc.skipFault?, skip_fault_of_docs items]
    rfl
  | .object members => by
    rw [toDoc, Doc.skipFault?, skip_fault_of_member_docs members]
    rfl

theorem skip_fault_of_docs : ∀ items : List Json, Doc.skipFaultOfItems? (toDocs items) = none
  | [] => rfl
  | item :: rest => by
    rw [toDocs, Doc.skipFaultOfItems?, skip_fault_of_doc item]
    exact skip_fault_of_docs rest

theorem skip_fault_of_member_docs :
    ∀ members : List (String × Json), Doc.skipFaultOfMembers? (toDocMembers members) = none
  | [] => rfl
  | (_, value) :: rest => by
    rw [toDocMembers, Doc.skipFaultOfMembers?, skip_fault_of_doc value]
    exact skip_fault_of_member_docs rest

end

mutual

/-- A value that is read is not nested deeper than the budget allows, and its members stand in
order. -/
theorem Within.of_doc : ∀ {levels : Nat} (doc : Doc) {value : Json},
    Doc.value (levels + 1) doc = .ok value → Within levels value
  | _, .null, _, read => by
    cases read
    exact .null
  | _, .bool _, _, read => by
    cases read
    exact .bool _
  | _, .number found, _, read => by
    cases found <;> cases read
    exact .number _
  | _, .string found, _, read => by
    cases found <;> cases read
    exact .text _
  | levels, .list items stop, value, read => by
    cases levels with
    | zero => cases read
    | succ levels =>
      change (Doc.itemValues (levels + 1) items >>= _) = _ at read
      obtain ⟨values, found, read⟩ := bind_ok_iff.mp read
      obtain ⟨_, -, read⟩ := bind_ok_iff.mp read
      cases read
      exact .array (Within.of_docs items found)
  | levels, .object members stop, value, read => by
    cases levels with
    | zero => cases read
    | succ levels =>
      change (Doc.memberValues (levels + 1) members >>= _) = _ at read
      obtain ⟨values, found, read⟩ := bind_ok_iff.mp read
      obtain ⟨_, -, read⟩ := bind_ok_iff.mp read
      cases read
      exact .object (Dictionary.ascending_of_list values) fun entry member =>
        Within.of_member_docs members found entry (Dictionary.mem_of_mem_of_list member)
  | _, .broken _ _, _, read => by cases read

theorem Within.of_docs : ∀ {levels : Nat} (items : List Doc) {values : List Json},
    Doc.itemValues (levels + 1) items = .ok values → ∀ value ∈ values, Within levels value
  | _, [], _, read => by
    cases read
    exact fun value none => absurd none List.not_mem_nil
  | _, item :: rest, _, read => by
    obtain ⟨first, found, read⟩ := bind_ok_iff.mp read
    obtain ⟨others, later, read⟩ := bind_ok_iff.mp read
    cases read
    exact List.forall_mem_cons.mpr ⟨Within.of_doc item found, Within.of_docs rest later⟩

theorem Within.of_member_docs : ∀ {levels : Nat} (members : List (Except Fault String × Doc))
    {values : List (String × Json)}, Doc.memberValues (levels + 1) members = .ok values →
      ∀ entry ∈ values, Within levels entry.2
  | _, [], _, read => by
    cases read
    exact fun entry none => absurd none List.not_mem_nil
  | _, (name, member) :: rest, _, read => by
    obtain ⟨_, -, read⟩ := bind_ok_iff.mp read
    obtain ⟨first, found, read⟩ := bind_ok_iff.mp read
    obtain ⟨others, later, read⟩ := bind_ok_iff.mp read
    cases read
    exact List.forall_mem_cons.mpr ⟨Within.of_doc member found, Within.of_member_docs rest later⟩

end

/-! ## Texts of values -/

/-- Every value that was read from a text is nested at most 127 deep, with its members in order. -/
theorem within_of_decode_text {text : List UInt8} {value : Json}
    (read : decodeText Decoder.value text = .ok value) : Within 127 value := by
  rw [decodeText] at read
  generalize Doc.readFrom (2 * text.length + 2) text = outcome at read
  obtain ⟨doc, rest⟩ := outcome
  obtain ⟨found, decoded, ended⟩ := bind_ok_iff.mp read
  have same : found = value := by
    cases rest with
    | none => exact Except.ok.inj ended
    | some later =>
      simp only at ended
      split at ended
      · exact Except.ok.inj ended
      · cases ended
  rw [← same]
  exact Within.of_doc doc decoded

/-- A value with integers for numbers that is nested at most 127 deep is read as it was written. -/
theorem decode_value_written {value : Json} (integral : Integral value)
    (within : Within 127 value) :
    decodeText Decoder.value (bytesOf value.compact) = .ok value := by
  rw [decode_text_written Decoder.value integral]
  exact within.value_of_doc

end TrustFederation.Json
