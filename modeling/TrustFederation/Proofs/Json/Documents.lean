import TrustFederation.Json.Decode
import TrustFederation.Proofs.Json.Numerals
import TrustFederation.Proofs.Json.Strings
/-!
# Values are read as they were written

The compact text of a value is read as the document of the value, whatever follows, as long as a
number at its end does not go on. The values are those whose numbers are integers; how deep they are
nested does not matter here, because a document is read with as many nested calls as the text has
bytes. Texts with blanks, which are read as well, are never written.
-/
namespace TrustFederation.Json

open Jose (bytesOf bytes_of_append)

/-- A value all of whose numbers are integers. -/
inductive Integral : Json → Prop where
  | null : Integral .null
  | bool (value : Bool) : Integral (.bool value)
  | number {value : Int} (fits : Fits value) : Integral (.number (.integer value))
  | text (value : String) : Integral (.text value)
  | array {items : List Json} (each : ∀ item ∈ items, Integral item) : Integral (.array items)
  | object {members : List (String × Json)} (each : ∀ member ∈ members, Integral member.2) :
    Integral (.object members)

/-- Nothing is skipped where no blank stands. -/
theorem skip_space_of_solid (first : UInt8) (solid : isSpace first = false) (more : List UInt8) :
    skipSpace (first :: more) = first :: more :=
  List.dropWhile_cons_of_neg (by simp [solid])

/-- Written bytes are read as a document. They do not begin with a blank or with what closes a
list. -/
structure Reads (written : List UInt8) (doc : Doc) : Prop where
  opening : ∃ first more, written = first :: more ∧ isSpace first = false ∧ first ≠ 93
  read : ∀ bound rest, written.length ≤ bound → EndsNumber rest →
    Doc.readFrom bound (written ++ rest) = (doc, some rest)

namespace Reads

/-- The bound matters only to the nested calls. -/
theorem of_opening (first : UInt8) (more : List UInt8) {doc : Doc}
    (solid : isSpace first = false) (other : first ≠ 93)
    (read : ∀ bound rest, more.length ≤ bound → EndsNumber rest →
      Doc.readFrom (bound + 1) (first :: (more ++ rest)) = (doc, some rest)) :
    Reads (first :: more) doc := by
  refine ⟨⟨first, more, rfl, solid, other⟩, fun bound rest enough ends => ?_⟩
  cases bound with
  | zero => cases enough
  | succ bound => exact read bound rest (Nat.le_of_succ_le_succ enough) ends

/-! ## Values that hold no others -/

theorem null : Reads (bytesOf "null") .null :=
  of_opening 110 [117, 108, 108] rfl (by decide) fun _ _ _ _ => rfl

theorem bool : ∀ value, Reads (bytesOf (Json.bool value).compact) (.bool value)
  | true => of_opening 116 [114, 117, 101] rfl (by decide) fun _ _ _ _ => rfl
  | false =>
    of_opening 102 [97, 108, 115, 101] rfl (by decide) fun _ _ _ _ => rfl

theorem text (value : String) : Reads (bytesOf (stringText value)) (.string (.ok value)) := by
  rw [bytes_of_string_text]
  refine of_opening _ _ rfl (by decide) fun bound rest _ _ => ?_
  rw [List.append_assoc]
  exact of_string_written value rest

/-- What begins a number begins nothing else. -/
theorem opening_of_number {first : UInt8} (number : first = 45 ∨ isDigit first = true) :
    isSpace first = false ∧ first ∉ [91, 93, 123, 34, 110, 116, 102] := by
  simp only [isDigit, Bool.and_eq_true, decide_eq_true_eq, ← UInt8.toNat_inj,
    UInt8.le_iff_toNat_le, UInt8.reduceToNat] at number
  simp only [isSpace, Bool.or_eq_false_iff, beq_eq_false_iff_ne, ne_eq, List.mem_cons,
    List.not_mem_nil, or_false, ← UInt8.toNat_inj, UInt8.reduceToNat]
  omega

theorem number {value : Int} (fits : Fits value) :
    Reads (bytesOf (toString value)) (.number (.ok (.integer value))) := by
  have opening : ∃ first more, bytesOf (toString value) = first :: more ∧
      (first = 45 ∨ isDigit first = true) := by
    obtain ⟨first, more, same, digit⟩ := first_digit value.natAbs
    rw [bytes_of_int, same]
    by_cases negative : value < 0
    · exact ⟨45, first :: more, by simp [negative], .inl rfl⟩
    · exact ⟨first, more, by simp [negative], .inr digit⟩
  obtain ⟨first, more, same, number⟩ := opening
  obtain ⟨solid, others⟩ := opening_of_number number
  simp only [List.mem_cons, List.not_mem_nil, or_false, not_or] at others
  rw [same]
  refine of_opening _ _ solid others.2.1 fun bound rest _ ends => ?_
  have read := of_numeral_written fits ends
  rw [same, List.cons_append] at read
  rw [Doc.readFrom, skip_space_of_solid _ solid]
  simp only [others, number, if_true, if_false, read]

end Reads

/-! ## Lists -/

theorem ends_of_items (items : List Json) (rest : List UInt8) :
    EndsNumber (bytesOf (compactItems items) ++ 93 :: rest) := by
  cases items with
  | nil => exact ⟨rfl, by decide, by decide, by decide⟩
  | cons item items =>
    rw [compactItems, bytes_of_append, bytes_of_append]
    exact ⟨rfl, by decide, by decide, by decide⟩

/-- The items of a list are read one after the other, up to the close. -/
theorem read_items_written {first : Json} (opens : Reads (bytesOf first.compact) first.toDoc)
    {items : List Json} (each : ∀ item ∈ items, Reads (bytesOf item.compact) item.toDoc)
    (bound : Nat) (rest : List UInt8)
    (enough : (bytesOf first.compact ++ bytesOf (compactItems items)).length < bound) :
    Doc.readItems bound (bytesOf first.compact ++ (bytesOf (compactItems items) ++ 93 :: rest)) =
      (first.toDoc :: toDocs items, none, some rest) := by
  induction items generalizing first bound with
  | nil =>
    obtain ⟨bound, rfl⟩ := Nat.exists_eq_add_one_of_ne_zero (Nat.ne_zero_of_lt enough)
    rw [List.length_append] at enough
    rw [Doc.readItems, opens.read bound _ (by omega) (ends_of_items [] rest)]
    rfl
  | cons item items ih =>
    obtain ⟨bound, rfl⟩ := Nat.exists_eq_add_one_of_ne_zero (Nat.ne_zero_of_lt enough)
    have next := each item List.mem_cons_self
    obtain ⟨byte, more, same, solid, goes_on⟩ := next.opening
    have written : bytesOf (compactItems (item :: items)) =
        44 :: (bytesOf item.compact ++ bytesOf (compactItems items)) := by
      rw [compactItems, bytes_of_append, bytes_of_append, List.append_assoc]
      rfl
    have later := ih next (fun other member => each other (List.mem_cons_of_mem _ member)) bound
      (by
        rw [written, List.length_append, List.length_cons] at enough
        omega)
    rw [List.length_append] at enough
    rw [Doc.readItems, opens.read bound _ (by omega) (ends_of_items _ rest), written]
    rw [same, List.cons_append] at later
    simp only [List.cons_append, List.append_assoc, same, skip_space_of_solid _ solid, goes_on, later,
      skip_space_of_solid 44 rfl, if_false, if_true, toDocs,
      show (44 : UInt8) ≠ 93 by decide]

theorem Reads.array : ∀ {items : List Json},
    (∀ item ∈ items, Reads (bytesOf item.compact) item.toDoc) →
      Reads (bytesOf (Json.array items).compact) (Json.array items).toDoc
  | [], _ => of_opening 91 [93] rfl (by decide) fun _ _ _ _ => rfl
  | first :: items, each => by
    have opens := each first List.mem_cons_self
    obtain ⟨byte, more, same, solid, goes_on⟩ := opens.opening
    have written : bytesOf (Json.array (first :: items)).compact =
        91 :: (bytesOf first.compact ++ (bytesOf (compactItems items) ++ [93])) := by
      rw [compact, bytes_of_append, bytes_of_append, bytes_of_append, List.append_assoc,
        List.append_assoc]
      rfl
    rw [written]
    refine of_opening _ _ rfl (by decide) fun bound rest enough _ => ?_
    have read := read_items_written opens (fun item member => each item (.tail _ member)) bound rest
      (by
        rw [← List.append_assoc, List.length_append] at enough
        exact enough)
    rw [same, List.cons_append] at read
    rw [Doc.readFrom, skip_space_of_solid _ rfl]
    simp only [if_true, List.append_assoc, same, List.cons_append, List.nil_append,
      skip_space_of_solid _ solid, goes_on, if_false, read, toDoc, toDocs]

/-! ## Objects -/

theorem ends_of_members (members : List (String × Json)) (rest : List UInt8) :
    EndsNumber (bytesOf (compactMembers members) ++ 125 :: rest) := by
  cases members with
  | nil => exact ⟨rfl, by decide, by decide, by decide⟩
  | cons member members =>
    rw [compactMembers, bytes_of_append, bytes_of_append, bytes_of_append, bytes_of_append]
    exact ⟨rfl, by decide, by decide, by decide⟩

/-- The bytes of a member: its name, a colon and its value. -/
def memberBytes (member : String × Json) : List UInt8 :=
  bytesOf (stringText member.1) ++ 58 :: bytesOf member.2.compact

/-- A member is written with its name first. -/
theorem member_bytes (name : String) (value : Json) :
    memberBytes (name, value) =
      34 :: ((name.toList.flatMap escapeChar).flatMap String.utf8EncodeChar ++
        34 :: 58 :: bytesOf value.compact) := by
  rw [memberBytes, bytes_of_string_text, List.cons_append, List.append_assoc]
  rfl

/-- The members of an object are read one after the other, up to the close. -/
theorem read_members_written (name : String) {value : Json}
    (opens : Reads (bytesOf value.compact) value.toDoc) {members : List (String × Json)}
    (each : ∀ member ∈ members, Reads (bytesOf member.2.compact) member.2.toDoc)
    (bound : Nat) (rest : List UInt8)
    (enough : (memberBytes (name, value) ++ bytesOf (compactMembers members)).length < bound) :
    Doc.readMembers bound
        (memberBytes (name, value) ++ (bytesOf (compactMembers members) ++ 125 :: rest)) =
      ((.ok name, value.toDoc) :: toDocMembers members, none, some rest) := by
  induction members generalizing name value bound with
  | nil =>
    obtain ⟨bound, rfl⟩ := Nat.exists_eq_add_one_of_ne_zero (Nat.ne_zero_of_lt enough)
    rw [member_bytes] at enough ⊢
    simp only [List.length_append, List.length_cons] at enough
    have read := opens.read bound _ (by omega) (ends_of_members [] rest)
    rw [Doc.readMembers.eq_def]
    simp only [List.cons_append, List.append_assoc, of_string_written, ne_eq, not_true_eq_false,
      if_false, skip_space_of_solid 58 rfl, read]
    rfl
  | cons member members ih =>
    obtain ⟨bound, rfl⟩ := Nat.exists_eq_add_one_of_ne_zero (Nat.ne_zero_of_lt enough)
    obtain ⟨next, held⟩ := member
    have written : bytesOf (compactMembers ((next, held) :: members)) =
        44 :: (memberBytes (next, held) ++ bytesOf (compactMembers members)) := by
      rw [compactMembers, bytes_of_append, bytes_of_append, bytes_of_append, bytes_of_append]
      simp only [memberBytes, List.append_assoc, List.cons_append]
      rfl
    have opens_next : Reads (bytesOf held.compact) held.toDoc :=
      each (next, held) List.mem_cons_self
    have later := ih next opens_next
      (fun other among => each other (List.mem_cons_of_mem _ among)) bound (by
        rw [written, List.length_append, List.length_cons] at enough
        omega)
    have ends := ends_of_members ((next, held) :: members) rest
    rw [member_bytes] at enough ⊢
    simp only [List.length_append, List.length_cons] at enough
    have read := opens.read bound _ (by omega) ends
    rw [written] at read ⊢
    simp only [member_bytes, List.cons_append, List.append_assoc] at read later ⊢
    rw [Doc.readMembers.eq_def]
    simp only [of_string_written, ne_eq, not_true_eq_false, if_false,
      skip_space_of_solid 58 rfl, read, skip_space_of_solid 44 rfl,
      show (44 : UInt8) ≠ 125 by decide, if_true, skip_space_of_solid 34 rfl,
      show (34 : UInt8) ≠ 125 by decide, later, toDocMembers]

theorem Reads.object : ∀ {members : List (String × Json)},
    (∀ member ∈ members, Reads (bytesOf member.2.compact) member.2.toDoc) →
      Reads (bytesOf (Json.object members).compact) (Json.object members).toDoc
  | [], _ => of_opening 123 [125] rfl (by decide) fun _ _ _ _ => rfl
  | (name, value) :: members, each => by
    have written : bytesOf (Json.object ((name, value) :: members)).compact =
        123 :: (memberBytes (name, value) ++ (bytesOf (compactMembers members) ++ [125])) := by
      rw [compact, bytes_of_append, bytes_of_append, bytes_of_append, bytes_of_append,
        bytes_of_append]
      simp only [memberBytes, List.append_assoc, List.cons_append]
      rfl
    rw [written]
    refine of_opening _ _ rfl (by decide) fun bound rest enough _ => ?_
    have read := read_members_written name (each (name, value) List.mem_cons_self)
      (fun member among => each member (.tail _ among)) bound rest (by
        rw [← List.append_assoc, List.length_append] at enough
        exact enough)
    rw [Doc.readFrom, skip_space_of_solid _ rfl]
    simp only [member_bytes, List.cons_append, List.append_assoc, List.nil_append] at read ⊢
    simp only [show (123 : UInt8) ≠ 91 by decide, if_false, if_true,
      skip_space_of_solid 34 rfl, show (34 : UInt8) ≠ 125 by decide, read, toDoc,
      toDocMembers]

/-! ## Values -/

/-- A value whose numbers are integers is read as it was written. -/
theorem Integral.reads {value : Json} (integral : Integral value) :
    Reads (bytesOf value.compact) value.toDoc := by
  induction integral with
  | null => exact Reads.null
  | bool value => exact Reads.bool value
  | number fits => exact Reads.number fits
  | text value => exact Reads.text value
  | array each ih => exact Reads.array ih
  | object each ih => exact Reads.object ih

/-- What is asked of the text of a value is asked of its document, and nothing stands behind it. -/
theorem decode_text_written {α : Type} (decode : Decoder α) {value : Json}
    (integral : Integral value) :
    decodeText decode (bytesOf value.compact) = decode fullDepth value.toDoc := by
  have read := integral.reads.read (2 * (bytesOf value.compact).length + 2) [] (by omega) trivial
  rw [List.append_nil] at read
  rw [decodeText, read]
  exact bind_pure (decode fullDepth value.toDoc)

end TrustFederation.Json
