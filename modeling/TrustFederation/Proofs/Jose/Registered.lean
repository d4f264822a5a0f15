import TrustFederation.Jose.RegisteredClaims
import TrustFederation.Proofs.Json.Values
import TrustFederation.Proofs.Outcomes
/-!
# Which registered claims can be read

The registered claims of a payload are passed over one by one, and two of the expectations with which
they are read are not met by every value: a time must have nothing in it, and the subject must be no
list and no object at all. The issuer and the audience, and whatever is not registered, may be
anything. The values of the claims are not compared with anything.
-/
namespace TrustFederation.Json

/-- A value with nothing in it: no list and no object, unless it is empty. -/
def Flat : Json → Prop
  | .array (_ :: _) => False
  | .object (_ :: _) => False
  | _ => True

/-- A value that is no list and no object. -/
def Single : Json → Prop
  | .array _ => False
  | .object _ => False
  | _ => True

end TrustFederation.Json

namespace TrustFederation.Jose.RegisteredClaims

open Json (Flat Record RecordField Single toDoc toDocMembers)
open Text (Dictionary)

/-- A claim can be passed over. -/
structure Passable (name : String) (value : Json) : Prop where
  time : name = "exp" ∨ name = "nbf" → Flat value
  subject : name = "sub" → Single value

/-- All claims can be passed over. -/
def Readable (members : List (String × Json)) : Prop :=
  ∀ member ∈ members, Passable member.1 member.2

theorem skip_time_ok_iff {separator : Json.Fault} {value : Json} :
    skipTime separator value.toDoc = .ok () ↔ Flat value := by
  rcases value with _ | _ | _ | _ | ⟨_ | ⟨item, items⟩⟩ | ⟨_ | ⟨member, members⟩⟩ <;>
    simp [toDoc, Json.toDocs, toDocMembers, skipTime, Flat]

theorem skip_name_ok_iff {separator : Json.Fault} {value : Json} :
    skipName separator value.toDoc = .ok () ↔ Single value := by
  cases value <;> simp [toDoc, skipName, Single]

theorem passable_of_time {name : String} (time : name = "exp" ∨ name = "nbf") {value : Json} :
    Passable name value ↔ Flat value := by
  refine ⟨fun passable => passable.time time, fun flat => ⟨fun _ => flat, ?_⟩⟩
  rintro rfl
  simp at time

theorem passable_of_subject {value : Json} : Passable "sub" value ↔ Single value :=
  ⟨fun passable => passable.subject rfl, fun single => ⟨by simp, fun _ => single⟩⟩

theorem passable_of_other {name : String} (other : name ∉ ["exp", "nbf", "sub"]) (value : Json) :
    Passable name value := by
  simp only [List.mem_cons, List.not_mem_nil, or_false, not_or] at other
  exact ⟨fun time => absurd time (not_or.mpr ⟨other.1, other.2.1⟩),
    fun subject => absurd subject other.2.2⟩

/-- A name is that of no field, and then its value may be anything, or it is that of one field,
which passes over the values that it can. -/
theorem field_of_name (separator : Json.Fault) (name : String) :
    ((record separator).fields.find? (·.answersTo name) = none ∧ ∀ value, Passable name value) ∨
      ∃ field, (record separator).fields.find? (·.answersTo name) = some field ∧
        field.name = name ∧
        ∀ depth value, field.read depth value.toDoc () = .ok () ↔ Passable name value := by
  by_cases registered : name ∈ ["exp", "nbf", "sub", "iss", "aud"]
  · right
    simp only [List.mem_cons, List.not_mem_nil, or_false] at registered
    rcases registered with rfl | rfl | rfl | rfl | rfl
    · exact ⟨_, rfl, rfl, fun _ _ => skip_time_ok_iff.trans (passable_of_time (.inl rfl)).symm⟩
    · exact ⟨_, rfl, rfl, fun _ _ => skip_time_ok_iff.trans (passable_of_time (.inr rfl)).symm⟩
    · exact ⟨_, rfl, rfl, fun _ _ => skip_name_ok_iff.trans passable_of_subject.symm⟩
    · exact ⟨_, rfl, rfl, fun _ value => iff_of_true rfl (passable_of_other (by decide) value)⟩
    · exact ⟨_, rfl, rfl, fun _ value => iff_of_true rfl (passable_of_other (by decide) value)⟩
  · left
    simp only [List.mem_cons, List.not_mem_nil, or_false, not_or] at registered
    obtain ⟨expiry, start, subject, issuer, audience⟩ := registered
    constructor
    · simp [record, claim, RecordField.answersTo, Ne.symm expiry, Ne.symm start, Ne.symm subject,
        Ne.symm issuer, Ne.symm audience]
    · exact passable_of_other (by simp [expiry, start, subject])

/-- Members in the order of their names are read exactly if all claims can be passed over, because no
name stands twice. -/
theorem read_members_ok_iff (separator : Json.Fault) (depth : Nat) {members : List (String × Json)}
    (ordered : Dictionary.Ascending members) (given : List String)
    (fresh : ∀ member ∈ members, member.1 ∉ given) :
    (∃ result, (record separator).readMembers depth given () (toDocMembers members) = .ok result) ↔
      Readable members := by
  induction members generalizing given with
  | nil => exact iff_of_true ⟨_, rfl⟩ fun member none => absurd none List.not_mem_nil
  | cons member members ih =>
    obtain ⟨name, value⟩ := member
    have later : Dictionary.Ascending members := (List.pairwise_cons.mp ordered).2
    have others : ∀ member ∈ members, member.1 ≠ name := fun member among =>
      ((List.pairwise_cons.mp ordered).1 member.1 (List.mem_map_of_mem among)).ne'
    have fresh_later : ∀ member ∈ members, member.1 ∉ given := fun member among =>
      fresh member (List.mem_cons_of_mem _ among)
    have all : Readable ((name, value) :: members) ↔ Passable name value ∧ Readable members :=
      List.forall_mem_cons
    rw [all, toDocMembers, Record.readMembers]
    rcases field_of_name separator name with ⟨none, any⟩ | ⟨field, found, same, reads⟩
    · simp only [Json.readable, bind, Except.bind, none, Json.skip_fault_of_doc]
      rw [ih later given fresh_later]
      exact (and_iff_right (any value)).symm
    · have unused : given.contains field.name = false := by
        rw [same]
        simpa using fresh (name, value) List.mem_cons_self
      have next := ih later (field.name :: given) (by
        intro member among
        rw [same, List.mem_cons, not_or]
        exact ⟨others member among, fresh_later member among⟩)
      simp only [Json.readable, bind, Except.bind, found, unused, Bool.false_eq_true, if_false]
      rw [← reads depth value, ← next]
      cases field.read depth value.toDoc () with
      | error complaint => simp
      | ok passed => simp

/-- The claims of an object whose members stand in order are read exactly if all of them can be
passed over. -/
theorem decode_ok_iff {members : List (String × Json)} (ordered : Dictionary.Ascending members) :
    decode Json.fullDepth (Json.object members).toDoc = .ok () ↔ Readable members := by
  rw [← read_members_ok_iff .objectSeparator 127 ordered [] fun _ _ => List.not_mem_nil]
  show ((record .objectSeparator).readMembers 127 [] () (toDocMembers members) >>= _) = _ ↔ _
  rw [bind_ok_iff]
  refine exists_congr fun result => and_iff_left ?_
  rfl

end TrustFederation.Jose.RegisteredClaims
