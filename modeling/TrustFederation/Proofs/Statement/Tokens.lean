import Mathlib.Data.List.DropRight
import TrustFederation.Proofs.Jose.Signatures
import TrustFederation.Proofs.Outcomes
import TrustFederation.Statement.Reader
/-!
# A statement is what its token says

A statement keeps the token that it was read from, without the blanks around it. Reading this
token again gives the same statement, so a list of statements and the list of their tokens hold
the same. Signatures are not looked at.
-/
namespace TrustFederation

namespace Text

/-- Stripping what was stripped changes nothing. -/
theorem strip_list_strip_list {α : Type} (test : α → Bool) (members : List α) :
    stripList test (stripList test members) = stripList test members := by
  have ends (list : List α) : stripList test list = (list.dropWhile test).rdropWhile test := rfl
  have starts_clean : (stripList test members).dropWhile test = stripList test members := by
    rw [List.dropWhile_eq_self_iff]
    intro nonempty
    have start : stripList test members <+: members.dropWhile test :=
      List.rdropWhile_prefix test _
    have inside : 0 < (members.dropWhile test).length :=
      Nat.lt_of_lt_of_le nonempty start.length_le
    rw [start.getElem nonempty]
    exact List.dropWhile_get_zero_not test members inside
  rw [ends (stripList test members), starts_clean, ends members]
  exact List.rdropWhile_idempotent test _

/-- Stripping takes away what stands around clean members. -/
theorem strip_list_between {α : Type} {test : α → Bool} {before members after : List α}
    (front : ∀ member ∈ before, test member = true)
    (clean : ∀ member ∈ members, test member = false)
    (back : ∀ member ∈ after, test member = true) :
    stripList test (before ++ members ++ after) = members := by
  cases members with
  | nil =>
    have all : (before ++ [] ++ after).dropWhile test = [] := by
      rw [List.dropWhile_eq_nil_iff]
      simpa [or_imp, forall_and] using ⟨front, back⟩
    rw [stripList, all]
    rfl
  | cons first rest =>
    have start : (before ++ first :: rest ++ after).dropWhile test = first :: rest ++ after := by
      rw [List.append_assoc, List.dropWhile_append_of_pos front, List.cons_append,
        List.dropWhile_cons_of_neg (by simp [clean first])]
    rw [stripList, start, List.reverse_append,
      List.dropWhile_append_of_pos (by simpa using back)]
    have alone := stripList_of_clean clean
    rw [stripList, List.dropWhile_cons_of_neg (by simp [clean first])] at alone
    exact alone

/-- Trimming takes away the blanks around a text without blanks. -/
theorem trim_between {before text after : String} (front : before.toList.all isBlank = true)
    (clean : ∀ letter ∈ text.toList, isBlank letter = false)
    (back : after.toList.all isBlank = true) : trim (before ++ text ++ after) = text := by
  rw [trim, String.toList_append, String.toList_append,
    strip_list_between (List.all_eq_true.mp front) clean (List.all_eq_true.mp back),
    String.ofList_toList]

theorem trim_trim (text : String) : trim (trim text) = trim text := by
  simp only [trim, String.toList_ofList, strip_list_strip_list]

end Text

namespace Statement

/-- A statement is read from a token without blanks around it exactly if the payload holds its
claims, and these name an issuer and a subject. -/
theorem of_trimmed_ok_iff {token : String} {statement : Statement} :
    ofTrimmed token = .ok statement ↔
      ∃ bytes claims, Jose.Token.payload token = .ok bytes ∧
        Json.decodeText record.decode bytes = .ok claims ∧ claims.issuer.isEmpty = false ∧
        claims.subject.isEmpty = false ∧ statement = { claims with token } := by
  constructor
  · intro read
    obtain ⟨bytes, taken, decoding⟩ := bind_ok_iff.mp read
    obtain ⟨claims, decoded, named⟩ := bind_ok_iff.mp decoding
    split at named
    · cases named
    case isFalse present =>
      cases named
      simp only [Bool.or_eq_true, not_or, Bool.not_eq_true] at present
      exact ⟨bytes, claims, map_error_ok_iff.mp taken, map_error_ok_iff.mp decoded, present.1,
        present.2, rfl⟩
  · rintro ⟨bytes, claims, taken, decoded, issued, about, rfl⟩
    refine bind_ok_iff.mpr ⟨bytes, map_error_ok_iff.mpr taken, bind_ok_iff.mpr
      ⟨claims, map_error_ok_iff.mpr decoded, ?_⟩⟩
    rw [issued, about]
    rfl

theorem token_of_trimmed {token : String} {statement : Statement}
    (read : ofTrimmed token = .ok statement) : statement.token = token := by
  obtain ⟨bytes, claims, -, -, -, -, rfl⟩ := of_trimmed_ok_iff.mp read
  rfl

/-- A statement that was read from a token names its issuer. -/
theorem issuer_of_token {token : String} {statement : Statement}
    (read : ofToken token = .ok statement) : statement.issuer.isEmpty = false := by
  obtain ⟨bytes, claims, -, -, issued, -, rfl⟩ := of_trimmed_ok_iff.mp read
  exact issued

/-- A statement that was read from some token is the one in its own token. -/
theorem of_token_of_token {token : String} {statement : Statement}
    (read : ofToken token = .ok statement) : ofToken statement.token = .ok statement := by
  have kept : statement.token = Text.trim token := token_of_trimmed read
  rw [kept, ofToken, Text.trim_trim]
  exact read

/-- The token that a signer makes of claims holds the statement that these are read as. -/
theorem of_token_of_sign {signer : Jose.Token.Signer} {claims : Json} {type token : String}
    {statement : Statement} (made : signer.sign claims type = .ok token)
    (read : Json.decodeText record.decode (Jose.bytesOf claims.compact) = .ok statement)
    (issued : statement.issuer.isEmpty = false) (about : statement.subject.isEmpty = false) :
    ofToken token = .ok { statement with token } := by
  rw [ofToken, Jose.Token.trim_of_sign made]
  exact of_trimmed_ok_iff.mpr
    ⟨_, statement, Jose.Token.payload_of_sign made, read, issued, about, rfl⟩

end Statement

end TrustFederation
