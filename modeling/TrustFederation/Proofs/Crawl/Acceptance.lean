import TrustFederation.Crawl.Execute
import TrustFederation.Proofs.Outcomes
/-!
# What is accepted from a client

A step that asks for a statement goes on with it only if it is about what was asked for, and attaches
it only if it has a key. These are the only reasons why an answer is of no use.
-/
namespace TrustFederation.Crawl

open Text (sameAscii)
open TrustFederation.Tree (NodeKey separator)

section

variable (answer : Except Failure Statement) (issuer subject : String)

/-- A client answered with a statement about what was asked for, up to the case of ASCII letters. -/
structure Accepted (statement : Statement) : Prop where
  received : answer = .ok statement
  issuer : sameAscii statement.issuer issuer = true
  subject : sameAscii statement.subject subject = true

/-- A client failed, or answered with a statement about something else. -/
inductive Unaccepted : Failure → Prop where
  | unanswered {failure : Failure} (failed : answer = .error failure) : Unaccepted failure
  | mismatched {statement : Statement} (received : answer = .ok statement)
      (other : sameAscii statement.issuer issuer = false ∨
        sameAscii statement.subject subject = false) :
      Unaccepted (.invalidStatement (s!"Expected statement {issuer} -> {subject}, " ++
        s!"got {statement.issuer} -> {statement.subject}"))

end

/-- A statement has no key, for its issuer or its subject contains an exclamation mark. -/
inductive Keyless (statement : Statement) : Failure → Prop where
  | separated (held : separator ∈ statement.issuer.toList ∨ separator ∈ statement.subject.toList) :
      Keyless statement (.invalidRequest
        s!"Node key parts may not contain '!': {statement.issuer} / {statement.subject}")

/-- A statement passes the check exactly when it is about what was asked for. -/
theorem check_statement_ok_iff (statement : Statement) (issuer subject : String) :
    checkStatement statement issuer subject = .ok () ↔
      sameAscii statement.issuer issuer = true ∧ sameAscii statement.subject subject = true := by
  unfold checkStatement
  by_cases same : (sameAscii statement.issuer issuer && sameAscii statement.subject subject) = true
  · rw [if_pos same]
    simpa using same
  · rw [if_neg same]
    simpa using same

variable {σ : Type} {issuer subject : String}

theorem check_statement_error {statement : Statement}
    (other : sameAscii statement.issuer issuer = false ∨
      sameAscii statement.subject subject = false) :
    checkStatement statement issuer subject =
      .error (.invalidStatement (s!"Expected statement {issuer} -> {subject}, " ++
        s!"got {statement.issuer} -> {statement.subject}")) :=
  if_neg (Bool.eq_false_iff.mp (Bool.and_eq_false_iff.mpr other))

theorem check_comes {answer : Except Failure Statement} {statement : Statement}
    (received : answer = .ok statement) (issuer subject : String) :
    Comes (Unaccepted answer issuer subject) (fun _ => Accepted answer issuer subject statement)
      (checkStatement statement issuer subject) := by
  cases same : sameAscii statement.issuer issuer && sameAscii statement.subject subject with
  | true =>
    have both := Bool.and_eq_true_iff.mp same
    rw [(check_statement_ok_iff statement issuer subject).mpr both]
    exact .came ⟨received, both.1, both.2⟩
  | false =>
    have other := Bool.and_eq_false_iff.mp same
    rw [check_statement_error other]
    exact .failed (.mismatched received other)

theorem node_key_comes (statement : Statement) :
    Comes (Keyless statement) (fun key => statement.nodeKey = .ok key) statement.nodeKey := by
  cases keyed : statement.nodeKey with
  | ok key => exact .came rfl
  | error failure =>
    unfold Statement.nodeKey NodeKey.ofParts at keyed
    split at keyed
    · cases keyed
    case isFalse held =>
      cases keyed
      have either := Classical.not_and_iff_not_or_not.mp held
      exact .failed (.separated (either.imp Classical.not_not.mp Classical.not_not.mp))

/-- A statement about what was asked for is received, and then the rest is done with it. -/
theorem answer_comes {refused : Failure → Prop} {done : Outcome → Prop}
    (answer : Except Failure Statement × σ) {use : Statement → Except Failure Outcome}
    (unaccepted : ∀ failure, Unaccepted answer.1 issuer subject failure → refused failure)
    (rest : ∀ statement, Accepted answer.1 issuer subject statement →
      Comes refused done (use statement)) :
    Comes refused done (andThen answer fun statement => do
      checkStatement statement issuer subject
      use statement).1 := by
  apply (comes_self answer.1).bind fun failure failed => unaccepted failure (.unanswered failed)
  intro statement received
  apply (check_comes received issuer subject).bind unaccepted
  exact fun _ accepted => rest statement accepted

end TrustFederation.Crawl
