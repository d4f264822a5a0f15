import TrustFederation.Chain.Validation
/-!
# What validation accepts

Validation reports violations; the rules say what a chain must be. Here the rules are stated
on their own, over the positions of a chain, and the absence of violations is shown to be
exactly that every rule holds. Positions count from the leaf. Nothing is said about which
violations are reported when a rule is broken, or in which order.
-/
namespace TrustFederation.Chain

open Jose (KeySet)

/-- The statement was issued, up to the allowed skew, and has not expired. The latest time of
issue stays within the signed numbers of 64 bits. -/
def Timely (now : Int) (statement : Statement) : Prop :=
  statement.issuedAt ≤ min (now + 15) Word.largestSigned ∧ now ≤ statement.expiresAt

/-- The statement verifies under keys that may be missing. -/
def VerifiesUnder (statement : Statement) (keys : Option KeySet) : Prop :=
  ∃ published, keys = some published ∧ statement.verify published = .ok ()

/-- The statement is about its issuer and verifies under its own keys. -/
def SelfSigned (statement : Statement) : Prop :=
  statement.issuer = statement.subject ∧ VerifiesUnder statement statement.keys

/-- The subject of the next statement issued this one, and its keys verify it. -/
def Linked (statement next : Statement) : Prop :=
  statement.issuer = next.subject ∧ VerifiesUnder statement next.keys

/-- A subject keeps to naming constraints: it starts with one of the permitted texts, if there
are any rules on that, and with none of the excluded ones. -/
def Permitted (naming : NamingConstraints) (subject : String) : Prop :=
  (∀ permitted, naming.permitted = some permitted →
    ∃ start ∈ permitted, start.toList <+: subject.toList) ∧
  ∀ excluded, naming.excluded = some excluded →
    ∀ start ∈ excluded, ¬ start.toList <+: subject.toList

/-- The constraints of the statement at a position hold for the chain below it, which begins
with the leaf. A leaf that is a configuration does not count as an intermediate. -/
structure Satisfies (constraints : Constraints) (position : Nat) (leaf : Statement)
    (chain : List Statement) : Prop where
  length : ∀ longest, constraints.maxPathLength = some longest →
    (if leaf.issuer = leaf.subject then position - 1 else position) ≤ longest
  names : ∀ naming, constraints.naming = some naming →
    ∀ lower below, lower < position → chain[lower]? = some below → Permitted naming below.subject
  types : ∀ allowed, constraints.leafEntityTypes = some allowed →
    ∀ entityType ∈ leaf.entityTypes, entityType ≠ Statement.federationEntity →
      entityType ∈ allowed

/-- Whatever the statement declares to be critical is understood. -/
def Understood (statement : Statement) : Prop :=
  (∀ claims, statement.critical = some claims →
    ∀ claim ∈ claims, claim ∈ supportedCriticalClaims) ∧
  ∀ operators, statement.criticalOperators = some operators →
    ∀ operator ∈ operators, operator ∈ supportedPolicyOperators

/-- The rules for a chain, the leaf first, under the trusted keys and at a time. -/
structure Acceptable (trusted : KeySet) (now : Int) (chain : List Statement) : Prop where
  nonempty : chain ≠ []
  timely : ∀ statement ∈ chain, Timely now statement
  leaf : ∀ first, chain.head? = some first → SelfSigned first
  anchor : ∀ last, chain.getLast? = some last →
    SelfSigned last ∧ last.verify trusted = .ok ()
  links : ∀ position statement next, chain[position]? = some statement →
    chain[position + 1]? = some next → Linked statement next
  constrained : ∀ position statement constraints first, 1 ≤ position →
    chain[position]? = some statement → statement.constraints = some constraints →
    chain.head? = some first → Satisfies constraints position first chain
  understood : ∀ statement ∈ chain, Understood statement

/-! ## Times, signatures and links -/

theorem time_violations_nil_iff (now : Int) (index : Nat) (statement : Statement) :
    timeViolations now index statement = [] ↔ Timely now statement := by
  have late (limit issued : Int) (found : Violation) :
      (if limit < issued then [found] else []) = [] ↔ issued ≤ limit := by
    by_cases late : limit < issued
    · simp [late]
    · simp [late, Int.not_lt.mp late]
  unfold timeViolations
  rw [List.append_eq_nil_iff, late, late]
  rfl

theorem verify_self_signed_iff (statement : Statement) :
    statement.verifySelfSigned = .ok () ↔ VerifiesUnder statement statement.keys := by
  unfold Statement.verifySelfSigned VerifiesUnder
  cases statement.keys with
  | none => simp
  | some keys => simp

theorem self_signed_violations_nil_iff (index : Nat) (statement : Statement) :
    selfSignedViolations index statement = [] ↔ SelfSigned statement := by
  unfold selfSignedViolations SelfSigned
  rw [← verify_self_signed_iff]
  by_cases about : statement.issuer = statement.subject
  · cases verified : statement.verifySelfSigned <;>
      simp [Statement.isSelfStatement, about]
  · simp [Statement.isSelfStatement, about]

theorem link_violations_nil_iff (index : Nat) (statement next : Statement) :
    linkViolations index statement next = [] ↔ Linked statement next := by
  unfold linkViolations Linked VerifiesUnder
  by_cases issued : statement.issuer = next.subject
  · cases next.keys with
    | none => simp [issued]
    | some keys => cases verified : statement.verify keys <;> simp [issued, verified]
  · simp [issued]

theorem anchor_violations_nil_iff (trusted : KeySet) (index : Nat) (anchor : Statement) :
    anchorViolations trusted index anchor = [] ↔
      SelfSigned anchor ∧ anchor.verify trusted = .ok () := by
  unfold anchorViolations
  rw [List.append_eq_nil_iff, self_signed_violations_nil_iff]
  cases verified : anchor.verify trusted <;> simp

/-- All links hold exactly when each adjacent pair is linked, wherever the count starts.

Proof: induction over the chain. The first pair sits at position 0, every later pair one
position further on than in the rest. -/
theorem all_link_violations_nil_iff (index : Nat) (chain : List Statement) :
    allLinkViolations index chain = [] ↔
      ∀ position statement next, chain[position]? = some statement →
        chain[position + 1]? = some next → Linked statement next := by
  induction chain generalizing index with
  | nil => simp [allLinkViolations]
  | cons first rest ih =>
    cases rest with
    | nil => simp [allLinkViolations]
    | cons second others =>
      rw [allLinkViolations, List.append_eq_nil_iff, link_violations_nil_iff, ih]
      constructor
      · rintro ⟨here, later⟩ position statement next at_position after
        cases position with
        | zero =>
          obtain rfl : first = statement := by simpa using at_position
          obtain rfl : second = next := by simpa using after
          exact here
        | succ position =>
          exact later position statement next (by simpa using at_position) (by simpa using after)
      · intro linked
        exact ⟨linked 0 first second rfl rfl, fun position statement next at_position after =>
          linked (position + 1) statement next (by simpa using at_position) (by simpa using after)⟩

/-- A list of violations made statement by statement is empty when each part is. -/
theorem flat_map_zip_idx_nil_iff (chain : List Statement)
    (report : Statement × Nat → List Violation) :
    chain.zipIdx.flatMap report = [] ↔
      ∀ position statement, chain[position]? = some statement →
        report (statement, position) = [] := by
  rw [List.flatMap_eq_nil_iff]
  constructor
  · intro silent position statement at_position
    exact silent _ (List.mem_zipIdx_iff_getElem?.mpr at_position)
  · rintro silent ⟨statement, position⟩ member
    exact silent position statement (List.mem_zipIdx_iff_getElem?.mp member)

/-- A property of every position is one of every member. -/
theorem forall_position_iff {α : Type} (members : List α) (property : α → Prop) :
    (∀ (position : Nat) (member : α), members[position]? = some member → property member) ↔
      ∀ member ∈ members, property member := by
  constructor
  · intro every member present
    obtain ⟨position, at_position⟩ := List.mem_iff_getElem?.mp present
    exact every position member at_position
  · intro every position member at_position
    exact every member (List.mem_of_getElem? at_position)

/-- The rule on signatures finds nothing exactly when times, links and both ends are right.
The leaf of a chain of one statement is its anchor, so its own check is not lost. -/
theorem signature_violations_nil_iff (trusted : KeySet) (now : Int) (chain : List Statement) :
    signatureViolations trusted now chain = [] ↔
      chain ≠ [] ∧ (∀ statement ∈ chain, Timely now statement) ∧
      (∀ first, chain.head? = some first → SelfSigned first) ∧
      (∀ last, chain.getLast? = some last → SelfSigned last ∧ last.verify trusted = .ok ()) ∧
      (∀ position statement next, chain[position]? = some statement →
        chain[position + 1]? = some next → Linked statement next) := by
  cases chain with
  | nil => simp [signatureViolations]
  | cons leaf rest =>
    have ending : (leaf :: rest).getLast? = some ((leaf :: rest).getLast (by simp)) :=
      List.getLast?_eq_some_getLast (by simp)
    have times : (∀ statement ∈ leaf :: rest, Timely now statement) ↔
        ∀ (position : Nat) (statement : Statement), (leaf :: rest)[position]? = some statement →
          timeViolations now position statement = [] := by
      rw [← forall_position_iff]
      simp only [time_violations_nil_iff]
    simp only [signatureViolations, ending, List.append_eq_nil_iff, flat_map_zip_idx_nil_iff,
      ← times, all_link_violations_nil_iff, anchor_violations_nil_iff, List.head?_cons,
      Option.some.injEq, forall_eq', ne_eq, reduceCtorEq, not_false_eq_true, true_and]
    cases rest with
    | nil =>
      simp only [List.isEmpty_nil, if_true, List.getLast_singleton]
      constructor
      · rintro ⟨⟨⟨timely, -⟩, links⟩, anchored⟩
        exact ⟨timely, anchored.1, anchored, links⟩
      · rintro ⟨timely, -, anchored, links⟩
        exact ⟨⟨⟨timely, trivial⟩, links⟩, anchored⟩
    | cons second others =>
      simp only [List.isEmpty_cons, Bool.false_eq_true, if_false, self_signed_violations_nil_iff]
      constructor
      · rintro ⟨⟨⟨timely, leaf⟩, links⟩, anchored⟩
        exact ⟨timely, leaf, anchored, links⟩
      · rintro ⟨timely, leaf, anchored, links⟩
        exact ⟨⟨⟨timely, leaf⟩, links⟩, anchored⟩

/-! ## Constraints -/

theorem starts_with_iff (text start : String) :
    startsWith text start = true ↔ start.toList <+: text.toList := by
  simp [startsWith]

/-- Leaving out repetitions loses no member. -/
theorem mem_collapse {α : Type} [DecidableEq α] (member : α) (members : List α) :
    member ∈ collapse members ↔ member ∈ members := by
  fun_induction collapse members with
  | case1 second rest ih => simp [ih]
  | case2 first second rest differ ih => simp [ih]
  | case3 short => rfl

theorem naming_violations_nil_iff (index : Nat) (naming : NamingConstraints) (subject : String) :
    namingViolations index naming subject = [] ↔ Permitted naming subject := by
  unfold namingViolations Permitted
  rw [List.append_eq_nil_iff]
  refine and_congr ?permitted ?excluded
  case permitted =>
    cases naming.permitted with
    | none => simp
    | some allowed =>
      have fitting : allowed.any (startsWith subject) = true ↔
          ∃ start ∈ allowed, start.toList <+: subject.toList := by
        simp [List.any_eq_true, starts_with_iff]
      simp only [Option.some.injEq, forall_eq', ← fitting]
      cases allowed.any (startsWith subject) <;> simp
  case excluded =>
    have unmatched : (∀ denied, naming.excluded = some denied →
        ∀ start ∈ denied, ¬ start.toList <+: subject.toList) ↔
        (naming.excluded.getD []).find? (startsWith subject) = none := by
      rw [List.find?_eq_none]
      cases naming.excluded with
      | none => simp
      | some denied => simp [← starts_with_iff]
    rw [unmatched]
    cases (naming.excluded.getD []).find? (startsWith subject) <;> simp

/-- The members before a position are the ones at lower positions. -/
theorem mem_take_iff {α : Type} (members : List α) (position : Nat) (member : α) :
    member ∈ members.take position ↔ ∃ lower < position, members[lower]? = some member := by
  rw [List.mem_iff_getElem?]
  constructor
  · rintro ⟨lower, at_lower⟩
    rw [List.getElem?_take] at at_lower
    by_cases before : lower < position
    · exact ⟨lower, before, by simpa [before] using at_lower⟩
    · simp [before] at at_lower
  · rintro ⟨lower, before, at_lower⟩
    exact ⟨lower, by simp [before, at_lower]⟩

theorem path_length_eq (position : Nat) (leaf : Statement) :
    pathLength position leaf = if leaf.issuer = leaf.subject then position - 1 else position := by
  simp [pathLength, Statement.isSelfStatement]

/-- The constraints of one statement find nothing exactly when they hold for the statements
below its position. -/
theorem constraint_violations_of_nil_iff (position : Nat) (constraints : Constraints)
    (leaf : Statement) (chain : List Statement) :
    constraintViolationsOf position constraints leaf (chain.take position) = [] ↔
      Satisfies constraints position leaf chain := by
  have assembled :
      ((∀ longest, constraints.maxPathLength = some longest →
          (if leaf.issuer = leaf.subject then position - 1 else position) ≤ longest) ∧
        ∀ naming, constraints.naming = some naming → ∀ lower below, lower < position →
          chain[lower]? = some below → Permitted naming below.subject) ∧
      (∀ allowed, constraints.leafEntityTypes = some allowed →
        ∀ entityType ∈ leaf.entityTypes, entityType ≠ Statement.federationEntity →
          entityType ∈ allowed) ↔ Satisfies constraints position leaf chain := by
    constructor
    · rintro ⟨⟨length, names⟩, types⟩
      exact ⟨length, names, types⟩
    · intro holds
      exact ⟨⟨holds.length, holds.names⟩, holds.types⟩
  unfold constraintViolationsOf
  rw [← assembled, List.append_eq_nil_iff, List.append_eq_nil_iff, ← path_length_eq]
  refine and_congr (and_congr ?length ?names) ?types
  case length =>
    cases constraints.maxPathLength with
    | none => simp
    | some longest =>
      by_cases deeper : longest < pathLength position leaf
      · simp [deeper]
      · simp [deeper, Nat.not_lt.mp deeper]
  case names =>
    cases constraints.naming with
    | none => simp
    | some naming =>
      show (List.flatMap _ _ = []) ↔ _
      rw [List.flatMap_eq_nil_iff]
      simp only [naming_violations_nil_iff, mem_collapse, List.mem_map, List.mem_reverse,
        mem_take_iff]
      constructor
      · rintro every _ ⟨⟩ lower below before at_lower
        exact every below.subject ⟨below, ⟨lower, before, at_lower⟩, rfl⟩
      · rintro every _ ⟨below, ⟨lower, before, at_lower⟩, rfl⟩
        exact every naming rfl lower below before at_lower
  case types =>
    cases constraints.leafEntityTypes with
    | none => simp
    | some allowed => simp [List.map_eq_nil_iff, List.filter_eq_nil_iff]

/-- The rule on constraints finds nothing exactly when the constraints of every statement
above the leaf hold. What the leaf declares has nothing below it to hold for. -/
theorem constraint_violations_nil_iff (chain : List Statement) :
    constraintViolations chain = [] ↔
      ∀ position statement constraints first, 1 ≤ position →
        chain[position]? = some statement → statement.constraints = some constraints →
        chain.head? = some first → Satisfies constraints position first chain := by
  unfold constraintViolations
  rw [List.flatMap_eq_nil_iff]
  cases chain with
  | nil => simp
  | cons leaf rest =>
    constructor
    · intro every position statement constraints first above at_position declared head
      obtain rfl : leaf = first := by simpa using head
      obtain ⟨lower, rfl⟩ : ∃ lower, position = lower + 1 := ⟨position - 1, by omega⟩
      have here := every (statement, lower + 1)
        (List.mem_reverse.mpr (List.mem_zipIdx_iff_getElem?.mpr at_position))
      simp only [declared, List.take_succ_cons] at here
      exact (constraint_violations_of_nil_iff _ _ _ _).mp here
    · rintro every ⟨statement, position⟩ member
      have at_position := List.mem_zipIdx_iff_getElem?.mp (List.mem_reverse.mp member)
      cases declared : statement.constraints with
      | none => simp only [declared]
      | some constraints =>
        cases position with
        | zero => simp only [declared, List.take_zero]
        | succ lower =>
          have holds := every (lower + 1) statement constraints leaf (by omega) at_position
            declared rfl
          simp only [declared, List.take_succ_cons]
          exact (constraint_violations_of_nil_iff _ _ _ _).mpr holds

/-! ## Critical claims and the whole -/

theorem critical_violations_of_nil_iff (index : Nat) (statement : Statement) :
    criticalViolationsOf index statement = [] ↔ Understood statement := by
  have every (declared : Option (List String)) (known : List String)
      (report : String → Violation) :
      ((declared.getD []).filter (!known.contains ·)).map report = [] ↔
        ∀ names, declared = some names → ∀ name ∈ names, name ∈ known := by
    cases declared <;> simp [List.map_eq_nil_iff, List.filter_eq_nil_iff]
  unfold criticalViolationsOf Understood
  rw [List.append_eq_nil_iff, every, every]

theorem critical_violations_nil_iff (chain : List Statement) :
    criticalViolations chain = [] ↔ ∀ statement ∈ chain, Understood statement := by
  unfold criticalViolations
  rw [flat_map_zip_idx_nil_iff, ← forall_position_iff]
  simp only [critical_violations_of_nil_iff]

/-- A chain with which the standard rules find nothing wrong satisfies the rule on signatures. -/
theorem signatures_of_valid {trusted : KeySet} {now : Int} {chain : List Statement}
    (valid : validate (standardRules trusted) now chain = []) :
    signatureViolations trusted now chain = [] := by
  rw [validate, standardRules, List.flatMap_cons, List.append_eq_nil_iff] at valid
  exact valid.1

/-- The standard rules find nothing wrong with a chain exactly when it is acceptable.

Proof: each of the three rules is silent exactly when its part of the conditions holds, and
the rules report independently of each other. -/
theorem acceptable_of_validate_nil_iff (trusted : KeySet) (now : Int) (chain : List Statement) :
    validate (standardRules trusted) now chain = [] ↔ Acceptable trusted now chain := by
  simp only [validate, standardRules, List.flatMap_cons, List.flatMap_nil, Rule.violations,
    List.append_eq_nil_iff, signature_violations_nil_iff, constraint_violations_nil_iff,
    critical_violations_nil_iff, and_true]
  constructor
  · rintro ⟨⟨nonempty, timely, leaf, anchor, links⟩, constrained, understood⟩
    exact ⟨nonempty, timely, leaf, anchor, links, constrained, understood⟩
  · intro accepted
    exact ⟨⟨accepted.nonempty, accepted.timely, accepted.leaf, accepted.anchor, accepted.links⟩,
      accepted.constrained, accepted.understood⟩

end TrustFederation.Chain
