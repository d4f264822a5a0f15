import Mathlib.Logic.Basic
import TrustFederation.Proofs.Chain.Acceptance
import TrustFederation.Proofs.Statement.Metadata
/-!
# What the rule on constraints reports

The statements of a chain are looked at from the anchor down, and each one that declares
constraints reports what they find wrong with the statements below it. Here it is said by rules
which violations make up such a report and in which order, and the report of the chain is shown to
be the only one that the rules allow.
-/
namespace TrustFederation.Chain

/-! ## Runs of equal members -/

/-- The members are runs of equal ones, and `runs` names each run by its member. No run could be
longer, since the next one repeats another member. -/
inductive Runs {α : Type} : List α → List α → Prop where
  | done : Runs [] []
  | run {member : α} {again : Nat} {rest runs : List α} (ends : rest.head? ≠ some member)
      (others : Runs rest runs) : Runs (List.replicate (again + 1) member ++ rest) (member :: runs)

section

variable {α : Type}

/-- One more member in front of a run of its equals makes this run longer. -/
theorem Runs.longer {member : α} {rest runs : List α} (found : Runs (member :: rest) runs) :
    Runs (member :: member :: rest) runs := by
  generalize whole : member :: rest = members at found
  cases found with
  | done => cases whole
  | @run other again others runs ends later =>
    rw [List.replicate_succ, List.cons_append, List.cons.injEq] at whole
    obtain ⟨rfl, rfl⟩ := whole
    exact @Runs.run _ member (again + 1) others runs ends later

theorem collapse_run [DecidableEq α] {member : α} (again : Nat) {rest : List α}
    (ends : rest.head? ≠ some member) :
    collapse (List.replicate (again + 1) member ++ rest) = member :: collapse rest := by
  induction again with
  | zero =>
    cases rest with
    | nil => rfl
    | cons other others =>
      have differs : member ≠ other := fun same => ends (congrArg some same.symm)
      exact if_neg differs
  | succ again ih =>
    rw [← ih]
    exact if_pos rfl

/-- Leaving out repetitions leaves one member of each run. -/
theorem runs_iff [DecidableEq α] {members runs : List α} :
    Runs members runs ↔ collapse members = runs := by
  constructor
  · intro found
    induction found with
    | done => rfl
    | run ends _ ih => rw [collapse_run _ ends, ih]
  · rintro rfl
    fun_induction collapse members with
    | case1 member rest ih => exact ih.longer
    | case2 first second rest differ ih =>
      have ends : (second :: rest).head? ≠ some first := fun same =>
        differ (Option.some.inj same).symm
      exact @Runs.run _ first 0 _ _ ends ih
    | case3 short brief =>
      rcases short with _ | ⟨member, _ | ⟨second, rest⟩⟩
      · exact .done
      · exact @Runs.run _ member 0 [] [] (by simp) .done
      · exact absurd rfl (brief member second rest)

end

/-! ## The rules -/

/-- So many of the statements below a position are intermediates: all of them but a leaf that is a
configuration. The number is the summand of a sum, so that it is never taken from a smaller one. -/
def Intermediates (position : Nat) (leaf : Statement) (count : Nat) : Prop :=
  count + (if leaf.issuer = leaf.subject then 1 else 0) = position

/-- What a limit on the length of the path reports, if there is one. -/
inductive LengthReport (position : Nat) (leaf : Statement) :
    Option Nat → List Violation → Prop where
  | unlimited : LengthReport position leaf none []
  | within {longest actual : Nat} (counted : Intermediates position leaf actual)
      (fits : actual ≤ longest) : LengthReport position leaf (some longest) []
  | exceeded {longest actual : Nat} (counted : Intermediates position leaf actual)
      (longer : longest < actual) : LengthReport position leaf (some longest)
        [.maxPathLengthExceeded position longest actual]

/-- What the permitted starts of subjects, if there is a list of them, report about a subject. -/
inductive PermittedReport (position : Nat) (subject : String) :
    Option (List String) → List Violation → Prop where
  | unrestricted : PermittedReport position subject none []
  | permitted {starts : List String} {start : String} (member : start ∈ starts)
      (fits : start.toList <+: subject.toList) : PermittedReport position subject (some starts) []
  | refused {starts : List String} (unfit : ∀ start ∈ starts, ¬ start.toList <+: subject.toList) :
      PermittedReport position subject (some starts) [.subjectNotPermitted position subject]

/-- What the excluded starts of subjects, if there is a list of them, report about a subject: the
first one that fits. -/
inductive ExcludedReport (position : Nat) (subject : String) :
    Option (List String) → List Violation → Prop where
  | unrestricted : ExcludedReport position subject none []
  | clear {starts : List String} (unfit : ∀ start ∈ starts, ¬ start.toList <+: subject.toList) :
      ExcludedReport position subject (some starts) []
  | excluded {before after : List String} {start : String}
      (earlier : ∀ other ∈ before, ¬ other.toList <+: subject.toList)
      (fits : start.toList <+: subject.toList) :
      ExcludedReport position subject (some (before ++ start :: after))
        [.subjectExcluded position subject start]

/-- What naming constraints report about subjects, one after the other. -/
inductive SubjectReports (position : Nat) (naming : NamingConstraints) :
    List String → List Violation → Prop where
  | done : SubjectReports position naming [] []
  | subject {subject : String} {others : List String} {refused denied later : List Violation}
      (permission : PermittedReport position subject naming.permitted refused)
      (exclusion : ExcludedReport position subject naming.excluded denied)
      (rest : SubjectReports position naming others later) :
      SubjectReports position naming (subject :: others) (refused ++ denied ++ later)

/-- What naming constraints, if there are any, report about the chain below a position: each run of
equal subjects is looked at once, from the position down. -/
inductive NamingReport (position : Nat) (chain : List Statement) :
    Option NamingConstraints → List Violation → Prop where
  | unrestricted : NamingReport position chain none []
  | restricted {naming : NamingConstraints} {subjects : List String} {report : List Violation}
      (runs : Runs ((chain.take position).reverse.map (·.subject)) subjects)
      (reports : SubjectReports position naming subjects report) :
      NamingReport position chain (some naming) report

/-- What the allowed entity types report about those of a leaf, one after the other. -/
inductive KeyReports (position : Nat) (allowed : List String) :
    List String → List Violation → Prop where
  | done : KeyReports position allowed [] []
  | allowed {key : String} {keys : List String} {report : List Violation}
      (fits : key = Statement.federationEntity ∨ key ∈ allowed)
      (rest : KeyReports position allowed keys report) :
      KeyReports position allowed (key :: keys) report
  | refused {key : String} {keys : List String} {report : List Violation}
      (other : key ≠ Statement.federationEntity) (unlisted : key ∉ allowed)
      (rest : KeyReports position allowed keys report) :
      KeyReports position allowed (key :: keys) (.leafEntityTypeNotAllowed position key :: report)

/-- What the allowed entity types, if there is a list of them, report about a leaf. -/
inductive TypeReport (position : Nat) (leaf : Statement) :
    Option (List String) → List Violation → Prop where
  | unrestricted : TypeReport position leaf none []
  | restricted {allowed : List String} {report : List Violation}
      (keys : KeyReports position allowed leaf.entityTypes report) :
      TypeReport position leaf (some allowed) report

/-- What the constraints of the statement at a position report about the chain below it: first on
the length of the path, then on the subjects, then on the entity types of the leaf. -/
inductive ConstraintReport (position : Nat) (constraints : Constraints) (leaf : Statement)
    (chain : List Statement) : List Violation → Prop where
  | parts {lengths names types : List Violation}
      (length : LengthReport position leaf constraints.maxPathLength lengths)
      (naming : NamingReport position chain constraints.naming names)
      (typing : TypeReport position leaf constraints.leafEntityTypes types) :
      ConstraintReport position constraints leaf chain (lengths ++ names ++ types)

/-- What the statements of a chain report from a position down. The leaf reports nothing. -/
inductive ChainReport (chain : List Statement) : Nat → List Violation → Prop where
  | leaf : ChainReport chain 0 []
  | free {position : Nat} {statement : Statement} {report : List Violation}
      (stands : chain[position + 1]? = some statement) (undeclared : statement.constraints = none)
      (below : ChainReport chain position report) : ChainReport chain (position + 1) report
  | constrained {position : Nat} {statement leaf : Statement} {constraints : Constraints}
      {own report : List Violation} (stands : chain[position + 1]? = some statement)
      (declared : statement.constraints = some constraints) (head : chain.head? = some leaf)
      (reports : ConstraintReport (position + 1) constraints leaf chain own)
      (below : ChainReport chain position report) : ChainReport chain (position + 1) (own ++ report)

/-! ## The rules are what is computed -/

section

variable {position : Nat} {leaf : Statement} {report : List Violation}

/-- The number of intermediates is the length of the path, above the leaf. -/
theorem intermediates_iff {count : Nat} (above : 1 ≤ position) :
    Intermediates position leaf count ↔ pathLength position leaf = count := by
  rw [Intermediates, path_length_eq]
  split <;> omega

theorem length_report_iff {limit : Option Nat} (above : 1 ≤ position) :
    LengthReport position leaf limit report ↔
      (match limit with
        | some longest =>
          if longest < pathLength position leaf then
            [.maxPathLengthExceeded position longest (pathLength position leaf)]
          else []
        | none => []) = report := by
  constructor
  · intro reported
    cases reported with
    | unlimited => rfl
    | within counted fits =>
      obtain rfl := (intermediates_iff above).mp counted
      exact if_neg (Nat.not_lt.mpr fits)
    | exceeded counted longer =>
      obtain rfl := (intermediates_iff above).mp counted
      exact if_pos longer
  · rintro rfl
    have counted : Intermediates position leaf (pathLength position leaf) :=
      (intermediates_iff above).mpr rfl
    cases limit with
    | none => exact .unlimited
    | some longest =>
      by_cases longer : longest < pathLength position leaf
      · simpa only [longer, if_true] using LengthReport.exceeded counted longer
      · simpa only [longer, if_false] using LengthReport.within counted (Nat.not_lt.mp longer)

theorem permitted_report_iff {subject : String} {starts : Option (List String)} :
    PermittedReport position subject starts report ↔
      (match starts with
        | some permitted =>
          if permitted.any (startsWith subject) then [] else [.subjectNotPermitted position subject]
        | none => []) = report := by
  constructor
  · intro reported
    cases reported with
    | unrestricted => rfl
    | permitted member fits =>
      exact if_pos (List.any_eq_true.mpr ⟨_, member, (starts_with_iff _ _).mpr fits⟩)
    | refused unfit =>
      refine if_neg fun fitting => ?_
      obtain ⟨start, member, fits⟩ := List.any_eq_true.mp fitting
      exact unfit start member ((starts_with_iff _ _).mp fits)
  · rintro rfl
    cases starts with
    | none => exact .unrestricted
    | some permitted =>
      by_cases fitting : permitted.any (startsWith subject) = true
      · obtain ⟨start, member, fits⟩ := List.any_eq_true.mp fitting
        simpa only [fitting, if_true] using
          PermittedReport.permitted member ((starts_with_iff _ _).mp fits)
      · have unfit : ∀ start ∈ permitted, ¬ start.toList <+: subject.toList := by
          intro start member fits
          exact fitting (List.any_eq_true.mpr ⟨start, member, (starts_with_iff _ _).mpr fits⟩)
        simpa only [fitting, Bool.false_eq_true, if_false] using PermittedReport.refused unfit

theorem excluded_report_iff {subject : String} {starts : Option (List String)} :
    ExcludedReport position subject starts report ↔
      (match (starts.getD []).find? (startsWith subject) with
        | some start => [.subjectExcluded position subject start]
        | none => []) = report := by
  constructor
  · intro reported
    cases reported with
    | unrestricted => rfl
    | @clear starts unfit =>
      have nothing : starts.find? (startsWith subject) = none := by
        rw [List.find?_eq_none]
        intro start member fits
        exact unfit start member ((starts_with_iff _ _).mp fits)
      rw [Option.getD_some, nothing]
    | @excluded before after start earlier fits =>
      have first : (before ++ start :: after).find? (startsWith subject) = some start := by
        rw [List.find?_eq_some_iff_append]
        refine ⟨(starts_with_iff _ _).mpr fits, before, after, rfl, ?_⟩
        intro other member
        simpa [← starts_with_iff] using earlier other member
      rw [Option.getD_some, first]
  · rintro rfl
    cases starts with
    | none => exact .unrestricted
    | some excluded =>
      rw [Option.getD_some]
      cases found : excluded.find? (startsWith subject) with
      | none =>
        refine .clear fun start member fits => ?_
        exact List.find?_eq_none.mp found start member ((starts_with_iff _ _).mpr fits)
      | some start =>
        obtain ⟨fits, before, after, rfl, earlier⟩ := List.find?_eq_some_iff_append.mp found
        refine .excluded (fun other member fitting => ?_) ((starts_with_iff _ _).mp fits)
        simpa [(starts_with_iff _ _).mpr fitting] using earlier other member

theorem subject_reports_iff {naming : NamingConstraints} {subjects : List String} :
    SubjectReports position naming subjects report ↔
      subjects.flatMap (namingViolations position naming) = report := by
  constructor
  · intro reported
    induction reported with
    | done => rfl
    | @subject subject _ refused denied _ permission exclusion _ ih =>
      have own : namingViolations position naming subject = refused ++ denied :=
        congrArg₂ (· ++ ·) (permitted_report_iff.mp permission) (excluded_report_iff.mp exclusion)
      rw [List.flatMap_cons, own, ih]
  · rintro rfl
    induction subjects with
    | nil => exact .done
    | cons subject rest ih =>
      rw [List.flatMap_cons, namingViolations]
      exact .subject (permitted_report_iff.mpr rfl) (excluded_report_iff.mpr rfl) ih

theorem naming_report_iff {chain : List Statement} {declared : Option NamingConstraints} :
    NamingReport position chain declared report ↔
      (match declared with
        | some naming =>
          (collapse ((chain.take position).reverse.map (·.subject))).flatMap
            (namingViolations position naming)
        | none => []) = report := by
  constructor
  · intro reported
    cases reported with
    | unrestricted => rfl
    | restricted runs reports =>
      obtain rfl := runs_iff.mp runs
      exact subject_reports_iff.mp reports
  · rintro rfl
    cases declared with
    | none => exact .unrestricted
    | some naming => exact .restricted (runs_iff.mpr rfl) (subject_reports_iff.mpr rfl)

/-- The entity types that are not allowed, in the order of the metadata. -/
theorem key_reports_iff {allowed keys : List String} :
    KeyReports position allowed keys report ↔
      (keys.filter fun key => key != Statement.federationEntity && !allowed.contains key).map
        (.leafEntityTypeNotAllowed position) = report := by
  constructor
  · intro reported
    induction reported with
    | done => rfl
    | @allowed key keys report fits rest ih =>
      rw [List.filter_cons_of_neg (by simpa [or_iff_not_imp_left] using fits), ih]
    | @refused key keys report other unlisted rest ih =>
      rw [List.filter_cons_of_pos (by simp [other, unlisted]), List.map_cons, ih]
  · rintro rfl
    induction keys with
    | nil => exact .done
    | cons key keys ih =>
      by_cases fits : key = Statement.federationEntity ∨ key ∈ allowed
      · rw [List.filter_cons_of_neg (by simpa [or_iff_not_imp_left] using fits)]
        exact .allowed fits ih
      · obtain ⟨other, unlisted⟩ := not_or.mp fits
        rw [List.filter_cons_of_pos (by simp [other, unlisted])]
        exact .refused other unlisted ih

theorem type_report_iff {declared : Option (List String)} :
    TypeReport position leaf declared report ↔
      (match declared with
        | some allowed =>
          (leaf.entityTypes.filter fun key =>
            key != Statement.federationEntity && !allowed.contains key).map
              (.leafEntityTypeNotAllowed position)
        | none => []) = report := by
  constructor
  · intro reported
    cases reported with
    | unrestricted => rfl
    | restricted keys => exact key_reports_iff.mp keys
  · rintro rfl
    cases declared with
    | none => exact .unrestricted
    | some allowed => exact .restricted (key_reports_iff.mpr rfl)

theorem constraint_report_iff {constraints : Constraints} {chain : List Statement}
    (above : 1 ≤ position) :
    ConstraintReport position constraints leaf chain report ↔
      constraintViolationsOf position constraints leaf (chain.take position) = report := by
  constructor
  · intro reported
    cases reported with
    | parts length naming typing =>
      exact congrArg₂ (· ++ ·) (congrArg₂ (· ++ ·) ((length_report_iff above).mp length)
        (naming_report_iff.mp naming)) (type_report_iff.mp typing)
  · rintro rfl
    exact .parts ((length_report_iff above).mpr rfl) (naming_report_iff.mpr rfl)
      (type_report_iff.mpr rfl)

end

/-! ## The whole chain -/

/-- What the statement with an index reports. -/
def reported (chain : List Statement) (entry : Statement × Nat) : List Violation :=
  match entry.1.constraints, chain.take entry.2 with
  | some constraints, leaf :: rest =>
    constraintViolationsOf entry.2 constraints leaf (leaf :: rest)
  | _, _ => []

/-- What the statements of a chain report from a position down. -/
def reportedFrom (chain : List Statement) (position : Nat) : List Violation :=
  (chain.take (position + 1)).zipIdx.reverse.flatMap (reported chain)

section

variable {chain : List Statement} {position : Nat} {statement : Statement}

theorem constraint_violations_eq (chain : List Statement) :
    constraintViolations chain = reportedFrom chain (chain.length - 1) := by
  have whole : chain.take (chain.length - 1 + 1) = chain := List.take_of_length_le (by omega)
  rw [reportedFrom, whole]
  rfl

theorem reported_from_zero (chain : List Statement) : reportedFrom chain 0 = [] := by
  cases chain with
  | nil => rfl
  | cons leaf rest => cases declared : leaf.constraints <;> simp [reportedFrom, reported, declared]

theorem reported_from_succ (stands : chain[position + 1]? = some statement) :
    reportedFrom chain (position + 1) =
      reported chain (statement, position + 1) ++ reportedFrom chain position := by
  have inside : position + 1 < chain.length := (List.getElem?_eq_some_iff.mp stands).1
  have below : (chain.take (position + 1)).length = position + 1 :=
    List.length_take_of_le (Nat.le_of_lt inside)
  simp [reportedFrom, @List.take_add_one _ chain (position + 1), stands, List.zipIdx_append, below]

theorem reported_free (undeclared : statement.constraints = none) (position : Nat) :
    reported chain (statement, position) = [] := by
  simp [reported, undeclared]

theorem reported_constrained {leaf : Statement} {constraints : Constraints}
    (declared : statement.constraints = some constraints) (head : chain.head? = some leaf) :
    reported chain (statement, position + 1) =
      constraintViolationsOf (position + 1) constraints leaf (chain.take (position + 1)) := by
  obtain ⟨rest, rfl⟩ := List.head?_eq_some_iff.mp head
  simp [reported, declared]

/-- The rules allow one report of a chain, the one that is computed.

Proof: induction over the positions from the leaf up. Each position puts its own report in front. -/
theorem chain_report_iff {report : List Violation} (inside : position = 0 ∨ position < chain.length) :
    ChainReport chain position report ↔ reportedFrom chain position = report := by
  constructor
  · intro found
    induction found with
    | leaf => exact reported_from_zero chain
    | @free position _ _ stands undeclared _ ih =>
      have lower : position < chain.length :=
        Nat.lt_of_succ_lt (List.getElem?_eq_some_iff.mp stands).1
      rw [reported_from_succ stands, reported_free undeclared, ih (.inr lower), List.nil_append]
    | @constrained position _ _ _ _ _ stands declared head reports _ ih =>
      have lower : position < chain.length :=
        Nat.lt_of_succ_lt (List.getElem?_eq_some_iff.mp stands).1
      rw [reported_from_succ stands, reported_constrained declared head, ih (.inr lower),
        (constraint_report_iff (Nat.succ_pos position)).mp reports]
  · rintro rfl
    induction position with
    | zero =>
      rw [reported_from_zero]
      exact .leaf
    | succ position ih =>
      have within : position + 1 < chain.length := inside.resolve_left (Nat.succ_ne_zero position)
      have below := ih (.inr (Nat.lt_of_succ_lt within))
      have stands := List.getElem?_eq_getElem within
      rw [reported_from_succ stands]
      cases declared : chain[position + 1].constraints with
      | none =>
        rw [reported_free declared, List.nil_append]
        exact .free stands declared below
      | some constraints =>
        have head : chain.head? = some (chain.head (List.ne_nil_of_length_pos (by omega))) :=
          List.head?_eq_some_head _
        rw [reported_constrained declared head]
        exact .constrained stands declared head
          ((constraint_report_iff (Nat.succ_pos position)).mpr rfl) below

end

/-- The rule on constraints reports exactly what the rules above say, at whatever time. The
statements are taken from the anchor down to the one above the leaf. Each one that declares
constraints reports the length of the path if it is exceeded, then for each run of equal subjects
below it whether the subject is refused and by which start it is excluded, then the entity types of
the leaf that are not allowed, in the order of the metadata. There is nothing else in the report,
and its positions count from the leaf. The metadata of a leaf that was read from a token are in
ascending order of the entity types. -/
theorem constraint_reports_exact (now : Int) (chain : List Statement) :
    (∀ report, Rule.violations now chain .constraints = report ↔
      ChainReport chain (chain.length - 1) report) ∧
    ∀ text leaf, chain.head? = some leaf → Statement.ofToken text = .ok leaf →
      leaf.entityTypes.Pairwise (· < ·) := by
  refine ⟨fun report => ?_, fun text leaf _ read => Statement.entity_types_ascending read⟩
  have inside : chain.length - 1 = 0 ∨ chain.length - 1 < chain.length := by omega
  rw [chain_report_iff inside, ← constraint_violations_eq]
  rfl

/-- A chain of four whose leaf and anchor and the statement about the leaf declare constraints. The
leaf was read from a text that has the metadata for three types in another order. -/
theorem constraint_reports_exact_four :
    let claims : Json := .object [("iss", .text "c"), ("sub", .text "c"), ("iat", .ofNat 1),
      ("exp", .ofNat 3), ("metadata", .object [("z", .null), ("b", .null), ("a", .null)])]
    let text := "e30." ++ Codec.Base64Url.encode (Jose.bytesOf claims.compact) ++ "."
    let read : Statement := { Statement.blank with
      issuer := "c", subject := "c", issuedAt := 1, expiresAt := 3, token := text
      metadata := some [("a", .null), ("b", .null), ("z", .null)] }
    let said (issuer subject : String) (constraints : Constraints) : Statement :=
      { Statement.blank with issuer, subject, constraints := some constraints }
    let chain := [{ read with constraints := some ⟨some 0, none, none⟩ },
      said "b" "c" ⟨some 0, some ⟨none, some ["x", "c"]⟩, none⟩, said "a" "b" ⟨none, none, none⟩,
      said "a" "a" ⟨some 1, some ⟨some ["b"], some ["bc", "b"]⟩, some ["z"]⟩]
    ChainReport chain 3 [.maxPathLengthExceeded 3 1 2, .subjectExcluded 3 "b" "b",
      .subjectNotPermitted 3 "c", .leafEntityTypeNotAllowed 3 "a", .leafEntityTypeNotAllowed 3 "b",
      .subjectExcluded 1 "c" "c"] ∧
    Statement.ofToken text = .ok read ∧ read.entityTypes.Pairwise (· < ·) := by
  intro claims text read said chain
  have found : Statement.ofToken text = .ok read := ok_of_to_option (by decide +kernel)
  exact ⟨((constraint_reports_exact 2 chain).1 _).mp (by decide +kernel), found,
    (constraint_reports_exact 2 [read]).2 text read rfl found⟩

end TrustFederation.Chain
