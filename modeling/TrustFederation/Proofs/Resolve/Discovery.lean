import Mathlib.Data.List.Sort
import Mathlib.Data.String.Basic
import Mathlib.Order.Bounds.Basic
import Mathlib.Data.Prod.Lex
import Mathlib.Order.WellFounded
import TrustFederation.Proofs.Tree.Acyclic
import TrustFederation.Resolve.Resolver
/-!
# What a discovery lists

A discovery lists the subjects of the configurations that it asks for and that paths lead to from
the root. One subject may occur at several levels and under several keys; it is listed once, where
its least level puts it. Hence the list is a function of the least levels, whatever the order in
which a search gives its results and however the nodes are shared.
-/
namespace TrustFederation.Resolve.Resolver

open Text (sameAscii)
open TrustFederation.Tree (Descent Found Place Store)

/-! ## Names by their least levels -/

/-- One name comes before another when its least level is less, or the same and the name is less. -/
def Precedes (levels : String → Set Nat) (left right : String) : Prop :=
  ∃ level deeper, IsLeast (levels left) level ∧ IsLeast (levels right) deeper ∧
    (level < deeper ∨ level = deeper ∧ left < right)

section

variable {levels : String → Set Nat}

theorem exists_least {numbers : Set Nat} (some_number : numbers.Nonempty) :
    ∃ least, IsLeast numbers least := by
  obtain ⟨least, member, minimal⟩ := wellFounded_lt.has_min numbers some_number
  exact ⟨least, member, fun other among => Nat.le_of_not_lt (minimal other among)⟩

/-- Of two names not both come before the other. -/
theorem Precedes.asymm {left right : String} (earlier : Precedes levels left right) :
    ¬ Precedes levels right left := by
  rintro ⟨deeper, level, below, above, order⟩
  obtain ⟨first, second, least, next, known⟩ := earlier
  obtain rfl := above.unique least
  obtain rfl := below.unique next
  rcases known with lower | ⟨same, smaller⟩
  · omega
  · exact absurd smaller (lt_asymm (order.resolve_left (by omega)).2)

instance : Std.Irrefl (Precedes levels) := ⟨fun _ earlier => earlier.asymm earlier⟩

instance : Std.Antisymm (Precedes levels) :=
  ⟨fun _ _ earlier later => absurd later earlier.asymm⟩

/-- The levels of the places of a name. -/
def levelsIn (places : List (Nat × String)) (name : String) : Set Nat :=
  {level | (level, name) ∈ places}

/-- The order of places: by level, then by name. -/
def upto (one other : Nat × String) : Bool :=
  one.1 < other.1 || (one.1 == other.1 && one.2 ≤ other.2)

theorem upto_iff {one other : Nat × String} :
    upto one other = true ↔ one.1 < other.1 ∨ one.1 = other.1 ∧ one.2 ≤ other.2 := by
  simp [upto]

theorem upto_iff_lex {one other : Nat × String} :
    upto one other = true ↔ toLex one ≤ toLex other :=
  upto_iff.trans Prod.Lex.toLex_le_toLex.symm

section

variable {level : Nat} {name other : String} {rest : List (Nat × String)}

/-- The first name has its least level at the first place. -/
theorem least_of_first (before : ∀ place ∈ rest, upto (level, name) place = true) :
    IsLeast (levelsIn ((level, name) :: rest) name) level := by
  refine ⟨List.mem_cons_self, fun deeper place => ?_⟩
  rcases List.mem_cons.mp place with same | later
  · exact (congrArg (·.1) same).ge
  · exact (upto_iff.mp (before _ later)).elim Nat.le_of_lt fun same => same.1.le

/-- Other names keep their levels when the places of the first name are taken away. -/
theorem levels_of_others (differs : other ≠ name) :
    levelsIn (rest.filter fun place => !place.2 == name) other =
      levelsIn ((level, name) :: rest) other := by
  ext deeper
  simp [levelsIn, differs]

end

/-- Names in the order of their places, each one once, come one before the other.

Proof: induction over the number of places. The first name comes before the others, which keep their
levels when its places are taken away. -/
theorem names_ordered {places : List (Nat × String)} (sorted : places.Pairwise (upto · ·)) :
    (places.map (·.2)).eraseDups.Pairwise (Precedes (levelsIn places)) := by
  induction length : places.length using Nat.strongRecOn generalizing places with
  | ind length ih =>
    subst length
    cases places with
    | nil => exact List.Pairwise.nil
    | cons first rest =>
      obtain ⟨level, name⟩ := first
      obtain ⟨before, ordered⟩ := List.pairwise_cons.mp sorted
      let further := rest.filter fun place => !place.2 == name
      have left_out : (rest.map (·.2)).filter (fun other => !other == name) = further.map (·.2) :=
        List.filter_map
      have later {other : String} (member : other ∈ (further.map (·.2)).eraseDups) :
          other ≠ name ∧ (levelsIn further other).Nonempty := by
        obtain ⟨place, inside, rfl⟩ := List.mem_map.mp (List.mem_eraseDups.mp member)
        exact ⟨by simpa using (List.mem_filter.mp inside).2, place.1, inside⟩
      rw [List.map_cons, List.eraseDups_cons, left_out]
      refine List.pairwise_cons.mpr ⟨fun other member => ?_, ?_⟩
      · obtain ⟨differs, occurs⟩ := later member
        obtain ⟨deeper, least⟩ := exists_least occurs
        have order := upto_iff.mp (before (deeper, other) (List.mem_filter.mp least.1).1)
        refine ⟨level, deeper, least_of_first before, levels_of_others differs ▸ least, ?_⟩
        exact order.imp_right (And.imp_right fun most => lt_of_le_of_ne most differs.symm)
      · have shorter : further.length < ((level, name) :: rest).length :=
          Nat.lt_succ_of_le (List.length_filter_le _ rest)
        refine List.Pairwise.imp_of_mem ?_ (ih further.length shorter (ordered.filter _) rfl)
        intro one other first second earlier
        unfold Precedes at earlier ⊢
        rwa [levels_of_others (later first).1, levels_of_others (later second).1] at earlier

end

/-! ## What is asked for -/

/-- The statement is a configuration that a discovery asks for. -/
@[mk_iff]
structure AskedFor (request : DiscoveryRequest) (statement : Statement) : Prop where
  own : statement.issuer = statement.subject
  typed : request.entityTypes = [] ∨
    ∃ entityType ∈ request.entityTypes, entityType ∈ statement.entityTypes
  marked : ∀ type ∈ request.trustMarks, ∃ mark ∈ statement.trustMarks.getD [], mark.type = type

theorem is_discovered_iff {request : DiscoveryRequest} {statement : Statement} {place : Place} :
    isDiscovered request statement place = true ↔ AskedFor request statement := by
  rw [askedFor_iff]
  simp [isDiscovered, Statement.isSelfStatement, Statement.hasMetadata, Statement.hasTrustMark,
    and_assoc]

/-- The levels of the published version at which a discovery finds a subject: the lengths of the
paths that lead from the root to configurations of the subject that it asks for. -/
def levelsOf (store : Store Statement) (request : DiscoveryRequest) (subject : String) : Set Nat :=
  {level | ∃ root node statement, store.root? store.current = some root ∧
    Descent (store.children store.current) level root node ∧
    store.data? store.current node = some statement ∧ statement.subject = subject ∧
    AskedFor request statement}

/-- What a resolver reads about results of a search: their levels and the statements stored. -/
def readResults (store : Store Statement) (found : List Found) : List (Nat × Option Statement) :=
  found.map fun result => (result.level, store.data? store.current result.node)

/-- The places of the subjects of statements. -/
def placesOf (found : List (Nat × Option Statement)) : List (Nat × String) :=
  found.filterMap fun (level, statement) => statement.map fun found => (level, found.subject)

theorem subjects_of_eq (found : List (Nat × Option Statement)) :
    subjectsOf found = (((placesOf found).mergeSort upto).map (·.2)).eraseDups := rfl

theorem levels_of_sorted (places : List (Nat × String)) :
    levelsIn (places.mergeSort upto) = levelsIn places := by
  funext name
  ext level
  exact List.mem_mergeSort

/-- The subjects are those with a place. -/
theorem mem_subjects_of {found : List (Nat × Option Statement)} {subject : String} :
    subject ∈ subjectsOf found ↔ (levelsIn (placesOf found) subject).Nonempty := by
  rw [subjects_of_eq, List.mem_eraseDups, ← levels_of_sorted, List.mem_map]
  constructor
  · rintro ⟨place, member, rfl⟩
    exact ⟨place.1, member⟩
  · rintro ⟨level, member⟩
    exact ⟨(level, subject), member, rfl⟩

/-- The subjects stand in the order of their least levels. -/
theorem subjects_ordered (found : List (Nat × Option Statement)) :
    (subjectsOf found).Pairwise (Precedes (levelsIn (placesOf found))) := by
  rw [subjects_of_eq, ← levels_of_sorted]
  apply names_ordered
  apply List.pairwise_mergeSort
  · intro first second third one other
    rw [upto_iff_lex] at one other ⊢
    exact one.trans other
  · intro first second
    rw [Bool.or_eq_true, upto_iff_lex, upto_iff_lex]
    exact le_total _ _

/-! ## Discovery -/

section

variable {store : Store Statement} {request : DiscoveryRequest}

/-- Results with the members of a search of a version without cycles give a subject the levels at
which it occurs. -/
theorem levels_of_results (acyclic : store.Acyclic store.current) {found : List Found}
    (same : ∀ result, result ∈ found ↔
      result ∈ store.search store.current (isDiscovered request) false) :
    levelsIn (placesOf (readResults store found)) = levelsOf store request := by
  funext subject
  ext level
  have placed : level ∈ levelsIn (placesOf (readResults store found)) subject ↔
      ∃ result ∈ found, ∃ statement, store.data? store.current result.node = some statement ∧
        result.level = level ∧ statement.subject = subject := by
    simp [levelsIn, placesOf, readResults]
  rw [placed]
  constructor
  · rintro ⟨result, member, statement, stored, rfl, rfl⟩
    have reported := acyclic.mem_search_iff.mp ((same result).mp member)
    obtain ⟨root, rooted, path, holds | ⟨asked, -⟩⟩ := reported
    · obtain ⟨data, known, fits⟩ := holds
      obtain rfl := Option.some.inj (stored.symm.trans known)
      exact ⟨root, result.node, statement, rooted, path, stored, rfl, is_discovered_iff.mp fits⟩
    · cases asked
  · rintro ⟨root, node, statement, rooted, path, stored, rfl, asked⟩
    refine ⟨⟨level, node⟩, (same _).mpr ?_, statement, stored, rfl, rfl⟩
    exact acyclic.mem_search_iff.mpr
      ⟨root, rooted, path, .inl ⟨statement, stored, is_discovered_iff.mpr asked⟩⟩

/-- How the answer is made from the results of the search. -/
theorem discover_eq (resolver : Resolver) (store : Store Statement)
    (served : sameAscii request.trustAnchor resolver.trustAnchor = true) :
    resolver.discover store request =
      .ok (subjectsOf
        (readResults store (store.search store.current (isDiscovered request) false))) := by
  have mapped : (store.search store.current (isDiscovered request) false).mapM (m := Id)
      (fun result => (result.level, store.data? store.current result.node)) =
      readResults store (store.search store.current (isDiscovered request) false) :=
    List.idRun_mapM
  rw [← mapped]
  show (resolver.discoverWith store.reads store.pathBound request).run = _
  rw [discoverWith, checkTrustAnchor, if_pos served]
  rfl

/-- Any listing of the results of a search of a version without cycles gives the subjects that occur,
in the order of their least levels. -/
theorem subjects_exact (acyclic : store.Acyclic store.current) {found : List Found}
    (same : ∀ result, result ∈ found ↔
      result ∈ store.search store.current (isDiscovered request) false) :
    (∀ subject, subject ∈ subjectsOf (readResults store found) ↔
      (levelsOf store request subject).Nonempty) ∧
    (subjectsOf (readResults store found)).Pairwise (Precedes (levelsOf store request)) := by
  rw [← levels_of_results acyclic same]
  exact ⟨fun subject => mem_subjects_of, subjects_ordered _⟩

/-- Names in the order of their least levels are determined by these.

Proof: the least levels tell which names have levels, and which name comes before which. -/
theorem ordered_unique {levels others : String → Set Nat} {names also : List String}
    (least : ∀ name level, IsLeast (others name) level ↔ IsLeast (levels name) level)
    (members : ∀ name, name ∈ names ↔ (levels name).Nonempty)
    (known : ∀ name, name ∈ also ↔ (others name).Nonempty)
    (ordered : names.Pairwise (Precedes levels)) (sorted : also.Pairwise (Precedes others)) :
    also = names := by
  have moved : Precedes others = Precedes levels := by
    funext left right
    simp only [Precedes, least]
  have occurs (name : String) : (others name).Nonempty ↔ (levels name).Nonempty := by
    constructor
    · intro some_level
      obtain ⟨level, first⟩ := exists_least some_level
      exact ⟨level, ((least name level).mp first).1⟩
    · intro some_level
      obtain ⟨level, first⟩ := exists_least some_level
      exact ⟨level, ((least name level).mpr first).1⟩
  rw [moved] at sorted
  exact sorted.eq_of_mem_iff ordered fun name =>
    (known name).trans ((occurs name).trans (members name).symm)

/-- A discovery lists exactly the subjects that occur at some level, in the order of their least
levels and then of their names; each one once. So the answer is the same in whatever order, and how
often, the search gives its results, and the same for any other store with the same least levels,
however its nodes are shared. No other trust anchor is served. -/
theorem discover_exact (resolver : Resolver) (store : Store Statement)
    (request : DiscoveryRequest) :
    (sameAscii request.trustAnchor resolver.trustAnchor = true → store.Acyclic store.current →
      ∃ subjects, resolver.discover store request = .ok subjects ∧
        (∀ subject, subject ∈ subjects ↔ ∃ level, level ∈ levelsOf store request subject) ∧
        subjects.Nodup ∧ subjects.Pairwise (Precedes (levelsOf store request)) ∧
        (∀ found : List Found, (∀ result, result ∈ found ↔
            result ∈ store.search store.current (isDiscovered request) false) →
          subjectsOf (readResults store found) = subjects) ∧
        ∀ other : Store Statement, other.Acyclic other.current →
          (∀ subject level, IsLeast (levelsOf other request subject) level ↔
            IsLeast (levelsOf store request subject) level) →
          resolver.discover other request = .ok subjects) ∧
    (sameAscii request.trustAnchor resolver.trustAnchor = false →
      resolver.discover store request =
        .error (.invalidTrustAnchor (request.trustAnchor ++ " is not served by this resolver"))) := by
  constructor
  · intro served acyclic
    obtain ⟨members, ordered⟩ := subjects_exact acyclic fun _ => Iff.rfl
    refine ⟨_, discover_eq resolver store served, members, ordered.nodup, ordered, ?_, ?_⟩
    · intro found same
      obtain ⟨known, sorted⟩ := subjects_exact acyclic same
      exact ordered_unique (fun _ _ => Iff.rfl) members known ordered sorted
    · intro other also least
      obtain ⟨known, sorted⟩ := subjects_exact also fun _ => Iff.rfl
      rw [discover_eq resolver other served, ordered_unique least members known ordered sorted]
  · intro unserved
    show (resolver.discoverWith store.reads store.pathBound request).run = _
    rw [discoverWith, checkTrustAnchor, if_neg (Bool.eq_false_iff.mp unserved)]
    rfl

end

/-- One subject has two keys at two levels, another one is below two nodes one of which has no data,
and a third one lacks the trust mark. Asked for another anchor, the resolver refuses. -/
theorem discover_exact_shared :
    let own (subject : String) (types marks : List String) : Statement :=
      { Statement.blank with
        issuer := subject, subject, metadata := some (types.map fun type => (type, .null))
        trustMarks := some (marks.map fun type => ⟨type, "t"⟩) }
    let store : Store Statement := (Store.empty 1).applyAll [.create "a!a" (own "a" [] ["m"]),
      .append "p" "a!a" 1, .append "d!d" "a!a" 1, .setData "d!d" (own "d" ["w"] ["m"]) 1,
      .append "C!c" "p" 1, .setData "C!c" (own "c" ["v", "w"] ["l", "m"]) 1, .append "b!b" "p" 1,
      .setData "b!b" (own "b" ["z"] ["m"]) 1, .append "b!b" "d!d" 1, .append "c!c" "a!a" 1,
      .setData "c!c" (own "c" ["z"] ["m"]) 1, .append "e!e" "d!d" 1,
      .setData "e!e" (own "e" ["w"] ["l"]) 1, .publish 1]
    let resolver : Resolver := ⟨"r", "A", [], .hmac [114] "r", defaultLifetime⟩
    let request : DiscoveryRequest := ⟨"a", ["w", "z"], ["m"]⟩
    let subjects := ["c", "d", "b"]
    store.Acyclic store.current ∧ resolver.discover store request = .ok subjects ∧
      (∀ subject, subject ∈ subjects ↔ ∃ level, level ∈ levelsOf store request subject) ∧
      subjects.Pairwise (Precedes (levelsOf store request)) ∧
      subjectsOf (readResults store
        (store.search store.current (isDiscovered request) false).reverse) = subjects ∧
      resolver.discover store { request with trustAnchor := "b" } =
        .error (.invalidTrustAnchor "b is not served by this resolver") := by
  intro own store resolver request subjects
  have acyclic : store.Acyclic store.current := Store.acyclic_of_edges
    (fun node => ["a!a", "p", "d!d", "C!c", "c!c", "b!b", "e!e"].idxOf node) (by decide +kernel)
  have placed : placesOf (readResults store
      (store.search store.current (isDiscovered request) false)) =
      [(1, "c"), (1, "d"), (2, "c"), (2, "b")] := by decide +kernel
  have sorted : [(1, "c"), (1, "d"), (2, "c"), (2, "b")].mergeSort upto =
      [(1, "c"), (1, "d"), (2, "b"), (2, "c")] := by simp [List.mergeSort, upto]
  have answered : resolver.discover store request = .ok subjects := by
    rw [discover_eq resolver store (by decide +kernel), subjects_of_eq, placed, sorted]
    decide +kernel
  obtain ⟨listed, found, members, -, ordered, again, -⟩ :=
    (discover_exact resolver store request).1 (by decide +kernel) acyclic
  obtain rfl := Except.ok.inj (answered.symm.trans found)
  exact ⟨acyclic, answered, members, ordered, again _ fun _ => List.mem_reverse,
    (discover_exact resolver store { request with trustAnchor := "b" }).2 (by decide +kernel)⟩

end TrustFederation.Resolve.Resolver
