import TrustFederation.Proofs.Crawl.Schedules
/-!
# Crawls under different schedules

Two crawls of one federation may run one step at a time or many, complete them in any order, and try
failed steps again at once or in rounds. If they try every step equally often and the client answers
both by one table, they come to an end, build the same tree and report the same work.
-/
namespace TrustFederation.Crawl

open Text (lowercase)
open TrustFederation.Tree (Generation Store Version)

variable {σ : Type} {client : Client σ} {policy other : Policy} {anchor : String} {table : Table}
  {history second : History σ} {state final : State σ} {limit : Nat}

/-- The crawls have built the same tree, or neither has begun one. -/
inductive SameVersion (first second : State σ) : Prop where
  | unbegun (unbegun : first.report.version = none) (also : second.report.version = none)
  | built {version number : Version} {generation other : Generation Statement}
      (begun : first.report.version = some version) (also : second.report.version = some number)
      (held : first.store.generation? version = some generation)
      (also_held : second.store.generation? number = some other)
      (same : SameTree generation other)

/-- The crawls have built the same tree and report the same work, with the steps that were given up
in any order. -/
structure SameCrawl (first second : State σ) : Prop where
  version : SameVersion first second
  completed : first.report.completedSteps = second.report.completedSteps
  failed : first.report.failedAttempts = second.report.failedAttempts
  dropped : first.report.dropped.Perm second.report.dropped

/-- A crawl that is over, of a federation in which authorities list different identifiers, by a
client that has answered by a table. -/
structure Finished (client : Client σ) (policy : Policy) (table : Table) (anchor : String)
    (history : History σ) (state : State σ) : Prop where
  crawled : Crawled client policy anchor history state
  tabled : Tabled client policy table history
  apart : ListedApart client policy anchor history
  ended : state.pending = []

namespace Finished

/-! ## The same steps -/

theorem completed_nodup (finished : Finished client policy table anchor history state) :
    (history.completed client policy ++ history.dropped client policy).Nodup := by
  have ledger := finished.crawled.ledger
  exact (List.nodup_append.mp (ledger.balanced.nodup_iff.mp ledger.steps_nodup)).2.1

/-- A step that was taken up was given up exactly when it has not succeeded. -/
theorem dropped_iff (finished : Finished client policy table anchor history state) (step : Step) :
    step ∈ history.dropped client policy ↔
      step ∈ history.steps client policy anchor ∧ step ∉ history.completed client policy := by
  have ledger := finished.crawled.ledger
  constructor
  · intro given_up
    refine ⟨ledger.balanced.mem_iff.mpr ?_, fun done => ledger.kept_of_completed done given_up⟩
    exact List.mem_append_right _ (List.mem_append_right _ given_up)
  · rintro ⟨known, undone⟩
    exact (ledger.settled finished.ended known).resolve_left undone

variable (finished : Finished client policy table anchor history state)
  (also : Finished client other table anchor second final)
  (attempts : policy.recovery.attempts = other.recovery.attempts)
  (threshold : policy.cacheThreshold = other.cacheThreshold)

include finished also attempts threshold

theorem mem_steps_iff (step : Step) : step ∈ history.steps client policy anchor ↔
    step ∈ second.steps client other anchor := by
  rw [finished.crawled.mem_steps_iff_due finished.tabled finished.apart finished.ended,
    also.crawled.mem_steps_iff_due also.tabled also.apart also.ended, attempts, threshold]

theorem mem_completed_iff (step : Step) :
    step ∈ history.completed client policy ↔ step ∈ second.completed client other := by
  rw [finished.crawled.completed_iff_succeeds finished.tabled finished.ended,
    also.crawled.completed_iff_succeeds also.tabled also.ended, attempts, threshold,
    finished.mem_steps_iff also attempts threshold]

/-- The same steps succeed. -/
theorem completed_perm :
    (history.completed client policy).Perm (second.completed client other) := by
  have distinct := (List.nodup_append.mp finished.completed_nodup).1
  have also_distinct := (List.nodup_append.mp also.completed_nodup).1
  exact (List.perm_ext_iff_of_nodup distinct also_distinct).mpr
    (finished.mem_completed_iff also attempts threshold)

/-- The same steps are given up. -/
theorem dropped_perm : (history.dropped client policy).Perm (second.dropped client other) := by
  have distinct := (List.nodup_append.mp finished.completed_nodup).2.1
  have also_distinct := (List.nodup_append.mp also.completed_nodup).2.1
  refine (List.perm_ext_iff_of_nodup distinct also_distinct).mpr fun step => ?_
  rw [finished.dropped_iff, also.dropped_iff, finished.mem_steps_iff also attempts threshold,
    finished.mem_completed_iff also attempts threshold]

/-- Every step fails equally often.

Proof: a step that succeeds has failed as often as the table says, and one that was given up has used
up its attempts. -/
theorem failed_perm : (history.failed client policy).Perm (second.failed client other) := by
  refine List.perm_iff_count.mpr fun step => ?_
  have same := finished.mem_steps_iff also attempts threshold step
  by_cases known : step ∈ history.steps client policy anchor
  · by_cases done : step ∈ history.completed client policy
    · obtain ⟨-, number, next, succeeds⟩ :=
        (finished.crawled.completed_iff_succeeds finished.tabled finished.ended).mp done
      rw [finished.crawled.failures_of_succeeds finished.tabled finished.ended known succeeds]
      rw [attempts, threshold] at succeeds
      exact (also.crawled.failures_of_succeeds also.tabled also.ended (same.mp known)
        succeeds).symm
    · have given_up := (finished.dropped_iff step).mpr ⟨known, done⟩
      have also_given_up :=
        (finished.dropped_perm also attempts threshold).mem_iff.mp given_up
      rw [finished.crawled.counted.dropped step given_up,
        also.crawled.counted.dropped step also_given_up, attempts]
  · rw [finished.crawled.counted.failed_none known,
      also.crawled.counted.failed_none fun taken => known (same.mpr taken)]

/-! ## The same tree -/

theorem stored_iff (statement : Statement) : Stored state.store state.report.version statement ↔
    Stored final.store final.report.version statement := by
  rw [finished.crawled.stored_iff_source, also.crawled.stored_iff_source]
  simp only [finished.mem_steps_iff also attempts threshold]

/-- A crawl that has not begun a version has stored nothing, so the other has not begun one either. -/
theorem unbegun (nothing : state.report.version = none) : final.report.version = none := by
  rcases also.crawled.crawling.invariant.phase with opening | ⟨number, generation, building⟩
  · exact opening.unbegun
  · obtain ⟨top, stored⟩ := building.chart.grown.root_data
    have present : Stored final.store final.report.version top :=
      ⟨number, generation, _, building.begun, building.held, stored⟩
    obtain ⟨version, -, -, begun, -⟩ :=
      (finished.stored_iff also attempts threshold top).mpr present
    rw [nothing] at begun
    cases begun

/-- Both versions are charts of the same statements. -/
theorem same_version : SameVersion state final := by
  rcases finished.crawled.crawling.invariant.phase with opening | ⟨version, generation, building⟩
  · exact .unbegun opening.unbegun (finished.unbegun also attempts threshold opening.unbegun)
  rcases also.crawled.crawling.invariant.phase with opening | ⟨number, generation', building'⟩
  · have nothing := also.unbegun finished attempts.symm threshold.symm opening.unbegun
    rw [building.begun] at nothing
    cases nothing
  have same (statement : Statement) : (∃ node, generation.data? node = some statement) ↔
      ∃ node, generation'.data? node = some statement := by
    have stored := finished.stored_iff also attempts threshold statement
    rwa [building.begun, building'.begun, Crawl.stored_iff building.held,
      Crawl.stored_iff building'.held] at stored
  refine .built building.begun building'.begun building.held building'.held ?_
  refine building.chart.same_tree building'.chart (building.chart.same_data building'.chart same) ?_
  intro top other stored also_stored
  exact (Text.lowercase_eq_of_same_ascii (building.anchored stored)).trans
    (Text.lowercase_eq_of_same_ascii (building'.anchored also_stored)).symm

/-- Crawls that have finished have done the same. -/
theorem same_crawl : SameCrawl state final := by
  obtain ⟨completed, failed, dropped⟩ := finished.crawled.reported
  obtain ⟨also_completed, also_failed, also_dropped⟩ := also.crawled.reported
  refine ⟨finished.same_version also attempts threshold, ?_, ?_, ?_⟩
  · rw [completed, also_completed]
    exact (finished.completed_perm also attempts threshold).length_eq
  · rw [failed, also_failed]
    exact (finished.failed_perm also attempts threshold).length_eq
  · rw [dropped, also_dropped]
    exact (finished.dropped_perm also attempts threshold).map _

end Finished

/-! ## All schedules -/

/-- What the client of a crawl and its federation were like, as far as the history shows: the answer
to a step depends only on the request and on how many attempts of the step came before, each
identifier but that of the anchor is listed by one authority at most, and there are few of them. -/
structure Regular (client : Client σ) (policy : Policy) (table : Table) (anchor : String)
    (limit : Nat) (history : History σ) : Prop where
  tabled : Tabled client policy table history
  apart : ListedApart client policy anchor history
  few : NamesAtMost client policy anchor history limit

/-- Two crawls of one federation that allow each step the same number of attempts come to their ends
with the same tree and the same work, whatever their schedules. -/
theorem same_crawl_of_schedules (crawled : Crawled client policy anchor history state)
    (also : Crawled client other anchor second final)
    (attempts : policy.recovery.attempts = other.recovery.attempts)
    (threshold : policy.cacheThreshold = other.cacheThreshold)
    {choices others : Nat → Nat} {turns rounds : Nat}
    (regular : Regular client policy table anchor limit
      (history ++ state.moments client policy choices turns))
    (also_regular : Regular client other table anchor limit
      (second ++ final.moments client other others rounds))
    (enough : 2 * (policy.recovery.attempts * (2 + 3 * limit)) < turns)
    (also_enough : 2 * (policy.recovery.attempts * (2 + 3 * limit)) < rounds) :
    (∀ choice, (state.run client policy choices turns).advance client policy choice = none) ∧
    (∀ choice, (final.run client other others rounds).advance client other choice = none) ∧
    SameCrawl (state.run client policy choices turns) (final.run client other others rounds) := by
  have ended := crawled.ends regular.few enough
  have also_ended := also.ends also_regular.few (attempts ▸ also_enough)
  have finished : Finished client policy table anchor
      (history ++ state.moments client policy choices turns)
      (state.run client policy choices turns) :=
    ⟨crawled.run choices turns, regular.tabled, regular.apart, ended⟩
  have also_finished : Finished client other table anchor
      (second ++ final.moments client other others rounds)
      (final.run client other others rounds) :=
    ⟨also.run others rounds, also_regular.tabled, also_regular.apart, also_ended⟩
  refine ⟨fun choice => (State.advance_none_iff client policy choice _).mpr ended,
    fun choice => (State.advance_none_iff client other choice _).mpr also_ended, ?_⟩
  exact finished.same_crawl also_finished attempts threshold

/-! ### A reluctant federation -/

/-- Who the entities of the reluctant federation list. -/
def reluctantListing : String → List String
  | "a" => ["b", "c", "B"]
  | "b" => ["A", "d"]
  | _ => []

/-- An authority makes a statement only when it is asked for it again, and nobody makes one about
`c`. The world is the subordinates that were asked about. -/
def reluctant : Client (List String) where
  configuration request world :=
    let subject := (request.parameter? "sub").getD ""
    (.ok (authorityStatement subject subject), world)
  fetch request world :=
    let issuer := (request.endpoints.bind (·.fetch)).getD ""
    let subject := (request.parameter? "sub").getD ""
    if subject = "c" ∨ subject ∉ world then (.error (.client "not now"), subject :: world)
    else (.ok (authorityStatement issuer subject), world)
  listing request world :=
    (.ok (reluctantListing ((request.endpoints.bind (·.list)).getD "")), world)

/-- What the reluctant federation answers. -/
def reluctantTable : Table := fun step _ number =>
  match step with
  | .resolveRoot entity => some (.statement (.ok (authorityStatement entity entity)))
  | .listSubordinates authority =>
    (authority.endpoints?.filter (·.canListSubordinates)).map fun endpoints =>
      .listing (.ok (reluctantListing (endpoints.list.getD "")))
  | .fetchSubordinate authority subordinate =>
    authority.endpoints?.map fun endpoints =>
      if subordinate = "c" ∨ number = 0 then .statement (.error (.client "not now"))
      else .statement (.ok (authorityStatement (endpoints.fetch.getD "") subordinate))
  | .fetchConfiguration statement =>
    some (.statement (.ok (authorityStatement statement.subject statement.subject)))

/-- The steps of a crawl of the reluctant federation. -/
def reluctantSteps : List Step :=
  [.resolveRoot "a", .listSubordinates (authorityStatement "a" "a"),
    .fetchSubordinate (authorityStatement "a" "a") "b",
    .fetchSubordinate (authorityStatement "a" "a") "c",
    .fetchConfiguration (authorityStatement "a" "b"),
    .listSubordinates (authorityStatement "b" "b"),
    .fetchSubordinate (authorityStatement "b" "b") "d",
    .fetchConfiguration (authorityStatement "b" "d"),
    .listSubordinates (authorityStatement "d" "d")]

/-- Besides the anchor, the first entity names two others and the second one a third. -/
theorem reluctant_listing {lister subordinate : String}
    (member : subordinate ∈ reluctantListing lister)
    (other : lowercase subordinate ≠ lowercase "a") :
    lister = "a" ∧ lowercase subordinate ∈ ["b", "c"] ∨
      lister = "b" ∧ lowercase subordinate = "d" := by
  have small : lowercase "b" = "b" ∧ lowercase "B" = "b" ∧ lowercase "c" = "c" ∧
    lowercase "d" = "d" ∧ lowercase "A" = lowercase "a" := by decide +kernel
  unfold reluctantListing at member
  split at member
  · left
    simp only [List.mem_cons, List.not_mem_nil, or_false] at member
    rcases member with rfl | rfl | rfl <;> simp [small]
  · right
    simp only [List.mem_cons, List.not_mem_nil, or_false] at member
    rcases member with rfl | rfl
    · exact absurd small.2.2.2.2 other
    · exact ⟨rfl, small.2.2.2.1⟩
  · cases member

/-- The reluctant federation names three identifiers besides that of the anchor. -/
theorem reluctant_names (policy : Policy) (history : History (List String)) :
    NamesAtMost reluctant policy "a" history 3 := by
  intro names distinct named
  have inside : names ⊆ ["b", "c", "d"] := by
    intro name member
    obtain ⟨other, authority, subordinates, ⟨moment, -, flight, -, -, endpoints, -, answer⟩,
      subordinate, listed, rfl⟩ := named name member
    obtain rfl := Except.ok.inj answer
    rcases reluctant_listing listed other with ⟨-, few⟩ | ⟨-, last⟩
    · exact List.mem_append_left ["d"] few
    · rw [last]
      simp
  exact distinct.length_le_of_subset inside

/-- A crawl of the reluctant federation is regular. -/
theorem regular_of_reluctant {policy : Policy} {history : History (List String)}
    {state : State (List String)} (crawled : Crawled reluctant policy "a" history state)
    (tabled : Tabled reluctant policy reluctantTable history)
    (steps : history.steps reluctant policy "a" ⊆ reluctantSteps) :
    Regular reluctant policy reluctantTable "a" 3 history := by
  -- The lister is the subject of a configuration that was taken up.
  have lister {authority : Statement} {subordinates : List String}
      (listed : Listed reluctant policy history authority subordinates) :
      reluctantListing authority.subject = subordinates := by
    have known := steps (crawled.ledger.mem_of_completed
      (crawled.ledger.heard authority subordinates listed).1)
    simp only [reluctantSteps, List.mem_cons, reduceCtorEq, Step.listSubordinates.injEq,
      List.not_mem_nil, or_false, false_or] at known
    obtain ⟨moment, -, flight, -, -, endpoints, offers, answer⟩ := listed
    obtain rfl := Except.ok.inj answer
    rcases known with rfl | rfl | rfl <;> cases offers <;> rfl
  refine ⟨tabled, ?_, reluctant_names policy history⟩
  intro authority second subordinates others listed also subordinate member spelling named same
    other
  rw [← lister listed] at member
  rw [← lister also] at named
  have first := reluctant_listing member other
  have again := reluctant_listing named (same ▸ other)
  rw [← same] at again
  rcases first with ⟨subject, few⟩ | ⟨subject, last⟩ <;>
    rcases again with ⟨second_subject, also_few⟩ | ⟨second_subject, also_last⟩
  · rw [subject, second_subject]
  · rw [also_last] at few
    simp at few
  · rw [last] at also_few
    simp at also_few
  · rw [subject, second_subject]

/-- One crawl of the reluctant federation takes one step at a time and tries again at once. The other
one begins later, takes two steps at a time, completes them in another order and defers what failed.
Both give up the same step and build the same tree. -/
theorem same_crawl_of_reluctant :
    let policy : Policy := ⟨.sequential, .retry 2, 1⟩
    let other : Policy := ⟨.concurrent 2, .deferred 2, 1⟩
    let old := [Store.Op.create "o" (authorityStatement "o" "o")]
    let state := (State.start "a" (Store.empty 1) []).run reluctant policy (fun _ => 0) 45
    let final := (State.start "a" ((Store.empty 2).applyAll old) []).run reluctant other
      (fun turns => turns) 45
    state.report = ⟨"a", some 1, 8, 4, 0, ["FetchSubordinate(a -> c)"]⟩ ∧
      final.report = ⟨"a", some 2, 8, 4, 2, ["FetchSubordinate(a -> c)"]⟩ ∧
      SameCrawl state final := by
  intro policy other old state final
  have crawled : Crawled reluctant policy "a" [] (.start "a" (Store.empty 1) []) := .start 1 [] []
  have also : Crawled reluctant other "a" [] (.start "a" ((Store.empty 2).applyAll old) []) :=
    .start 2 old []
  have regular := regular_of_reluctant (crawled.run (fun _ => 0) 45) (by decide +kernel)
    (by decide +kernel)
  have also_regular := regular_of_reluctant (also.run (fun turns => turns) 45) (by decide +kernel)
    (by decide +kernel)
  refine ⟨by decide +kernel, by decide +kernel, ?_⟩
  exact (same_crawl_of_schedules crawled also rfl rfl regular also_regular (by decide)
    (by decide)).2.2

end TrustFederation.Crawl
