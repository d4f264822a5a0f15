import TrustFederation.Proofs.Crawl.Schedules
/-!
# Who stands above whom

A statement gets into the version of a crawl only by way of a listing: the authority that makes it
was asked for its subordinates first, and only an authority with endpoints for listing and fetching
is asked. So every configuration with something below it declares these endpoints. That a
configuration with nothing below it lacks them is not true, for its listing may be empty or fail.
-/
namespace TrustFederation.Crawl

open TrustFederation.Tree (Generation Node Version)

variable {σ : Type} {client : Client σ} {policy : Policy} {anchor : String} {history : History σ}
  {state : State σ} {version : Version} {generation : Generation Statement}

/-- Every crawl has a history. -/
theorem Crawling.crawled (crawling : Crawling client policy anchor state) :
    ∃ history, Crawled client policy anchor history state := by
  induction crawling with
  | start retained ops world => exact ⟨[], .start retained ops world⟩
  | turn choice _ advanced ih =>
    obtain ⟨history, crawled⟩ := ih
    exact ⟨_, crawled.turn choice advanced⟩
  | shared op _ spared ih =>
    obtain ⟨history, crawled⟩ := ih
    exact ⟨history, crawled.shared op spared⟩

/-- The authority offers to list its subordinates and to make statements about them. -/
def Offers (authority : Statement) : Prop :=
  ∃ endpoints, authority.endpoints? = some endpoints ∧ endpoints.canListSubordinates = true

/-- An authority is a self-signed intermediate one if it offers to list its subordinates. -/
theorem Offers.is_intermediate {authority : Statement} (offers : Offers authority)
    (own : authority.issuer = authority.subject) : authority.isIntermediateAuthority = true := by
  obtain ⟨endpoints, offered, can⟩ := offers
  rw [Endpoints.canListSubordinates, Bool.and_eq_true] at can
  simp [Statement.isIntermediateAuthority, Statement.isSelfStatement, own, offered, can.2]

/-- When a statement about a subordinate is in the version of a crawl, the configuration of the
subordinate has been looked for. -/
theorem Crawled.looked_for_of_stored (crawled : Crawled client policy anchor history state)
    {statement : Statement} (stored : Stored state.store state.report.version statement)
    (differs : IsSubordinate statement) :
    .fetchConfiguration statement ∈ history.steps client policy anchor := by
  obtain ⟨step, known, source⟩ := (crawled.stored_iff_source statement).mp stored
  have apt := crawled.apt_of_mem known
  cases step with
  | listSubordinates lister =>
    cases source
    exact absurd differs apt.not_subordinate
  | fetchConfiguration other =>
    cases source
    exact known
  | _ => cases source

/-- An authority that is asked about a subordinate has listed it before, which it offers to do. -/
theorem Crawled.listed_of_fetch (crawled : Crawled client policy anchor history state)
    {authority : Statement} {subordinate : String}
    (known : .fetchSubordinate authority subordinate ∈ history.steps client policy anchor) :
    .listSubordinates authority ∈ history.steps client policy anchor ∧ Offers authority := by
  rcases History.brought_of_mem known with
    first | ⟨moment, member, flight, outcome, landing, result, brought⟩
  · cases first
  obtain ⟨subordinates, ⟨_, listing, lists, offered, can, -⟩, -⟩ :=
    Moment.lists_of_fetch landing result brought
  have asked := (crawled.tried_of_landing member listing).1
  rw [lists] at asked
  rw [Option.filter_eq_some_iff] at can
  exact ⟨asked, offered, can⟩

/-- A statement about a subordinate that is in the version of a crawl was asked of an authority
whose configuration is in the version too and which offers to list its subordinates.

Proof: the step before the one that looks for the configuration of the subordinate has fetched the
statement, and the one before that has listed its authority. -/
theorem Crawled.authority_of_stored (crawled : Crawled client policy anchor history state)
    {statement : Statement} (stored : Stored state.store state.report.version statement)
    (differs : IsSubordinate statement) :
    ∃ authority, Stored state.store state.report.version authority ∧ Fits authority statement ∧
      Offers authority := by
  rcases History.brought_of_mem (crawled.looked_for_of_stored stored differs) with
    first | ⟨moment, member, flight, outcome, landing, result, brought⟩
  · cases first
  rw [mem_claim _ _ (by simp)] at brought
  have replies := replies_of_execute result
  have earlier := (crawled.tried_of_landing member landing).1
  generalize flight.attempt.step = step at replies earlier
  generalize outcome.next = next at brought replies
  cases replies with
  | @subordinate authority found subordinate endpoints offers answer fits =>
    cases List.mem_singleton.mp brought
    obtain ⟨listed, offering⟩ := crawled.listed_of_fetch earlier
    have own : IsConfiguration authority := crawled.apt_of_mem listed
    exact ⟨authority, (crawled.stored_iff_source authority).mpr ⟨_, listed, rfl⟩,
      ⟨fun _ => ⟨differs, fits.issuer⟩, fun other => absurd other own.not_subordinate⟩, offering⟩
  | listing =>
    obtain ⟨subordinate, -, impossible⟩ := List.mem_map.mp brought
    cases impossible
  | leaf => cases brought
  | _ => cases List.mem_singleton.mp brought

/-- A configuration that has something below it in the version of a crawl offers to list its
subordinates. -/
theorem Crawling.offers_of_child (crawling : Crawling client policy anchor state)
    (begun : state.report.version = some version)
    (held : state.store.generation? version = some generation) {upper lower : Node}
    {above : Statement} (stored : generation.data? upper = some above)
    (own : IsConfiguration above) (child : lower ∈ generation.children upper) : Offers above := by
  have chart := (crawling.invariant.building begun held).chart
  obtain ⟨history, crawled⟩ := crawling.crawled
  obtain ⟨-, ⟨below, lower_stored⟩, -⟩ := chart.grown.edge_data child
  have fits : Fits above below := chart.edges child stored lower_stored
  have present : Stored state.store state.report.version below := by
    rw [begun, stored_iff held]
    exact ⟨lower, lower_stored⟩
  obtain ⟨authority, also, fits_also, offers⟩ :=
    crawled.authority_of_stored present (fits.subordinate own).1
  rw [begun, stored_iff held] at also
  obtain ⟨place, authority_stored⟩ := also
  obtain rfl : upper = place := chart.parent_eq stored authority_stored fits fits_also
  obtain rfl : above = authority := Option.some.inj (stored.symm.trans authority_stored)
  exact offers

end TrustFederation.Crawl
