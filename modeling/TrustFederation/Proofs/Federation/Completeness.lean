import TrustFederation.Proofs.Federation.Coverage
import TrustFederation.Proofs.Federation.Ways
import TrustFederation.Proofs.Resolve.Answers
import TrustFederation.Proofs.Resolve.Candidate
/-!
# Every entity of an honest federation resolves

After the crawl of an honest federation the published tree holds the configuration of every
entity that listings lead to, below the statements along one way to it. These statements and the
configurations at the two ends of the way are the candidate chain, and the rules find nothing
wrong with it. So the resolver answers for exactly the entities that listings lead to.
-/
namespace TrustFederation.Federation

open Jose (KeySet)
open Jose.Token (Holds)
open Resolve (Answer Request Resolver)
open Resolve.Resolver (Wanted)
open Text (lowercase sameAscii)
open TrustFederation.Crawl
open TrustFederation.Tree (Generation Node Store Trail Version)

variable {federation : Federation} {now : Int}

/-! ## The way that a trail follows -/

/-- A trail that ends at a configuration lays out a way through the listings, from an entity or
from the statement about it.

Proof: induction over the trail. What stands below a configuration is a statement of its entity,
and what stands below a statement is the configuration of its subject. -/
theorem way_of_trail (honest : federation.Honest now) {generation : Generation Statement}
    (chart : Chart generation)
    (said : ∀ {node statement}, generation.data? node = some statement →
      Spoken federation statement)
    {nodes : List Node} {upper lower : Node} {last : String} (ending : last ∈ federation.entities)
    (trail : Trail generation.children nodes upper lower)
    (stored : generation.data? lower = some (federation.configuration last)) :
    (∀ entity ∈ federation.entities,
      generation.data? upper = some (federation.configuration entity) →
      ∃ others, federation.Way entity others last ∧
        nodes.filterMap generation.data? = federation.laid entity others) ∧
    (∀ authority ∈ federation.entities, ∀ subordinate ∈ federation.listing authority,
      IsSubordinate (federation.statement authority subordinate) →
      generation.data? upper = some (federation.statement authority subordinate) →
      ∃ others, federation.Way subordinate others last ∧
        nodes.filterMap generation.data? =
          federation.statement authority subordinate :: federation.laid subordinate others) := by
  induction trail with
  | here node =>
    constructor
    · intro entity member found
      obtain rfl := configuration_inj honest ending member
        (Option.some.inj (stored.symm.trans found))
      exact ⟨[], .here _, by rw [List.filterMap_cons_some found]; rfl⟩
    · intro authority _ subordinate _ differs found
      rw [found, Option.some.injEq] at stored
      rw [stored] at differs
      exact absurd differs (configuration_kind honest ending).not_subordinate
  | @down nodes upper middle lower child rest ih =>
    obtain ⟨below_configuration, below_statement⟩ := ih stored
    obtain ⟨-, ⟨below, there⟩, -⟩ := chart.grown.edge_data child
    constructor
    · intro entity member found
      have fits := chart.edges child found there
      obtain ⟨differs, issuer⟩ := fits.subordinate (configuration_kind honest member)
      rcases said there with ⟨other, among, rfl⟩ | ⟨-, other, among, subordinate,
        listed, rfl⟩
      · exact absurd differs (configuration_kind honest among).not_subordinate
      · have same := Text.lowercase_eq_of_same_ascii issuer
        rw [(honest.statements other among subordinate listed).maker,
          (honest.configurations entity member).about] at same
        obtain rfl := honest.entity_unique among member same
        obtain ⟨others, way, laid⟩ := below_statement other among subordinate listed differs there
        exact ⟨subordinate :: others, .down listed way, by
          rw [List.filterMap_cons_some found, laid]; rfl⟩
    · intro authority member subordinate listed differs found
      have fits := chart.edges child found there
      obtain ⟨own, subject⟩ := fits.configuration differs
      have inside := honest.listed authority member subordinate listed
      rcases said there with ⟨other, among, rfl⟩ | ⟨other_differs, -⟩
      · have same := Text.lowercase_eq_of_same_ascii subject
        rw [(honest.configurations other among).about,
          (honest.statements authority member subordinate listed).about] at same
        obtain rfl := honest.entity_unique among inside same
        obtain ⟨others, way, laid⟩ := below_configuration other among there
        exact ⟨others, way, by rw [List.filterMap_cons_some found, laid]⟩
      · exact absurd other_differs own.not_subordinate

/-- The statements on a trail of a chart are different. -/
theorem trail_nodup {generation : Generation Statement} (chart : Chart generation)
    {nodes : List Node} {wanted : Node}
    (trail : Trail generation.children nodes generation.root wanted) :
    (nodes.filterMap generation.data?).Nodup := by
  refine List.Nodup.filterMap ?_ (List.Nodup.of_map lowercase (Resolver.trail_apart chart trail))
  intro node other statement stored also
  obtain ⟨key, keyed, rfl⟩ := chart.stands stored
  obtain ⟨second, second_keyed, rfl⟩ := chart.stands also
  rw [Except.ok.inj (keyed.symm.trans second_keyed)]

theorem configuration_mem_laid {start entity : String} {others : List String}
    (member : entity ∈ start :: others) :
    federation.configuration entity ∈ federation.laid start others := by
  induction others generalizing start with
  | nil =>
    rw [List.mem_singleton.mp member]
    exact List.mem_singleton_self _
  | cons next others ih =>
    rcases List.mem_cons.mp member with rfl | later
    · exact List.mem_cons_self
    · exact List.mem_cons_of_mem _ (List.mem_cons_of_mem _ (ih later))

/-- A way whose statements and configurations are different leads through different entities. -/
theorem nodup_of_laid {start : String} {others : List String}
    (distinct : (federation.laid start others).Nodup) : (start :: others).Nodup := by
  induction others generalizing start with
  | nil => exact List.nodup_singleton _
  | cons next others ih =>
    rw [laid, List.nodup_cons, List.nodup_cons] at distinct
    refine List.nodup_cons.mpr ⟨?_, ih distinct.2.2⟩
    intro again
    exact distinct.1 (List.mem_cons_of_mem _ (configuration_mem_laid again))

/-! ## The candidate chain of a way -/

/-- Everybody on a way but the last one lists somebody. -/
theorem Way.lists {start last entity : String} {others : List String}
    (way : federation.Way start others last) (member : entity ∈ start :: others)
    (before : entity ≠ last) : federation.listing entity ≠ [] := by
  induction way with
  | here end_of_way =>
    exact absurd (List.mem_singleton.mp member) before
  | down listed _ ih =>
    rcases List.mem_cons.mp member with rfl | later
    · exact List.ne_nil_of_mem listed
    · exact ih later before

/-- No statement on a way through different entities is about its issuer. -/
theorem Way.vouching_not_self (honest : federation.Honest now) {start last : String}
    {others : List String} (way : federation.Way start others last)
    (inside : start ∈ federation.entities) (distinct : (start :: others).Nodup) :
    ∀ statement ∈ federation.vouching start others, statement.isSelfStatement = false := by
  induction way with
  | here entity => exact fun statement member => absurd member List.not_mem_nil
  | @down authority subordinate last others listed _ ih =>
    have declared := honest.statements authority inside subordinate listed
    rw [List.nodup_cons] at distinct
    intro statement member
    rcases List.mem_cons.mp member with rfl | later
    · have differs : authority ≠ subordinate :=
        fun same => distinct.1 (same ▸ List.mem_cons_self)
      simpa [Statement.isSelfStatement, declared.maker, declared.about] using differs
    · exact ih (honest.listed authority inside subordinate listed) distinct.2 statement later

/-- What is kept of a way when the configurations of all but its last entity are left out. -/
theorem Way.filter_laid {start last : String} {others : List String}
    (way : federation.Way start others last) (keep : Statement → Bool)
    (distinct : (start :: others).Nodup)
    (statements : ∀ statement ∈ federation.vouching start others, keep statement = true)
    (ending : keep (federation.configuration last) = true)
    (between : ∀ entity ∈ start :: others, entity ≠ last →
      keep (federation.configuration entity) = false) :
    (federation.laid start others).filter keep =
      federation.vouching start others ++ [federation.configuration last] := by
  induction way with
  | here entity => rw [laid, vouching, List.filter_cons_of_pos ending]; rfl
  | @down authority subordinate last others listed rest ih =>
    rw [List.nodup_cons] at distinct
    have not_last : authority ≠ last := fun same => distinct.1 (same ▸ rest.last_mem)
    have dropped := between authority List.mem_cons_self not_last
    have kept := statements _ List.mem_cons_self
    rw [laid, vouching, List.filter_cons_of_neg (by simp [dropped]),
      List.filter_cons_of_pos kept,
      ih distinct.2 (fun statement member => statements statement (List.mem_cons_of_mem _ member))
        ending (fun entity member => between entity (List.mem_cons_of_mem _ member))]
    rfl

/-- The configuration of an authority is left out of a candidate chain, unless this is the anchor
or the subject that is asked for. -/
theorem authority_between (honest : federation.Honest now) {resolver : Resolver}
    {request : Request} {authority last : String} (member : authority ∈ federation.entities)
    (lists : federation.listing authority ≠ []) (start : resolver.trustAnchor ∈ federation.entities)
    (not_anchor : authority ≠ resolver.trustAnchor) (ending : last ∈ federation.entities)
    (about : sameAscii last request.subject = true) (not_last : authority ≠ last) :
    resolver.isBetween request (federation.configuration authority) = true := by
  have own := honest.configurations authority member
  obtain ⟨endpoints, found, offers⟩ := honest.offers authority member lists
  have fetches : endpoints.fetch.isSome = true := by
    simp only [Endpoints.canListSubordinates, Bool.and_eq_true] at offers
    exact offers.2
  have other_anchor : sameAscii authority resolver.trustAnchor = false := by
    by_contra same
    rw [Bool.not_eq_false] at same
    exact not_anchor (honest.entity_unique member start (Text.lowercase_eq_of_same_ascii same))
  have other_subject : sameAscii authority request.subject = false := by
    by_contra same
    rw [Bool.not_eq_false] at same
    exact not_last (honest.entity_unique member ending (Text.lowercase_eq_of_same_ascii
      (Text.sameAscii_trans same (Text.sameAscii_comm about))))
  simp only [Resolver.isBetween, Statement.isIntermediateAuthority, Statement.isSelfStatement,
    own.maker, own.about, found, other_anchor, other_subject, Option.any_some, fetches]
  simp

/-- The candidate chain of a way has its statements and the configurations of its two ends.

Proof: an authority on the way between the ends offers to fetch statements, and it is neither the
anchor nor the subject asked for, because the entities on the way are different. -/
theorem Way.candidate (honest : federation.Honest now) {resolver : Resolver} {request : Request}
    {anchor last : String} {others : List String} (way : federation.Way anchor others last)
    (start : anchor ∈ federation.entities) (distinct : (anchor :: others).Nodup)
    (anchored : resolver.trustAnchor = anchor)
    (about : sameAscii last request.subject = true) :
    ((federation.laid anchor others).filter fun statement =>
      !resolver.isBetween request statement) = federation.endorsed anchor others last := by
  have members := way.mem_entities honest start
  have ending : last ∈ federation.entities := members last way.last_mem
  have topmost : resolver.isBetween request (federation.configuration anchor) = false := by
    apply Resolver.not_between_of_anchor
    rw [(honest.configurations anchor start).about, anchored]
    exact Text.sameAscii_refl anchor
  have leaf : resolver.isBetween request (federation.configuration last) = false := by
    apply Resolver.not_between_of_subject
    rw [(honest.configurations last ending).about]
    exact about
  have statements : ∀ statement ∈ federation.vouching anchor others,
      resolver.isBetween request statement = false := by
    intro statement member
    have other := way.vouching_not_self honest start distinct statement member
    simp [Resolver.isBetween, Statement.isIntermediateAuthority, other]
  have between : ∀ entity ∈ others, entity ≠ last →
      resolver.isBetween request (federation.configuration entity) = true := by
    intro entity member before
    have inside := members entity (List.mem_cons_of_mem _ member)
    have not_anchor : entity ≠ anchor := by
      rintro rfl
      exact (List.nodup_cons.mp distinct).1 member
    have lists := way.lists (List.mem_cons_of_mem _ member) before
    exact authority_between honest inside lists (anchored ▸ start) (anchored ▸ not_anchor) ending
      about before
  cases way with
  | here entity =>
    rw [laid, List.filter_cons_of_pos (by simp [topmost])]
    rfl
  | @down _ subordinate _ others listed rest =>
    have kept := rest.filter_laid (fun statement => !resolver.isBetween request statement)
      (List.nodup_cons.mp distinct).2
      (fun statement member => by simp [statements statement (List.mem_cons_of_mem _ member)])
      (by simp [leaf])
      (fun entity member before => by simp [between entity member before])
    have first := statements _ List.mem_cons_self
    rw [laid, List.filter_cons_of_pos (by simp [topmost]),
      List.filter_cons_of_pos (by simp [first]), kept, endorsed, if_neg (List.cons_ne_nil _ _)]
    rfl

/-! ## What resolves after a crawl -/

/-- A request asks for an entity: for its subject, and for its type if it names one. -/
structure Asked (federation : Federation) (request : Request) (entity : String) : Prop where
  about : sameAscii entity request.subject = true
  typed : ∀ entityType, request.entityType = some entityType →
    (federation.configuration entity).hasMetadata entityType = true

/-- The published version holds the configuration of every entity that listings lead to, and
nothing that no entity has said. -/
structure Covers (federation : Federation) (anchor : String) (store : StatementStore)
    (generation : Generation Statement) : Prop where
  held : store.generation? store.current = some generation
  chart : Chart generation
  spoken : ∀ {node statement}, generation.data? node = some statement →
    Spoken federation statement
  anchored : generation.data? generation.root = some (federation.configuration anchor)
  complete : ∀ {entity}, federation.Reaches anchor entity →
    ∃ node, generation.data? node = some (federation.configuration entity)

/-- A crawl with three turns for each entity comes to its end, covers the federation and publishes
its version. -/
theorem covers_of_run {σ : Type} {client : Client σ} (serves : federation.Serves client)
    (honest : federation.Honest now) {anchor : String} (start : anchor ∈ federation.entities)
    (policy : Policy) (choices : Nat → Nat) {turns : Nat}
    (enough : 3 * federation.entities.length ≤ turns) {store : StatementStore}
    (numbered : store.Numbered) (world : σ) :
    let final := (State.start anchor store world).run client policy choices turns
    final.pending = [] ∧
      ∃ generation, Covers federation anchor (final.report.publish final.store) generation := by
  intro final
  have some_entity : 0 < federation.entities.length := List.length_pos_of_mem start
  have beginning : Progress federation client anchor (State.start anchor store world) :=
    ⟨⟨numbered, .inl ⟨rfl, rfl, .inl rfl⟩⟩, .inl ⟨rfl, rfl, rfl⟩⟩
  have bound : remaining federation (State.start anchor store world) ≤ turns := by
    have begins : remaining federation (State.start anchor store world) =
        3 * (federation.entities.length - 1) + 2 := rfl
    omega
  obtain ⟨finished, progress⟩ := Progress.run serves honest start policy choices
    beginning bound
  refine ⟨finished, ?_⟩
  rcases progress.phase with ⟨-, pending, -⟩ | ⟨version, generation, covering⟩
  · rw [finished] at pending
    cases pending
  · have building := progress.invariant.building covering.begun covering.held
    have complete := fun {entity} (reaches : federation.Reaches anchor entity) =>
      covering.complete honest start building finished reaches
    have published : final.report.publish final.store = final.store.publish version := by
      rw [Report.publish, covering.begun]
    refine ⟨generation, ?_, building.chart, covering.stored, ?_, complete⟩
    · rw [published, Store.current_publish covering.newer covering.held,
        Store.generation_publish_self, covering.held]
    · obtain ⟨root, topmost⟩ := building.chart.grown.root_data
      have about := Text.lowercase_eq_of_same_ascii (building.anchored topmost)
      rcases covering.stored topmost with ⟨entity, member, rfl⟩ | ⟨differs, -⟩
      · rw [(honest.configurations entity member).about] at about
        rw [topmost, honest.entity_unique member start about]
      · exact absurd differs (building.chart.rooted topmost).not_subordinate

theorem Way.reaches {anchor start last : String} {others : List String}
    (way : federation.Way start others last) (above : federation.Reaches anchor start) :
    federation.Reaches anchor last := by
  induction way with
  | here entity => exact above
  | down listed _ ih => exact ih (.listed above listed)

section Resolving

variable {anchor : String} {store : StatementStore} {generation : Generation Statement}
  {resolver : Resolver} {request : Request}

/-- The candidate chain for an entity whose configuration is in the tree is that of a way from
the anchor. -/
theorem Covers.candidate (covers : Covers federation anchor store generation)
    (honest : federation.Honest now) (start : anchor ∈ federation.entities) {entity : String}
    (member : entity ∈ federation.entities) (anchored : resolver.trustAnchor = anchor)
    {node : Node} (stored : generation.data? node = some (federation.configuration entity))
    (wanted : Wanted request (federation.configuration entity)) :
    ∃ others, federation.Way anchor others entity ∧
      resolver.findChain store.reads store.pathBound request =
        .ok (federation.endorsed anchor others entity).reverse := by
  obtain ⟨nodes, trail, found⟩ :=
    Resolver.find_chain_of_wanted resolver covers.chart covers.held stored wanted
  obtain ⟨others, way, laid⟩ := (way_of_trail honest covers.chart covers.spoken member trail
    stored).1 anchor start covers.anchored
  have distinct : (anchor :: others).Nodup := nodup_of_laid (laid ▸ trail_nodup covers.chart trail)
  have about : sameAscii entity request.subject = true := by
    rw [← (honest.configurations entity member).about]
    exact wanted.about
  refine ⟨others, way, ?_⟩
  rw [found, laid, way.candidate honest start distinct anchored about]

/-- The candidate chain for an entity that listings lead to is that of a way, and begins with the
configuration of the entity. -/
theorem Covers.candidate_of_reaches (covers : Covers federation anchor store generation)
    (honest : federation.Honest now) (start : anchor ∈ federation.entities)
    (anchored : resolver.trustAnchor = anchor) {entity : String}
    (reaches : federation.Reaches anchor entity) (asked : Asked federation request entity) :
    ∃ others, federation.Way anchor others entity ∧
      resolver.findChain store.reads store.pathBound request =
        .ok (federation.endorsed anchor others entity).reverse ∧
      (federation.endorsed anchor others entity).reverse.head? =
        some (federation.configuration entity) := by
  have member : entity ∈ federation.entities := reaches.mem_entities honest start
  have own := honest.configurations entity member
  have wanted : Wanted request (federation.configuration entity) :=
    ⟨own.maker.trans own.about.symm, by rw [own.about]; exact asked.about, asked.typed⟩
  obtain ⟨node, stored⟩ := covers.complete reaches
  obtain ⟨others, way, candidate⟩ :=
    covers.candidate honest start member anchored stored wanted
  exact ⟨others, way, candidate, by rw [List.head?_reverse, way.endorsed_last]⟩

/-- The resolver answers for an entity that listings lead to, with the statements along a way, if
all that is said is legible.

Proof: the configuration of the entity is in the tree, and the candidate chain for it is that of
a way, with which the rules find nothing wrong. -/
theorem Covers.resolves (covers : Covers federation anchor store generation)
    (honest : federation.Honest now) (legible : federation.Legible)
    (start : anchor ∈ federation.entities) (anchored : resolver.trustAnchor = anchor)
    {trusted : KeySet} (rules : resolver.rules = Chain.standardRules trusted)
    (trusts : Holds trusted (federation.keyId anchor) (federation.secret anchor))
    (signs : resolver.signer.algorithm.digest?.isSome) (late : now ≤ Word.largestSigned)
    (fits : Word.Signed (now + resolver.lifetime))
    (below : sameAscii request.trustAnchor anchor = true) {entity : String}
    (reaches : federation.Reaches anchor entity) (asked : Asked federation request entity) :
    ∃ others answer, federation.Way anchor others entity ∧
      resolver.resolve store request now = .ok answer ∧ answer.claims.subject = entity ∧
      answer.claims.chain = (federation.endorsed anchor others entity).reverse.map (·.token) := by
  obtain ⟨others, way, candidate, head⟩ :=
    covers.candidate_of_reaches honest start anchored reaches asked
  have own := honest.configurations entity (reaches.mem_entities honest start)
  have valid : Chain.validate resolver.rules now
      (federation.endorsed anchor others entity).reverse = [] := by
    rw [rules]
    exact way.valid honest legible start late trusts
  obtain ⟨answer, made⟩ := Resolver.answer_of_valid request head valid signs fits
  have named : request.subject.isEmpty = false := by
    have nonempty := Statement.issuer_of_token own.read
    rwa [own.maker, Text.is_empty_of_same_ascii asked.about] at nonempty
  obtain ⟨-, tokens, subject, -⟩ := Resolver.claims_of_answer made
  rw [head, Option.map_some, Option.some.injEq, own.about] at subject
  exact ⟨others, answer, way, Resolver.resolve_of_chain (anchored ▸ below) named candidate made,
    subject.symm, tokens⟩

/-- The configuration of an entity for which the resolver answers is legible. -/
theorem Covers.legible_of_resolve (covers : Covers federation anchor store generation)
    (honest : federation.Honest now) (start : anchor ∈ federation.entities)
    (anchored : resolver.trustAnchor = anchor) {trusted : KeySet}
    (rules : resolver.rules = Chain.standardRules trusted) {entity : String}
    (reaches : federation.Reaches anchor entity) (asked : Asked federation request entity)
    {answer : Answer} (answered : resolver.resolve store request now = .ok answer) :
    Jose.Token.Legible (federation.configuration entity).token := by
  obtain ⟨others, -, candidate, head⟩ :=
    covers.candidate_of_reaches honest start anchored reaches asked
  obtain ⟨chain, found, made⟩ := Resolver.candidate_of_resolve answered
  obtain rfl := Except.ok.inj (found.symm.trans candidate)
  have valid := (Resolver.claims_of_answer made).1
  rw [rules] at valid
  obtain ⟨-, -, own, -⟩ :=
    (Chain.signature_violations_nil_iff _ _ _).mp (Chain.signatures_of_valid valid)
  obtain ⟨-, keys, -, verified⟩ := own _ head
  exact Jose.Token.legible_of_verify (map_error_ok_iff.mp verified)

/-- What is wanted of the tree is the configuration of an entity that listings lead to.

Proof: the trail to a wanted configuration is a way. -/
theorem Covers.reaches_of_wanted (covers : Covers federation anchor store generation)
    (honest : federation.Honest now) (start : anchor ∈ federation.entities)
    (anchored : resolver.trustAnchor = anchor) {node : Node} {statement : Statement}
    (stored : generation.data? node = some statement) (wanted : Wanted request statement) :
    ∃ entity, federation.Reaches anchor entity ∧ Asked federation request entity := by
  rcases covers.spoken stored with ⟨entity, member, rfl⟩ | ⟨differs, -⟩
  · obtain ⟨others, way, -⟩ := covers.candidate honest start member anchored stored wanted
    have about := wanted.about
    rw [(honest.configurations entity member).about] at about
    exact ⟨entity, way.reaches .anchor, about, wanted.typed⟩
  · exact absurd differs wanted.is_configuration.not_subordinate

/-- Without an entity that is asked for and that listings lead to, no chain is found. -/
theorem Covers.find_chain_of_unreached (covers : Covers federation anchor store generation)
    (honest : federation.Honest now) (start : anchor ∈ federation.entities)
    (anchored : resolver.trustAnchor = anchor)
    (unreached : ∀ entity, federation.Reaches anchor entity → ¬ Asked federation request entity) :
    resolver.findChain store.reads store.pathBound request =
      .error (.notFound ("No trust chain for " ++ request.subject)) := by
  apply Resolver.find_chain_of_unwanted resolver covers.chart covers.held
  intro node statement stored wanted
  obtain ⟨entity, reaches, asked⟩ :=
    covers.reaches_of_wanted honest start anchored stored wanted
  exact unreached entity reaches asked

/-- The resolver answers for no entity but those that listings lead to. -/
theorem Covers.reaches_of_resolve (covers : Covers federation anchor store generation)
    (honest : federation.Honest now) (start : anchor ∈ federation.entities)
    (anchored : resolver.trustAnchor = anchor) {answer : Answer}
    (answered : resolver.resolve store request now = .ok answer) :
    ∃ entity, federation.Reaches anchor entity ∧ Asked federation request entity := by
  obtain ⟨chain, candidate, -⟩ := Resolver.candidate_of_resolve answered
  by_contra unreached
  have absent := covers.find_chain_of_unreached honest start anchored
    fun entity reaches asked => unreached ⟨entity, reaches, asked⟩
  rw [absent] at candidate
  cases candidate

end Resolving

/-- The crawl of an honest federation comes to its end, in whichever order its steps complete.
When its version has been published, the resolver answers for no entities but those that listings
lead to from the anchor, and finds no chain for any other subject. For all of these it answers if what
the federation says is legible, with the statements along a way and the configurations at both of its
ends.

The choices say which attempt completes next; `Crawl.load` always takes the oldest one. More turns
than are needed change nothing. -/
theorem resolves_exactly_reached {σ : Type} {client : Client σ} {resolver : Resolver}
    {trusted : KeySet} {anchor : String} (honest : federation.Honest now)
    (serves : federation.Serves client) (start : anchor ∈ federation.entities)
    (anchored : resolver.trustAnchor = anchor)
    (rules : resolver.rules = Chain.standardRules trusted)
    (trusts : Holds trusted (federation.keyId anchor) (federation.secret anchor))
    (signs : resolver.signer.algorithm.digest?.isSome) (late : now ≤ Word.largestSigned)
    (fits : Word.Signed (now + resolver.lifetime)) (policy : Policy) (choices : Nat → Nat)
    {turns : Nat} (enough : 3 * federation.entities.length ≤ turns) (retained : Nat)
    (ops : List (Store.Op Statement)) (world : σ) (request : Request)
    (below : sameAscii request.trustAnchor anchor = true) :
    let final := (State.start anchor ((Store.empty retained).applyAll ops) world).run client policy
      choices turns
    let store := final.report.publish final.store
    (∀ choice, final.advance client policy choice = none) ∧
    (federation.Legible →
      ∀ entity, federation.Reaches anchor entity → Asked federation request entity →
        ∃ others answer, federation.Way anchor others entity ∧
          resolver.resolve store request now = .ok answer ∧ answer.claims.subject = entity ∧
          answer.claims.chain =
            (federation.endorsed anchor others entity).reverse.map (·.token)) ∧
    (∀ answer, resolver.resolve store request now = .ok answer →
      ∃ entity, federation.Reaches anchor entity ∧ Asked federation request entity) ∧
    (request.subject.isEmpty = false →
      (∀ entity, federation.Reaches anchor entity → ¬ Asked federation request entity) →
      resolver.resolve store request now =
        .error (.failure (.notFound ("No trust chain for " ++ request.subject)))) := by
  intro final store
  obtain ⟨finished, generation, covers⟩ := covers_of_run serves honest start policy choices enough
    (Store.numbered_apply_all retained ops) world
  refine ⟨?_, ?_, ?_, ?_⟩
  · intro choice
    exact (State.advance_none_iff client policy choice final).mpr finished
  · intro legible entity reaches asked
    exact covers.resolves honest legible start anchored rules trusts signs late fits below reaches
      asked
  · intro answer answered
    exact covers.reaches_of_resolve honest start anchored answered
  · intro named unreached
    rw [Resolver.resolve_eq (anchored ▸ below) named,
      covers.find_chain_of_unreached honest start anchored unreached]
    rfl

/-- A resolver for the pair that trusts the keys of its authority. -/
def pairResolver : Resolver :=
  ⟨"r", "a", Chain.standardRules (namesakeKeys "a"), .hmac [114] "r", Resolve.defaultLifetime⟩

/-- After the pair has been crawled, two steps at a time and the later one first, the resolver
answers for the entity that the authority lists, and finds no chain for a third one. -/
theorem resolves_exactly_reached_pair :
    let policy : Policy := ⟨.concurrent 2, .deferred 3, 1⟩
    let final := (State.start "a" (Store.empty 1) ()).run pairClient policy (fun _ => 1) 6
    let store := final.report.publish final.store
    (∀ choice, final.advance pairClient policy choice = none) ∧
    (∃ others answer, pair.Way "a" others "b" ∧
      pairResolver.resolve store ⟨"B", "A", none⟩ 2 = .ok answer ∧ answer.claims.subject = "b" ∧
      answer.claims.chain = (pair.endorsed "a" others "b").reverse.map (·.token)) ∧
    pairResolver.resolve store ⟨"c", "A", none⟩ 2 =
      .error (.failure (.notFound ("No trust chain for " ++ "c"))) := by
  intro policy final store
  have anchored : pairResolver.trustAnchor = "a" := rfl
  have exactly (request : Request) (below : sameAscii request.trustAnchor "a" = true) :=
    resolves_exactly_reached pair_honest pair_serves (by decide) anchored rfl
      (namesake_holds "a") (by decide) (by decide) (by decide) policy (fun _ => 1)
      (show 3 * 2 ≤ 6 by decide) 1 [] () request below
  obtain ⟨finished, answers, -⟩ := exactly ⟨"B", "A", none⟩ (by decide)
  obtain ⟨-, -, -, unanswered⟩ := exactly ⟨"c", "A", none⟩ (by decide)
  refine ⟨finished, ?_, ?_⟩
  · exact answers pair_legible "b" (.listed .anchor List.mem_cons_self)
      ⟨by decide, fun entityType typed => by cases typed⟩
  · refine unanswered (by decide) fun entity reaches asked => ?_
    have member : entity ∈ pair.entities := reaches.mem_entities pair_honest List.mem_cons_self
    have third : ∀ known ∈ pair.entities, sameAscii known "c" = false := by decide
    have about : sameAscii entity "c" = true := asked.about
    rw [third entity member] at about
    cases about

/-! ### An illegible configuration -/

/-- What the listed entity of the pair claims about itself, and a list for the time from which this
is to hold. -/
def listedTimeClaims : Json :=
  .ofMembers [("iss", .text "b"), ("sub", .text "b"), ("iat", .ofInt 1), ("exp", .ofInt 3),
    ("nbf", .array [.ofInt 1]), ("jwks", (namesakeKeys "b").toJson)]

/-- The token of these claims. -/
def listedTimeToken : String :=
  ((Jose.Token.Signer.hmac (Jose.bytesOf "b") "k").sign listedTimeClaims
    "entity-statement+jwt").toOption.getD ""

/-- The configuration with this token. As a statement it has no such time. -/
def listedTimeConfiguration : Statement := { pairClaims "b" "b" with token := listedTimeToken }

theorem listed_time_sign :
    (Jose.Token.Signer.hmac (Jose.bytesOf "b") "k").sign listedTimeClaims
      "entity-statement+jwt" = .ok listedTimeToken := rfl

theorem listed_time_illegible : ¬ Jose.Token.Legible listedTimeToken := by
  rw [Jose.Token.legible_of_sign listed_time_sign]
  intro readable
  have refused : (Jose.RegisteredClaims.check
      (Jose.bytesOf listedTimeClaims.compact)).toOption = none := by decide +kernel
  rw [readable] at refused
  cases refused

/-- The pair stays honest with this configuration, but its entity does not resolve any more. -/
theorem listed_time_does_not_resolve :
    let federation := pair.reconfigured "b" listedTimeConfiguration
    let client := reconfiguredClient pairClient "b" listedTimeConfiguration
    let request : Request := ⟨"b", "a", none⟩
    let final := (State.start "a" (Store.empty 1) ()).run client ⟨.sequential, .drop, 1⟩
      (fun _ => 0) 6
    let store := final.report.publish final.store
    federation.Honest 2 ∧ federation.Serves client ∧
      Holds (namesakeKeys "a") (federation.keyId "a") (federation.secret "a") ∧
      Word.Signed (2 + pairResolver.lifetime) ∧
      federation.Reaches "a" "b" ∧ Asked federation request "b" ∧
      ∀ answer, pairResolver.resolve store request 2 ≠ .ok answer := by
  intro federation client request final store
  have declared : pair.Declares 2 "b" "b" listedTimeConfiguration :=
    pair_declares_of_sign listed_time_sign (by decide +kernel) rfl rfl
  have metadata : listedTimeConfiguration.metadata = (pair.configuration "b").metadata := rfl
  have endpoints : listedTimeConfiguration.endpoints? = (pair.configuration "b").endpoints? := by
    rw [Statement.endpoints?, metadata, Statement.endpoints?]
  have honest : federation.Honest 2 := pair_honest.reconfigured declared rfl endpoints
  have serves : federation.Serves client := pair_serves.reconfigured endpoints
  have reaches : federation.Reaches "a" "b" := .listed .anchor List.mem_cons_self
  have asked : Asked federation request "b" := ⟨by decide, fun entityType typed => by cases typed⟩
  refine ⟨honest, serves, namesake_holds "a", by decide, reaches, asked, ?_⟩
  intro answer answered
  have start : "a" ∈ federation.entities := List.mem_cons_self
  obtain ⟨-, generation, covers⟩ := covers_of_run serves honest start ⟨.sequential, .drop, 1⟩
    (fun _ => 0) (show 3 * 2 ≤ 6 by decide) (Store.numbered_empty 1) ()
  have legible := covers.legible_of_resolve honest start (show pairResolver.trustAnchor = "a" from rfl)
    rfl reaches asked answered
  rw [reconfigured_self] at legible
  exact listed_time_illegible legible

end TrustFederation.Federation
