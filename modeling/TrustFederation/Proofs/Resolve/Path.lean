import TrustFederation.Proofs.Crawl.Authorities
import TrustFederation.Proofs.Resolve.Candidate
/-!
# The candidate chain is the way up

A version that a crawl has filled holds one path of statements from its root to each configuration.
The candidate chain for a request is what stands on the path to the configuration asked for: this
configuration, each statement about a subordinate on the way up, and the configuration of the trust
anchor. The configurations in between are left out, all of them, because only authorities with
endpoints have anything below them. What stands on other branches plays no part.
-/
namespace TrustFederation.Resolve

open Text (lowercase sameAscii)
open TrustFederation.Crawl (Chart Crawling IsConfiguration IsSubordinate Offers)
open TrustFederation.Tree (Descent Generation Node Store Trail)

variable {generation : Generation Statement}

/-- A crawl below the anchor has filled the version. -/
def Charted {σ : Type} (client : Client σ) (policy : Crawl.Policy) (anchor : String)
    (generation : Generation Statement) : Prop :=
  ∃ state version, Crawling client policy anchor state ∧ state.report.version = some version ∧
    state.store.generation? version = some generation

/-! ## Paths from the root -/

/-- A path from the root of a version to a node. It begins with the statement at the root, and each
hop leads by a statement below the node reached so far to a configuration below this statement. -/
inductive RootPath (generation : Generation Statement) (top : Statement) :
    List (Statement × Statement) → Node → Prop where
  | root (stored : generation.data? generation.root = some top) :
      RootPath generation top [] generation.root
  | hop {hops : List (Statement × Statement)} {upper middle lower : Node}
      {said configuration : Statement} (path : RootPath generation top hops upper)
      (child : middle ∈ generation.children upper)
      (there : generation.data? middle = some said)
      (below : lower ∈ generation.children middle)
      (stored : generation.data? lower = some configuration) :
      RootPath generation top (hops ++ [(said, configuration)]) lower

/-- The statements of a path from the root, in their order. -/
def statementsOf (top : Statement) (hops : List (Statement × Statement)) : List Statement :=
  top :: hops.flatMap fun hop => [hop.1, hop.2]

/-- The chain of a path: the last configuration, what is said about subordinates on the way up, and
the statement at the root. -/
def chainUp (top : Statement) (hops : List (Statement × Statement)) : List Statement :=
  (hops.getLast?.map (·.2)).toList ++ (hops.map (·.1)).reverse ++ [top]

theorem chain_up_head (top : Statement) (hops : List (Statement × Statement)) :
    (chainUp top hops).head? = some ((hops.getLast?.map (·.2)).getD top) := by
  rcases List.eq_nil_or_concat hops with rfl | ⟨passed, hop, rfl⟩
  · rfl
  · simp [chainUp]

namespace RootPath

variable {top : Statement} {hops : List (Statement × Statement)} {node : Node}

/-- The nodes of a path are a trail, and their data are its statements. -/
theorem trail (path : RootPath generation top hops node) :
    ∃ nodes, Trail generation.children nodes generation.root node ∧
      nodes.filterMap generation.data? = statementsOf top hops := by
  induction path with
  | root stored => exact ⟨[generation.root], .here _, by simp [stored, statementsOf]⟩
  | @hop hops upper middle lower said configuration path child there below stored ih =>
    obtain ⟨nodes, trail, data⟩ := ih
    refine ⟨nodes ++ [middle] ++ [lower], (trail.step child).step below, ?_⟩
    simp only [List.filterMap_append, List.filterMap_cons_some there,
      List.filterMap_cons_some stored, List.filterMap_nil, data]
    simp [statementsOf]

/-- Only one path leads to a node. -/
theorem unique (chart : Chart generation) {other : Statement}
    {others : List (Statement × Statement)} (path : RootPath generation top hops node)
    (also : RootPath generation other others node) : other = top ∧ others = hops := by
  induction path generalizing others with
  | root stored =>
    cases also with
    | root known => exact ⟨Option.some.inj (known.symm.trans stored), rfl⟩
    | hop _ _ _ below _ => exact absurd rfl (chart.grown.edge_data below).2.2
  | @hop hops upper middle lower said configuration path child there below stored ih =>
    cases also with
    | root => exact absurd rfl (chart.grown.edge_data below).2.2
    | @hop _ _ second _ _ _ other_path other_child other_there other_below other_stored =>
      obtain ⟨rfl, -⟩ := chart.grown.parent_unique below other_below
      obtain ⟨rfl, -⟩ := chart.grown.parent_unique child other_child
      obtain ⟨rfl, rfl⟩ := ih other_path
      obtain rfl := Option.some.inj (there.symm.trans other_there)
      obtain rfl := Option.some.inj (stored.symm.trans other_stored)
      exact ⟨rfl, rfl⟩

/-- A path leads to every node at an even depth.

Proof: induction over half the depth. -/
theorem of_descent (chart : Chart generation) {half : Nat}
    (descent : Descent generation.children (2 * half) generation.root node) :
    ∃ top hops, RootPath generation top hops node := by
  induction half generalizing node with
  | zero =>
    obtain rfl := descent.of_zero
    obtain ⟨top, stored⟩ := chart.grown.root_data
    exact ⟨top, [], .root stored⟩
  | succ half ih =>
    obtain ⟨middle, longer, below⟩ := descent.last_step
    obtain ⟨upper, shorter, child⟩ := longer.last_step
    obtain ⟨top, hops, path⟩ := ih shorter
    obtain ⟨⟨said, there⟩, ⟨configuration, stored⟩, -⟩ := chart.grown.edge_data below
    exact ⟨top, _, .hop path child there below stored⟩

/-- A path leads to every configuration of a chart. -/
theorem of_configuration (chart : Chart generation) {leaf : Statement}
    (stored : generation.data? node = some leaf) (own : IsConfiguration leaf) :
    ∃ top hops, RootPath generation top hops node := by
  obtain ⟨depth, descent⟩ := (chart.grown.data_iff_descent node).mp ⟨leaf, stored⟩
  have even : depth % 2 = 0 := by
    by_contra odd
    exact own.not_subordinate ((chart.kind_at_depth descent stored).2 (by omega))
  obtain ⟨half, rfl⟩ : ∃ half, depth = 2 * half := ⟨depth / 2, by omega⟩
  exact of_descent chart descent

theorem top_stored (path : RootPath generation top hops node) :
    generation.data? generation.root = some top := by
  induction path with
  | root stored => exact stored
  | hop _ _ _ _ _ ih => exact ih

/-- A path ends with the configuration at its node. -/
theorem stored (path : RootPath generation top hops node) :
    generation.data? node = some ((hops.getLast?.map (·.2)).getD top) := by
  cases path with
  | root stored => exact stored
  | hop _ _ _ _ stored => simpa using stored

/-- A path leads by configurations, and the statements of its hops are about subordinates. -/
theorem kinds (chart : Chart generation) (path : RootPath generation top hops node) :
    IsConfiguration ((hops.getLast?.map (·.2)).getD top) ∧
      ∀ hop ∈ hops, IsSubordinate hop.1 := by
  induction path with
  | root stored => exact ⟨chart.rooted stored, fun hop member => absurd member List.not_mem_nil⟩
  | @hop hops upper middle lower said configuration path child there below stored ih =>
    obtain ⟨own, earlier⟩ := ih
    have differs : IsSubordinate said := ((chart.edges child path.stored there).subordinate own).1
    have last := ((chart.edges below there stored).configuration differs).1
    refine ⟨by simpa using last, ?_⟩
    intro hop member
    rcases List.mem_append.mp member with before | here
    · exact earlier hop before
    · rw [List.mem_singleton.mp here]
      exact differs

/-- The configuration of a hop is one, stands below the root, and the path leads on from there. -/
theorem at_hop (chart : Chart generation) (path : RootPath generation top hops node)
    {hop : Statement × Statement} (member : hop ∈ hops) :
    ∃ place further, generation.data? place = some hop.2 ∧ IsConfiguration hop.2 ∧
      place ≠ generation.root ∧ Descent generation.children further place node := by
  induction path with
  | root => exact absurd member List.not_mem_nil
  | @hop hops upper middle lower said configuration path child there below stored ih =>
    rcases List.mem_append.mp member with before | here
    · obtain ⟨place, further, known, own, lower_down, descent⟩ := ih before
      exact ⟨place, further + 1 + 1, known, own, lower_down, (descent.step child).step below⟩
    · obtain rfl := List.mem_singleton.mp here
      have kinds := (RootPath.hop path child there below stored).kinds chart
      exact ⟨lower, 0, stored, by simpa using kinds.1, (chart.grown.edge_data below).2.2, .here _⟩

end RootPath

/-! ## What is left out -/

namespace Resolver

variable {resolver : Resolver} {request : Request}

/-- A statement about a subordinate is not left out. -/
theorem not_between_of_subordinate (resolver : Resolver) (request : Request)
    {statement : Statement} (differs : IsSubordinate statement) :
    resolver.isBetween request statement = false := by
  have other : statement.issuer ≠ statement.subject := fun same =>
    differs (congrArg lowercase same)
  simp [isBetween, Statement.isIntermediateAuthority, Statement.isSelfStatement, other]

/-- When the configurations of hops are left out, and nothing else, what is said remains. -/
theorem filter_of_between {hops : List (Statement × Statement)} {keep : Statement → Bool}
    (said : ∀ hop ∈ hops, keep hop.1 = true) (between : ∀ hop ∈ hops, keep hop.2 = false) :
    (hops.flatMap fun hop => [hop.1, hop.2]).filter keep = hops.map (·.1) := by
  induction hops with
  | nil => rfl
  | cons hop rest ih =>
    rw [List.forall_mem_cons] at said between
    simp [said.1, between.1, ih said.2 between.2]

/-- When the configurations of all hops but the last are left out, and nothing else, the chain of a
path remains. -/
theorem chain_up_of_filter {top : Statement} {hops : List (Statement × Statement)}
    {keep : Statement → Bool} (root : keep top = true) (said : ∀ hop ∈ hops, keep hop.1 = true)
    (between : ∀ hop ∈ hops.dropLast, keep hop.2 = false)
    (last : ∀ hop ∈ hops.getLast?, keep hop.2 = true) :
    ((statementsOf top hops).filter keep).reverse = chainUp top hops := by
  rw [statementsOf, List.filter_cons_of_pos root]
  rcases List.eq_nil_or_concat hops with rfl | ⟨passed, hop, rfl⟩
  · rfl
  · have earlier_said : ∀ other ∈ passed, keep other.1 = true :=
      fun other member => said other (by simp [member])
    have earlier_between : ∀ other ∈ passed, keep other.2 = false :=
      fun other member => between other (by simpa using member)
    have before := filter_of_between earlier_said earlier_between
    have said_kept : keep hop.1 = true := said hop (by simp)
    have last_kept : keep hop.2 = true := last hop (by simp)
    simp [chainUp, before, said_kept, last_kept]

/-- The configuration of a hop that leads on is left out, if its issuer is its subject.

Proof: it has something below it, so it offers to list its subordinates. Neither the root nor the
configuration asked for is about the same subject. -/
theorem between_of_hop {σ : Type} {client : Client σ} {policy : Crawl.Policy}
    (charted : Charted client policy resolver.trustAnchor generation)
    {top leaf : Statement} {hops : List (Statement × Statement)} {upper lower node : Node}
    {depth : Nat} (path : RootPath generation top hops upper)
    (child : lower ∈ generation.children upper)
    (onward : Descent generation.children depth lower node)
    (stored : generation.data? node = some leaf) (asked : Wanted request leaf)
    {hop : Statement × Statement} (member : hop ∈ hops)
    (own : hop.2.issuer = hop.2.subject) : resolver.isBetween request hop.2 = true := by
  obtain ⟨state, version, crawling, begun, held⟩ := charted
  have building := crawling.invariant.building begun held
  have chart := building.chart
  obtain ⟨place, further, known, configuration, inner, descent⟩ := path.at_hop chart member
  have whole : Descent generation.children (further + depth + 1) place node :=
    descent.append (.down child onward)
  have offers : Offers hop.2 := by
    obtain ⟨next, first, -⟩ := whole.of_succ
    exact crawling.offers_of_child begun held known configuration first
  have elsewhere : place ≠ node := by
    rintro rfl
    obtain ⟨above, reached⟩ := (chart.grown.data_iff_descent place).mp ⟨_, known⟩
    have same := chart.grown.depth_unique reached (reached.append whole)
    omega
  have not_asked : sameAscii hop.2.subject request.subject = false := by
    rw [Bool.eq_false_iff]
    intro about
    refine elsewhere (chart.apart known stored ?_
      (iff_of_true configuration asked.is_configuration))
    rw [Text.lowercase_eq_of_same_ascii about, Text.lowercase_eq_of_same_ascii asked.about]
  have not_anchor : sameAscii hop.2.subject resolver.trustAnchor = false := by
    rw [Bool.eq_false_iff]
    intro about
    obtain ⟨root, topmost⟩ := chart.grown.root_data
    refine inner (chart.apart known topmost ?_ (iff_of_true configuration (chart.rooted topmost)))
    rw [Text.lowercase_eq_of_same_ascii about,
      Text.lowercase_eq_of_same_ascii (building.anchored topmost)]
  simp [isBetween, offers.is_intermediate own, not_asked, not_anchor]

/-- The candidate chain for a request is the path from the root to the configuration asked for. In a
version that a crawl has filled below the trust anchor, exactly one path leads to each
configuration. If every configuration on it is issued by its subject, then the chain found is the
configuration asked for, what is said about subordinates on the way up, and the configuration of the
anchor, whatever stands on other branches. If the version has no configuration that is asked for, no
chain is found.

Proof: the search reports the nodes of the path. A statement about a subordinate is never left out,
nor are the two ends, and each configuration in between has something below it, so it offers to list
its subordinates and is left out. -/
theorem candidate_chain_is_root_path {σ : Type} {client : Client σ} {policy : Crawl.Policy}
    {resolver : Resolver} {store : Store Statement}
    (charted : Charted client policy resolver.trustAnchor generation)
    (held : store.generation? store.current = some generation) (request : Request) :
    (∀ node leaf, generation.data? node = some leaf → Wanted request leaf →
      ∃ top hops, RootPath generation top hops node ∧
        (∀ other others, RootPath generation other others node → other = top ∧ others = hops) ∧
        (∀ hop ∈ hops, IsSubordinate hop.1 ∧ IsConfiguration hop.2) ∧
        (chainUp top hops).head? = some leaf ∧
        ((∀ hop ∈ hops, hop.2.issuer = hop.2.subject) →
          resolver.findChain store.reads store.pathBound request = .ok (chainUp top hops))) ∧
    ((∀ node statement, generation.data? node = some statement → ¬ Wanted request statement) →
      resolver.findChain store.reads store.pathBound request =
        .error (.notFound ("No trust chain for " ++ request.subject))) := by
  obtain ⟨state, version, crawling, begun, filled⟩ := id charted
  have building := crawling.invariant.building begun filled
  have chart := building.chart
  refine ⟨?_, find_chain_of_unwanted resolver chart held request⟩
  intro node leaf stored asked
  obtain ⟨top, hops, path⟩ := RootPath.of_configuration chart stored asked.is_configuration
  have ends := Option.some.inj (path.stored.symm.trans stored)
  refine ⟨top, hops, path, fun other others also => path.unique chart also, ?_, ?_, ?_⟩
  · intro hop member
    obtain ⟨place, further, -, own, -⟩ := path.at_hop chart member
    exact ⟨(path.kinds chart).2 hop member, own⟩
  · rw [chain_up_head, ends]
  · intro own
    obtain ⟨nodes, trail, data⟩ := path.trail
    rw [find_chain_of_trail resolver chart held trail stored asked, data]
    refine congrArg Except.ok (chain_up_of_filter ?_ ?_ ?_ ?_)
    · rw [not_between_of_anchor request (building.anchored path.top_stored)]
      rfl
    · intro hop member
      rw [not_between_of_subordinate resolver request ((path.kinds chart).2 hop member)]
      rfl
    · cases path with
      | root => exact fun hop member => absurd member List.not_mem_nil
      | @hop passed upper middle lower said configuration before child there below known =>
        intro hop member
        rw [List.dropLast_concat] at member
        rw [between_of_hop charted before child (.down below (.here _)) stored asked member
          (own hop (List.mem_append_left _ member))]
        rfl
    · intro hop member
      obtain rfl : hop.2 = leaf := by
        rw [← ends, Option.mem_def.mp member]
        rfl
      rw [not_between_of_subject resolver asked.about]
      rfl

/-! ### A chain over an intermediate authority -/

/-- The first entity lists `x` and `b`, and the second one lists `c`. All have endpoints. -/
def ladder : Client Unit :=
  { Crawl.circle with
    listing := fun request world =>
      match request.endpoints.bind (·.list) with
      | some "a" => (.ok ["x", "b"], world)
      | some "b" => (.ok ["c"], world)
      | _ => (.ok [], world) }

/-- The nodes of the way to `c` in a version, with their data, and whether each one stands below the
one before. -/
def ladderRungs (generation : Generation Statement) : Bool × List (Option Statement) :=
  ((generation.children generation.root).contains "a!b" &&
      (generation.children "a!b").contains "b!b" && (generation.children "b!b").contains "b!c" &&
      (generation.children "b!c").contains "c!c",
    [generation.root, "a!b", "b!b", "b!c", "c!c"].map generation.data?)

/-- The configuration of `b` is left out of the chain for `c`, and that of `c` is not, though both
have endpoints. The branch of `x` plays no part. -/
theorem candidate_chain_of_ladder :
    let policy : Crawl.Policy := ⟨.concurrent 2, .retry 2, 1⟩
    let state := (Crawl.State.start "a" (Store.empty 1) ()).run ladder policy (fun turns => turns) 20
    let store := state.report.publish state.store
    let resolver : Resolver := ⟨"r", "a", [], .hmac [] "r", defaultLifetime⟩
    let said := Crawl.authorityStatement
    state.pending = [] ∧ resolver.findChain store.reads store.pathBound ⟨"C", "A", none⟩ =
      .ok [said "c" "c", said "b" "c", said "a" "b", said "a" "a"] := by
  intro policy state store resolver said
  have crawling : Crawling ladder policy "a" state := (Crawling.start 1 [] ()).run _ 20
  have begun : state.report.version = some 1 := by decide +kernel
  have rungs : (state.store.generation? 1).map ladderRungs =
      some (true, [said "a" "a", said "a" "b", said "b" "b", said "b" "c", said "c" "c"].map some) := by
    decide +kernel
  obtain ⟨generation, filled, rungs⟩ := Option.map_eq_some_iff.mp rungs
  have held : store.generation? store.current = some generation := by
    have newer : state.store.current < 1 := by decide +kernel
    have published : store = state.store.publish 1 := by
      simp only [store, Crawl.Report.publish, begun]
    rw [published, Store.current_publish newer filled, Store.generation_publish_self, filled]
  simp only [ladderRungs, Prod.mk.injEq, Bool.and_eq_true, List.contains_iff_mem, List.map_cons,
    List.map_nil, List.cons.injEq, and_true] at rungs
  obtain ⟨⟨⟨⟨first, second⟩, third⟩, fourth⟩, root, ab, b, bc, c⟩ := rungs
  have path : RootPath generation (said "a" "a")
      [(said "a" "b", said "b" "b"), (said "b" "c", said "c" "c")] "c!c" :=
    .hop (.hop (.root root) first ab second b) third bc fourth c
  have asked : Wanted ⟨"C", "A", none⟩ (said "c" "c") :=
    ⟨rfl, by decide +kernel, fun entityType typed => by cases typed⟩
  have charted : Charted ladder policy resolver.trustAnchor generation :=
    ⟨state, 1, crawling, begun, filled⟩
  obtain ⟨top, hops, -, only, -, -, chain⟩ :=
    (candidate_chain_is_root_path charted held ⟨"C", "A", none⟩).1 _ _ c asked
  obtain ⟨rfl, rfl⟩ := only _ _ path
  exact ⟨by decide +kernel, chain (by decide +kernel)⟩

end Resolver

end TrustFederation.Resolve
