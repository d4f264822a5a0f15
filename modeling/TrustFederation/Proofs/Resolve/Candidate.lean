import TrustFederation.Proofs.Crawl.Chart
import TrustFederation.Resolve.Resolver
/-!
# The candidate chain in a chart

In a published chart at most one node is what a request asks for. If there is one, the search
for it reports the trail from the root to this node, and the candidate chain is made of the
statements on this trail without the configurations in between, the leaf first. If there is
none, no chain is found. Whether the chain is valid is not looked at here.
-/
namespace TrustFederation.Resolve.Resolver

open Text (lowercase sameAscii)
open TrustFederation.Crawl (Chart IsConfiguration)
open TrustFederation.Tree (Descent Found Generation Matches Node Place Store Trail holdsAt)

variable {store : Store Statement} {generation : Generation Statement}

/-- The statement is the configuration of the subject with the entity type asked for. -/
structure Wanted (request : Request) (statement : Statement) : Prop where
  own : statement.issuer = statement.subject
  about : sameAscii statement.subject request.subject = true
  typed : ∀ entityType, request.entityType = some entityType →
    statement.hasMetadata entityType = true

theorem is_wanted_iff (request : Request) (statement : Statement) (place : Place) :
    isWanted request statement place = true ↔ Wanted request statement := by
  have parts : Wanted request statement ↔ statement.issuer = statement.subject ∧
      sameAscii statement.subject request.subject = true ∧
      ∀ entityType, request.entityType = some entityType →
        statement.hasMetadata entityType = true :=
    ⟨fun wanted => ⟨wanted.own, wanted.about, wanted.typed⟩,
      fun ⟨own, about, typed⟩ => ⟨own, about, typed⟩⟩
  rw [parts]
  unfold isWanted Statement.isSelfStatement
  cases request.entityType <;> simp [and_assoc]

theorem Wanted.is_configuration {request : Request} {statement : Statement}
    (wanted : Wanted request statement) : IsConfiguration statement := by
  rw [IsConfiguration, wanted.own]
  exact Text.sameAscii_refl _

/-- The configuration asked for is not one in between. -/
theorem not_between_of_subject (resolver : Resolver) {request : Request} {statement : Statement}
    (about : sameAscii statement.subject request.subject = true) :
    resolver.isBetween request statement = false := by
  simp [isBetween, about]

/-- The configuration of the trust anchor is not one in between. -/
theorem not_between_of_anchor {resolver : Resolver} (request : Request) {statement : Statement}
    (about : sameAscii statement.subject resolver.trustAnchor = true) :
    resolver.isBetween request statement = false := by
  simp [isBetween, about]

/-- Nothing but configurations in between is left out of nodes that are apart. -/
theorem chain_of_nodes (resolver : Resolver) (request : Request) (nodes : List Node)
    (seen : List String) (apart : (nodes.map lowercase).Nodup)
    (unseen : ∀ node ∈ nodes, lowercase node ∉ seen) :
    resolver.chainOf request seen (nodes.map fun node => (node, generation.data? node)) =
      (nodes.filterMap generation.data?).filter fun statement =>
        !resolver.isBetween request statement := by
  induction nodes generalizing seen with
  | nil => rfl
  | cons node rest ih =>
    rw [List.map_cons, List.nodup_cons] at apart
    have later : ∀ other ∈ rest, lowercase other ∉ seen := fun other member =>
      unseen other (List.mem_cons_of_mem _ member)
    cases stored : generation.data? node with
    | none =>
      rw [List.map_cons, stored, chainOf, ih seen apart.2 later, List.filterMap_cons_none stored]
    | some statement =>
      rw [List.map_cons, stored, chainOf, List.filterMap_cons_some stored, List.filter_cons]
      by_cases between : resolver.isBetween request statement = true
      · rw [if_pos between, ih seen apart.2 later]
        simp [between]
      · have fresh : seen.contains (lowercase node) = false := by
          simpa using unseen node List.mem_cons_self
        have further : ∀ other ∈ rest, lowercase other ∉ lowercase node :: seen := by
          intro other member
          simp only [List.mem_cons, not_or]
          refine ⟨?_, later other member⟩
          intro same
          exact apart.1 (List.mem_map.mpr ⟨other, member, same⟩)
        rw [if_neg between, if_neg (by simpa using fresh), ih _ apart.2 further]
        simp [between]

/-- The nodes on a trail of a chart are apart. -/
theorem trail_apart (chart : Chart generation) {nodes : List Node} {wanted : Node}
    (trail : Trail generation.children nodes generation.root wanted) :
    (nodes.map lowercase).Nodup := by
  have pairs : nodes.Pairwise fun node other => lowercase node ≠ lowercase other := by
    rw [List.pairwise_iff_getElem]
    intro first second inside within earlier same
    obtain ⟨path, -⟩ := trail.at_position (List.getElem?_eq_getElem inside)
    obtain ⟨other, -⟩ := trail.at_position (List.getElem?_eq_getElem within)
    obtain ⟨-, depth⟩ := chart.is_federation_tree.distinct path other same
    omega
  exact List.pairwise_map.mpr pairs

/-- How the candidate chain is made from the results of the search. -/
theorem find_chain_eq (resolver : Resolver) (store : Store Statement) (request : Request) :
    resolver.findChain store.reads store.pathBound request =
      match resolver.chainOf request []
        ((store.search store.current (isWanted request) true).map fun result =>
          (result.node, store.data? store.current result.node)) with
      | [] => .error (.notFound ("No trust chain for " ++ request.subject))
      | first :: rest => .ok (first :: rest).reverse := by
  have mapped : (store.search store.current (isWanted request) true).mapM (m := Id) (fun result =>
      (result.node, store.data? store.current result.node)) =
      (store.search store.current (isWanted request) true).map fun result =>
        (result.node, store.data? store.current result.node) := List.idRun_mapM
  rw [← mapped]
  rfl

/-- Two statements of a chart that one request asks for stand at one node. -/
theorem wanted_unique (chart : Chart generation) {request : Request} {node other : Node}
    {leaf second : Statement} (stored : generation.data? node = some leaf)
    (asked : Wanted request leaf) (also : generation.data? other = some second)
    (wanted : Wanted request second) : other = node := by
  refine chart.apart also stored ?_ (iff_of_true wanted.is_configuration asked.is_configuration)
  rw [Text.lowercase_eq_of_same_ascii wanted.about, Text.lowercase_eq_of_same_ascii asked.about]

/-- The search for what a request asks for reports the trail that leads to it. -/
theorem search_of_trail (chart : Chart generation)
    (held : store.generation? store.current = some generation) {request : Request}
    {nodes : List Node} {wanted : Node} {leaf : Statement}
    (trail : Trail generation.children nodes generation.root wanted)
    (stored : generation.data? wanted = some leaf) (asked : Wanted request leaf) :
    store.search store.current (isWanted request) true =
      nodes.zipIdx.map fun entry => ⟨entry.2, entry.1⟩ := by
  apply Tree.Store.search_trail held chart.grown (isWanted request) trail
  intro depth lower reached
  rw [Matches, Tree.Store.data_held held]
  constructor
  · intro matched
    obtain ⟨second, also⟩ := (chart.grown.data_iff_descent lower).mpr ⟨depth, reached⟩
    rw [also] at matched
    exact wanted_unique chart stored asked also
      ((is_wanted_iff request second ⟨depth, true⟩).mp matched)
  · rintro rfl
    rw [stored]
    exact (is_wanted_iff request leaf ⟨depth, true⟩).mpr asked

/-- The nodes of a trail as a search reports them, each with its data. -/
theorem entries_of_trail (nodes : List Node) (data : Node → Option Statement) (start : Nat) :
    ((nodes.zipIdx start).map fun entry => (⟨entry.2, entry.1⟩ : Found)).map
        (fun result => (result.node, data result.node)) =
      nodes.map fun node => (node, data node) := by
  rw [List.map_map]
  have names := congrArg (List.map fun node => (node, data node)) (List.zipIdx_map_fst start nodes)
  rw [List.map_map] at names
  exact names

/-- The candidate chain is made of the statements on the trail to what a request asks for, without
the configurations in between. -/
theorem find_chain_of_trail (resolver : Resolver) (chart : Chart generation)
    (held : store.generation? store.current = some generation) {request : Request}
    {nodes : List Node} {wanted : Node} {leaf : Statement}
    (trail : Trail generation.children nodes generation.root wanted)
    (stored : generation.data? wanted = some leaf) (asked : Wanted request leaf) :
    resolver.findChain store.reads store.pathBound request =
      .ok ((nodes.filterMap generation.data?).filter fun statement =>
        !resolver.isBetween request statement).reverse := by
  rw [find_chain_eq, search_of_trail chart held trail stored asked, Tree.Store.data_held held,
    entries_of_trail, chain_of_nodes resolver request nodes [] (trail_apart chart trail) (by simp)]
  have last : leaf ∈ (nodes.filterMap generation.data?).filter fun statement =>
      !resolver.isBetween request statement := by
    rw [List.mem_filter, List.mem_filterMap]
    refine ⟨⟨wanted, List.mem_of_getLast? trail.last_eq, stored⟩, ?_⟩
    rw [not_between_of_subject resolver asked.about]
    rfl
  cases chain : (nodes.filterMap generation.data?).filter fun statement =>
      !resolver.isBetween request statement with
  | nil =>
    rw [chain] at last
    exact absurd last List.not_mem_nil
  | cons first rest => rfl

/-- When a chart has what a request asks for, the candidate chain is that of the trail to it. -/
theorem find_chain_of_wanted (resolver : Resolver) (chart : Chart generation)
    (held : store.generation? store.current = some generation) {request : Request}
    {wanted : Node} {leaf : Statement} (stored : generation.data? wanted = some leaf)
    (asked : Wanted request leaf) :
    ∃ nodes, Trail generation.children nodes generation.root wanted ∧
      resolver.findChain store.reads store.pathBound request =
        .ok ((nodes.filterMap generation.data?).filter fun statement =>
          !resolver.isBetween request statement).reverse := by
  obtain ⟨depth, path⟩ := (chart.grown.data_iff_descent wanted).mp ⟨leaf, stored⟩
  obtain ⟨nodes, trail⟩ := Trail.of_descent path
  exact ⟨nodes, trail, find_chain_of_trail resolver chart held trail stored asked⟩

/-- When a chart does not have what a request asks for, the search for it reports nothing. -/
theorem search_of_unwanted (chart : Chart generation)
    (held : store.generation? store.current = some generation) (request : Request)
    (absent : ∀ node statement, generation.data? node = some statement →
      ¬ Wanted request statement) :
    store.search store.current (isWanted request) true = [] := by
  apply Tree.Store.search_nothing held chart.grown
  intro depth lower reached matched
  rw [Matches, Tree.Store.data_held held] at matched
  obtain ⟨statement, stored⟩ := (chart.grown.data_iff_descent lower).mpr ⟨depth, reached⟩
  rw [stored] at matched
  exact absent lower statement stored
    ((is_wanted_iff request statement ⟨depth, true⟩).mp matched)

/-- When a chart does not have what a request asks for, no chain is found. -/
theorem find_chain_of_unwanted (resolver : Resolver) (chart : Chart generation)
    (held : store.generation? store.current = some generation) (request : Request)
    (absent : ∀ node statement, generation.data? node = some statement →
      ¬ Wanted request statement) :
    resolver.findChain store.reads store.pathBound request =
      .error (.notFound ("No trust chain for " ++ request.subject)) := by
  rw [find_chain_eq, search_of_unwanted chart held request absent]
  rfl

end TrustFederation.Resolve.Resolver
