import TrustFederation.Proofs.Text.Folding
import TrustFederation.Proofs.Tree.Keys
import TrustFederation.Proofs.Tree.Trail
import TrustFederation.Statement.Basic
/-!
# Charts of a federation

A crawl charts a federation: configurations and subordinate statements stand below each other
in turn, each about the entity that the one above it names. What a chart keeps apart are the
subjects, with every letter made small, of its configurations and those of its subordinate
statements. That is enough for its nodes to be apart, and for a lookup of a parent by its key to
find this parent and no other node.
-/
namespace TrustFederation.Crawl

open Text (lowercase sameAscii)
open TrustFederation.Tree (Descent Generation Grown Node NodeKey Store Version)

/-- The statement counts as a configuration: its issuer is its subject, up to the case of the
letters A to Z. -/
def IsConfiguration (statement : Statement) : Prop :=
  sameAscii statement.issuer statement.subject = true

/-- The statement is about another entity: issuer and subject differ even when every letter is
made small. -/
def IsSubordinate (statement : Statement) : Prop :=
  lowercase statement.issuer ≠ lowercase statement.subject

/-- The key of the statement is written at the node. -/
def StandsAt (node : Node) (statement : Statement) : Prop :=
  ∃ key, statement.nodeKey = .ok key ∧ key.text = node

/-- What may stand directly below a statement. -/
structure Fits (above below : Statement) : Prop where
  subordinate : IsConfiguration above →
    IsSubordinate below ∧ sameAscii below.issuer above.subject = true
  configuration : IsSubordinate above →
    IsConfiguration below ∧ sameAscii below.subject above.subject = true

theorem IsConfiguration.not_subordinate {statement : Statement}
    (own : IsConfiguration statement) : ¬ IsSubordinate statement :=
  fun other => other (Text.lowercase_eq_of_same_ascii own)

/-- A key holds the issuer and the subject of its statement. -/
theorem node_key_parts {statement : Statement} {key : NodeKey}
    (keyed : statement.nodeKey = .ok key) :
    key.issuer = statement.issuer ∧ key.subject = statement.subject :=
  NodeKey.of_parts_ok_iff.mp keyed

/-- Statements at nodes with one small form have issuers and subjects with one small form. -/
theorem StandsAt.parts_eq {node other : Node} {statement second : Statement}
    (stands : StandsAt node statement) (also : StandsAt other second)
    (same : lowercase node = lowercase other) :
    lowercase statement.issuer = lowercase second.issuer ∧
      lowercase statement.subject = lowercase second.subject := by
  obtain ⟨key, keyed, rfl⟩ := stands
  obtain ⟨second_key, second_keyed, rfl⟩ := also
  have parts := NodeKey.parts_of_lowercase_text_eq same
  rw [(node_key_parts keyed).1, (node_key_parts keyed).2, (node_key_parts second_keyed).1,
    (node_key_parts second_keyed).2] at parts
  exact parts

/-- A version that charts a federation. -/
structure Chart (generation : Generation Statement) : Prop where
  grown : Grown generation
  rooted : ∀ {statement}, generation.data? generation.root = some statement →
    IsConfiguration statement
  stands : ∀ {node statement}, generation.data? node = some statement → StandsAt node statement
  kinds : ∀ {node statement}, generation.data? node = some statement →
    IsConfiguration statement ∨ IsSubordinate statement
  apart : ∀ {node other statement second}, generation.data? node = some statement →
    generation.data? other = some second →
    lowercase statement.subject = lowercase second.subject →
    (IsConfiguration statement ↔ IsConfiguration second) → node = other
  edges : ∀ {upper lower above below}, lower ∈ generation.children upper →
    generation.data? upper = some above → generation.data? lower = some below → Fits above below
  narrow : ∀ {node statement}, generation.data? node = some statement →
    IsSubordinate statement → (generation.children node).length ≤ 1

namespace Chart

variable {generation : Generation Statement}

/-- Nodes of a chart with one small form are the same node. -/
theorem node_unique (chart : Chart generation) {node other : Node} {statement second : Statement}
    (stored : generation.data? node = some statement)
    (also : generation.data? other = some second) (same : lowercase node = lowercase other) :
    node = other := by
  obtain ⟨issuers, subjects⟩ := (chart.stands stored).parts_eq (chart.stands also) same
  refine chart.apart stored also subjects ?_
  constructor
  · intro own
    refine (chart.kinds also).resolve_right fun differs => differs ?_
    rw [← issuers, ← subjects]
    exact Text.lowercase_eq_of_same_ascii own
  · intro own
    refine (chart.kinds stored).resolve_right fun differs => differs ?_
    rw [issuers, subjects]
    exact Text.lowercase_eq_of_same_ascii own

/-- The key of a parent finds this parent. -/
theorem finds_parent (chart : Chart generation) {store : Store Statement} {version : Version}
    (held : store.generation? version = some generation) {node : Node} {statement : Statement}
    (stored : generation.data? node = some statement) :
    store.findNode version generation.root node = some node := by
  refine Store.find_node_only held chart.grown stored ?_ ?_
  · simp [Node.matches, Text.sameLowercase]
  · intro other second also matched
    refine chart.node_unique also stored ?_
    simpa [Node.matches, Text.sameLowercase] using matched

/-! ## Growing a chart -/

/-- The configuration of an anchor is a chart. -/
theorem of_root {node : Node} {configuration : Statement}
    (stands : StandsAt node configuration) (own : IsConfiguration configuration) :
    Chart (.ofRoot node configuration) := by
  have only {other : Node} {statement : Statement}
      (stored : (Generation.ofRoot node configuration).data? other = some statement) :
      other = node ∧ statement = configuration := by
    rw [Tree.data_of_root] at stored
    by_cases same : other = node
    · exact ⟨same, by simpa [same] using stored.symm⟩
    · simp [same] at stored
  refine ⟨.root node configuration, ?_, ?_, ?_, ?_, ?_, ?_⟩
  · intro statement stored
    rw [(only stored).2]
    exact own
  · intro other statement stored
    rw [(only stored).1, (only stored).2]
    exact stands
  · intro other statement stored
    rw [(only stored).2]
    exact .inl own
  · intro first second _ _ stored also _ _
    rw [(only stored).1, (only also).1]
  · intro upper lower above below child
    exact absurd child (by simp [Tree.children_of_root])
  · intro other statement _ _
    simp [Tree.children_of_root]

variable {parent node : Node} {above statement : Statement}

/-- A node whose slot is free has no data yet. -/
theorem fresh_node (chart : Chart generation) (stands : StandsAt node statement)
    (kind : IsConfiguration statement ∨ IsSubordinate statement)
    (free : ∀ other known, generation.data? other = some known →
      lowercase known.subject = lowercase statement.subject →
      ¬ (IsConfiguration known ↔ IsConfiguration statement)) :
    generation.data? node = none := by
  rw [Option.eq_none_iff_forall_ne_some]
  intro known stored
  obtain ⟨issuers, subjects⟩ := (chart.stands stored).parts_eq stands rfl
  refine free node known stored subjects ⟨?_, ?_⟩
  · intro own
    refine kind.resolve_right fun differs => differs ?_
    rw [← issuers, ← subjects]
    exact Text.lowercase_eq_of_same_ascii own
  · intro own
    refine (chart.kinds stored).resolve_right fun differs => differs ?_
    rw [issuers, subjects]
    exact Text.lowercase_eq_of_same_ascii own

/-- A chart stays one when a statement that fits below its parent is attached, if its slot is
free and, below a subordinate statement, it is the first one there.

Proof: every part of the chart is about nodes with data. The new node is not among the old
ones, so each part is the old one for old nodes and an assumption for the new one. -/
theorem graft (chart : Chart generation) (attached : generation.data? parent = some above)
    (stands : StandsAt node statement)
    (kind : IsConfiguration statement ∨ IsSubordinate statement)
    (free : ∀ other known, generation.data? other = some known →
      lowercase known.subject = lowercase statement.subject →
      ¬ (IsConfiguration known ↔ IsConfiguration statement))
    (fits : Fits above statement)
    (first : IsSubordinate above → generation.children parent = []) :
    Chart (generation.graft parent node statement) := by
  have fresh : generation.data? node = none := chart.fresh_node stands kind free
  have absent {upper : Node} (child : node ∈ generation.children upper) : False := by
    obtain ⟨-, ⟨below, old⟩, -⟩ := chart.grown.edge_data child
    exact absurd (fresh.symm.trans old) (by simp)
  have root_kept : generation.root ≠ node := chart.grown.root_ne fresh
  have parent_kept : parent ≠ node := by
    intro same
    rw [same, fresh] at attached
    exact absurd attached (by simp)
  refine ⟨chart.grown.graft statement attached fresh, ?_, ?_, ?_, ?_, ?_, ?_⟩
  · intro known found
    rcases Tree.data_graft_cases found with ⟨same, -⟩ | old
    · exact absurd same root_kept
    · exact chart.rooted old
  · intro other known found
    rcases Tree.data_graft_cases found with ⟨rfl, rfl⟩ | old
    · exact stands
    · exact chart.stands old
  · intro other known found
    rcases Tree.data_graft_cases found with ⟨-, rfl⟩ | old
    · exact kind
    · exact chart.kinds old
  · intro one other known second found also subjects kinds
    rcases Tree.data_graft_cases found with ⟨rfl, rfl⟩ | old <;>
      rcases Tree.data_graft_cases also with ⟨rfl, rfl⟩ | older
    · rfl
    · exact absurd kinds.symm (free other second older subjects.symm)
    · exact absurd kinds (free one known old subjects)
    · exact chart.apart old older subjects kinds
  · intro upper lower higher lowest child found also
    rcases Tree.mem_children_graft child with old | ⟨here, new⟩
    · rcases Tree.data_graft_cases found with ⟨same, -⟩ | upper_old
      · rw [same, chart.grown.childless_of_fresh fresh] at old
        exact absurd old (by simp)
      · rcases Tree.data_graft_cases also with ⟨same, -⟩ | lower_old
        · exact (absent (same ▸ old)).elim
        · exact chart.edges old upper_old lower_old
    · rw [here, Tree.data_graft, if_neg parent_kept, attached] at found
      rw [new, Tree.data_graft, if_pos rfl] at also
      cases found
      cases also
      exact fits
  · intro other known found subordinate
    rw [Tree.children_graft]
    rcases Tree.data_graft_cases found with ⟨rfl, rfl⟩ | old
    · rw [chart.grown.childless_of_fresh fresh, if_neg parent_kept]
      simp
    · by_cases here : parent = other
      · subst here
        obtain rfl : above = known := by
          rw [attached] at old
          exact Option.some.inj old
        rw [first subordinate, if_pos rfl]
        simp
      · rw [if_neg here, List.append_nil]
        exact chart.narrow old subordinate

/-! ## The tree that a chart is -/

/-- Configurations stand at even depths of a chart and subordinate statements at odd ones.

Proof: induction over the depth. The root is a configuration, and what fits below the one kind
is of the other kind. -/
theorem kind_at_depth (chart : Chart generation) {depth : Nat} {node : Node}
    {statement : Statement} (path : Descent generation.children depth generation.root node)
    (stored : generation.data? node = some statement) :
    (depth % 2 = 0 → IsConfiguration statement) ∧ (depth % 2 = 1 → IsSubordinate statement) := by
  induction depth generalizing node statement with
  | zero =>
    obtain rfl := path.of_zero
    exact ⟨fun _ => chart.rooted stored, fun odd => absurd odd (by omega)⟩
  | succ depth ih =>
    obtain ⟨parent, shorter, child⟩ := path.last_step
    obtain ⟨⟨above, attached⟩, -, -⟩ := chart.grown.edge_data child
    have fits : Fits above statement := chart.edges child attached stored
    obtain ⟨even, odd⟩ := ih shorter attached
    exact ⟨fun now => (fits.configuration (odd (by omega))).1,
      fun now => (fits.subordinate (even (by omega))).1⟩

end Chart

/-- The nodes of a version form a finite tree of statements, whose levels hold configurations
and subordinate statements in turn. -/
structure IsFederationTree (generation : Generation Statement) : Prop where
  finite : ∀ {depth node}, Descent generation.children depth generation.root node →
    depth ≤ generation.edges.length
  whole : ∀ {node statement}, generation.data? node = some statement →
    ∃ depth, Descent generation.children depth generation.root node
  distinct : ∀ {depth other node second}, Descent generation.children depth generation.root node →
    Descent generation.children other generation.root second →
    lowercase node = lowercase second → node = second ∧ depth = other
  topmost : ∀ parent, generation.root ∉ generation.children parent
  once : ∀ {depth node}, Descent generation.children (depth + 1) generation.root node →
    ∃ parent, Descent generation.children depth generation.root parent ∧
      (generation.children parent).count node = 1 ∧
      ∀ other, node ∈ generation.children other → other = parent
  stored : ∀ {depth node}, Descent generation.children depth generation.root node →
    ∃ statement, generation.data? node = some statement ∧ StandsAt node statement
  even : ∀ {depth node statement}, Descent generation.children depth generation.root node →
    generation.data? node = some statement → depth % 2 = 0 → IsConfiguration statement
  odd : ∀ {depth node statement}, Descent generation.children depth generation.root node →
    generation.data? node = some statement → depth % 2 = 1 →
    IsSubordinate statement ∧ (generation.children node).length ≤ 1
  issued : ∀ {depth parent node above statement},
    Descent generation.children depth generation.root parent → depth % 2 = 0 →
    node ∈ generation.children parent → generation.data? parent = some above →
    generation.data? node = some statement →
    sameAscii statement.issuer above.subject = true
  described : ∀ {depth parent node above statement},
    Descent generation.children depth generation.root parent → depth % 2 = 1 →
    node ∈ generation.children parent → generation.data? parent = some above →
    generation.data? node = some statement →
    sameAscii above.subject statement.subject = true

/-- A chart is a tree of statements. -/
theorem Chart.is_federation_tree {generation : Generation Statement} (chart : Chart generation) :
    IsFederationTree generation where
  finite path := chart.grown.descent_bound path
  whole stored := (chart.grown.data_iff_descent _).mp ⟨_, stored⟩
  distinct := by
    intro depth other node second path also same
    obtain ⟨statement, stored⟩ := (chart.grown.data_iff_descent node).mpr ⟨depth, path⟩
    obtain ⟨second_statement, known⟩ := (chart.grown.data_iff_descent second).mpr ⟨other, also⟩
    obtain rfl : node = second := chart.node_unique stored known same
    exact ⟨rfl, chart.grown.depth_unique path also⟩
  topmost parent child := (chart.grown.edge_data child).2.2 rfl
  once := by
    intro depth node path
    obtain ⟨parent, shorter, child⟩ := path.last_step
    exact ⟨parent, shorter, (chart.grown.parent_unique child child).2,
      fun other also => (chart.grown.parent_unique child also).1⟩
  stored := by
    intro depth node path
    obtain ⟨statement, stored⟩ := (chart.grown.data_iff_descent node).mpr ⟨depth, path⟩
    exact ⟨statement, stored, chart.stands stored⟩
  even path stored here := (chart.kind_at_depth path stored).1 here
  odd path stored here :=
    have subordinate := (chart.kind_at_depth path stored).2 here
    ⟨subordinate, chart.narrow stored subordinate⟩
  issued path here child attached stored :=
    ((chart.edges child attached stored).subordinate ((chart.kind_at_depth path attached).1 here)).2
  described path here child attached stored :=
    Text.sameAscii_comm ((chart.edges child attached stored).configuration
      ((chart.kind_at_depth path attached).2 here)).2

end TrustFederation.Crawl
