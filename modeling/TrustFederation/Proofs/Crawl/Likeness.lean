import TrustFederation.Proofs.Crawl.Chart
/-!
# Charts that are alike

Each statement of a chart says where it belongs: a statement about a subordinate stands below the
configuration of its issuer, and a configuration below the statement about its subject. So two
charts with the same statements at the same nodes have the same parents too, and their child lists
differ in order at most.
-/
namespace TrustFederation.Crawl

open Text (lowercase)
open TrustFederation.Tree (Generation Node)

/-- The versions have the same nodes with the same data and the same parents. The children of a node
may stand in another order. -/
structure SameTree (first second : Generation Statement) : Prop where
  root : first.root = second.root
  data : ∀ node, first.data? node = second.data? node
  children : ∀ node, (first.children node).Perm (second.children node)

/-- The key of a statement is written at one node only. -/
theorem StandsAt.unique {node other : Node} {statement : Statement}
    (stands : StandsAt node statement) (also : StandsAt other statement) : node = other := by
  obtain ⟨key, keyed, rfl⟩ := stands
  obtain ⟨second, second_keyed, rfl⟩ := also
  rw [Except.ok.inj (keyed.symm.trans second_keyed)]

namespace Chart

variable {first second : Generation Statement}

/-- Two statements of a chart below which the same statement fits stand at the same node. -/
theorem parent_eq (chart : Chart first) {upper other : Node} {above higher below : Statement}
    (stored : first.data? upper = some above) (also : first.data? other = some higher)
    (fits : Fits above below) (fits_also : Fits higher below) : upper = other := by
  rcases chart.kinds stored with own | differs
  · obtain ⟨subordinate, issuer⟩ := fits.subordinate own
    rcases chart.kinds also with other_own | other_differs
    · obtain ⟨-, other_issuer⟩ := fits_also.subordinate other_own
      refine chart.apart stored also ?_ (iff_of_true own other_own)
      exact (Text.lowercase_eq_of_same_ascii issuer).symm.trans
        (Text.lowercase_eq_of_same_ascii other_issuer)
    · exact absurd subordinate (fits_also.configuration other_differs).1.not_subordinate
  · obtain ⟨configuration, subject⟩ := fits.configuration differs
    rcases chart.kinds also with other_own | other_differs
    · exact absurd (fits_also.subordinate other_own).1 configuration.not_subordinate
    · obtain ⟨-, other_subject⟩ := fits_also.configuration other_differs
      refine chart.apart stored also ?_ (iff_of_false (fun own => own.not_subordinate differs)
        fun own => own.not_subordinate other_differs)
      exact (Text.lowercase_eq_of_same_ascii subject).symm.trans
        (Text.lowercase_eq_of_same_ascii other_subject)

/-- Charts that hold the same statements hold them at the same nodes. -/
theorem same_data (chart : Chart first) (also : Chart second)
    (same : ∀ statement, (∃ node, first.data? node = some statement) ↔
      ∃ node, second.data? node = some statement) (node : Node) :
    first.data? node = second.data? node := by
  refine Option.ext fun statement => ?_
  constructor
  · intro stored
    obtain ⟨other, found⟩ := (same statement).mp ⟨node, stored⟩
    rwa [(chart.stands stored).unique (also.stands found)]
  · intro stored
    obtain ⟨other, found⟩ := (same statement).mpr ⟨node, stored⟩
    rwa [(also.stands stored).unique (chart.stands found)]

/-- A child in one chart is a child of the same node in any chart with the same data and the same
root.

Proof: the child is not the root, so it has a parent in the other chart as well. It fits below both,
so they are the same node. -/
theorem child_of_same_data (chart : Chart first) (also : Chart second)
    (root : first.root = second.root) (data : ∀ node, first.data? node = second.data? node)
    {upper lower : Node} (child : lower ∈ first.children upper) :
    lower ∈ second.children upper := by
  obtain ⟨⟨above, attached⟩, ⟨below, stored⟩, below_root⟩ := chart.grown.edge_data child
  rw [data] at stored
  obtain ⟨depth, path⟩ := (also.grown.data_iff_descent lower).mp ⟨below, stored⟩
  cases depth with
  | zero => exact absurd (path.of_zero.symm.trans root.symm) below_root
  | succ depth =>
    obtain ⟨parent, -, other_child⟩ := path.last_step
    obtain ⟨⟨higher, other_attached⟩, -, -⟩ := also.grown.edge_data other_child
    have fits : Fits above below := chart.edges child attached ((data lower).trans stored)
    have fits_also : Fits higher below := also.edges other_child other_attached stored
    rw [data] at attached
    obtain rfl : upper = parent := also.parent_eq attached other_attached fits fits_also
    exact other_child

/-- Charts with the same data whose roots are about one entity are the same tree. -/
theorem same_tree (chart : Chart first) (also : Chart second)
    (data : ∀ node, first.data? node = second.data? node)
    (roots : ∀ {top other}, first.data? first.root = some top →
      second.data? second.root = some other → lowercase top.subject = lowercase other.subject) :
    SameTree first second := by
  obtain ⟨top, stored⟩ := chart.grown.root_data
  obtain ⟨other, other_stored⟩ := also.grown.root_data
  have kinds : IsConfiguration top ↔ IsConfiguration other :=
    iff_of_true (chart.rooted stored) (also.rooted other_stored)
  have root : first.root = second.root :=
    also.apart ((data _).symm.trans stored) other_stored (roots stored other_stored) kinds
  refine ⟨root, data, fun node => List.perm_iff_count.mpr fun lower => ?_⟩
  by_cases child : lower ∈ first.children node
  · have other_child := chart.child_of_same_data also root data child
    rw [(chart.grown.parent_unique child child).2,
      (also.grown.parent_unique other_child other_child).2]
  · have absent : lower ∉ second.children node := fun other_child =>
      child (also.child_of_same_data chart root.symm (fun node => (data node).symm) other_child)
    rw [List.count_eq_zero.mpr child, List.count_eq_zero.mpr absent]

end Chart

end TrustFederation.Crawl
