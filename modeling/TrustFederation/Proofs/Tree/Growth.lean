import TrustFederation.Proofs.Tree.Descent
/-!
# Versions that grow node by node

A version grows when a node without data is attached below a node with data and given data in
the same step. Nothing in a store forbids other changes; a version that only ever grew is a
tree. Its nodes with data are the ones that a descent from the root reaches, a node has one
parent and one depth, and no descent is longer than the number of edges.
-/
namespace TrustFederation.Tree

variable {α : Type}

/-- The version with a node and its data attached as the last child of another node. -/
def Generation.graft (generation : Generation α) (parent node : Node) (data : α) :
    Generation α :=
  (generation.append node parent).setData node data

/-- The version has been grown from its root. -/
inductive Grown : Generation α → Prop where
  | root (node : Node) (data : α) : Grown (.ofRoot node data)
  | graft {generation : Generation α} {parent node : Node} {above : α} (data : α)
      (grown : Grown generation) (attached : generation.data? parent = some above)
      (fresh : generation.data? node = none) : Grown (generation.graft parent node data)

theorem data_of_root (root node : Node) (data : α) :
    (Generation.ofRoot root data).data? node = if node = root then some data else none := by
  by_cases same : node = root <;>
    simp [Generation.data?, Generation.ofRoot, List.lookup_cons, same, beq_eq_false_iff_ne.mpr]

/-- The version with a root only holds nothing but its data. -/
theorem data_of_root_eq {root node : Node} {data stored : α}
    (found : (Generation.ofRoot root data).data? node = some stored) : stored = data := by
  rw [data_of_root] at found
  by_cases same : node = root
  · simpa [same] using found.symm
  · simp [same] at found

theorem children_of_root (root node : Node) (data : α) :
    (Generation.ofRoot root data).children node = [] := rfl

theorem data_graft (generation : Generation α) (parent node other : Node) (data : α) :
    (generation.graft parent node data).data? other =
      if other = node then some data else generation.data? other :=
  Generation.data?_setData node other data (generation.append node parent)

/-- What has data after a node was attached had it before or is the new node. -/
theorem data_graft_cases {generation : Generation α} {parent node other : Node} {data known : α}
    (stored : (generation.graft parent node data).data? other = some known) :
    other = node ∧ known = data ∨ generation.data? other = some known := by
  rw [data_graft] at stored
  by_cases same : other = node
  · exact .inl ⟨same, by simpa [same] using stored.symm⟩
  · exact .inr (by simpa [same] using stored)

/-- Data that a version has stays when a node without data is attached. -/
theorem data_graft_of_old {generation : Generation α} {parent node other : Node} {data known : α}
    (fresh : generation.data? node = none) (stored : generation.data? other = some known) :
    (generation.graft parent node data).data? other = some known := by
  have differs : other ≠ node := by
    rintro rfl
    exact absurd (fresh.symm.trans stored) (by simp)
  rw [data_graft, if_neg differs, stored]

theorem root_graft (generation : Generation α) (parent node : Node) (data : α) :
    (generation.graft parent node data).root = generation.root := rfl

theorem children_graft (generation : Generation α) (parent node other : Node) (data : α) :
    (generation.graft parent node data).children other =
      generation.children other ++ if parent = other then [node] else [] :=
  Generation.children_append node parent other generation

theorem mem_children_graft {generation : Generation α} {parent node upper lower : Node}
    {data : α} (child : lower ∈ (generation.graft parent node data).children upper) :
    lower ∈ generation.children upper ∨ upper = parent ∧ lower = node := by
  rw [children_graft, List.mem_append] at child
  rcases child with old | new
  · exact .inl old
  · by_cases here : parent = upper
    · rw [if_pos here, List.mem_singleton] at new
      exact .inr ⟨here.symm, new⟩
    · simp [here] at new

namespace Grown

variable {generation : Generation α}

theorem root_data (grown : Grown generation) :
    ∃ data, generation.data? generation.root = some data := by
  induction grown with
  | root node data => exact ⟨data, (data_of_root node node data).trans (if_pos rfl)⟩
  | @graft generation parent node above data grown attached fresh ih =>
    obtain ⟨old, stored⟩ := ih
    exact ⟨old, data_graft_of_old fresh stored⟩

/-- A node without data is not the root. -/
theorem root_ne (grown : Grown generation) {node : Node} (fresh : generation.data? node = none) :
    generation.root ≠ node := by
  rintro rfl
  obtain ⟨data, stored⟩ := grown.root_data
  exact absurd (fresh.symm.trans stored) (by simp)

/-- Both ends of an edge have data, and the lower one is not the root. -/
theorem edge_data (grown : Grown generation) {upper lower : Node}
    (child : lower ∈ generation.children upper) :
    (∃ above, generation.data? upper = some above) ∧
      (∃ below, generation.data? lower = some below) ∧ lower ≠ generation.root := by
  induction grown with
  | root node data => exact absurd child (by simp [children_of_root])
  | @graft generation parent node above data grown attached fresh ih =>
    have kept (other : Node) : (∃ old, generation.data? other = some old) →
        ∃ now, (generation.graft parent node data).data? other = some now := by
      rintro ⟨old, stored⟩
      exact ⟨old, data_graft_of_old fresh stored⟩
    rcases mem_children_graft child with old | ⟨here, new⟩
    · obtain ⟨upper_data, lower_data, below_root⟩ := ih old
      exact ⟨kept upper upper_data, kept lower lower_data, below_root⟩
    · rw [here, new]
      exact ⟨kept parent ⟨above, attached⟩, ⟨data, by rw [data_graft, if_pos rfl]⟩,
        (grown.root_ne fresh).symm⟩

/-- A node without data has no children. -/
theorem childless_of_fresh (grown : Grown generation) {node : Node}
    (fresh : generation.data? node = none) : generation.children node = [] := by
  rw [List.eq_nil_iff_forall_not_mem]
  intro lower child
  obtain ⟨⟨above, stored⟩, -⟩ := grown.edge_data child
  exact absurd (fresh.symm.trans stored) (by simp)

/-- A node stands once in one child list only. -/
theorem parent_unique (grown : Grown generation) {upper other lower : Node}
    (child : lower ∈ generation.children upper) (also : lower ∈ generation.children other) :
    other = upper ∧ (generation.children upper).count lower = 1 := by
  induction grown with
  | root node data => exact absurd child (by simp [children_of_root])
  | @graft generation parent node above data grown attached fresh ih =>
    have absent (any : Node) : node ∉ generation.children any := by
      intro old
      obtain ⟨-, ⟨below, stored⟩, -⟩ := grown.edge_data old
      exact absurd (fresh.symm.trans stored) (by simp)
    rcases mem_children_graft child with old | ⟨here, new⟩ <;>
      rcases mem_children_graft also with known | ⟨there, newly⟩
    · have differs : node ≠ lower := fun same => absent upper (same ▸ old)
      obtain ⟨same, once⟩ := ih old known
      refine ⟨same, ?_⟩
      rw [children_graft, List.count_append, once]
      by_cases here : parent = upper <;> simp [here, differs]
    · exact absurd (newly ▸ old) (absent upper)
    · exact absurd (new ▸ known) (absent other)
    · refine ⟨there.trans here.symm, ?_⟩
      rw [children_graft, List.count_append, new, List.count_eq_zero.mpr (absent upper), here]
      simp

/-! ## Descents from the root -/

/-- A descent in a version that has grown by a node is an older one, or it ends at the node
and was a descent to its parent before the last step.

Proof: induction over the length, by the last step. A step from the new node is impossible,
because a node without data has no children and is not its own parent. -/
theorem descent_graft {parent node : Node} {above data : α} (grown : Grown generation)
    (attached : generation.data? parent = some above) (fresh : generation.data? node = none)
    {depth : Nat} {lower : Node}
    (path : Descent (generation.graft parent node data).children depth generation.root lower) :
    Descent generation.children depth generation.root lower ∨
      lower = node ∧ ∃ before, depth = before + 1 ∧
        Descent generation.children before generation.root parent := by
  have parent_ne : parent ≠ node := by
    rintro rfl
    exact absurd (fresh.symm.trans attached) (by simp)
  induction depth generalizing lower with
  | zero =>
    rw [← path.of_zero]
    exact .inl (.here _)
  | succ depth ih =>
    obtain ⟨middle, shorter, child⟩ := path.last_step
    rcases mem_children_graft child with old | ⟨here, new⟩
    · rcases ih shorter with known | ⟨same, -⟩
      · exact .inl (known.step old)
      · rw [same, grown.childless_of_fresh fresh] at old
        exact absurd old (by simp)
    · rcases ih shorter with known | ⟨same, -⟩
      · exact .inr ⟨new, depth, rfl, here ▸ known⟩
      · exact absurd (here.symm.trans same) parent_ne

theorem descent_of_graft {parent node : Node} {data : α} {depth : Nat} {upper lower : Node}
    (path : Descent generation.children depth upper lower) :
    Descent (generation.graft parent node data).children depth upper lower := by
  induction path with
  | here node => exact .here node
  | down child _ ih =>
    refine .down ?_ ih
    rw [children_graft]
    exact List.mem_append_left _ child

/-- The nodes with data are the ones that a descent from the root reaches. -/
theorem data_iff_descent (grown : Grown generation) (lower : Node) :
    (∃ data, generation.data? lower = some data) ↔
      ∃ depth, Descent generation.children depth generation.root lower := by
  induction grown generalizing lower with
  | root node data =>
    rw [data_of_root]
    constructor
    · rintro ⟨_, stored⟩
      by_cases same : lower = node
      · exact ⟨0, same ▸ .here _⟩
      · simp [same] at stored
    · rintro ⟨depth, path⟩
      cases path with
      | here => exact ⟨data, if_pos rfl⟩
      | down child _ => exact absurd child (by simp [children_of_root])
  | @graft generation parent node above data grown attached fresh ih =>
    constructor
    · rintro ⟨found, stored⟩
      rw [data_graft] at stored
      by_cases same : lower = node
      · obtain ⟨depth, path⟩ := (ih parent).mp ⟨above, attached⟩
        refine ⟨depth + 1, (descent_of_graft path).step ?_⟩
        rw [children_graft, if_pos rfl, same]
        exact List.mem_append_right _ (List.mem_singleton.mpr rfl)
      · rw [if_neg same] at stored
        obtain ⟨depth, path⟩ := (ih lower).mp ⟨found, stored⟩
        exact ⟨depth, descent_of_graft path⟩
    · rintro ⟨depth, path⟩
      rw [data_graft]
      by_cases same : lower = node
      · exact ⟨data, if_pos same⟩
      · rcases grown.descent_graft attached fresh path with known | ⟨new, -⟩
        · rw [if_neg same]
          exact (ih lower).mpr ⟨depth, known⟩
        · exact absurd new same

/-- No descent from the root is longer than the number of edges. -/
theorem descent_bound (grown : Grown generation) {depth : Nat} {lower : Node}
    (path : Descent generation.children depth generation.root lower) :
    depth ≤ generation.edges.length := by
  induction grown generalizing depth lower with
  | root node data =>
    cases path with
    | here => exact Nat.zero_le _
    | down child _ => exact absurd child (by simp [children_of_root])
  | @graft generation parent node above data grown attached fresh ih =>
    have longer : (generation.graft parent node data).edges.length =
        generation.edges.length + 1 := by
      simp [Generation.graft, Generation.append, Generation.setData]
    rw [longer]
    rcases grown.descent_graft attached fresh path with known | ⟨-, before, rfl, known⟩
    · exact Nat.le_succ_of_le (ih known)
    · exact Nat.succ_le_succ (ih known)

/-- A node has one depth. -/
theorem depth_unique (grown : Grown generation) {depth other : Nat} {lower : Node}
    (path : Descent generation.children depth generation.root lower)
    (also : Descent generation.children other generation.root lower) : depth = other := by
  induction depth generalizing other lower with
  | zero =>
    obtain rfl := path.of_zero
    cases other with
    | zero => rfl
    | succ other =>
      obtain ⟨parent, -, child⟩ := also.last_step
      exact absurd rfl (grown.edge_data child).2.2
  | succ depth ih =>
    obtain ⟨parent, shorter, child⟩ := path.last_step
    cases other with
    | zero =>
      obtain rfl := also.of_zero
      exact absurd rfl (grown.edge_data child).2.2
    | succ other =>
      obtain ⟨second, short, known⟩ := also.last_step
      obtain rfl := (grown.parent_unique child known).1
      exact congrArg Nat.succ (ih shorter short)

/-- The nodes above a node have one place on the way to it: two nodes from which descents of
one length end at the same node are the same. -/
theorem ancestor_unique (grown : Grown generation) {depth : Nat} {upper other lower : Node}
    (path : Descent generation.children depth upper lower)
    (also : Descent generation.children depth other lower) : upper = other := by
  induction depth generalizing lower with
  | zero => exact path.of_zero.trans also.of_zero.symm
  | succ depth ih =>
    obtain ⟨parent, shorter, child⟩ := path.last_step
    obtain ⟨second, short, known⟩ := also.last_step
    obtain rfl := (grown.parent_unique child known).1
    exact ih shorter short

end Grown

end TrustFederation.Tree
