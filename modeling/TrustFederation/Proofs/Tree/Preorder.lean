import TrustFederation.Proofs.Tree.Acyclic
/-!
# The order of a walk

A walk from the root comes to a node, then to everything below its first child, then to everything
below its second child, and so on. A version without cycles has one such order, in which all nodes
stand that a path reaches; and looking for a key finds the first node in it that has the key, up to
the case of letters.
-/
namespace TrustFederation.Tree

/-- All nodes at and below some nodes in the order of a walk: what is below a node comes after it
and before the next of the nodes. A node to which several paths lead stands there for each of
them. -/
inductive Preorder (children : Node → List Node) : List Node → List Node → Prop where
  | done : Preorder children [] []
  | visit {node : Node} {others below after : List Node}
      (inner : Preorder children (children node) below)
      (rest : Preorder children others after) :
      Preorder children (node :: others) (node :: (below ++ after))

section

variable {children : Node → List Node}

/-- Some nodes are walked over in one order only. -/
theorem Preorder.unique {nodes order other : List Node} (walk : Preorder children nodes order)
    (also : Preorder children nodes other) : other = order := by
  induction walk generalizing other with
  | done =>
    cases also
    rfl
  | visit _ _ inner_same rest_same =>
    cases also with
    | visit inner rest => rw [inner_same inner, rest_same rest]

/-- A walk comes to the nodes that paths lead to. -/
theorem Preorder.mem_iff {nodes order : List Node} (walk : Preorder children nodes order)
    (lower : Node) :
    lower ∈ order ↔ ∃ node ∈ nodes, ∃ depth, Descent children depth node lower := by
  induction walk with
  | done => simp
  | @visit node others below after _ _ inner_iff rest_iff =>
    have from_node : (∃ depth, Descent children depth node lower) ↔
        lower = node ∨ ∃ child ∈ children node, ∃ depth, Descent children depth child lower := by
      constructor
      · rintro ⟨depth, path⟩
        cases path with
        | here => exact .inl rfl
        | down child rest => exact .inr ⟨_, child, _, rest⟩
      · rintro (rfl | ⟨child, below, depth, path⟩)
        · exact ⟨0, .here lower⟩
        · exact ⟨depth + 1, .down below path⟩
    rw [List.mem_cons, List.mem_append, inner_iff, rest_iff, List.exists_mem_cons_iff, from_node,
      or_assoc]

/-- When looking for a key at and below each of some nodes is looking for it in the order of a
walk, so is looking at and below one after the other. -/
theorem preorder_of_each {seek : Node → Option Node} {fits : Node → Bool} {nodes : List Node}
    (each : ∀ node ∈ nodes, ∃ below, Preorder children (children node) below ∧
      seek node = (node :: below).find? fits) :
    ∃ order, Preorder children nodes order ∧ nodes.findSome? seek = order.find? fits := by
  induction nodes with
  | nil => exact ⟨[], .done, rfl⟩
  | cons node rest ih =>
    obtain ⟨below, inner, here⟩ := each node List.mem_cons_self
    obtain ⟨after, walk, later⟩ := ih fun other member => each other (List.mem_cons_of_mem _ member)
    refine ⟨node :: (below ++ after), .visit inner walk, ?_⟩
    rw [← List.cons_append, List.find?_append, List.findSome?_cons, ← here, ← later]
    cases seek node <;> rfl

end

section

variable {α : Type} {store : Store α} {version : Version}

/-- Looking for a key at and below some nodes, with a bound that no path exceeds, finds the first
node in the order of the walk that has the key.

Proof: induction over the bound. A node has no children without room for a step, and the order below
a node is the one below its children otherwise. -/
theorem found_in_preorder (key : String) (bound : Nat) (nodes : List Node)
    (room : ∀ node ∈ nodes, ∀ depth lower, Descent (store.children version) depth node lower →
      depth ≤ bound) :
    ∃ order, Preorder (store.children version) nodes order ∧
      nodes.findSome? (found? store version key bound) = order.find? (·.matches key) := by
  induction bound generalizing nodes with
  | zero =>
    refine preorder_of_each fun node member => ⟨[], ?_, ?_⟩
    · have childless : store.children version node = [] := by
        rw [List.eq_nil_iff_forall_not_mem]
        intro child below
        exact absurd (room node member 1 child (.down below (.here child))) (by decide)
      rw [childless]
      exact .done
    · rw [found_zero, List.find?_singleton]
  | succ bound ih =>
    refine preorder_of_each fun node member => ?_
    obtain ⟨below, inner, found⟩ := ih (store.children version node)
      fun child under depth lower path =>
        Nat.le_of_succ_le_succ (room node member (depth + 1) lower (.down under path))
    refine ⟨below, inner, ?_⟩
    rw [found_succ, found, List.find?_cons]
    cases node.matches key <;> rfl

/-- A version without cycles has an order of walk, and looking for a key from the root finds the
first node in this order that has the key. -/
theorem Store.Acyclic.find_node_eq (acyclic : store.Acyclic version) {root : Node}
    (rooted : store.root? version = some root) (key : String) :
    ∃ order, Preorder (store.children version) [root] order ∧
      store.findNode version root key = order.find? (·.matches key) := by
  obtain ⟨generation, held, -⟩ := Store.held_of_root rooted
  have room : ∀ node ∈ [root], ∀ depth lower, Descent (store.children version) depth node lower →
      depth ≤ store.pathBound version := by
    intro node member depth lower path
    obtain rfl := List.mem_singleton.mp member
    exact acyclic.path_bound rooted path
  obtain ⟨order, walk, found⟩ := found_in_preorder key (store.pathBound version) [root] room
  refine ⟨order, walk, ?_⟩
  rw [Store.find_node_held held, ← found, Store.path_bound_held held]
  simp
end

end TrustFederation.Tree
