import TrustFederation.Proofs.Tree.Acyclic
/-!
# Visiting a version

A walk with a visitor goes on below a node only if the node has data for which the predicate holds,
and tells the visitor each edge below such a node before it follows the edge. A node may stand below
several others, and several times below one of them, so an edge is told once for each way that
leads to it. A way is known by the positions that its nodes and its edge have in the lists of
children, and the order of the walk is the lexicographic order of these positions: the edges below a
child come after the edge to it and before the next edge of its parent. Versions with cycles are not
considered.
-/
namespace TrustFederation.Tree

/-- An edge as a walk comes to it: the nodes on the way, the last of which is the parent, and for
each of them the position at which the way goes on among its children. -/
structure Visit where
  nodes : List Node
  positions : List Nat
  parent : Node
  child : Node

namespace Visit

/-- What the visitor is told. -/
def edge (visit : Visit) : Node × Node := (visit.parent, visit.child)

/-- The first visit of an edge of a node, when the walk starts there. -/
def first (parent : Node) (position : Nat) (child : Node) : Visit :=
  ⟨[parent], [position], parent, child⟩

/-- A visit on a way that begins one node higher. -/
def under (upper : Node) (position : Nat) (visit : Visit) : Visit :=
  { visit with nodes := upper :: visit.nodes, positions := position :: visit.positions }

/-- A visit leads from an upper node along children to the parent, and on to the child. -/
inductive Below (children : Node → List Node) : Node → Visit → Prop where
  | edge {parent child : Node} {position : Nat}
      (stands : (children parent)[position]? = some child) :
      Below children parent (first parent position child)
  | down {upper middle : Node} {position : Nat} {visit : Visit}
      (stands : (children upper)[position]? = some middle) (rest : Below children middle visit) :
      Below children upper (visit.under upper position)

/-- Each node on the way holds at its level. -/
def Open (holds : Nat → Node → Bool) (level : Nat) (visit : Visit) : Prop :=
  ∀ depth node, visit.nodes[depth]? = some node → holds (level + depth) node = true

section

variable {children : Node → List Node} {holds : Nat → Node → Bool} {level position : Nat}
  {upper child : Node} {visit : Visit}

theorem below_iff : visit.Below children upper ↔
    ∃ child position, (children upper)[position]? = some child ∧
      (visit = first upper position child ∨
        ∃ rest : Visit, rest.Below children child ∧ visit = rest.under upper position) := by
  constructor
  · intro below
    cases below with
    | edge stands => exact ⟨_, _, stands, .inl rfl⟩
    | down stands rest => exact ⟨_, _, stands, .inr ⟨_, rest, rfl⟩⟩
  · rintro ⟨child, position, stands, rfl | ⟨rest, below, rfl⟩⟩
    · exact .edge stands
    · exact .down stands below

/-- The way begins at the upper node. -/
theorem Below.upper_holds (below : visit.Below children upper) (open_way : visit.Open holds level) :
    holds level upper = true := by
  cases below with
  | edge => exact open_way 0 upper rfl
  | down => exact open_way 0 upper rfl

theorem open_first_iff :
    (first upper position child).Open holds level ↔ holds level upper = true := by
  constructor
  · intro open_way
    exact open_way 0 upper rfl
  · intro held depth node stands
    cases depth with
    | zero =>
      obtain rfl : upper = node := by simpa [first] using stands
      exact held
    | succ depth => simp [first] at stands

theorem open_under_iff :
    (visit.under upper position).Open holds level ↔
      holds level upper = true ∧ visit.Open holds (level + 1) := by
  constructor
  · intro open_way
    refine ⟨open_way 0 upper rfl, fun depth node stands => ?_⟩
    rw [Nat.add_right_comm, Nat.add_assoc]
    exact open_way (depth + 1) node stands
  · rintro ⟨held, open_rest⟩ depth node stands
    cases depth with
    | zero =>
      obtain rfl : upper = node := by simpa [under] using stands
      exact held
    | succ depth =>
      rw [← Nat.add_assoc, Nat.add_right_comm]
      exact open_rest depth node stands

end

end Visit

/-! ## The visits of a walk -/

/-- The visits of a walk from a node at a level, in their order. -/
def visitsFrom (children : Node → List Node) (holds : Nat → Node → Bool) :
    Nat → Nat → Node → List Visit
  | 0, _, _ => []
  | bound + 1, level, node =>
    if holds level node then
      (children node).zipIdx.flatMap fun (child, position) =>
        .first node position child ::
          (visitsFrom children holds bound (level + 1) child).map (.under node position)
    else []

section

variable {children : Node → List Node} {holds : Nat → Node → Bool}

/-- A walk with a bound that no path exceeds comes to the edges on whose ways each node holds, and
to no others.

Proof: induction over the bound. Without room for a step there are no children, so no edge is below
the node. Otherwise the way leads to a child first, and the rest of it starts there. -/
theorem mem_visits_from (bound level : Nat) (node : Node) (visit : Visit)
    (room : ∀ depth lower, Descent children depth node lower → depth ≤ bound) :
    visit ∈ visitsFrom children holds bound level node ↔
      visit.Below children node ∧ visit.Open holds level := by
  induction bound generalizing level node visit with
  | zero =>
    have childless : ¬ visit.Below children node := by
      rw [Visit.below_iff]
      rintro ⟨child, position, stands, -⟩
      exact absurd (room 1 child (.down (List.mem_of_getElem? stands) (.here child))) (by decide)
    simp [visitsFrom, childless]
  | succ bound ih =>
    by_cases held : holds level node = true
    · have inside {child : Node} {position : Nat}
          (stands : (children node)[position]? = some child) (rest : Visit) :
          rest ∈ visitsFrom children holds bound (level + 1) child ↔
            rest.Below children child ∧ rest.Open holds (level + 1) :=
        ih (level + 1) child rest fun depth lower path =>
          Nat.le_of_succ_le_succ (room (depth + 1) lower (.down (List.mem_of_getElem? stands) path))
      rw [visitsFrom, if_pos held, List.mem_flatMap, Visit.below_iff]
      constructor
      · rintro ⟨⟨child, position⟩, entry, member⟩
        have stands := List.mem_zipIdx_iff_getElem?.mp entry
        rcases List.mem_cons.mp member with rfl | later
        · exact ⟨⟨child, position, stands, .inl rfl⟩, Visit.open_first_iff.mpr held⟩
        · obtain ⟨rest, among, rfl⟩ := List.mem_map.mp later
          obtain ⟨below, open_rest⟩ := (inside stands rest).mp among
          exact ⟨⟨child, position, stands, .inr ⟨rest, below, rfl⟩⟩,
            Visit.open_under_iff.mpr ⟨held, open_rest⟩⟩
      · rintro ⟨⟨child, position, stands, reason⟩, open_way⟩
        refine ⟨(child, position), List.mem_zipIdx_iff_getElem?.mpr stands, ?_⟩
        rcases reason with rfl | ⟨rest, below, rfl⟩
        · exact List.mem_cons_self
        · have open_rest := (Visit.open_under_iff.mp open_way).2
          exact List.mem_cons_of_mem _
            (List.mem_map_of_mem ((inside stands rest).mpr ⟨below, open_rest⟩))
    · rw [visitsFrom, if_neg held]
      simpa using fun below open_way => held (Visit.Below.upper_holds below open_way)

/-- All visits that begin with one step to a child have its position first. -/
theorem positions_of_step {node child : Node} {position : Nat} {visits : List Visit} {visit : Visit}
    (member : visit ∈ Visit.first node position child :: visits.map (.under node position)) :
    ∃ rest, visit.positions = position :: rest := by
  rcases List.mem_cons.mp member with rfl | later
  · exact ⟨[], rfl⟩
  · obtain ⟨rest, -, rfl⟩ := List.mem_map.mp later
    exact ⟨rest.positions, rfl⟩

theorem positions_of_mem {bound level : Nat} {node : Node} {visit : Visit}
    (member : visit ∈ visitsFrom children holds bound level node) :
    ∃ position rest, visit.positions = position :: rest := by
  cases bound with
  | zero => cases member
  | succ bound =>
    rw [visitsFrom] at member
    split at member
    · obtain ⟨⟨child, position⟩, -, among⟩ := List.mem_flatMap.mp member
      exact ⟨position, positions_of_step among⟩
    · cases member

/-- The positions of the visits ascend in the lexicographic order.

Proof: induction over the bound. The edge to a child has one position, with which the positions of
the edges below the child begin; and the next child has a greater one. -/
theorem visits_from_ordered (bound level : Nat) (node : Node) :
    (visitsFrom children holds bound level node).Pairwise fun earlier later =>
      earlier.positions < later.positions := by
  induction bound generalizing level node with
  | zero => exact .nil
  | succ bound ih =>
    rw [visitsFrom]
    split
    · rw [List.pairwise_flatMap]
      constructor
      · -- The edge to a child has no further positions, the edges below the child have some.
        rintro ⟨child, position⟩ -
        refine List.pairwise_cons.mpr ⟨fun later member => ?_, List.pairwise_map.mpr ?_⟩
        · obtain ⟨rest, among, rfl⟩ := List.mem_map.mp member
          obtain ⟨next, more, positions⟩ := positions_of_mem among
          have longer : [] < rest.positions := by
            rw [positions]
            exact List.nil_lt_cons next more
          exact List.cons_lt_cons_iff.mpr (.inr ⟨rfl, longer⟩)
        · exact (ih (level + 1) child).imp fun before =>
            List.cons_lt_cons_iff.mpr (.inr ⟨rfl, before⟩)
      · -- Visits through two children differ in the first position.
        refine (zip_idx_ordered (children node)).imp ?_
        rintro ⟨child, position⟩ ⟨sibling, next⟩ before visit member later among
        obtain ⟨rest, positions⟩ := positions_of_step member
        obtain ⟨more, later_positions⟩ := positions_of_step among
        rw [positions, later_positions]
        exact List.cons_lt_cons_iff.mpr (.inl before)
    · exact .nil

end

/-! ## The visitor -/

namespace Store

variable {α : Type} (store : Store α) (version : Version) (predicate : α → Place → Bool)

theorem visit_node_succ (bound : Nat) (place : Place) (node : Node) :
    visitNode store.reads version predicate (bound + 1) place node =
      if holdsAt predicate place (store.data? version node) then
        (store.children version node).flatMap fun child =>
          (node, child) :: visitNode store.reads version predicate bound place.deeper child
      else [] := by
  have mapped : ((store.children version node).mapM fun child =>
      (do
        let below ← visitNode store.reads version predicate bound place.deeper child
        return (node, child) :: below : Id (List (Node × Node)))) =
      (store.children version node).map fun child =>
        (node, child) :: visitNode store.reads version predicate bound place.deeper child :=
    List.idRun_mapM
  rw [List.flatMap_def, ← mapped]
  rfl

/-- A node has data for which the predicate holds at a level of a visit. -/
def admits (level : Nat) (node : Node) : Bool :=
  holdsAt predicate ⟨level, false⟩ (store.data? version node)

theorem admits_iff {level : Nat} {node : Node} :
    store.admits version predicate level node = true ↔
      store.HoldsAtLevel version predicate false level node := matches_iff

/-- The visitor is told the edges of the visits, one after the other. -/
theorem visit_node_eq (bound level : Nat) (node : Node) :
    visitNode store.reads version predicate bound ⟨level, false⟩ node =
      (visitsFrom (store.children version) (store.admits version predicate) bound level node).map
        Visit.edge := by
  induction bound generalizing level node with
  | zero => rfl
  | succ bound ih =>
    rw [visit_node_succ, visitsFrom, admits]
    split
    · have told (child : Node) (position : Nat) :
          (Visit.first node position child ::
            (visitsFrom (store.children version) (store.admits version predicate) bound
              (level + 1) child).map (.under node position)).map Visit.edge =
          (node, child) ::
            visitNode store.reads version predicate bound ⟨level + 1, false⟩ child := by
        rw [ih, List.map_cons, List.map_map]
        rfl
      simp only [List.map_flatMap, told]
      -- The positions are of no account for what is told.
      conv_lhs => rw [← List.zipIdx_map_fst 0 (store.children version node), List.flatMap_map]
      rfl
    · rfl

theorem visit_unrooted (rootless : store.root? version = none) :
    store.visit version predicate = [] := by
  have nothing : store.reads.root version = pure none := rootless
  show (Tree.visit store.reads version _ predicate).run = []
  rw [Tree.visit, nothing]
  rfl

theorem visit_rooted {root : Node} (rooted : store.root? version = some root) :
    store.visit version predicate =
      visitNode store.reads version predicate (store.pathBound version) ⟨0, false⟩ root := by
  have start : store.reads.root version = pure (some root) := rooted
  show (Tree.visit store.reads version _ predicate).run = _
  rw [Tree.visit, start]
  rfl

/-- In a version without cycles the visitor is told an edge exactly once for each way to it from the
root on which every node, the parent of the edge included, has data for which the predicate holds at
its level; nothing is asked of the child. The edges are told in the order of the positions on their
ways: an edge comes before all edges below its child, and these come before the next edge of its
parent. Without a root there is nothing to tell. -/
theorem visit_exact (acyclic : store.Acyclic version) :
    ∃ visits : List Visit, store.visit version predicate = visits.map Visit.edge ∧
      (visits.Pairwise fun earlier later => earlier.positions < later.positions) ∧
      ∀ visit, visit ∈ visits ↔ ∃ root, store.root? version = some root ∧
        visit.Below (store.children version) root ∧
        ∀ level node, visit.nodes[level]? = some node →
          store.HoldsAtLevel version predicate false level node := by
  cases rooted : store.root? version with
  | none => exact ⟨[], store.visit_unrooted version predicate rooted, .nil, by simp⟩
  | some root =>
    refine ⟨visitsFrom (store.children version) (store.admits version predicate)
      (store.pathBound version) 0 root, ?_, visits_from_ordered _ _ _, fun visit => ?_⟩
    · rw [store.visit_rooted version predicate rooted, visit_node_eq]
    · rw [mem_visits_from _ _ _ _ fun depth lower path => acyclic.path_bound rooted path]
      simp only [Option.some.injEq, exists_eq_left', Visit.Open, Nat.zero_add, admits_iff]

/-- A node that stands twice below the root and a node at two levels at one of which the predicate
fails, with a child that has no data and a child of this one. -/
theorem visit_exact_shared :
    let store : Store String := (Store.empty 1).applyAll [.create "r" "go", .append "a" "r" 1,
      .append "b" "r" 1, .append "a" "r" 1, .append "c" "r" 1, .setData "a" "go" 1,
      .setData "b" "stop" 1, .append "c" "a" 1, .append "c" "b" 1, .setData "c" "go" 1,
      .append "d" "c" 1, .append "e" "d" 1, .setData "e" "go" 1]
    let predicate : String → Place → Bool := fun data place => data == "go" && place.level != 2
    let edges : List (Node × Node) := [("r", "a"), ("a", "c"), ("r", "b"), ("r", "a"), ("a", "c"),
      ("r", "c"), ("c", "d")]
    store.Acyclic 1 ∧ store.visit 1 predicate = edges ∧
      ∃ visits : List Visit, edges = visits.map Visit.edge ∧
        (visits.Pairwise fun earlier later => earlier.positions < later.positions) ∧
        ∀ visit, visit ∈ visits ↔ ∃ root, store.root? 1 = some root ∧
          visit.Below (store.children 1) root ∧
          ∀ level node, visit.nodes[level]? = some node →
            store.HoldsAtLevel 1 predicate false level node := by
  intro store predicate edges
  have acyclic : store.Acyclic 1 :=
    acyclic_of_edges (fun node => ["r", "a", "b", "c", "d", "e"].idxOf node) (by decide +kernel)
  have visited : store.visit 1 predicate = edges := by decide +kernel
  have exactly := visit_exact store 1 predicate acyclic
  rw [visited] at exactly
  exact ⟨acyclic, visited, exactly⟩

end Store

end TrustFederation.Tree
