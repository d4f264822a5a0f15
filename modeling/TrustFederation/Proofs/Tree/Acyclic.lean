import Mathlib.Data.List.Perm.Basic
import TrustFederation.Proofs.Tree.Trail
/-!
# Versions without cycles

A store does not keep a version a tree: a node may be attached below several others, and may have
children but no data. As long as no path leads back to where it was, no path is longer than the
number of edges, and a search finds exactly the nodes that match and, if asked to, all nodes above
them, at every level at which a path reaches them. Versions with cycles are not considered.
-/
namespace TrustFederation.Tree

/-- No path leads from a node at or below another one back to this node. -/
def AcyclicBelow (children : Node → List Node) (upper : Node) : Prop :=
  ∀ depth node further, Descent children depth upper node →
    ¬ Descent children (further + 1) node node

theorem AcyclicBelow.child {children : Node → List Node} {upper child : Node}
    (acyclic : AcyclicBelow children upper) (below : child ∈ children upper) :
    AcyclicBelow children child :=
  fun depth node further path => acyclic (depth + 1) node further (.down below path)

/-- A path without cycles leaves as many different nodes as it has steps.

Proof: induction over the path. If it came back to its start, that would be a cycle. -/
theorem Descent.different_parents {children : Node → List Node} {depth : Nat} {upper lower : Node}
    (path : Descent children depth upper lower) (acyclic : AcyclicBelow children upper) :
    ∃ parents : List Node, parents.length = depth ∧ parents.Nodup ∧
      ∀ parent ∈ parents, children parent ≠ [] ∧ ∃ above, Descent children above upper parent := by
  induction path with
  | here node => exact ⟨[], rfl, List.nodup_nil, fun parent member => absurd member List.not_mem_nil⟩
  | @down depth upper middle lower child rest ih =>
    obtain ⟨parents, length, different, each⟩ := ih (acyclic.child child)
    refine ⟨upper :: parents, by rw [List.length_cons, length], ?_, ?_⟩
    · refine List.nodup_cons.mpr ⟨fun member => ?_, different⟩
      obtain ⟨-, above, back⟩ := each upper member
      exact acyclic 0 upper above (.here upper) (.down child back)
    · intro parent member
      rcases List.mem_cons.mp member with rfl | later
      · exact ⟨List.ne_nil_of_mem child, 0, .here parent⟩
      · obtain ⟨childful, above, way⟩ := each parent later
        exact ⟨childful, above + 1, .down child way⟩

/-- Where every step leads up in some rank, there are no cycles. -/
theorem acyclic_of_rank {children : Node → List Node} (rank : Node → Nat)
    (rises : ∀ upper, ∀ lower ∈ children upper, rank upper < rank lower) (upper : Node) :
    AcyclicBelow children upper := by
  have climbs {depth : Nat} {start lower : Node} (path : Descent children depth start lower) :
      rank start + depth ≤ rank lower := by
    induction path with
    | here => exact Nat.le_refl _
    | down child _ ih =>
      have step := rises _ _ child
      omega
  intro depth node further _ cycle
  have higher := climbs cycle
  omega

namespace Store

variable {α : Type} {store : Store α} {version : Version}

/-- No path of a version leads back to where it was. -/
def Acyclic (store : Store α) (version : Version) : Prop :=
  ∀ root, store.root? version = some root → AcyclicBelow (store.children version) root

/-- A version is without cycles if all its edges lead up in some rank. -/
theorem acyclic_of_edges (rank : Node → Nat)
    (rises : ∀ generation ∈ store.generation? version, ∀ edge ∈ generation.edges,
      rank edge.1 < rank edge.2) : store.Acyclic version := by
  intro root _
  refine acyclic_of_rank rank (fun upper lower child => ?_) root
  cases held : store.generation? version with
  | none => simp [children, held] at child
  | some generation =>
    rw [children_held held] at child
    obtain ⟨edge, member, rfl⟩ := List.mem_map.mp child
    obtain ⟨inside, above⟩ := List.mem_filter.mp member
    rw [← eq_of_beq above]
    exact rises generation held edge inside

theorem held_of_root {root : Node} (rooted : store.root? version = some root) :
    ∃ generation, store.generation? version = some generation ∧ generation.root = root :=
  Option.map_eq_some_iff.mp rooted

/-- Without cycles no path from the root is longer than the number of edges. -/
theorem Acyclic.path_bound (acyclic : store.Acyclic version) {root lower : Node} {depth : Nat}
    (rooted : store.root? version = some root)
    (path : Descent (store.children version) depth root lower) :
    depth ≤ store.pathBound version := by
  obtain ⟨generation, held, -⟩ := held_of_root rooted
  obtain ⟨parents, rfl, different, each⟩ := path.different_parents (acyclic root rooted)
  have among : parents ⊆ generation.edges.map (·.1) := by
    intro parent member
    obtain ⟨child, below⟩ := List.exists_mem_of_ne_nil _ (each parent member).1
    rw [children_held held] at below
    obtain ⟨edge, inside, -⟩ := List.mem_map.mp below
    obtain ⟨present, above⟩ := List.mem_filter.mp inside
    exact List.mem_map.mpr ⟨edge, present, eq_of_beq above⟩
  calc parents.length ≤ (generation.edges.map (·.1)).length :=
        (List.subperm_of_subset different among).length_le
    _ = store.pathBound version := by rw [List.length_map, path_bound_held held]

/-! ## Searching -/

/-- The node has data for which the predicate holds at a level. -/
def HoldsAtLevel (store : Store α) (version : Version) (predicate : α → Place → Bool)
    (includeParents : Bool) (level : Nat) (node : Node) : Prop :=
  ∃ data, store.data? version node = some data ∧ predicate data ⟨level, includeParents⟩ = true

variable {predicate : α → Place → Bool} {includeParents : Bool}

theorem matches_iff {level : Nat} {node : Node} :
    Matches store version predicate ⟨level, includeParents⟩ node ↔
      store.HoldsAtLevel version predicate includeParents level node := by
  unfold Matches HoldsAtLevel
  cases store.data? version node <;> simp [holdsAt]

theorem search_unrooted (rootless : store.root? version = none) (predicate : α → Place → Bool)
    (includeParents : Bool) : store.search version predicate includeParents = [] := by
  have nothing : store.reads.root version = pure none := rootless
  show (Tree.search store.reads version _ predicate includeParents).run = []
  rw [Tree.search, nothing]
  rfl

theorem search_ordered (store : Store α) (version : Version) (predicate : α → Place → Bool)
    (includeParents : Bool) :
    (store.search version predicate includeParents).Pairwise (·.before · = true) := by
  cases rooted : store.root? version with
  | none =>
    rw [search_unrooted rooted]
    exact List.Pairwise.nil
  | some root =>
    obtain ⟨generation, held, -⟩ := held_of_root rooted
    rw [search_held held]
    exact Found.ordered_pairwise _

/-- A search of a version without cycles reports exactly what may be reported from its root. -/
theorem Acyclic.mem_search_of_root (acyclic : store.Acyclic version) {root : Node}
    (rooted : store.root? version = some root) (found : Found) :
    found ∈ store.search version predicate includeParents ↔
      Reported store version predicate ⟨0, includeParents⟩ root found := by
  obtain ⟨generation, held, rfl⟩ := held_of_root rooted
  rw [search_held held, Found.mem_ordered, ← path_bound_held held]
  exact (search_node_exact store version predicate _ _ _
    fun depth lower path => acyclic.path_bound rooted path).2 found

/-- What may be reported from a root, in terms of paths. -/
theorem reported_from_root_iff {root : Node} {found : Found} :
    Reported store version predicate ⟨0, includeParents⟩ root found ↔
      Descent (store.children version) found.level root found.node ∧
      (store.HoldsAtLevel version predicate includeParents found.level found.node ∨
        includeParents = true ∧ ∃ further lower,
          Descent (store.children version) (further + 1) found.node lower ∧
          store.HoldsAtLevel version predicate includeParents (found.level + (further + 1))
            lower) := by
  have place (level : Nat) : (⟨0, includeParents⟩ : Place).below level = ⟨level, includeParents⟩ := by
    simp [Place.below]
  have deeper (level further : Nat) : (⟨level + 1, includeParents⟩ : Place).below further =
      ⟨level + (further + 1), includeParents⟩ := by
    simp only [Place.below, Place.mk.injEq, and_true]
    omega
  constructor
  · rintro ⟨depth, path, level, reason⟩
    obtain rfl : found.level = depth := level.trans (Nat.zero_add depth)
    rcases reason with holds | ⟨asked, child, below, further, lower, rest, holds⟩
    · rw [place, matches_iff] at holds
      exact ⟨path, .inl holds⟩
    · rw [place, deeper, matches_iff] at holds
      exact ⟨path, .inr ⟨asked, further, lower, .down below rest, holds⟩⟩
  · rintro ⟨path, reason⟩
    refine ⟨found.level, path, (Nat.zero_add _).symm, reason.imp (fun holds => ?_) ?_⟩
    · rwa [place, matches_iff]
    · rintro ⟨asked, further, lower, onward, holds⟩
      obtain ⟨child, below, rest⟩ := onward.of_succ
      refine ⟨asked, child, below, further, lower, rest, ?_⟩
      rwa [place, deeper, matches_iff]

/-- What a search of a version without cycles reports, in terms of paths. -/
theorem Acyclic.mem_search_iff (acyclic : store.Acyclic version) {found : Found} :
    found ∈ store.search version predicate includeParents ↔
      ∃ root, store.root? version = some root ∧
        Descent (store.children version) found.level root found.node ∧
        (store.HoldsAtLevel version predicate includeParents found.level found.node ∨
          includeParents = true ∧ ∃ further lower,
            Descent (store.children version) (further + 1) found.node lower ∧
            store.HoldsAtLevel version predicate includeParents (found.level + (further + 1))
              lower) := by
  constructor
  · intro member
    cases rooted : store.root? version with
    | none =>
      rw [search_unrooted rooted] at member
      cases member
    | some root =>
      have reported := (acyclic.mem_search_of_root rooted found).mp member
      exact ⟨root, rfl, reported_from_root_iff.mp reported⟩
  · rintro ⟨root, rooted, reported⟩
    exact (acyclic.mem_search_of_root rooted found).mpr (reported_from_root_iff.mpr reported)

/-- A search of a version without cycles reports a node at a level exactly if a path of that length
leads to it from the root and it has data for which the predicate holds there, or, with ancestors
asked for, a path leads further down to such a node. What stands on the way matters nowhere: nodes
without data and nodes that fail the predicate hide nothing below them. Nothing is reported twice.
With ancestors asked for, the parents of what is reported are reported too, and a version without a
root has no results. -/
theorem search_exact (store : Store α) (version : Version) (predicate : α → Place → Bool)
    (includeParents : Bool) (acyclic : store.Acyclic version) :
    (∀ found, found ∈ store.search version predicate includeParents ↔
      ∃ root, store.root? version = some root ∧
        Descent (store.children version) found.level root found.node ∧
        (store.HoldsAtLevel version predicate includeParents found.level found.node ∨
          includeParents = true ∧ ∃ further lower,
            Descent (store.children version) (further + 1) found.node lower ∧
            store.HoldsAtLevel version predicate includeParents (found.level + (further + 1))
              lower)) ∧
    (store.search version predicate includeParents).Nodup ∧
    (includeParents = true → ∀ root level parent child, store.root? version = some root →
      Descent (store.children version) level root parent → child ∈ store.children version parent →
      ⟨level + 1, child⟩ ∈ store.search version predicate includeParents →
      ⟨level, parent⟩ ∈ store.search version predicate includeParents) ∧
    (store.root? version = none → store.search version predicate includeParents = []) := by
  refine ⟨fun found => acyclic.mem_search_iff, ?_, ?_, fun rootless => search_unrooted rootless _ _⟩
  · refine (search_ordered store version predicate includeParents).imp ?_
    rintro one other earlier rfl
    exact Found.before_irrefl one earlier
  · simp only [acyclic.mem_search_iff]
    rintro asked root level parent child rooted above below ⟨_, _, _, reason⟩
    refine ⟨root, rooted, above, .inr ⟨asked, ?_⟩⟩
    rcases reason with holds | ⟨-, further, lower, onward, holds⟩
    · exact ⟨0, child, .down below (.here child), holds⟩
    · refine ⟨further + 1, lower, .down below onward, ?_⟩
      rwa [Nat.add_right_comm level 1 (further + 1), Nat.add_assoc] at holds

/-- A node at two levels that matches at one of them only, under a node with two parents one of which
has no data. -/
theorem search_exact_shared :
    let store : Store String := (Store.empty 1).applyAll [.create "r" "", .append "a" "r" 1,
      .setData "a" "" 1, .append "b" "r" 1, .append "c" "a" 1, .append "c" "b" 1, .setData "c" "" 1,
      .append "d" "c" 1, .append "d" "a" 1, .setData "d" "hit" 1]
    let predicate : String → Place → Bool := fun data place => data == "hit" && place.level == 3
    let results : List Found := [⟨0, "r"⟩, ⟨1, "a"⟩, ⟨1, "b"⟩, ⟨2, "c"⟩, ⟨3, "d"⟩]
    store.Acyclic 1 ∧ store.data? 1 "b" = none ∧ store.search 1 predicate true = results ∧
      ∀ found, found ∈ results ↔ ∃ root, store.root? 1 = some root ∧
        Descent (store.children 1) found.level root found.node ∧
        (store.HoldsAtLevel 1 predicate true found.level found.node ∨ true = true ∧
          ∃ further lower, Descent (store.children 1) (further + 1) found.node lower ∧
            store.HoldsAtLevel 1 predicate true (found.level + (further + 1)) lower) := by
  intro store predicate results
  have acyclic : store.Acyclic 1 :=
    acyclic_of_edges (fun node => ["r", "a", "b", "c", "d"].idxOf node) (by decide +kernel)
  have searched : store.search 1 predicate true = results := by decide +kernel
  have found := (search_exact store 1 predicate true acyclic).1
  rw [searched] at found
  exact ⟨acyclic, by decide +kernel, searched, found⟩

end Store

end TrustFederation.Tree
