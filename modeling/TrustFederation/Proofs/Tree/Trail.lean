import TrustFederation.Proofs.Tree.Growth
/-!
# Searching a version that is a tree

A trail lists the nodes of a descent. When one node of a grown version matches, a search that
asks for ancestors reports the trail from the root to this node, in order and level by level;
when none matches, it reports nothing. A key that one node has is found at this node.
-/
namespace TrustFederation.Tree

/-- The nodes of a descent from an upper node to a lower one, both included. -/
inductive Trail (children : Node → List Node) : List Node → Node → Node → Prop where
  | here (node : Node) : Trail children [node] node node
  | down {nodes : List Node} {upper middle lower : Node} (child : middle ∈ children upper)
      (rest : Trail children nodes middle lower) : Trail children (upper :: nodes) upper lower

namespace Trail

variable {children : Node → List Node}

theorem of_descent {depth : Nat} {upper lower : Node}
    (path : Descent children depth upper lower) : ∃ nodes, Trail children nodes upper lower := by
  induction path with
  | here node => exact ⟨[node], here node⟩
  | @down _ upper _ _ child _ ih =>
    obtain ⟨nodes, rest⟩ := ih
    exact ⟨upper :: nodes, down child rest⟩

/-- A trail with one more node at its end. -/
theorem step {nodes : List Node} {upper middle lower : Node}
    (trail : Trail children nodes upper middle) (child : lower ∈ children middle) :
    Trail children (nodes ++ [lower]) upper lower := by
  induction trail with
  | here node => exact down child (here lower)
  | down above _ ih => exact down above (ih child)

theorem head_eq {nodes : List Node} {upper lower : Node}
    (trail : Trail children nodes upper lower) : nodes.head? = some upper := by
  cases trail <;> rfl

theorem last_eq {nodes : List Node} {upper lower : Node}
    (trail : Trail children nodes upper lower) : nodes.getLast? = some lower := by
  induction trail with
  | here => rfl
  | down _ rest ih =>
    rw [List.getLast?_cons, ih]
    rfl

/-- The node at a position has that depth, and the rest of the trail leads on to the end. -/
theorem at_position {nodes : List Node} {upper middle lower : Node} {position : Nat}
    (trail : Trail children nodes upper lower) (stands : nodes[position]? = some middle) :
    Descent children position upper middle ∧
      ∃ further, position + further + 1 = nodes.length ∧ Descent children further middle lower := by
  induction trail generalizing position middle with
  | here node =>
    cases position with
    | zero =>
      obtain rfl : node = middle := by simpa using stands
      exact ⟨.here _, 0, rfl, .here _⟩
    | succ position => simp at stands
  | @down nodes upper next lower child rest ih =>
    cases position with
    | zero =>
      obtain rfl : upper = middle := by simpa using stands
      have start : nodes[0]? = some next := by
        rw [← rest.head_eq, List.head?_eq_getElem?]
      obtain ⟨-, further, length, path⟩ := ih start
      refine ⟨.here _, further + 1, ?_, .down child path⟩
      rw [List.length_cons]
      omega
    | succ position =>
      obtain ⟨above, further, length, path⟩ := ih (by simpa using stands)
      refine ⟨.down child above, further, ?_, path⟩
      rw [List.length_cons]
      omega

/-- A node at a depth from which the rest of the way leads to the end is on the trail. -/
theorem position_of {α : Type} {generation : Generation α} (grown : Grown generation)
    {nodes : List Node} {lower middle : Node} {depth further : Nat}
    (trail : Trail generation.children nodes generation.root lower)
    (above : Descent generation.children depth generation.root middle)
    (below : Descent generation.children further middle lower) : nodes[depth]? = some middle := by
  have whole : Descent generation.children (nodes.length - 1) generation.root lower := by
    have last : nodes[nodes.length - 1]? = some lower := by
      rw [← List.getLast?_eq_getElem?, trail.last_eq]
    exact (trail.at_position last).1
  have length : depth + further = nodes.length - 1 := grown.depth_unique (above.append below) whole
  have nonempty : 0 < nodes.length := by
    rw [List.length_pos_iff]
    rintro rfl
    exact absurd trail.head_eq (by simp)
  have inside : depth < nodes.length := by omega
  obtain ⟨-, rest, ending, onward⟩ := trail.at_position (List.getElem?_eq_getElem inside)
  obtain rfl : rest = further := by omega
  rw [List.getElem?_eq_getElem inside, grown.ancestor_unique onward below]

end Trail

/-- The positions of the entries of a list ascend. -/
theorem zip_idx_ordered {α : Type} (entries : List α) :
    entries.zipIdx.Pairwise fun one other => one.2 < other.2 := by
  refine List.pairwise_iff_getElem.mpr fun first second _ _ earlier => ?_
  simpa using earlier

/-! ## Reading a version that is held -/

namespace Store

variable {α : Type} {store : Store α} {version : Version} {generation : Generation α}

theorem root_held (held : store.generation? version = some generation) :
    store.root? version = some generation.root := by
  simp [root?, held]

theorem children_held (held : store.generation? version = some generation) :
    store.children version = generation.children := by
  funext node
  simp [children, held]

theorem data_held (held : store.generation? version = some generation) :
    store.data? version = generation.data? := by
  funext node
  simp [data?, held]

theorem path_bound_held (held : store.generation? version = some generation) :
    store.pathBound version = generation.edges.length := by
  simp [pathBound, held]

theorem search_held (held : store.generation? version = some generation)
    (predicate : α → Place → Bool) (includeParents : Bool) :
    store.search version predicate includeParents = Found.ordered
      (searchNode store.reads version predicate generation.edges.length ⟨0, includeParents⟩
        generation.root).2 := by
  have root : store.reads.root version = pure (some generation.root) := root_held held
  show (Tree.search store.reads version (store.pathBound version) predicate includeParents).run = _
  rw [Tree.search, path_bound_held held, root]
  rfl

theorem find_node_held (held : store.generation? version = some generation) (root : Node)
    (key : String) :
    store.findNode version root key = found? store version key generation.edges.length root := by
  show (Tree.findNode store.reads version key (store.pathBound version) root).run = _
  rw [path_bound_held held]
  rfl

/-- A search of a grown version reports exactly what may be reported from its root. -/
theorem mem_search (held : store.generation? version = some generation)
    (grown : Grown generation) (predicate : α → Place → Bool) (includeParents : Bool)
    (found : Found) :
    found ∈ store.search version predicate includeParents ↔
      Reported store version predicate ⟨0, includeParents⟩ generation.root found := by
  rw [search_held held, Found.mem_ordered]
  refine (search_node_exact store version predicate _ _ _ ?_).2 found
  intro depth lower path
  rw [children_held held] at path
  exact grown.descent_bound path

/-- When one node of a grown version matches, a search with ancestors reports the trail that
leads to it.

Proof: both lists are strictly ordered by level, so it is enough that they have the same
members. A reported node has the only match below it or is that match, so it stands on the
trail at its level; and from every node of the trail the rest of the trail leads to the match. -/
theorem search_trail (held : store.generation? version = some generation)
    (grown : Grown generation) (predicate : α → Place → Bool) {nodes : List Node} {wanted : Node}
    (trail : Trail generation.children nodes generation.root wanted)
    (only : ∀ depth lower, Descent generation.children depth generation.root lower →
      (Matches store version predicate ⟨depth, true⟩ lower ↔ lower = wanted)) :
    store.search version predicate true =
      nodes.zipIdx.map fun entry => ⟨entry.2, entry.1⟩ := by
  have place (depth : Nat) : (⟨0, true⟩ : Place).below depth = ⟨depth, true⟩ := by
    simp [Place.below]
  apply Found.eq_of_same_members
  · rw [search_held held]
    exact Found.ordered_pairwise _
  · rw [List.pairwise_map]
    refine (zip_idx_ordered nodes).imp ?_
    intro one other earlier
    exact (Found.before_iff _ _).mpr (.inl earlier)
  · rintro ⟨level, node⟩
    rw [mem_search held grown, Reported, children_held held]
    simp only [place, Nat.zero_add, true_and, List.mem_map, Found.mk.injEq]
    constructor
    · rintro ⟨depth, path, rfl, reason⟩
      refine ⟨(node, level), List.mem_zipIdx_iff_getElem?.mpr ?_, rfl, rfl⟩
      rcases reason with matched | ⟨child, below, further, lower, onward, matched⟩
      · obtain rfl := (only level node path).mp matched
        exact trail.position_of grown path (.here _)
      · rw [children_held held] at onward
        have whole := path.append (.down below onward)
        have at_place : ((⟨level + 1, true⟩ : Place).below further) =
            ⟨level + (further + 1), true⟩ := by
          simp only [Place.below, Place.mk.injEq, and_true]
          omega
        rw [at_place] at matched
        obtain rfl := (only _ lower whole).mp matched
        exact trail.position_of grown path (.down below onward)
    · rintro ⟨⟨found, position⟩, member, rfl, rfl⟩
      have stands : nodes[position]? = some found := List.mem_zipIdx_iff_getElem?.mp member
      obtain ⟨path, further, -, onward⟩ := trail.at_position stands
      refine ⟨position, path, rfl, ?_⟩
      cases further with
      | zero =>
        obtain rfl := onward.of_zero
        exact .inl ((only position found path).mpr rfl)
      | succ further =>
        obtain ⟨child, below, rest⟩ := onward.of_succ
        refine .inr ⟨child, below, further, wanted, ?_, ?_⟩
        · rw [children_held held]
          exact rest
        · have at_place : ((⟨position + 1, true⟩ : Place).below further) =
              ⟨position + (further + 1), true⟩ := by
            simp only [Place.below, Place.mk.injEq, and_true]
            omega
          rw [at_place]
          exact (only _ wanted (path.append onward)).mpr rfl

/-- When no node of a grown version matches, a search reports nothing. -/
theorem search_nothing (held : store.generation? version = some generation)
    (grown : Grown generation) (predicate : α → Place → Bool) (includeParents : Bool)
    (none_matches : ∀ depth lower, Descent generation.children depth generation.root lower →
      ¬ Matches store version predicate ⟨depth, includeParents⟩ lower) :
    store.search version predicate includeParents = [] := by
  rw [List.eq_nil_iff_forall_not_mem]
  intro found member
  obtain ⟨depth, path, -, reason⟩ := (mem_search held grown _ _ found).mp member
  rw [children_held held] at path
  rcases reason with matched | ⟨-, child, below, further, lower, onward, matched⟩
  · refine none_matches depth found.node path ?_
    simpa [Place.below] using matched
  · rw [children_held held] at below onward
    refine none_matches _ lower (path.append (.down below onward)) ?_
    have at_place : (((⟨0, includeParents⟩ : Place).below (depth + 1)).below further) =
        ⟨depth + (further + 1), includeParents⟩ := by
      simp only [Place.below, Place.mk.injEq, and_true]
      omega
    rwa [at_place] at matched

/-- A key that one node of a grown version has is found at this node. -/
theorem find_node_only (held : store.generation? version = some generation)
    (grown : Grown generation) {key : String} {node : Node} {data : α}
    (stored : generation.data? node = some data) (fits : node.matches key = true)
    (only : ∀ other data, generation.data? other = some data → other.matches key = true →
      other = node) :
    store.findNode version generation.root key = some node := by
  rw [find_node_held held]
  obtain ⟨depth, path⟩ := (grown.data_iff_descent node).mp ⟨data, stored⟩
  have reached : Descent (store.children version) depth generation.root node := by
    rwa [children_held held]
  obtain ⟨result, found⟩ := found_complete reached (grown.descent_bound path) fits
  obtain ⟨matched, other, way⟩ := found_sound found
  rw [children_held held] at way
  obtain ⟨known, stored_there⟩ := (grown.data_iff_descent result).mpr ⟨other, way⟩
  rw [found, only result known stored_there matched]

end Store

end TrustFederation.Tree
