import Mathlib.Data.String.Basic
import TrustFederation.Tree.Walk
/-!
# What walks find

A descent is a path that follows children downwards. A search over a store that does not
change finds exactly the nodes that a descent from its start reaches and that either match
themselves or stand above a match, provided that no descent is longer than its bound; and
looking for a key finds a node with that key whenever a descent reaches one. The results of a
search stand in strict order, so their members determine them.
-/
namespace TrustFederation.Tree

/-- A path of the given length from an upper node to a lower one. -/
inductive Descent (children : Node → List Node) : Nat → Node → Node → Prop where
  | here (node : Node) : Descent children 0 node node
  | down {depth : Nat} {upper middle lower : Node} (child : middle ∈ children upper)
      (rest : Descent children depth middle lower) : Descent children (depth + 1) upper lower

namespace Descent

variable {children : Node → List Node}

theorem of_zero {upper lower : Node} (path : Descent children 0 upper lower) : upper = lower := by
  cases path
  rfl

theorem of_succ {depth : Nat} {upper lower : Node}
    (path : Descent children (depth + 1) upper lower) :
    ∃ middle ∈ children upper, Descent children depth middle lower := by
  cases path with
  | down child rest => exact ⟨_, child, rest⟩

/-- A path that goes on where another one ends. -/
theorem append {first second : Nat} {upper middle lower : Node}
    (above : Descent children first upper middle) (below : Descent children second middle lower) :
    Descent children (first + second) upper lower := by
  induction above with
  | here => simpa using below
  | down child _ ih =>
    rw [Nat.add_right_comm]
    exact down child (ih below)

/-- A path with one more step at its end. -/
theorem step {depth : Nat} {upper middle lower : Node} (path : Descent children depth upper middle)
    (child : lower ∈ children middle) : Descent children (depth + 1) upper lower :=
  path.append (down child (here lower))

/-- The last step of a path. -/
theorem last_step {depth : Nat} {upper lower : Node}
    (path : Descent children (depth + 1) upper lower) :
    ∃ parent, Descent children depth upper parent ∧ lower ∈ children parent := by
  induction depth generalizing upper with
  | zero =>
    obtain ⟨middle, child, rest⟩ := path.of_succ
    obtain rfl := rest.of_zero
    exact ⟨upper, here upper, child⟩
  | succ depth ih =>
    obtain ⟨middle, child, rest⟩ := path.of_succ
    obtain ⟨parent, above, last⟩ := ih rest
    exact ⟨parent, down child above, last⟩

end Descent

/-! ## Searching -/

/-- The place that many levels deeper. -/
def Place.below (place : Place) (depth : Nat) : Place :=
  { place with level := place.level + depth }

theorem Place.deeper_include_parents (place : Place) :
    place.deeper.includeParents = place.includeParents := rfl

theorem Place.deeper_below (place : Place) (depth : Nat) :
    place.deeper.below depth = place.below (depth + 1) := by
  simp only [Place.deeper, Place.below, Place.mk.injEq, and_true]
  omega

section

variable {α : Type}

/-- The predicate holds for the data of a node at a place. -/
def Matches (store : Store α) (version : Version) (predicate : α → Place → Bool)
    (place : Place) (node : Node) : Prop :=
  holdsAt predicate place (store.data? version node) = true

/-- A node at or below another one matches. -/
def MatchBelow (store : Store α) (version : Version) (predicate : α → Place → Bool)
    (place : Place) (node : Node) : Prop :=
  ∃ depth lower, Descent (store.children version) depth node lower ∧
    Matches store version predicate (place.below depth) lower

theorem match_below_iff (store : Store α) (version : Version) (predicate : α → Place → Bool)
    (place : Place) (node : Node) :
    MatchBelow store version predicate place node ↔
      Matches store version predicate place node ∨
        ∃ child ∈ store.children version node,
          MatchBelow store version predicate place.deeper child := by
  constructor
  · rintro ⟨depth, lower, path, holds⟩
    cases path with
    | here => exact .inl holds
    | @down depth _ middle _ child rest =>
      exact .inr ⟨middle, child, depth, lower, rest, by rwa [Place.deeper_below]⟩
  · rintro (holds | ⟨child, below, depth, lower, path, holds⟩)
    · exact ⟨0, node, .here node, holds⟩
    · exact ⟨depth + 1, lower, .down below path, by rwa [← Place.deeper_below]⟩

/-- What a search from a node at a place may report: a node that a descent reaches and that
matches or, with ancestors asked for, has a match below it. -/
def Reported (store : Store α) (version : Version) (predicate : α → Place → Bool)
    (place : Place) (node : Node) (found : Found) : Prop :=
  ∃ depth, Descent (store.children version) depth node found.node ∧
    found.level = place.level + depth ∧
    (Matches store version predicate (place.below depth) found.node ∨
      place.includeParents = true ∧ ∃ child ∈ store.children version found.node,
        MatchBelow store version predicate (place.below (depth + 1)) child)

/-- A report is the start itself or is made below one of its children. -/
theorem reported_iff (store : Store α) (version : Version) (predicate : α → Place → Bool)
    (place : Place) (node : Node) (found : Found) :
    Reported store version predicate place node found ↔
      (found = ⟨place.level, node⟩ ∧
        (Matches store version predicate place node ∨
          place.includeParents = true ∧ ∃ child ∈ store.children version node,
            MatchBelow store version predicate place.deeper child)) ∨
      ∃ child ∈ store.children version node,
        Reported store version predicate place.deeper child found := by
  constructor
  · rintro ⟨depth, path, level, reason⟩
    cases depth with
    | zero =>
      obtain rfl := path.of_zero
      exact .inl ⟨by cases found; simp_all, reason⟩
    | succ depth =>
      obtain ⟨child, below, rest⟩ := path.of_succ
      refine .inr ⟨child, below, depth, rest, ?_, ?_⟩
      · simp only [Place.deeper]
        omega
      · simpa only [Place.deeper_below, Place.deeper_include_parents] using reason
  · rintro (⟨rfl, reason⟩ | ⟨child, below, depth, path, level, reason⟩)
    · exact ⟨0, .here node, rfl, reason⟩
    · refine ⟨depth + 1, .down below path, ?_, ?_⟩
      · simp only [Place.deeper] at level
        omega
      · simpa only [Place.deeper_below, Place.deeper_include_parents] using reason

theorem search_node_zero (store : Store α) (version : Version)
    (predicate : α → Place → Bool) (place : Place) (node : Node) :
    searchNode store.reads version predicate 0 place node =
      (let matched := holdsAt predicate place (store.data? version node)
       (matched, if matched then [⟨place.level, node⟩] else [])) := rfl

/-- What a node makes of the answers of its children. -/
def gathered (matched : Bool) (place : Place) (node : Node)
    (answers : List (Bool × List Found)) : Bool × List Found :=
  let below := answers.any (·.1)
  (matched || below, (if matched then [⟨place.level, node⟩] else []) ++ answers.flatMap (·.2) ++
    if below && place.includeParents then [⟨place.level, node⟩] else [])

theorem search_node_succ (store : Store α) (version : Version)
    (predicate : α → Place → Bool) (bound : Nat) (place : Place) (node : Node) :
    searchNode store.reads version predicate (bound + 1) place node =
      gathered (holdsAt predicate place (store.data? version node)) place node
        ((store.children version node).map
          (searchNode store.reads version predicate bound place.deeper)) := by
  have mapped : (store.children version node).mapM
      (searchNode store.reads version predicate bound place.deeper) =
      (store.children version node).map
        (searchNode store.reads version predicate bound place.deeper) :=
    List.idRun_mapM
  rw [← mapped]
  rfl

/-- A search whose bound is not exceeded says whether there is a match, and reports exactly
what may be reported.

Proof: induction over the bound. Without room for a step there are no children, so only the
start counts. Otherwise the answers of the children are taken together. -/
theorem search_node_exact (store : Store α) (version : Version)
    (predicate : α → Place → Bool) (bound : Nat) (place : Place) (node : Node)
    (room : ∀ depth lower, Descent (store.children version) depth node lower → depth ≤ bound) :
    ((searchNode store.reads version predicate bound place node).1 = true ↔
      MatchBelow store version predicate place node) ∧
    ∀ found, found ∈ (searchNode store.reads version predicate bound place node).2 ↔
      Reported store version predicate place node found := by
  induction bound generalizing place node with
  | zero =>
    have childless : ∀ child, child ∉ store.children version node := by
      intro child below
      exact absurd (room 1 child (.down below (.here child))) (by decide)
    rw [search_node_zero]
    constructor
    · rw [match_below_iff]
      simp [Matches, childless]
    · intro found
      rw [reported_iff]
      by_cases matched : holdsAt predicate place (store.data? version node) = true
      · simp [Matches, childless, matched]
      · simp [Matches, childless, matched]
  | succ bound ih =>
    have under : ∀ child ∈ store.children version node, ∀ depth lower,
        Descent (store.children version) depth child lower → depth ≤ bound := by
      intro child below depth lower path
      exact Nat.le_of_succ_le_succ (room (depth + 1) lower (.down below path))
    have answered : (((store.children version node).map
        (searchNode store.reads version predicate bound place.deeper)).any (·.1)) = true ↔
        ∃ child ∈ store.children version node,
          MatchBelow store version predicate place.deeper child := by
      simp only [List.any_map, List.any_eq_true, Function.comp_apply]
      constructor
      · rintro ⟨child, below, found⟩
        exact ⟨child, below, (ih place.deeper child (under child below)).1.mp found⟩
      · rintro ⟨child, below, found⟩
        exact ⟨child, below, (ih place.deeper child (under child below)).1.mpr found⟩
    have collected (found : Found) : (found ∈ ((store.children version node).map
        (searchNode store.reads version predicate bound place.deeper)).flatMap (·.2)) ↔
        ∃ child ∈ store.children version node,
          Reported store version predicate place.deeper child found := by
      simp only [List.mem_flatMap, List.mem_map]
      constructor
      · rintro ⟨_, ⟨child, below, rfl⟩, member⟩
        exact ⟨child, below, ((ih place.deeper child (under child below)).2 found).mp member⟩
      · rintro ⟨child, below, report⟩
        exact ⟨_, ⟨child, below, rfl⟩,
          ((ih place.deeper child (under child below)).2 found).mpr report⟩
    rw [search_node_succ]
    constructor
    · rw [match_below_iff, ← answered]
      simp [Matches, gathered]
    · intro found
      rw [reported_iff, ← answered, ← collected]
      simp only [Matches, gathered, List.mem_append]
      by_cases matched : holdsAt predicate place (store.data? version node) = true
      · simp only [matched, if_true, List.mem_singleton]
        grind
      · simp only [matched]
        grind

/-! ## Looking for a key -/

/-- The first node at or below another one that has a key, up to the case of letters. -/
def found? (store : Store α) (version : Version) (key : String) (bound : Nat) (node : Node) :
    Option Node :=
  (findNode store.reads version key bound node).run

theorem found_zero (store : Store α) (version : Version) (key : String) (node : Node) :
    found? store version key 0 node = if node.matches key then some node else none := by
  by_cases fits : node.matches key = true
  · simp [found?, findNode, fits]
  · simp [found?, findNode, fits]

theorem found_succ (store : Store α) (version : Version) (key : String) (bound : Nat)
    (node : Node) :
    found? store version key (bound + 1) node =
      if node.matches key then some node
      else (store.children version node).findSome? (found? store version key bound) := by
  have searched : ((store.children version node).findSomeM?
      (findNode store.reads version key bound)).run =
      (store.children version node).findSome? (found? store version key bound) :=
    congrArg Id.run (List.findSomeM?_pure (f := found? store version key bound))
  by_cases fits : node.matches key = true
  · simp [found?, findNode, fits]
  · rw [if_neg fits, ← searched]
    simp only [found?, findNode, fits]
    rfl

/-- The node that is found has the key, and a descent reaches it. -/
theorem found_sound {store : Store α} {version : Version} {key : String} {bound : Nat}
    {node lower : Node} (result : found? store version key bound node = some lower) :
    lower.matches key = true ∧ ∃ depth, Descent (store.children version) depth node lower := by
  induction bound generalizing node with
  | zero =>
    by_cases fits : node.matches key = true
    · obtain rfl : node = lower := by simpa [found_zero, fits] using result
      exact ⟨fits, 0, .here node⟩
    · simp [found_zero, fits] at result
  | succ bound ih =>
    rw [found_succ] at result
    by_cases fits : node.matches key = true
    · obtain rfl : node = lower := by simpa [fits] using result
      exact ⟨fits, 0, .here node⟩
    · rw [if_neg fits] at result
      obtain ⟨child, below, later⟩ := List.exists_of_findSome?_eq_some result
      obtain ⟨matched, depth, path⟩ := ih later
      exact ⟨matched, depth + 1, .down below path⟩

/-- A node is found when a descent within the bound reaches one that has the key. -/
theorem found_complete {store : Store α} {version : Version} {key : String} {bound depth : Nat}
    {node lower : Node} (path : Descent (store.children version) depth node lower)
    (room : depth ≤ bound) (fits : lower.matches key = true) :
    ∃ result, found? store version key bound node = some result := by
  induction bound generalizing depth node with
  | zero =>
    obtain rfl : depth = 0 := Nat.le_zero.mp room
    obtain rfl := path.of_zero
    exact ⟨node, by simp [found_zero, fits]⟩
  | succ bound ih =>
    rw [found_succ]
    by_cases here : node.matches key = true
    · exact ⟨node, if_pos here⟩
    · rw [if_neg here]
      cases path with
      | here => exact absurd fits here
      | @down depth _ middle _ child rest =>
        obtain ⟨result, later⟩ := ih rest (Nat.le_of_succ_le_succ room)
        have answered : ((store.children version node).findSome?
            (found? store version key bound)).isSome = true := by
          rw [List.findSome?_isSome_iff]
          exact ⟨middle, child, by rw [later]; rfl⟩
        exact Option.isSome_iff_exists.mp answered

end

/-! ## The order of results -/

namespace Found

theorem before_iff (left right : Found) :
    left.before right = true ↔
      left.level < right.level ∨ left.level = right.level ∧ left.node < right.node := by
  simp [before]

theorem before_irrefl (found : Found) : ¬ found.before found = true := by
  simp [before_iff]

theorem before_trans {first second third : Found} (left : first.before second = true)
    (right : second.before third = true) : first.before third = true := by
  rw [before_iff] at left right ⊢
  rcases left with left | ⟨level, left⟩ <;> rcases right with right | ⟨same, right⟩
  · exact .inl (left.trans right)
  · exact .inl (same ▸ left)
  · exact .inl (level ▸ right)
  · exact .inr ⟨level.trans same, lt_trans left right⟩

theorem before_total {left right : Found} (differ : left ≠ right)
    (later : ¬ left.before right = true) : right.before left = true := by
  rw [before_iff] at later ⊢
  push Not at later
  rcases Nat.lt_or_eq_of_le later.1 with lower | same
  · exact .inl lower
  · rcases lt_or_eq_of_le (later.2 same.symm) with lower | equal
    · exact .inr ⟨same, lower⟩
    · exact absurd (by cases left; cases right; simp_all) differ

theorem mem_insert (found other : Found) (results : List Found) :
    other ∈ found.insert results ↔ other = found ∨ other ∈ results := by
  fun_induction Found.insert found results with
  | case1 => simp
  | case2 => simp
  | case3 => simp_all
  | case4 next rest _ _ ih =>
    rw [List.mem_cons, List.mem_cons, ih]
    exact or_left_comm

/-- Inserting keeps strictly ordered results strictly ordered. -/
theorem insert_ordered (found : Found) (results : List Found)
    (ordered : results.Pairwise (·.before · = true)) :
    (found.insert results).Pairwise (·.before · = true) := by
  fun_induction Found.insert found results with
  | case1 => simp
  | case2 next rest earlier =>
    refine List.pairwise_cons.mpr ⟨?_, ordered⟩
    intro other member
    rcases List.mem_cons.mp member with rfl | later
    · exact earlier
    · exact before_trans earlier (List.rel_of_pairwise_cons ordered later)
  | case3 => exact ordered
  | case4 next rest later differ ih =>
    refine List.pairwise_cons.mpr ⟨?_, ih ordered.of_cons⟩
    intro other member
    rcases (mem_insert found other rest).mp member with rfl | later
    · exact before_total differ later
    · exact List.rel_of_pairwise_cons ordered later

theorem mem_ordered (results : List Found) (found : Found) :
    found ∈ ordered results ↔ found ∈ results := by
  induction results with
  | nil => simp [ordered]
  | cons first rest ih =>
    show found ∈ first.insert (ordered rest) ↔ _
    rw [mem_insert, ih, List.mem_cons]

theorem ordered_pairwise (results : List Found) :
    (ordered results).Pairwise (·.before · = true) := by
  induction results with
  | nil => simp [ordered]
  | cons first rest ih => exact insert_ordered first (ordered rest) ih

/-- Strictly ordered results with the same members are the same. -/
theorem eq_of_same_members {left right : List Found} (first : left.Pairwise (·.before · = true))
    (second : right.Pairwise (·.before · = true)) (same : ∀ found, found ∈ left ↔ found ∈ right) :
    left = right := by
  have distinct {results : List Found} (ordered : results.Pairwise (·.before · = true)) :
      results.Nodup := by
    refine ordered.imp ?_
    rintro one other earlier rfl
    exact before_irrefl one earlier
  have permuted : left.Perm right :=
    (List.perm_ext_iff_of_nodup (distinct first) (distinct second)).mpr same
  refine permuted.eq_of_pairwise ?_ first second
  intro one other _ _ earlier later
  exact absurd (before_trans earlier later) (before_irrefl one)

end Found

end TrustFederation.Tree
