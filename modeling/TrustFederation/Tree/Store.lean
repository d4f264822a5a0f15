import TrustFederation.Tree.NodeKey
/-!
# Versions of the tree

The store holds several versions of a tree side by side. A version is allocated with its
root, filled node by node, and published; the published version only moves forward, and old
versions are collected when it does. Every read and write names a version; reads of a
version that is not held are empty, and writes to it have no effect.
-/
namespace TrustFederation.Tree

/-- The number of a version. Versions are numbered from 1; 0 is published before any. -/
abbrev Version := Nat

/-- One version: its root, the attached nodes and the data in the order of writing. -/
structure Generation (α : Type) where
  root : Node
  /-- Pairs of a parent and a child, oldest first. -/
  edges : List (Node × Node)
  /-- Nodes with their data, newest first. -/
  entries : List (Node × α)
deriving DecidableEq

namespace Generation

variable {α : Type}

/-- A version that holds its root only. -/
def ofRoot (root : Node) (data : α) : Generation α := ⟨root, [], [(root, data)]⟩

/-- The children of a node in the order of attachment. -/
def children (generation : Generation α) (parent : Node) : List Node :=
  (generation.edges.filter (·.1 == parent)).map (·.2)

/-- The data of a node. -/
def data? (generation : Generation α) (node : Node) : Option α :=
  generation.entries.lookup node

/-- Attaches a child as the last one of its parent. -/
def append (child parent : Node) (generation : Generation α) : Generation α :=
  { generation with edges := generation.edges ++ [(parent, child)] }

/-- Gives data to a node. -/
def setData (node : Node) (data : α) (generation : Generation α) : Generation α :=
  { generation with entries := (node, data) :: generation.entries }

theorem children_append (child parent node : Node) (generation : Generation α) :
    (generation.append child parent).children node =
      generation.children node ++ if parent = node then [child] else [] := by
  by_cases same : parent = node <;> simp [children, append, List.filter_append, same]

theorem data?_setData (node other : Node) (data : α) (generation : Generation α) :
    (generation.setData node data).data? other =
      if other = node then some data else generation.data? other := by
  by_cases same : other = node
  · subst same
    simp [data?, setData]
  · simp [data?, setData, List.lookup_cons, same, beq_eq_false_iff_ne.2 same]

end Generation

/-- The versions held, in ascending order, with the published and the last allocated one. -/
structure Store (α : Type) where
  generations : List (Version × Generation α)
  current : Version
  allocated : Version
  retained : Nat
deriving DecidableEq

namespace Store

variable {α : Type}

/-- An empty store that keeps the newest `retained` published versions, at least one. -/
def empty (retained : Nat) : Store α := ⟨[], 0, 0, max retained 1⟩

/-- The versions held. -/
def versions (store : Store α) : List Version := store.generations.map (·.1)

/-- The version of a number, if it is held. -/
def generation? (store : Store α) (version : Version) : Option (Generation α) :=
  store.generations.lookup version

/-- The root of a version. -/
def root? (store : Store α) (version : Version) : Option Node :=
  (store.generation? version).map (·.root)

/-- The children of a node in a version. -/
def children (store : Store α) (version : Version) (parent : Node) : List Node :=
  match store.generation? version with
  | some generation => generation.children parent
  | none => []

/-- The data of a node in a version. -/
def data? (store : Store α) (version : Version) (node : Node) : Option α :=
  (store.generation? version).bind (·.data? node)

/-- Changes one version, if it is held. -/
def modify (store : Store α) (version : Version) (change : Generation α → Generation α) :
    Store α :=
  { store with
    generations := store.generations.map fun (number, generation) =>
      (number, if number = version then change generation else generation) }

/-- Attaches a child to a node of a version. -/
def append (store : Store α) (child parent : Node) (version : Version) : Store α :=
  store.modify version (Generation.append child parent)

/-- Gives data to a node of a version. -/
def setData (store : Store α) (node : Node) (data : α) (version : Version) : Store α :=
  store.modify version (Generation.setData node data)

/-- Allocates a version with its root. The new version is the last allocated one then. -/
def create (store : Store α) (root : Node) (data : α) : Store α :=
  { store with
    generations := store.generations ++ [(store.allocated + 1, .ofRoot root data)]
    allocated := store.allocated + 1 }

/-- Publishes a version that is held and newer than the published one, and collects the
versions that are too old then. Any other version changes nothing. -/
def publish (store : Store α) (version : Version) : Store α :=
  if store.current < version ∧ (store.generation? version).isSome then
    { store with
      current := version
      generations := store.generations.filter fun (number, _) =>
        version - (store.retained - 1) ≤ number }
  else store

/-- Publishes the version after the published one. -/
def publishNext (store : Store α) : Store α := store.publish (store.current + 1)

/-- The operations that change a store. -/
inductive Op (α : Type) where
  | create (root : Node) (data : α)
  | append (child parent : Node) (version : Version)
  | setData (node : Node) (data : α) (version : Version)
  | publish (version : Version)
  | publishNext
deriving DecidableEq

/-- The store after an operation. -/
def apply (store : Store α) : Op α → Store α
  | .create root data => store.create root data
  | .append child parent version => store.append child parent version
  | .setData node data version => store.setData node data version
  | .publish version => store.publish version
  | .publishNext => store.publishNext

/-- The store after several operations. -/
def applyAll (store : Store α) (ops : List (Op α)) : Store α := ops.foldl apply store

/-- What a publication answers: the version named, or the published one if the version named
is not newer or not held. -/
def publishAnswer (store : Store α) (version : Version) : Version :=
  if version ≤ store.current then store.current
  else if (store.generation? version).isNone then store.current
  else version

/-- The version that an operation answers, if it answers one. Writes answer nothing. -/
def answer? (store : Store α) : Op α → Option Version
  | .create _ _ => some (store.allocated + 1)
  | .publish version => some (store.publishAnswer version)
  | .publishNext => some (store.publishAnswer (store.current + 1))
  | .append _ _ _ | .setData _ _ _ => none

end Store

end TrustFederation.Tree
