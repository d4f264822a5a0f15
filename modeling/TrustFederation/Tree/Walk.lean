import TrustFederation.Tree.Store
/-!
# Walks over a version

A walk starts at the root of a version and follows the children of each node in their
order. It reads the store as it goes, one read after the other, and other operations may
change the store between two reads; so a walk is written over any way of reading. `bound`
limits the length of the paths that a walk follows. In a tree no path is longer than the
number of its edges, so this number is bound enough.
-/
namespace TrustFederation.Tree

/-- The ways of reading a store. -/
structure Reads (m : Type → Type) (α : Type) where
  current : m Version
  root : Version → m (Option Node)
  children : Version → Node → m (List Node)
  data : Version → Node → m (Option α)

/-- Reading a store that does not change. -/
def Store.reads {α : Type} (store : Store α) : Reads Id α where
  current := store.current
  root := store.root?
  children := store.children
  data := store.data?

/-- What a predicate sees of a node besides its data: how deep it stands, and whether the
ancestors of matches are asked for. -/
structure Place where
  level : Nat
  includeParents : Bool
deriving DecidableEq

/-- The place one level deeper. -/
def Place.deeper (place : Place) : Place := { place with level := place.level + 1 }

/-- A node that a search found, and the level at which it was found. -/
structure Found where
  level : Nat
  node : Node
deriving DecidableEq

/-- The order of results: by level, then by key. -/
def Found.before (left right : Found) : Bool :=
  left.level < right.level || (left.level == right.level && left.node < right.node)

/-- Results with one more, in order and each one once. -/
def Found.insert (found : Found) : List Found → List Found
  | [] => [found]
  | other :: rest =>
    if found.before other then found :: other :: rest
    else if found = other then other :: rest
    else other :: Found.insert found rest

/-- Results in order, each one once. -/
def Found.ordered (results : List Found) : List Found :=
  results.foldr Found.insert []

section

variable {m : Type → Type} [Monad m] {α : Type}

/-- The predicate holds for a node with data. -/
def holdsAt (predicate : α → Place → Bool) (place : Place) : Option α → Bool
  | some data => predicate data place
  | none => false

/-- The results at and below a node, and whether the node or one below it matches. With
ancestors asked for, a node above a match is a result too. -/
def searchNode (reads : Reads m α) (version : Version) (predicate : α → Place → Bool) :
    Nat → Place → Node → m (Bool × List Found)
  | 0, place, node => do
    let matched := holdsAt predicate place (← reads.data version node)
    return (matched, if matched then [⟨place.level, node⟩] else [])
  | bound + 1, place, node => do
    let matched := holdsAt predicate place (← reads.data version node)
    let own := if matched then [⟨place.level, node⟩] else []
    let children ← reads.children version node
    let answers ← children.mapM (searchNode reads version predicate bound place.deeper)
    let below := answers.any (·.1)
    let above := if below && place.includeParents then [⟨place.level, node⟩] else []
    return (matched || below, own ++ answers.flatMap (·.2) ++ above)

/-- Searches a version from its root. The results are in order. -/
def search (reads : Reads m α) (version : Version) (bound : Nat)
    (predicate : α → Place → Bool) (includeParents : Bool) : m (List Found) := do
  match ← reads.root version with
  | none => return []
  | some root =>
    let (_, results) ← searchNode reads version predicate bound ⟨0, includeParents⟩ root
    return Found.ordered results

/-- The pairs of a parent and a child below a node, in the order of the walk. Nothing below
a node is visited for which the predicate does not hold. -/
def visitNode (reads : Reads m α) (version : Version) (predicate : α → Place → Bool) :
    Nat → Place → Node → m (List (Node × Node))
  | 0, _, _ => return []
  | bound + 1, place, node => do
    if holdsAt predicate place (← reads.data version node) then
      let children ← reads.children version node
      let visits ← children.mapM fun child => do
        let below ← visitNode reads version predicate bound place.deeper child
        return (node, child) :: below
      return visits.flatten
    else return []

/-- Visits a version from its root. -/
def visit (reads : Reads m α) (version : Version) (bound : Nat)
    (predicate : α → Place → Bool) : m (List (Node × Node)) := do
  match ← reads.root version with
  | none => return []
  | some root => visitNode reads version predicate bound ⟨0, false⟩ root

/-- The nodes at and below a node with their levels, each before the ones below it. -/
def outlineNode (reads : Reads m α) (version : Version) : Nat → Nat → Node → m (List Found)
  | 0, level, node => return [⟨level, node⟩]
  | bound + 1, level, node => do
    let children ← reads.children version node
    let below ← children.mapM (outlineNode reads version bound (level + 1))
    return ⟨level, node⟩ :: below.flatten

/-- The first node at or below a node whose key is equal up to the case of letters. -/
def findNode (reads : Reads m α) (version : Version) (key : String) :
    Nat → Node → m (Option Node)
  | 0, node => return if node.matches key then some node else none
  | bound + 1, node => do
    if node.matches key then return some node
    else
      let children ← reads.children version node
      children.findSomeM? (findNode reads version key bound)

end

namespace Store

variable {α : Type}

/-- A bound on the length of the paths of a version that is a tree. -/
def pathBound (store : Store α) (version : Version) : Nat :=
  match store.generation? version with
  | some generation => generation.edges.length
  | none => 0

/-- The results of a search in a version of the store. -/
def search (store : Store α) (version : Version) (predicate : α → Place → Bool)
    (includeParents : Bool) : List Found :=
  Tree.search store.reads version (store.pathBound version) predicate includeParents

/-- The pairs of a parent and a child that a walk over a version visits. -/
def visit (store : Store α) (version : Version) (predicate : α → Place → Bool) :
    List (Node × Node) :=
  Tree.visit store.reads version (store.pathBound version) predicate

/-- The nodes of a version with their levels, each before the ones below it. -/
def outline (store : Store α) (version : Version) : List Found :=
  match store.root? version with
  | some root => outlineNode store.reads version (store.pathBound version) 0 root
  | none => []

/-- The first node of a version, below its root, whose key is equal up to the case of
letters. -/
def findNode (store : Store α) (version : Version) (root : Node) (key : String) : Option Node :=
  Tree.findNode store.reads version key (store.pathBound version) root

/-- Attaches a node with its data under the first node that has the key of its parent, up
to the case of letters. -/
def addChild (store : Store α) (node : Node) (parent : String) (data : α) (version : Version) :
    Except Failure (Store α) :=
  match store.root? version with
  | none => .error (.tree s!"Version {version} has no root")
  | some root =>
    match store.findNode version root parent with
    | none => .error (.tree s!"Parent {parent} not found in version {version}")
    | some found => .ok ((store.append node found version).setData node data version)

end Store

end TrustFederation.Tree
