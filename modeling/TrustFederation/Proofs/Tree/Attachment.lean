import TrustFederation.Proofs.Sharing.Program
import TrustFederation.Proofs.Tree.Preorder
import TrustFederation.Proofs.Tree.Versions
/-!
# Attaching a child

A child is attached below the first node, in the order of a walk from the root, that has the key of
its parent up to the case of letters. The child joins the children of this one node as the last of
them and gets its data, and nothing else in the store changes. When a version has no root, or no
node with this key, nothing changes at all.
-/
namespace TrustFederation.Tree

open Crawl (StatementStore)

/-- The first node in an order that has a key, up to the case of letters. -/
def FirstWithKey (key : String) (order : List Node) (node : Node) : Prop :=
  ∃ before after, order = before ++ node :: after ∧ Text.lowercase node = Text.lowercase key ∧
    ∀ earlier ∈ before, Text.lowercase earlier ≠ Text.lowercase key

/-- A node has a key up to the case of letters exactly if the two are the same in small letters. -/
theorem matches_iff_lowercase {node : Node} {key : String} :
    node.matches key = true ↔ Text.lowercase node = Text.lowercase key := by
  rw [Node.matches, Text.sameLowercase, beq_iff_eq]

theorem first_with_key_iff {key : String} {order : List Node} {node : Node} :
    FirstWithKey key order node ↔ order.find? (·.matches key) = some node := by
  rw [List.find?_eq_some_iff_append, matches_iff_lowercase]
  simp only [Bool.not_eq_true', ← Bool.not_eq_true, matches_iff_lowercase]
  constructor
  · rintro ⟨before, after, whole, fits, earlier⟩
    exact ⟨fits, before, after, whole, earlier⟩
  · rintro ⟨fits, before, after, whole, earlier⟩
    exact ⟨before, after, whole, fits, earlier⟩

namespace Store

section

variable {α : Type} {store after : Store α} {version : Version} {parent node : Node} {data : α}

/-- One store is the other one with a child attached to a parent in one version. Everything else,
in this version and in all others, is as it was. -/
structure Attached (store : Store α) (version : Version) (parent node : Node) (data : α)
    (after : Store α) : Prop where
  children : ∀ number upper, after.children number upper =
    store.children number upper ++ if number = version ∧ upper = parent then [node] else []
  data : ∀ number lower, after.data? number lower =
    if number = version ∧ lower = node then some data else store.data? number lower
  root : ∀ number, after.root? number = store.root? number
  versions : after.versions = store.versions
  current : after.current = store.current
  allocated : after.allocated = store.allocated
  retained : after.retained = store.retained

/-- Attaching a node and giving it data makes one version grow by this node. -/
theorem generation_attach (store : Store α) (version number : Version) (parent node : Node)
    (data : α) :
    ((store.append node parent version).setData node data version).generation? number =
      if number = version then (store.generation? number).map (·.graft parent node data)
      else store.generation? number := by
  rw [setData, generation_modify, append, generation_modify]
  split
  · rw [Option.map_map]
    rfl
  · rfl

/-- Attaching a node and giving it data changes nothing else. -/
theorem attached_of_rooted {root : Node} (rooted : store.root? version = some root) (parent : Node)
    (node : Node) (data : α) :
    store.Attached version parent node data
      ((store.append node parent version).setData node data version) := by
  obtain ⟨generation, held, -⟩ := held_of_root rooted
  have grown : ((store.append node parent version).setData node data version).generation? version =
      some (generation.graft parent node data) := by
    rw [generation_attach, if_pos rfl, held, Option.map_some]
  have other {number : Version} (differs : number ≠ version) :
      ((store.append node parent version).setData node data version).generation? number =
        store.generation? number := by
    rw [generation_attach, if_neg differs]
  constructor
  · intro number upper
    by_cases here : number = version
    · subst here
      rw [children_held grown, children_held held, children_graft]
      simp only [true_and, eq_comm]
    · rw [Store.children, other here, if_neg fun both => here both.1, List.append_nil,
        Store.children]
  · intro number lower
    by_cases here : number = version
    · subst here
      rw [data_held grown, data_held held, data_graft]
      simp only [true_and]
    · rw [data?, other here, if_neg fun both => here both.1, data?]
  · intro number
    by_cases here : number = version
    · subst here
      rw [root_held grown, root_held held, root_graft]
    · rw [root?, other here, root?]
  · rw [setData, versions_modify, append, versions_modify]
  all_goals rfl

/-- A version has a node, reached from its root, whose key is equal up to the case of letters. -/
def HasKey (store : Store α) (version : Version) (key : String) : Prop :=
  ∃ root, store.root? version = some root ∧ ∃ depth lower,
    Descent (store.children version) depth root lower ∧ Text.lowercase lower = Text.lowercase key

/-- In a version without cycles that has a root, a node is attached below the first node that has
the key of its parent, or no node has this key. -/
theorem Acyclic.add_child_cases (acyclic : store.Acyclic version) {root : Node}
    (rooted : store.root? version = some root) (node : Node) (key : String) (data : α) :
    ∃ order, Preorder (store.children version) [root] order ∧
      ((∃ found, FirstWithKey key order found ∧ store.addChild node key data version =
          .ok ((store.append node found version).setData node data version)) ∨
        (∀ lower ∈ order, Text.lowercase lower ≠ Text.lowercase key) ∧
          store.addChild node key data version =
            .error (.tree s!"Parent {key} not found in version {version}")) := by
  obtain ⟨order, walk, sought⟩ := acyclic.find_node_eq rooted key
  refine ⟨order, walk, ?_⟩
  cases first : order.find? (·.matches key) with
  | none =>
    refine .inr ⟨fun lower member fits => ?_, ?_⟩
    · exact List.find?_eq_none.mp first lower member (matches_iff_lowercase.mpr fits)
    · rw [addChild, rooted]
      simp only [sought, first]
  | some found =>
    refine .inl ⟨found, first_with_key_iff.mpr first, ?_⟩
    rw [addChild, rooted]
    simp only [sought, first]

theorem add_child_unrooted (rootless : store.root? version = none) (node : Node) (key : String)
    (data : α) : store.addChild node key data version =
      .error (.tree s!"Version {version} has no root") := by
  rw [addChild, rootless]

/-- Where a walk comes to a node with a key, a path leads to one, and the other way round. -/
theorem has_key_iff {root : Node} (rooted : store.root? version = some root) {order : List Node}
    (walk : Preorder (store.children version) [root] order) (key : String) :
    store.HasKey version key ↔ ∃ lower ∈ order, Text.lowercase lower = Text.lowercase key := by
  constructor
  · rintro ⟨start, first, depth, lower, path, fits⟩
    obtain rfl : root = start := Option.some.inj (rooted.symm.trans first)
    exact ⟨lower, (walk.mem_iff lower).mpr ⟨root, List.mem_singleton_self root, depth, path⟩, fits⟩
  · rintro ⟨lower, member, fits⟩
    obtain ⟨start, among, depth, path⟩ := (walk.mem_iff lower).mp member
    obtain rfl := List.mem_singleton.mp among
    exact ⟨start, rooted, depth, lower, path, fits⟩

end

/-- Attaching a child is all or nothing and touches one place. In a version without cycles it
succeeds exactly if a path leads from the root to a node with the key of the parent, up to the case
of letters. Then the child is the new last child of the first such node in the order of the walk, of
which there is only one, and has its data; all else is as it was. Otherwise the failure says what is
missing.

The second part is about the operations that do it, one after the other: they leave the store that
is answered, or the store as it was when they fail. -/
theorem add_child_exact :
    (∀ {α : Type} (store : Store α) (version : Version) (node : Node) (key : String) (data : α),
      store.Acyclic version →
      ((∃ after, store.addChild node key data version = .ok after) ↔ store.HasKey version key) ∧
      (∀ after, store.addChild node key data version = .ok after →
        ∃ root order found, store.root? version = some root ∧
          Preorder (store.children version) [root] order ∧ FirstWithKey key order found ∧
          store.Attached version found node data after) ∧
      ∀ failure, store.addChild node key data version = .error failure →
        (store.root? version = none ∧ failure = .tree s!"Version {version} has no root") ∨
        (∃ root, store.root? version = some root) ∧
          failure = .tree s!"Parent {key} not found in version {version}") ∧
    ∀ {σ : Type} (store : StatementStore) (world : σ) (version : Version) (node : Node)
      (key : String) (data : Statement),
      (∀ after, store.addChild node key data version = .ok after →
        Sharing.perform store world
            (Sharing.addChild (store.pathBound version) node key data version) =
          (.ok (), after, world)) ∧
      ∀ failure, store.addChild node key data version = .error failure →
        Sharing.perform store world
            (Sharing.addChild (store.pathBound version) node key data version) =
          (.error failure, store, world) := by
  refine ⟨fun {α} store version node key data acyclic => ?_,
    fun {σ} store world version node key data => ?_⟩
  · cases rooted : store.root? version with
    | none =>
      have failed := add_child_unrooted rooted node key data
      have keyless : ¬ store.HasKey version key := by
        rintro ⟨root, first, -⟩
        exact absurd (rooted.symm.trans first) (by simp)
      simp [failed, keyless, eq_comm]
    | some root =>
      obtain ⟨order, walk, ⟨found, first, attached⟩ | ⟨absent, failed⟩⟩ :=
        acyclic.add_child_cases rooted node key data
      · have keyed : store.HasKey version key := by
          obtain ⟨before, rest, rfl, fits, -⟩ := first
          exact (has_key_iff rooted walk key).mpr
            ⟨found, List.mem_append_right before List.mem_cons_self, fits⟩
        refine ⟨iff_of_true ⟨_, attached⟩ keyed, fun after done => ?_, fun failure failed => ?_⟩
        · obtain rfl := Except.ok.inj (attached.symm.trans done)
          exact ⟨root, order, found, rfl, walk, first, attached_of_rooted rooted found node data⟩
        · rw [attached] at failed
          cases failed
      · have keyless : ¬ store.HasKey version key := by
          rw [has_key_iff rooted walk]
          rintro ⟨lower, member, fits⟩
          exact absent lower member fits
        simp [failed, keyless, eq_comm]
  · constructor
    · intro after done
      rw [Sharing.perform_add_child, done]
    · intro failure failed
      rw [Sharing.perform_add_child, failed]

/-- The key of the parent stands in the version in two spellings, one of them under two parents. The
first one in the order of the walk gets the child, though the other one is written as the key is and
stands less deep. A key that no path leads to leaves the store as it was. -/
theorem add_child_exact_spellings :
    let data := Statement.blank
    let store : StatementStore := (Store.empty 1).applyAll [.create "r" data, .append "b" "r" 1,
      .append "Ä" "b" 1, .append "ä" "r" 1, .append "Ä" "r" 1, .append "x" "c" 1, .create "x" data]
    let after := (store.append "n" "Ä" 1).setData "n" data 1
    store.Acyclic 1 ∧ store.addChild "n" "ä" data 1 = .ok after ∧
      (∃ root order found, store.root? 1 = some root ∧
        Preorder (store.children 1) [root] order ∧ FirstWithKey "ä" order found ∧
        store.Attached 1 found "n" data after) ∧
      Sharing.perform store () (Sharing.addChild (store.pathBound 1) "n" "ä" data 1) =
        (.ok (), after, ()) ∧
      Sharing.perform store () (Sharing.addChild (store.pathBound 1) "n" "x" data 1) =
        (.error (.tree "Parent x not found in version 1"), store, ()) := by
  intro data store after
  have acyclic : store.Acyclic 1 :=
    acyclic_of_edges (fun node => ["r", "b", "c", "Ä", "ä", "x"].idxOf node) (by decide +kernel)
  have done : store.addChild "n" "ä" data 1 = .ok after := by decide +kernel
  have failed : store.addChild "n" "x" data 1 =
      .error (.tree "Parent x not found in version 1") := by decide +kernel
  exact ⟨acyclic, done, (add_child_exact.1 store 1 "n" "ä" data acyclic).2.1 after done,
    (add_child_exact.2 store () 1 "n" "ä" data).1 after done,
    (add_child_exact.2 store () 1 "n" "x" data).2 _ failed⟩

end Store

end TrustFederation.Tree
