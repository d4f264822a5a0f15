import Mathlib.Data.List.Induction
import TrustFederation.Proofs.Tree.Growth
import TrustFederation.Proofs.Tree.Window
/-!
# What a version reads back

A version that is held reads back what was written to it: its root is the one that it was made with,
the data of a node are those written last since then, and the children of a node are those attached
since then, in that order. So a version is the replay of the operations that name it. A version that
is not held reads back nothing, and what is written to it is lost.
-/
namespace TrustFederation.Tree

open Store (Op)

variable {α : Type}

/-- The child that an operation attaches to a node of a version. -/
def Store.Op.child? (version : Version) (parent : Node) : Op α → Option Node
  | .append child above number => if number = version ∧ above = parent then some child else none
  | _ => none

/-- The data that an operation gives to a node of a version. -/
def Store.Op.datum? (version : Version) (node : Node) : Op α → Option α
  | .setData other data number => if number = version ∧ other = node then some data else none
  | _ => none

namespace Generation

/-- What an operation makes of a version that is held. -/
def receive (version : Version) (generation : Generation α) : Op α → Generation α
  | .append child parent number =>
    if number = version then generation.append child parent else generation
  | .setData node data number =>
    if number = version then generation.setData node data else generation
  | _ => generation

/-- What operations make of a version that is held all along. -/
def replay (version : Version) (ops : List (Op α)) (generation : Generation α) : Generation α :=
  ops.foldl (receive version) generation

theorem receive_elsewhere {version : Version} {op : Op α} (elsewhere : ¬ op.Into version)
    (generation : Generation α) : generation.receive version op = generation := by
  cases op with
  | append child parent number => exact if_neg elsewhere
  | setData node data number => exact if_neg elsewhere
  | _ => rfl

theorem root_replay (version : Version) (ops : List (Op α)) (generation : Generation α) :
    (generation.replay version ops).root = generation.root := by
  induction ops generalizing generation with
  | nil => rfl
  | cons op rest ih =>
    refine (ih (generation.receive version op)).trans ?_
    cases op <;> simp only [receive] <;> split <;> rfl

theorem children_receive (version : Version) (op : Op α) (generation : Generation α)
    (parent : Node) :
    (generation.receive version op).children parent =
      generation.children parent ++ (op.child? version parent).toList := by
  cases op with
  | append child above number =>
    by_cases here : number = version
    · by_cases same : above = parent <;>
        simp [receive, Op.child?, here, same, children_append]
    · simp [receive, Op.child?, here]
  | setData node data number =>
    by_cases here : number = version <;> simp [receive, Op.child?, here, setData, children]
  | _ => simp [receive, Op.child?]

/-- The children are the ones attached, in that order. -/
theorem children_replay (version : Version) (ops : List (Op α)) (generation : Generation α)
    (parent : Node) :
    (generation.replay version ops).children parent =
      generation.children parent ++ ops.filterMap (Op.child? version parent) := by
  induction ops generalizing generation with
  | nil => simp [replay]
  | cons op rest ih =>
    refine (ih (generation.receive version op)).trans ?_
    rw [children_receive, List.append_assoc]
    cases attached : op.child? version parent <;> simp [attached]

theorem data_receive (version : Version) (op : Op α) (generation : Generation α) (node : Node) :
    (generation.receive version op).data? node =
      (op.datum? version node).or (generation.data? node) := by
  cases op with
  | append child parent number =>
    by_cases here : number = version <;> simp [receive, Op.datum?, here, append, data?]
  | setData other data number =>
    by_cases here : number = version
    · by_cases same : other = node
      · simp [receive, Op.datum?, here, same, data?_setData]
      · simp [receive, Op.datum?, here, same, Ne.symm same, data?_setData]
    · simp [receive, Op.datum?, here]
  | _ => simp [receive, Op.datum?]

/-- The data are those written last, or what was there before. -/
theorem data_replay (version : Version) (ops : List (Op α)) (generation : Generation α)
    (node : Node) :
    (generation.replay version ops).data? node =
      (ops.filterMap (Op.datum? version node)).getLast?.or (generation.data? node) := by
  induction ops generalizing generation with
  | nil => rfl
  | cons op rest ih =>
    refine (ih (generation.receive version op)).trans ?_
    rw [data_receive]
    cases written : op.datum? version node with
    | none => simp [written]
    | some data =>
      cases later : (rest.filterMap (Op.datum? version node)).getLast? <;>
        simp [written, later, List.getLast?_cons]

theorem replay_concat (version : Version) (ops : List (Op α)) (op : Op α)
    (generation : Generation α) :
    generation.replay version (ops ++ [op]) =
      (generation.replay version ops).receive version op :=
  List.foldl_concat ..

end Generation

namespace Store

/-- The version was made with a root and its data, and it reads back what some operations have
written to it. -/
structure ReadsBack (store : Store α) (version : Version) (root : Node) (data : α)
    (written : List (Op α)) : Prop where
  root_eq : store.root? version = some root
  data_eq (node : Node) : store.data? version node =
    (written.filterMap (Op.datum? version node)).getLast?.or
      (if node = root then some data else none)
  children_eq (parent : Node) : store.children version parent =
    written.filterMap (Op.child? version parent)

/-- After operations on an empty store, the version reads back what the operations since its
creation have written to it. -/
def Faithful (retained : Nat) (ops : List (Op α)) (version : Version) : Prop :=
  ∃ before root data after, ops = before ++ .create root data :: after ∧
    ((empty retained).applyAll before).answer? (.create root data) = some version ∧
    ((empty retained).applyAll ops).ReadsBack version root data after

theorem apply_all_concat (store : Store α) (ops : List (Op α)) (op : Op α) :
    store.applyAll (ops ++ [op]) = (store.applyAll ops).apply op :=
  List.foldl_concat ..

section

variable {store : Store α} {version : Version} {generation : Generation α}

theorem reads_back_of_replay {root : Node} {data : α} {ops : List (Op α)}
    (replayed : store.generation? version =
      some ((Generation.ofRoot root data).replay version ops)) :
    store.ReadsBack version root data ops where
  root_eq := by
    rw [root?, replayed, Option.map_some, Generation.root_replay]
    rfl
  data_eq node := by
    rw [data?, replayed, Option.bind_some, Generation.data_replay, data_of_root]
  children_eq parent := by
    simp only [children, replayed, Generation.children_replay, children_of_root, List.nil_append]

/-- A version that stays held is what the operation makes of it. -/
theorem generation_apply_receive (windowed : store.Windowed)
    (held : store.generation? version = some generation) (op : Op α)
    (still : version ∈ (store.apply op).versions) :
    (store.apply op).generation? version = some (generation.receive version op) := by
  have known : version ≤ store.allocated :=
    windowed.numbered.held version (mem_versions_of_generation held)
  by_cases into : op.Into version
  · cases op with
    | append child parent number =>
      obtain rfl := into
      refine (generation_modify store _ _ _).trans ?_
      simp [held, Generation.receive]
    | setData node data number =>
      obtain rfl := into
      refine (generation_modify store _ _ _).trans ?_
      simp [held, Generation.receive]
    | _ => exact absurd into not_false
  · rw [Generation.receive_elsewhere into]
    rcases generation_apply_other windowed.numbered known op into with same | collected
    · exact same.trans held
    · exact absurd still ((generation_none_iff _ _).mp collected)

/-- A version that is newly held has just been made. -/
theorem made_of_held (windowed : store.Windowed) {op : Op α}
    (held : version ∈ (store.apply op).versions) (absent : version ∉ store.versions) :
    ∃ root data, op = .create root data ∧ version = store.allocated + 1 := by
  have newer : store.allocated < version := by
    by_contra known
    have gone := (store.generation_none_iff version).mpr absent
    have still := generation_apply_none windowed.numbered (Nat.le_of_not_lt known) gone op
    exact ((store.apply op).generation_none_iff version).mp still held
  have bound := ((windowed.apply op).mem_versions_iff version).mp held |>.2
  rw [allocated_apply_eq] at bound
  cases op with
  | create root data => exact ⟨root, data, rfl, Nat.le_antisymm bound newer⟩
  | _ => exact absurd newer (Nat.not_lt.mpr bound)

/-- A write to a version that is not held changes nothing at all. -/
theorem write_lost (absent : version ∉ store.versions) {op : Op α} (into : op.Into version) :
    store.apply op = store := by
  have untouched (change : Generation α → Generation α) : store.modify version change = store := by
    have same (entry : Version × Generation α) (inside : entry ∈ store.generations) :
        (entry.1, if entry.1 = version then change entry.2 else entry.2) = entry := by
      have differs : entry.1 ≠ version := fun here =>
        absent (here ▸ List.mem_map.mpr ⟨entry, inside, rfl⟩)
      rw [if_neg differs]
    rw [modify, List.map_congr_left same, List.map_id']
  cases op with
  | append child parent number =>
    obtain rfl := into
    exact untouched _
  | setData node data number =>
    obtain rfl := into
    exact untouched _
  | _ => exact absurd into not_false

end

/-- Every version that is held is the replay of the operations since its creation.

Proof: induction over the operations, by the last one. A version that was held before it is what it
makes of it, and any other version that is held has been made by it. -/
theorem replay_of_held (retained : Nat) (ops : List (Op α)) {version : Version}
    (held : version ∈ ((empty retained).applyAll ops).versions) :
    ∃ before root data after, ops = before ++ .create root data :: after ∧
      ((empty retained).applyAll before).answer? (.create root data) = some version ∧
      ((empty retained).applyAll ops).generation? version =
        some ((Generation.ofRoot root data).replay version after) := by
  induction ops using List.reverseRecOn with
  | nil => exact absurd held List.not_mem_nil
  | append_singleton ops op ih =>
    have windowed := (windowed_empty (α := α) retained).apply_all ops
    rw [apply_all_concat] at held ⊢
    by_cases earlier : version ∈ ((empty retained).applyAll ops).versions
    · obtain ⟨before, root, data, after, rfl, made, replayed⟩ := ih earlier
      refine ⟨before, root, data, after ++ [op], by simp, made, ?_⟩
      rw [Generation.replay_concat]
      exact generation_apply_receive windowed replayed op held
    · obtain ⟨root, data, rfl, rfl⟩ := made_of_held windowed held earlier
      refine ⟨ops, root, data, [], rfl, rfl, ?_⟩
      exact (generation_create windowed.numbered root data _).trans (if_pos rfl)

theorem faithful_of_held (retained : Nat) (ops : List (Op α)) {version : Version}
    (held : version ∈ ((empty retained).applyAll ops).versions) :
    Faithful retained ops version := by
  obtain ⟨before, root, data, after, split, made, replayed⟩ := replay_of_held retained ops held
  exact ⟨before, root, data, after, split, made, reads_back_of_replay replayed⟩

theorem held_of_faithful {retained : Nat} {ops : List (Op α)} {version : Version}
    (faithful : Faithful retained ops version) :
    version ∈ ((empty retained).applyAll ops).versions := by
  obtain ⟨_, _, _, _, _, _, reads⟩ := faithful
  have rooted := reads.root_eq
  rw [← generation_is_some_iff, ← Option.isSome_map (f := Generation.root)]
  exact Option.isSome_of_eq_some rooted

/-- While a version is held it reads back exactly what the operations since its creation have written
to it, and an operation that does not write to it leaves it as it is as long as it stays held. While a
version is not held all its reads are empty and a write to it changes nothing at all. A version that
has been collected is never held again. -/
theorem versions_replay_writes (retained : Nat) (ops : List (Op α)) (version : Version) :
    let store := (empty retained).applyAll ops
    (version ∈ store.versions →
      Faithful retained ops version ∧
      ∀ op, ¬ op.Into version → version ∈ (store.apply op).versions →
        (store.apply op).root? version = store.root? version ∧
        (∀ node, (store.apply op).data? version node = store.data? version node) ∧
        ∀ parent, (store.apply op).children version parent = store.children version parent) ∧
    (version ∉ store.versions →
      store.root? version = none ∧ (∀ node, store.data? version node = none) ∧
      (∀ parent, store.children version parent = []) ∧
      ∀ op, op.Into version → store.apply op = store) ∧
    (version ∉ store.versions → version ≤ store.allocated →
      ∀ more, version ∉ (store.applyAll more).versions) := by
  intro store
  have windowed : store.Windowed := (windowed_empty retained).apply_all ops
  refine ⟨fun held => ⟨faithful_of_held retained ops held, ?_⟩, fun absent => ?_,
    fun absent known more held => ?_⟩
  · intro op elsewhere still
    have same : (store.apply op).generation? version = store.generation? version := by
      obtain ⟨generation, found⟩ :=
        Option.isSome_iff_exists.mp ((store.generation_is_some_iff version).mpr held)
      rw [generation_apply_receive windowed found op still, found,
        Generation.receive_elsewhere elsewhere]
    simp [root?, data?, children, same]
  · have gone := (store.generation_none_iff version).mpr absent
    exact ⟨by simp [root?, gone], by simp [data?, gone], by simp [children, gone],
      fun op into => write_lost absent into⟩
  · have knows : store.Knows version := ⟨windowed.numbered, known⟩
    have gone := knows.gone ((store.generation_none_iff version).mpr absent) more
    exact (generation_none_iff _ version).mp gone held

/-- Two versions with one root key are filled side by side, and the publication of the second one
collects the first one. The second one reads back its own writes, the writes to the first one before
its creation and after its collection are lost. -/
theorem versions_replay_writes_side_by_side :
    let ops : List (Op String) := [.append "early" "r" 1, .create "r" "first", .append "a" "r" 1,
      .setData "a" "one" 1, .create "r" "second", .append "a" "r" 2, .setData "a" "two" 2,
      .append "b" "r" 2, .setData "r" "new" 2, .setData "a" "late" 1, .publish 2]
    let store := (empty 1).applyAll ops
    2 ∈ store.versions ∧ Faithful 1 ops 2 ∧ 1 ∉ store.versions ∧
      (∀ node, store.data? 1 node = none) ∧ store.apply (.append "c" "r" 1) = store ∧
      (∀ more, 1 ∉ (store.applyAll more).versions) ∧ store.children 2 "r" = ["a", "b"] ∧
      store.data? 2 "a" = some "two" ∧ store.data? 2 "r" = some "new" := by
  intro ops store
  have held : 2 ∈ store.versions := by decide +kernel
  have collected : 1 ∉ store.versions := by decide +kernel
  have second := versions_replay_writes 1 ops 2
  have first := versions_replay_writes 1 ops 1
  refine ⟨held, (second.1 held).1, collected, (first.2.1 collected).2.1,
    (first.2.1 collected).2.2.2 (.append "c" "r" 1) rfl, first.2.2 collected (by decide +kernel),
    ?_, ?_, ?_⟩ <;> decide +kernel

end Store

end TrustFederation.Tree
