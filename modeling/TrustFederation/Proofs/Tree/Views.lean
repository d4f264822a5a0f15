import TrustFederation.Proofs.Tree.Trail
import TrustFederation.Proofs.Tree.Versions
/-!
# Walks over a store that changes

A walk reads the store one read after the other, and others may change the store between two reads.
Here the operations that follow each read are given, and they may be any as long as none writes to
the version that is walked over. Then this version stays as it is until a publication collects it,
and is never held again. So a walk that ends while the version is held finds what it finds in a
store that does not change, and data that are read one after the other are those of the version up
to some point and nothing from there on.
-/
namespace TrustFederation.Tree

variable {α β γ : Type}

/-- The store at each read, when the given operations follow the read of a number. -/
def Store.views (store : Store α) (between : Nat → List (Store.Op α)) : Nat → Store α
  | 0 => store
  | read + 1 => (store.views between read).applyAll (between read)

/-- One read of what is in view, which is counted. -/
def look (views : Nat → Store α) (view : Store α → β) : StateM Nat β :=
  fun reads => (view (views reads), reads + 1)

/-- Reading a store that changes from one read to the next. -/
def viewing (views : Nat → Store α) : Reads (StateM Nat) α where
  current := look views (·.current)
  root version := look views (·.root? version)
  children version node := look views (·.children version node)
  data version node := look views (·.data? version node)

/-! ## A version to which nothing writes -/

namespace Store

variable {store : Store α} {version : Version} {between : Nat → List (Op α)}

theorem Knows.views (knows : store.Knows version) (between : Nat → List (Op α)) (read : Nat) :
    (store.views between read).Knows version := by
  induction read with
  | zero => exact knows
  | succ read ih => exact ih.apply_all (between read)

/-- No operation between the reads writes to the version. -/
def Spares (between : Nat → List (Op α)) (version : Version) : Prop :=
  ∀ read, ∀ op ∈ between read, ¬ op.Into version

/-- What is held at some read has been held, and been the same, at every earlier one. -/
theorem Knows.held_before (knows : store.Knows version) (spares : Spares between version)
    {generation : Generation α} {earlier later : Nat} (order : earlier ≤ later)
    (held : (store.views between later).generation? version = some generation) :
    (store.views between earlier).generation? version = some generation := by
  induction later, order using Nat.le_induction with
  | base => exact held
  | succ later _ ih =>
    apply ih
    rcases (knows.views between later).spared (between later) (spares later) with same | gone
    · exact same.symm.trans held
    · exact absurd (gone.symm.trans held) (by simp)

/-- A version that was held at first is held as it was, or not at all. -/
theorem Knows.held_or_gone (knows : store.Knows version) (spares : Spares between version)
    {generation : Generation α} (held : store.generation? version = some generation) (read : Nat) :
    (store.views between read).generation? version = some generation ∨
      (store.views between read).generation? version = none := by
  cases found : (store.views between read).generation? version with
  | none => exact .inr rfl
  | some other =>
    have first := knows.held_before spares (Nat.zero_le read) found
    exact .inl (first.symm.trans held)

end Store

/-! ## Programs that count their reads -/

/-- The program never sets the count of reads back. -/
def Onward (program : StateM Nat β) : Prop := ∀ reads, reads ≤ (program reads).2

theorem onward_pure (value : β) : Onward (pure value) := fun reads => Nat.le_refl reads

theorem onward_look (views : Nat → Store α) (view : Store α → β) : Onward (look views view) :=
  fun reads => Nat.le_succ reads

theorem Onward.bind {program : StateM Nat β} {next : β → StateM Nat γ} (first : Onward program)
    (second : ∀ value, Onward (next value)) : Onward (program >>= next) := by
  intro reads
  exact (first reads).trans (second _ _)

theorem Onward.map_m {program : β → StateM Nat γ} (each : ∀ value, Onward (program value))
    (values : List β) : Onward (values.mapM program) := by
  induction values with
  | nil => exact onward_pure _
  | cons value rest ih =>
    rw [List.mapM_cons]
    exact (each value).bind fun _ => ih.bind fun _ => onward_pure _

theorem onward_data (views : Nat → Store α) (version : Version) (node : Node) :
    Onward ((viewing views).data version node) := onward_look views _

theorem onward_children (views : Nat → Store α) (version : Version) (node : Node) :
    Onward ((viewing views).children version node) := onward_look views _

/-- A search only goes on reading. -/
theorem onward_search_node (views : Nat → Store α) (version : Version)
    (predicate : α → Place → Bool) (bound : Nat) (place : Place) (node : Node) :
    Onward (searchNode (viewing views) version predicate bound place node) := by
  induction bound generalizing place node with
  | zero =>
    rw [searchNode]
    exact (onward_data views version node).bind fun _ => onward_pure _
  | succ bound ih =>
    rw [searchNode]
    refine (onward_data views version node).bind fun _ =>
      (onward_children views version node).bind fun children => ?_
    exact (Onward.map_m (ih place.deeper) children).bind fun _ => onward_pure _

section

variable {views : Nat → Store α} {version : Version} {generation : Generation α}

/-- The version is the same tree at all reads before one of a number. -/
def Through (views : Nat → Store α) (version : Version) (generation : Generation α)
    (reads : Nat) : Prop :=
  ∀ read < reads, (views read).generation? version = some generation

/-- A program gives the value if the version is held until its last read. -/
def Gives (views : Nat → Store α) (version : Version) (generation : Generation α)
    (program : StateM Nat β) (value : β) : Prop :=
  ∀ reads, Through views version generation (program reads).2 → (program reads).1 = value

theorem gives_pure (value : β) : Gives views version generation (pure value) value :=
  fun _ _ => rfl

/-- One read gives what the version, as it is held in any store, shows of itself. -/
theorem gives_look {view : Store α → β} {value : β}
    (shown : ∀ store : Store α, store.generation? version = some generation → view store = value) :
    Gives views version generation (look views view) value :=
  fun reads through => shown _ (through reads (Nat.lt_succ_self reads))

theorem Gives.bind {program : StateM Nat β} {next : β → StateM Nat γ} {value : β} {result : γ}
    (first : Gives views version generation program value) (onward : ∀ other, Onward (next other))
    (second : Gives views version generation (next value) result) :
    Gives views version generation (program >>= next) result := by
  intro reads through
  have until_then : (program reads).1 = value :=
    first reads fun read earlier => through read (Nat.lt_of_lt_of_le earlier (onward _ _))
  have goes_on : (program >>= next) reads = next value (program reads).2 := by
    rw [← until_then]
    rfl
  rw [goes_on] at through ⊢
  exact second _ through

theorem Gives.map_m {program : β → StateM Nat γ} {result : β → γ}
    (onward : ∀ value, Onward (program value))
    (each : ∀ value, Gives views version generation (program value) (result value))
    (values : List β) :
    Gives views version generation (values.mapM program) (values.map result) := by
  induction values with
  | nil => exact gives_pure []
  | cons value rest ih =>
    rw [List.mapM_cons]
    refine (each value).bind (fun _ => ?_) (ih.bind (fun _ => onward_pure _) (gives_pure _))
    exact (Onward.map_m onward rest).bind fun _ => onward_pure _

variable {store : Store α}

theorem gives_root (held : store.generation? version = some generation) :
    Gives views version generation ((viewing views).root version) (store.root? version) := by
  apply gives_look
  intro other also
  rw [Store.root_held also, Store.root_held held]

theorem gives_data (held : store.generation? version = some generation) (node : Node) :
    Gives views version generation ((viewing views).data version node)
      (store.data? version node) := by
  apply gives_look
  intro other also
  rw [Store.data_held also, Store.data_held held]

theorem gives_children (held : store.generation? version = some generation) (node : Node) :
    Gives views version generation ((viewing views).children version node)
      (store.children version node) := by
  apply gives_look
  intro other also
  rw [Store.children_held also, Store.children_held held]

/-- While the version is held, searching from a node gives what it gives in a store that does not
change.

Proof: induction over the bound. The data and the children are those of the version, so the search
goes on to the same nodes. -/
theorem gives_search_node (views : Nat → Store α)
    (held : store.generation? version = some generation)
    (predicate : α → Place → Bool) (bound : Nat) (place : Place) (node : Node) :
    Gives views version generation (searchNode (viewing views) version predicate bound place node)
      (searchNode store.reads version predicate bound place node) := by
  induction bound generalizing place node with
  | zero =>
    rw [searchNode]
    exact (gives_data held node).bind (fun _ => onward_pure _) (gives_pure _)
  | succ bound ih =>
    have onward := onward_search_node views version predicate bound place.deeper
    have below := Gives.map_m onward (ih place.deeper) (store.children version node)
    rw [searchNode, search_node_succ]
    refine (gives_data held node).bind (fun _ => ?_) ((gives_children held node).bind
      (fun others => ?_) (below.bind (fun _ => onward_pure _) (gives_pure _)))
    · refine (onward_children views version node).bind fun others => ?_
      exact (Onward.map_m onward others).bind fun _ => onward_pure _
    · exact (Onward.map_m onward others).bind fun _ => onward_pure _

/-- A search that ends while the version is held finds what it finds in a store that does not
change, if its bound leaves room for all paths of the version. -/
theorem gives_search (views : Nat → Store α) (held : store.generation? version = some generation)
    (grown : Grown generation) {bound : Nat} (room : generation.edges.length ≤ bound)
    (predicate : α → Place → Bool) (includeParents : Bool) :
    Gives views version generation (search (viewing views) version bound predicate includeParents)
      (store.search version predicate includeParents) := by
  have exact_bound : Found.ordered (searchNode store.reads version predicate bound
      ⟨0, includeParents⟩ generation.root).2 = store.search version predicate includeParents := by
    apply Found.eq_of_same_members (Found.ordered_pairwise _)
    · rw [Store.search_held held]
      exact Found.ordered_pairwise _
    · intro found
      rw [Found.mem_ordered, Store.mem_search held grown]
      refine (search_node_exact store version predicate bound _ _ ?_).2 found
      intro depth lower path
      rw [Store.children_held held] at path
      exact (grown.descent_bound path).trans room
  have from_root := gives_search_node views held predicate bound ⟨0, includeParents⟩ generation.root
  rw [search]
  refine (gives_root held).bind ?_ ?_
  · rintro (_ | root)
    · exact onward_pure []
    · exact (onward_search_node views version predicate bound _ root).bind fun _ => onward_pure _
  · rw [Store.root_held held, ← exact_bound]
    exact from_root.bind (fun _ => onward_pure _) (gives_pure _)

end

/-! ## Data read one after the other -/

variable {store : Store α} {version : Version} {generation : Generation α}
  {between : Nat → List (Store.Op α)}

/-- Reads the data of a result, which goes with its node. -/
def readEntry (views : Nat → Store α) (version : Version) (result : Found) :
    StateM Nat (Node × Option α) := do
  let data ← (viewing views).data version result.node
  return (result.node, data)

theorem read_entries_cons (views : Nat → Store α) (version : Version) (result : Found)
    (rest : List Found) (reads : Nat) :
    (result :: rest).mapM (readEntry views version) reads =
      (((result.node, (views reads).data? version result.node) ::
          (rest.mapM (readEntry views version) (reads + 1)).1),
        (rest.mapM (readEntry views version) (reads + 1)).2) := by
  rw [List.mapM_cons]
  rfl

theorem onward_read_entries (views : Nat → Store α) (version : Version) (found : List Found) :
    Onward (found.mapM (readEntry views version)) := by
  apply Onward.map_m
  intro result
  exact (onward_data views version result.node).bind fun _ => onward_pure _

/-- The data of nodes, read one after the other, are those of the version for some of the first
nodes, and absent for the rest.

Proof: induction over the nodes. Once the version is gone nothing more is read of it. -/
theorem read_entries_fade (knows : store.Knows version) (spares : Store.Spares between version)
    (held : store.generation? version = some generation) (found : List Found) (reads : Nat) :
    ∃ kept,
      (found.mapM (readEntry (store.views between) version) reads).1 =
        (found.take kept).map (fun result => (result.node, generation.data? result.node)) ++
          (found.drop kept).map (fun result => (result.node, none)) ∧
      (0 < kept → (store.views between reads).generation? version = some generation) ∧
      (Through (store.views between) version generation
          (found.mapM (readEntry (store.views between) version) reads).2 →
        found.length ≤ kept) := by
  induction found generalizing reads with
  | nil => exact ⟨0, rfl, fun kept => absurd kept (Nat.lt_irrefl 0), fun _ => Nat.le_refl 0⟩
  | cons result rest ih =>
    obtain ⟨kept, split, first, all⟩ := ih (reads + 1)
    rw [read_entries_cons, split]
    rcases knows.held_or_gone spares held reads with here | gone
    · refine ⟨kept + 1, ?_, fun _ => here, fun through => Nat.succ_le_succ (all through)⟩
      simp [Store.data_held here]
    · have not_here : (store.views between reads).generation? version ≠ some generation := by
        simp [gone]
      refine ⟨0, ?_, fun kept => absurd kept (Nat.lt_irrefl 0), fun through => ?_⟩
      · obtain rfl : kept = 0 := by
          by_contra some_kept
          have then_held := first (Nat.pos_of_ne_zero some_kept)
          exact not_here (knows.held_before spares (Nat.le_succ reads) then_held)
        simp [Store.data?, gone]
      · have later := onward_read_entries (store.views between) version rest (reads + 1)
        exact absurd (through reads (Nat.lt_of_succ_le later)) not_here

end TrustFederation.Tree
