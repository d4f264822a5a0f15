import Mathlib.Data.List.Intervals
import TrustFederation.Proofs.Tree.Versions
/-!
# The window of versions

The versions that a store holds have no gap: they run from the oldest one that the last publication
kept to the last allocated one. The window is all there is to know about which versions are held. A
version can be published exactly when it is newer than the published one and in the window, and the
version that an operation answers was answered by no operation before if it was just made.

Numbers of versions have no upper end here.
-/
namespace TrustFederation.Tree.Store

variable {α : Type}

/-- The number below which every version is collected. -/
def oldest (store : Store α) : Version := max 1 (store.current - (store.retained - 1))

/-- The versions held, in ascending order, are those from the oldest one to the last allocated
one. -/
structure Windowed (store : Store α) : Prop where
  published : store.current ≤ store.allocated
  held : store.versions = List.Ico store.oldest (store.allocated + 1)

/-- The operation makes a version. -/
def Op.makes : Op α → Bool
  | .create _ _ => true
  | _ => false

/-- The versions that operations answer one after the other. -/
def answers : Store α → List (Op α) → List Version
  | _, [] => []
  | store, op :: rest => (store.answer? op).toList ++ answers (store.apply op) rest

theorem oldest_le_current {store : Store α} (published : 0 < store.current) :
    store.oldest ≤ store.current :=
  Nat.max_le.mpr ⟨published, Nat.sub_le _ _⟩

theorem generation_is_some_iff (store : Store α) (version : Version) :
    (store.generation? version).isSome ↔ version ∈ store.versions := by
  constructor
  · intro held
    obtain ⟨generation, found⟩ := Option.isSome_iff_exists.mp held
    exact mem_versions_of_generation found
  · intro member
    obtain ⟨entry, inside, rfl⟩ := List.mem_map.mp member
    rw [Option.isSome_iff_ne_none]
    intro absent
    have differs := List.lookup_eq_none_iff.mp absent entry inside
    simp at differs

theorem generation_none_iff (store : Store α) (version : Version) :
    store.generation? version = none ↔ version ∉ store.versions := by
  rw [← generation_is_some_iff, Option.not_isSome_iff_eq_none]

/-! ## What a publication does -/

theorem retained_publish (store : Store α) (version : Version) :
    (store.publish version).retained = store.retained := by
  unfold publish
  split <;> rfl

theorem allocated_publish (store : Store α) (version : Version) :
    (store.publish version).allocated = store.allocated := by
  unfold publish
  split <;> rfl

/-- A publication answers what is published after it. -/
theorem publish_answer_eq (store : Store α) (version : Version) :
    store.publishAnswer version = (store.publish version).current := by
  unfold publishAnswer
  split
  case isTrue old => rw [publish_old old]
  case isFalse newer =>
    split
    case isTrue absent => simp [publish, Option.isNone_iff_eq_none.mp absent]
    case isFalse held =>
      obtain ⟨generation, found⟩ :=
        Option.ne_none_iff_exists'.mp (mt Option.isNone_iff_eq_none.mpr held)
      exact (current_publish (Nat.lt_of_not_le newer) found).symm

namespace Windowed

variable {store : Store α}

theorem mem_versions_iff (windowed : store.Windowed) (version : Version) :
    version ∈ store.versions ↔ store.oldest ≤ version ∧ version ≤ store.allocated := by
  rw [windowed.held, List.Ico.mem, Nat.lt_succ_iff]

theorem numbered (windowed : store.Windowed) : store.Numbered :=
  ⟨fun version member => ((windowed.mem_versions_iff version).mp member).2, windowed.published⟩

theorem oldest_le (windowed : store.Windowed) : store.oldest ≤ store.allocated + 1 := by
  have published : store.current ≤ store.allocated + 1 := Nat.le_succ_of_le windowed.published
  exact Nat.max_le.mpr ⟨Nat.le_add_left 1 _, (Nat.sub_le _ _).trans published⟩

/-- What is newer than the published version is held as far as it has been allocated. -/
theorem newer_held (windowed : store.Windowed) {version : Version}
    (newer : store.current < version) : version ∈ store.versions ↔ version ≤ store.allocated := by
  rw [windowed.mem_versions_iff, and_iff_right]
  exact Nat.max_le.mpr ⟨Nat.one_le_of_lt newer, (Nat.sub_le _ _).trans (Nat.le_of_lt newer)⟩

/-- A version gets published if it is newer than the published one and has been allocated. -/
theorem room_iff (windowed : store.Windowed) (version : Version) :
    (store.current < version ∧ (store.generation? version).isSome) ↔
      store.current < version ∧ version ≤ store.allocated := by
  refine and_congr_right fun newer => ?_
  rw [generation_is_some_iff, windowed.newer_held newer]

theorem publish_eq_self_iff (windowed : store.Windowed) (version : Version) :
    store.publish version = store ↔ ¬(store.current < version ∧ version ≤ store.allocated) := by
  rw [← windowed.room_iff]
  constructor
  · intro same room
    obtain ⟨generation, found⟩ := Option.isSome_iff_exists.mp room.2
    have moved := current_publish room.1 found
    rw [same] at moved
    exact absurd moved (Nat.ne_of_lt room.1)
  · intro closed
    exact if_neg closed

theorem current_publish_eq (windowed : store.Windowed) (version : Version) :
    (store.publish version).current =
      if store.current < version ∧ version ≤ store.allocated then version else store.current := by
  split
  case isTrue room =>
    obtain ⟨generation, found⟩ :=
      Option.isSome_iff_exists.mp ((windowed.room_iff version).mpr room).2
    exact current_publish room.1 found
  case isFalse closed => rw [(windowed.publish_eq_self_iff version).mpr closed]

/-- The published version is held from the first publication on. -/
theorem current_held (windowed : store.Windowed) :
    store.current = 0 ∨ store.current ∈ store.versions := by
  rcases Nat.eq_zero_or_pos store.current with none | some
  · exact .inl none
  · exact .inr ((windowed.mem_versions_iff _).mpr ⟨oldest_le_current some, windowed.published⟩)

/-! ## Every operation keeps the window -/

theorem create (windowed : store.Windowed) (root : Node) (data : α) :
    (store.create root data).Windowed := by
  refine ⟨Nat.le_succ_of_le windowed.published, ?_⟩
  calc (store.create root data).versions
      = store.versions ++ [store.allocated + 1] := by simp [Store.create, versions]
    _ = List.Ico store.oldest (store.allocated + 1) ++ [store.allocated + 1] := by
        rw [windowed.held]
    _ = List.Ico store.oldest (store.allocated + 1 + 1) :=
        (List.Ico.succ_top windowed.oldest_le).symm

theorem modify (windowed : store.Windowed) (version : Version)
    (change : Generation α → Generation α) : (store.modify version change).Windowed :=
  ⟨windowed.published, (versions_modify store version change).trans windowed.held⟩

/-- A publication moves the lower end of the window up to what it keeps. -/
theorem publish (windowed : store.Windowed) (version : Version) :
    (store.publish version).Windowed := by
  by_cases room : store.current < version ∧ version ≤ store.allocated
  · have current : (store.publish version).current = version := by
      rw [windowed.current_publish_eq, if_pos room]
    have kept : (store.publish version).versions =
        store.versions.filter fun number => version - (store.retained - 1) ≤ number := by
      rw [versions, Store.publish, if_pos ((windowed.room_iff version).mpr room), versions,
        List.filter_map]
      rfl
    have bottom : max store.oldest (version - (store.retained - 1)) =
        (store.publish version).oldest := by
      have higher := Nat.sub_le_sub_right (Nat.le_of_lt room.1) (store.retained - 1)
      rw [oldest, oldest, current, retained_publish, Nat.max_assoc, Nat.max_eq_right higher]
    refine ⟨by rw [current, allocated_publish]; exact room.2, ?_⟩
    rw [kept, windowed.held, List.Ico.filter_le, bottom, allocated_publish]
  · rw [(windowed.publish_eq_self_iff version).mpr room]
    exact windowed

theorem apply (windowed : store.Windowed) (op : Op α) : (store.apply op).Windowed := by
  cases op with
  | create root data => exact windowed.create root data
  | append child parent version => exact windowed.modify version _
  | setData node data version => exact windowed.modify version _
  | publish version => exact windowed.publish version
  | publishNext => exact windowed.publish (store.current + 1)

theorem apply_all (windowed : store.Windowed) (ops : List (Op α)) :
    (store.applyAll ops).Windowed := by
  induction ops generalizing store with
  | nil => exact windowed
  | cons op rest ih => exact ih (windowed.apply op)

/-- No operation answers a version that has not been allocated when it is over. -/
theorem answer_le (windowed : store.Windowed) (op : Op α) {version : Version}
    (answered : version ∈ store.answer? op) : version ≤ (store.apply op).allocated := by
  have published (number : Version) :
      store.publishAnswer number ≤ (store.publish number).allocated := by
    rw [publish_answer_eq]
    exact (windowed.publish number).published
  cases op with
  | create root data => exact Nat.le_of_eq (Option.some.inj answered).symm
  | append child parent number => exact absurd answered (Option.not_mem_none _)
  | setData node data number => exact absurd answered (Option.not_mem_none _)
  | publish number => exact Option.some.inj answered ▸ published number
  | publishNext => exact Option.some.inj answered ▸ published (store.current + 1)

end Windowed

theorem windowed_empty (retained : Nat) : (empty retained : Store α).Windowed :=
  ⟨Nat.le_refl 0, by simp [empty, versions, oldest]⟩

/-! ## Runs of operations -/

theorem retained_apply (store : Store α) (op : Op α) :
    (store.apply op).retained = store.retained := by
  cases op with
  | publish version => exact store.retained_publish version
  | publishNext => exact store.retained_publish _
  | _ => rfl

theorem retained_apply_all (store : Store α) (ops : List (Op α)) :
    (store.applyAll ops).retained = store.retained := by
  induction ops generalizing store with
  | nil => rfl
  | cons op rest ih => exact (ih (store.apply op)).trans (store.retained_apply op)

theorem allocated_apply_eq (store : Store α) (op : Op α) :
    (store.apply op).allocated = store.allocated + if op.makes then 1 else 0 := by
  cases op with
  | publish version => exact store.allocated_publish version
  | publishNext => exact store.allocated_publish _
  | _ => rfl

theorem allocated_apply_all (store : Store α) (ops : List (Op α)) :
    (store.applyAll ops).allocated = store.allocated + ops.countP (·.makes) := by
  induction ops generalizing store with
  | nil => rfl
  | cons op rest ih =>
    calc (store.applyAll (op :: rest)).allocated
        = (store.apply op).allocated + rest.countP (·.makes) := ih (store.apply op)
      _ = store.allocated + (op :: rest).countP (·.makes) := by
          rw [allocated_apply_eq, List.countP_cons, Nat.add_assoc, Nat.add_comm (List.countP _ _)]

theorem current_apply_all (store : Store α) (ops : List (Op α)) :
    store.current ≤ (store.applyAll ops).current := by
  induction ops generalizing store with
  | nil => exact Nat.le_refl _
  | cons op rest ih => exact (store.current_apply op).trans (ih (store.apply op))

/-- No operation has answered a version that is not allocated yet. -/
theorem Windowed.answers_le {store : Store α} (windowed : store.Windowed) (ops : List (Op α))
    {version : Version} (answered : version ∈ store.answers ops) :
    version ≤ (store.applyAll ops).allocated := by
  induction ops generalizing store with
  | nil => exact absurd answered List.not_mem_nil
  | cons op rest ih =>
    rcases List.mem_append.mp answered with first | later
    · have soon := windowed.answer_le op (Option.mem_toList.mp first)
      have grown := allocated_apply_all (store.apply op) rest
      exact soon.trans (grown ▸ Nat.le_add_right _ _)
    · exact ih (windowed.apply op) later

/-- After any operations on an empty store: as many versions are allocated as were made. The
versions held are those from the oldest one to the last allocated one. The published version is among
them, if there is one, and never goes back. A publication changes the store exactly if the version
named is newer than the published one and allocated, and answers what is published then. The next
version is published if there is one. A new version gets the number after the last one, which no
operation has answered before. -/
theorem window_of_ops (retained : Nat) (ops : List (Op α)) :
    let store := (empty retained).applyAll ops
    store.allocated = ops.countP (·.makes) ∧
    store.current ≤ store.allocated ∧
    store.versions =
      List.Ico (max 1 (store.current - (max retained 1 - 1))) (store.allocated + 1) ∧
    (store.current = 0 ∨ store.current ∈ store.versions) ∧
    (∀ more, store.current ≤ (store.applyAll more).current) ∧
    (∀ version,
      (store.publish version ≠ store ↔ store.current < version ∧ version ≤ store.allocated) ∧
      (store.publish version).current =
        (if store.current < version ∧ version ≤ store.allocated then version
          else store.current) ∧
      store.answer? (.publish version) = some (store.publish version).current) ∧
    store.publishNext =
      (if store.current < store.allocated then store.publish (store.current + 1) else store) ∧
    store.answer? .publishNext =
      some (if store.current < store.allocated then store.current + 1 else store.current) ∧
    ∀ root data, (store.create root data).allocated = store.allocated + 1 ∧
      store.answer? (.create root data) = some (store.allocated + 1) ∧
      store.allocated + 1 ∉ (empty retained).answers ops := by
  intro store
  have windowed : store.Windowed := (windowed_empty retained).apply_all ops
  have kept : store.retained = max retained 1 := retained_apply_all (empty retained) ops
  have made : store.allocated = ops.countP (·.makes) :=
    (allocated_apply_all (empty retained) ops).trans (Nat.zero_add _)
  have next : (store.current < store.current + 1 ∧ store.current + 1 ≤ store.allocated) ↔
      store.current < store.allocated := and_iff_right (Nat.lt_succ_self _)
  refine ⟨made, windowed.published, kept ▸ windowed.held, windowed.current_held,
    store.current_apply_all, ?_, ?_, ?_, ?_⟩
  · intro version
    refine ⟨?_, windowed.current_publish_eq version, ?_⟩
    · rw [ne_eq, windowed.publish_eq_self_iff, not_not]
    · exact congrArg some (store.publish_answer_eq version)
  · split
    case isTrue => rfl
    case isFalse ended => exact (windowed.publish_eq_self_iff _).mpr (mt next.mp ended)
  · simp only [answer?, publish_answer_eq, windowed.current_publish_eq, next]
  · intro root data
    refine ⟨rfl, rfl, fun answered => ?_⟩
    exact Nat.not_succ_le_self _ ((windowed_empty retained).answers_le ops answered)

end TrustFederation.Tree.Store
