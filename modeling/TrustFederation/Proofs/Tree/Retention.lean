import Mathlib.Data.List.DropRight
import TrustFederation.Proofs.Tree.Replay
/-!
# Which published versions are kept

A publication collects by number: of the versions that have been published, those are kept whose
numbers are less than the number of retained versions below the published one. These are the newest
published versions as long as no number is left out. A version that is overtaken by a newer one is
never published, its number still counts, and then an older published version is collected too early.
-/
namespace TrustFederation.Tree.Store

variable {α : Type}

/-- The versions that operations publish one after the other. -/
def publications : Store α → List (Op α) → List Version
  | _, [] => []
  | store, op :: rest =>
    let next := store.apply op
    if next.current = store.current then publications next rest
    else next.current :: publications next rest

/-- What operations publish is newer than what was published before and not newer than what is
published afterwards. -/
theorem publications_between {store : Store α} {ops : List (Op α)} {version : Version}
    (published : version ∈ store.publications ops) :
    store.current < version ∧ version ≤ (store.applyAll ops).current := by
  induction ops generalizing store with
  | nil => exact absurd published List.not_mem_nil
  | cons op rest ih =>
    have forward := store.current_apply op
    simp only [publications] at published
    split at published
    case isTrue same =>
      obtain ⟨newer, older⟩ := ih published
      exact ⟨same ▸ newer, older⟩
    case isFalse moved =>
      have newer : store.current < (store.apply op).current :=
        Nat.lt_of_le_of_ne forward (Ne.symm moved)
      rcases List.mem_cons.mp published with rfl | later
      · exact ⟨newer, current_apply_all _ rest⟩
      · exact ⟨newer.trans (ih later).1, (ih later).2⟩

/-- What is published last stays published. -/
theorem last_publication (store : Store α) (ops : List (Op α)) :
    (store.current :: store.publications ops).getLast? =
      some (store.applyAll ops).current := by
  induction ops generalizing store with
  | nil => rfl
  | cons op rest ih =>
    simp only [publications]
    split
    case isTrue same => exact same ▸ ih (store.apply op)
    case isFalse => exact (List.getLast?_cons_cons ..).trans (ih (store.apply op))

/-- In a list of numbers without gaps each one is less than the length of the list below the last
one. -/
theorem last_lt_of_consecutive {numbers : List Version} {last : Version}
    (consecutive : numbers.IsChain fun earlier later => later = earlier + 1)
    (ends : numbers.getLast? = some last) {number : Version} (member : number ∈ numbers) :
    last < number + numbers.length := by
  induction numbers generalizing number with
  | nil => exact absurd member List.not_mem_nil
  | cons first rest ih =>
    cases rest with
    | nil =>
      obtain rfl := List.mem_singleton.mp member
      obtain rfl := Option.some.inj ends
      exact Nat.lt_succ_self _
    | cons second rest =>
      rw [List.isChain_cons_cons] at consecutive
      have below {other : Version} (inside : other ∈ second :: rest) :
          last < other + (second :: rest).length :=
        ih consecutive.2 ((List.getLast?_cons_cons ..).symm.trans ends) inside
      rcases List.mem_cons.mp member with rfl | later
      · have next := below List.mem_cons_self
        rw [consecutive.1] at next
        rw [List.length_cons, ← Nat.add_assoc, Nat.add_right_comm]
        exact next
      · exact (below later).trans (Nat.lt_succ_self _)

/-- The newest of several published versions are some of them, and the published one is the last. -/
theorem newest_publications {store : Store α} {ops : List (Op α)} {kept : Nat}
    {version : Version} (positive : 0 < kept)
    (member : version ∈ (store.publications ops).rtake kept) :
    version ∈ store.publications ops ∧ ((store.publications ops).rtake kept).length ≤ kept ∧
      ((store.publications ops).rtake kept).getLast? = some (store.applyAll ops).current := by
  have last := last_publication store ops
  unfold List.rtake at member ⊢
  have inside : version ∈ store.publications ops := List.mem_of_mem_drop member
  have some : 0 < (store.publications ops).length := List.length_pos_of_mem inside
  refine ⟨inside, by rw [List.length_drop]; omega, ?_⟩
  rw [List.getLast?_drop, if_neg (by omega), ← last]
  cases published : store.publications ops with
  | nil => simp [published] at some
  | cons first rest => exact (List.getLast?_cons_cons ..).symm

theorem window_within_iff {current version kept : Nat} (positive : 0 < version)
    (some : 0 < kept) :
    max 1 (current - (kept - 1)) ≤ version ↔ current < version + kept := by
  omega

/-- After operations on an empty store: a version that has been published is held, and reads back
what was written to it, exactly if its number is less than the number of retained versions below the
published one. So the newest published versions are all held if their numbers have no gap. Every
version that is newer than the published one is held and reads back what was written to it. -/
theorem retention_of_ops (retained : Nat) (ops : List (Op α)) :
    let store := (empty retained).applyAll ops
    let kept := max retained 1
    let published := (empty retained).publications ops
    (∀ version ∈ published, Faithful retained ops version ↔ store.current < version + kept) ∧
    ((published.rtake kept).IsChain (fun earlier later => later = earlier + 1) →
      ∀ version ∈ published.rtake kept, Faithful retained ops version) ∧
    ∀ version, store.current < version → version ≤ store.allocated →
      Faithful retained ops version := by
  intro store kept published
  have windowed : store.Windowed := (windowed_empty retained).apply_all ops
  have held_iff (version : Version) : Faithful retained ops version ↔ version ∈ store.versions :=
    ⟨held_of_faithful, faithful_of_held retained ops⟩
  have bottom : store.oldest = max 1 (store.current - (kept - 1)) := by
    rw [oldest, show store.retained = kept from retained_apply_all (empty retained) ops]
  have some : 0 < kept := Nat.lt_of_lt_of_le Nat.zero_lt_one (Nat.le_max_right ..)
  have within (version : Version) (member : version ∈ published) :
      Faithful retained ops version ↔ store.current < version + kept := by
    obtain ⟨positive, older⟩ := publications_between member
    rw [held_iff, windowed.mem_versions_iff, and_iff_left (older.trans windowed.published), bottom]
    exact window_within_iff positive some
  refine ⟨within, ?_, fun version newer allocated => ?_⟩
  · intro consecutive version member
    obtain ⟨inside, short, ends⟩ := newest_publications some member
    have below := last_lt_of_consecutive consecutive ends member
    exact (within version inside).mpr (below.trans_le (Nat.add_le_add_left short version))
  · rw [held_iff, windowed.newer_held newer]
    exact allocated

/-- Three versions overlap and the second one is never published. Of the two published ones only the
current one is held, although two are to be kept. -/
theorem published_version_collected :
    ¬ ∀ (retained : Nat) (ops : List (Op String)),
      ∀ version ∈ ((empty retained).publications ops).rtake (max retained 1),
        Faithful retained ops version := by
  intro every
  have held := held_of_faithful <| every 2 [.create "r" "first", .create "r" "second",
    .create "r" "third", .append "a" "r" 1, .publish 1, .publish 3] 1 (by decide +kernel)
  revert held
  decide +kernel

/-- A version is left out long before the newest publications. Their numbers have no gap, so both are
held with what was written to them, and so is a version that is still being filled. -/
theorem retention_of_ops_late :
    let ops : List (Op String) := [.create "r" "1", .create "r" "2", .publish 2, .create "r" "3",
      .append "a" "r" 3, .publish 3, .create "r" "4", .publishNext, .create "r" "5"]
    ((empty 2).publications ops).rtake 2 = [3, 4] ∧ (Faithful 2 ops 3 ∧ Faithful 2 ops 4) ∧
      ¬ Faithful 2 ops 2 ∧ Faithful 2 ops 5 := by
  intro ops
  obtain ⟨within, consecutive, newer⟩ := retention_of_ops 2 ops
  have newest : ((empty 2).publications ops).rtake 2 = [3, 4] := by decide +kernel
  have all := consecutive (newest ▸ by decide)
  refine ⟨newest, ⟨all 3 (newest ▸ by decide), all 4 (newest ▸ by decide)⟩, ?_,
    newer 5 (by decide +kernel) (by decide +kernel)⟩
  rw [within 2 (by decide +kernel)]
  decide +kernel

end TrustFederation.Tree.Store
