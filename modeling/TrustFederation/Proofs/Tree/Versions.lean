import TrustFederation.Tree.Store
/-!
# Versions under the operations of a store

What each operation does to the version of a number. A store is numbered when no version it
holds, nor the published one, is above the last allocated number. Every store that operations
make from an empty one is numbered, so a new version never takes the number of another. An
operation that does not write to a version leaves it as it is or collects it, and what has been
collected stays away. Which versions a publication collects is said only as far as it names the
version in question.
-/
namespace TrustFederation.Tree.Store

variable {α : Type}

/-- No version above the last allocated one is held or published. -/
structure Numbered (store : Store α) : Prop where
  held : ∀ version ∈ store.versions, version ≤ store.allocated
  published : store.current ≤ store.allocated

theorem mem_versions_of_generation {store : Store α} {version : Version}
    {generation : Generation α} (held : store.generation? version = some generation) :
    version ∈ store.versions := by
  obtain ⟨before, after, whole, -⟩ := List.lookup_eq_some_iff.mp held
  simp [versions, whole]

/-! ## The versions after one operation -/

theorem lookup_map_value {β γ : Type} (change : Version → β → γ) (version : Version)
    (entries : List (Version × β)) :
    (entries.map fun entry => (entry.1, change entry.1 entry.2)).lookup version =
      (entries.lookup version).map (change version) := by
  induction entries with
  | nil => rfl
  | cons entry rest ih =>
    rw [List.map_cons, List.lookup_cons, List.lookup_cons, ih]
    by_cases same : version = entry.1
    · simp [same]
    · simp [beq_eq_false_iff_ne.mpr same]

theorem lookup_filter_number {β : Type} (keep : Version → Bool) (version : Version)
    (entries : List (Version × β)) :
    (entries.filter fun entry => keep entry.1).lookup version =
      if keep version then entries.lookup version else none := by
  induction entries with
  | nil => simp
  | cons entry rest ih =>
    obtain ⟨number, value⟩ := entry
    by_cases same : version = number
    · subst same
      by_cases kept : keep version = true
      · simp [kept]
      · simpa [kept] using ih
    · have differs : (version == number) = false := beq_eq_false_iff_ne.mpr same
      by_cases kept : keep number = true
      · simpa [kept, List.lookup_cons, differs] using ih
      · simpa [kept, List.lookup_cons, differs] using ih

/-- A change of one version leaves the others as they are. -/
theorem generation_modify (store : Store α) (changed version : Version)
    (change : Generation α → Generation α) :
    (store.modify changed change).generation? version =
      if version = changed then (store.generation? version).map change
      else store.generation? version := by
  have mapped := lookup_map_value
    (fun number generation => if number = changed then change generation else generation)
    version store.generations
  by_cases same : version = changed
  · subst same
    simpa [generation?, modify] using mapped
  · simpa [generation?, modify, same] using mapped

/-- A new version is the one that was made, and every other one stays. -/
theorem generation_create {store : Store α} (numbered : store.Numbered) (root : Node) (data : α)
    (version : Version) :
    (store.create root data).generation? version =
      if version = store.allocated + 1 then some (.ofRoot root data)
      else store.generation? version := by
  have fresh : store.generations.lookup (store.allocated + 1) = none := by
    rw [List.lookup_eq_none_iff]
    rintro ⟨number, generation⟩ member
    have bound : number ≤ store.allocated :=
      numbered.held number (List.mem_map.mpr ⟨_, member, rfl⟩)
    have differs : store.allocated + 1 ≠ number := Nat.ne_of_gt (Nat.lt_succ_of_le bound)
    simpa using differs
  unfold generation? create
  rw [List.lookup_append]
  by_cases new : version = store.allocated + 1
  · simp [new, fresh]
  · simp [new, List.lookup_cons, beq_eq_false_iff_ne.mpr new]

/-- A publication collects versions by their number, and only if it takes place. -/
theorem generation_publish (store : Store α) (published version : Version) :
    (store.publish published).generation? version =
      if (store.current < published ∧ (store.generation? published).isSome) ∧
          ¬ published - (store.retained - 1) ≤ version then none
      else store.generation? version := by
  unfold publish
  by_cases room : store.current < published ∧ (store.generation? published).isSome
  · have filtered := lookup_filter_number
      (fun number => decide (published - (store.retained - 1) ≤ number)) version
      store.generations
    rw [if_pos room]
    refine filtered.trans ?_
    by_cases kept : published - (store.retained - 1) ≤ version
    · rw [if_pos (decide_eq_true kept), if_neg (fun collected => collected.2 kept)]
      rfl
    · rw [if_neg (fun held => kept (of_decide_eq_true held)), if_pos ⟨room, kept⟩]
  · rw [if_neg room]
    simp [room]

/-- The published version is never collected by its own publication. -/
theorem generation_publish_self (store : Store α) (version : Version) :
    (store.publish version).generation? version = store.generation? version := by
  rw [generation_publish, if_neg]
  rintro ⟨-, collected⟩
  exact collected (Nat.sub_le _ _)

/-- A version that is held and newer than the published one gets published. -/
theorem current_publish {store : Store α} {version : Version} {generation : Generation α}
    (newer : store.current < version) (held : store.generation? version = some generation) :
    (store.publish version).current = version := by
  simp [publish, newer, held]

/-! ## Numbering -/

theorem numbered_empty (retained : Nat) : (empty retained : Store α).Numbered :=
  ⟨by simp [empty, versions], Nat.le_refl 0⟩

theorem versions_modify (store : Store α) (version : Version)
    (change : Generation α → Generation α) :
    (store.modify version change).versions = store.versions := by
  simp [modify, versions]

theorem Numbered.modify {store : Store α} (numbered : store.Numbered) (version : Version)
    (change : Generation α → Generation α) : (store.modify version change).Numbered :=
  ⟨by rw [versions_modify]; exact numbered.held, numbered.published⟩

theorem Numbered.create {store : Store α} (numbered : store.Numbered) (root : Node) (data : α) :
    (store.create root data).Numbered := by
  refine ⟨?_, Nat.le_succ_of_le numbered.published⟩
  intro version member
  rw [versions, Store.create, List.map_append, List.mem_append] at member
  rcases member with old | new
  · exact Nat.le_succ_of_le (numbered.held version old)
  · obtain rfl : version = store.allocated + 1 := by simpa using new
    exact Nat.le_refl _

theorem Numbered.publish {store : Store α} (numbered : store.Numbered) (version : Version) :
    (store.publish version).Numbered := by
  unfold Store.publish
  split
  case isTrue room =>
    obtain ⟨generation, held⟩ := Option.isSome_iff_exists.mp room.2
    refine ⟨?_, numbered.held version (mem_versions_of_generation held)⟩
    intro other member
    obtain ⟨entry, inside, rfl⟩ := List.mem_map.mp member
    exact numbered.held _ (List.mem_map.mpr ⟨entry, (List.mem_filter.mp inside).1, rfl⟩)
  case isFalse => exact numbered

theorem Numbered.apply {store : Store α} (numbered : store.Numbered) (op : Op α) :
    (store.apply op).Numbered := by
  cases op with
  | create root data => exact numbered.create root data
  | append child parent version => exact numbered.modify version _
  | setData node data version => exact numbered.modify version _
  | publish version => exact numbered.publish version
  | publishNext => exact numbered.publish (store.current + 1)

/-- Every store that operations make from an empty one is numbered. -/
theorem numbered_apply_all (retained : Nat) (ops : List (Op α)) :
    ((empty retained).applyAll ops).Numbered := by
  have every (store : Store α) (numbered : store.Numbered) : (store.applyAll ops).Numbered := by
    induction ops generalizing store with
    | nil => exact numbered
    | cons op rest ih => exact ih (store.apply op) (numbered.apply op)
  exact every (empty retained) (numbered_empty retained)

/-! ## One version under an operation -/

/-- The operation writes to one version. -/
def Op.Into (version : Version) : Op α → Prop
  | .append _ _ number | .setData _ _ number => number = version
  | _ => False

section

variable {store : Store α} {version : Version}

theorem allocated_apply (store : Store α) (op : Op α) :
    store.allocated ≤ (store.apply op).allocated := by
  have published (number : Version) : (store.publish number).allocated = store.allocated := by
    unfold publish
    split <;> rfl
  cases op with
  | create root data => exact Nat.le_succ _
  | append child parent number => exact Nat.le_refl _
  | setData node data number => exact Nat.le_refl _
  | publish number => exact Nat.le_of_eq (published number).symm
  | publishNext => exact Nat.le_of_eq (published _).symm

theorem current_le_publish (store : Store α) (number : Version) :
    store.current ≤ (store.publish number).current := by
  unfold publish
  split
  case isTrue newer => exact Nat.le_of_lt newer.1
  case isFalse => exact Nat.le_refl _

theorem current_apply (store : Store α) (op : Op α) :
    store.current ≤ (store.apply op).current := by
  cases op with
  | create root data => exact Nat.le_refl _
  | append child parent number => exact Nat.le_refl _
  | setData node data number => exact Nat.le_refl _
  | publish number => exact store.current_le_publish number
  | publishNext => exact store.current_le_publish _

/-- What is published is the version named, or nothing happens. -/
theorem publish_cases (store : Store α) (number : Version) :
    store.publish number = store ∨
      (store.publish number).current = number ∧
        ((store.publish number).generation? number).isSome := by
  by_cases room : store.current < number ∧ (store.generation? number).isSome
  · right
    rw [generation_publish_self]
    exact ⟨by simp [publish, room], room.2⟩
  · left
    exact if_neg room

theorem publish_old {number : Version} (old : number ≤ store.current) :
    store.publish number = store := if_neg fun room => Nat.not_lt.mpr old room.1

theorem Op.Into.unique {op : Op α} {other : Version} (into : op.Into version)
    (also : op.Into other) : version = other := by
  cases op with
  | append child parent number => exact into.symm.trans also
  | setData node data number => exact into.symm.trans also
  | _ => exact absurd into not_false

/-- An operation that does not write to a version leaves it as it is or collects it. -/
theorem generation_apply_other (numbered : store.Numbered) (known : version ≤ store.allocated)
    (op : Op α) (elsewhere : ¬ op.Into version) :
    (store.apply op).generation? version = store.generation? version ∨
      (store.apply op).generation? version = none := by
  have published (number : Version) :
      (store.publish number).generation? version = store.generation? version ∨
        (store.publish number).generation? version = none := by
    rw [generation_publish]
    split
    case isTrue => exact .inr rfl
    case isFalse => exact .inl rfl
  cases op with
  | create root data =>
    left
    exact (generation_create numbered root data version).trans
      (if_neg (Nat.ne_of_lt (Nat.lt_succ_of_le known)))
  | append child parent number =>
    left
    exact (generation_modify store number version _).trans (if_neg fun same => elsewhere same.symm)
  | setData node data number =>
    left
    exact (generation_modify store number version _).trans (if_neg fun same => elsewhere same.symm)
  | publish number => exact published number
  | publishNext => exact published _

/-- A version that has been collected stays so. -/
theorem generation_apply_none (numbered : store.Numbered) (known : version ≤ store.allocated)
    (gone : store.generation? version = none) (op : Op α) :
    (store.apply op).generation? version = none := by
  by_cases into : op.Into version
  · cases op with
    | append child parent number =>
      exact (generation_modify store number version _).trans (by simp [gone])
    | setData node data number =>
      exact (generation_modify store number version _).trans (by simp [gone])
    | _ => exact absurd into not_false
  · rcases generation_apply_other numbered known op into with same | collected
    · exact same.trans gone
    · exact collected

/-- A write publishes nothing and collects nothing. -/
theorem write_keeps {written : Version} {op : Op α} (into : op.Into written) (version : Version) :
    (store.apply op).current = store.current ∧
      ((store.apply op).generation? version).isSome = (store.generation? version).isSome := by
  have modified (change : Generation α → Generation α) :
      ((store.modify written change).generation? version).isSome =
        (store.generation? version).isSome := by
    rw [generation_modify]
    split
    case isTrue => exact Option.isSome_map
    case isFalse => rfl
  cases op with
  | append child parent number =>
    obtain rfl := into
    exact ⟨rfl, modified _⟩
  | setData node data number =>
    obtain rfl := into
    exact ⟨rfl, modified _⟩
  | _ => exact absurd into not_false

end

/-! ## One version under several operations -/

/-- The store counts its versions, and it has allocated this one. -/
structure Knows (store : Store α) (version : Version) : Prop where
  numbered : store.Numbered
  allocated : version ≤ store.allocated

section

variable {store : Store α} {version : Version}

theorem Knows.apply (knows : store.Knows version) (op : Op α) :
    (store.apply op).Knows version :=
  ⟨knows.numbered.apply op, Nat.le_trans knows.allocated (allocated_apply store op)⟩

theorem Knows.apply_all (knows : store.Knows version) (ops : List (Op α)) :
    (store.applyAll ops).Knows version := by
  induction ops generalizing store with
  | nil => exact knows
  | cons op rest ih => exact ih (knows.apply op)

/-- A version that has been collected stays so under any operations. -/
theorem Knows.gone (knows : store.Knows version) (gone : store.generation? version = none)
    (ops : List (Op α)) : (store.applyAll ops).generation? version = none := by
  induction ops generalizing store with
  | nil => exact gone
  | cons op rest ih =>
    exact ih (knows.apply op) (generation_apply_none knows.numbered knows.allocated gone op)

/-- Operations that do not write to a version leave it as it is or collect it. -/
theorem Knows.spared (knows : store.Knows version) (ops : List (Op α))
    (elsewhere : ∀ op ∈ ops, ¬ op.Into version) :
    (store.applyAll ops).generation? version = store.generation? version ∨
      (store.applyAll ops).generation? version = none := by
  induction ops generalizing store with
  | nil => exact .inl rfl
  | cons op rest ih =>
    have later := ih (knows.apply op) fun other member =>
      elsewhere other (List.mem_cons_of_mem _ member)
    rcases generation_apply_other knows.numbered knows.allocated op
      (elsewhere op List.mem_cons_self) with same | collected
    · rwa [same] at later
    · exact .inr ((knows.apply op).gone collected rest)

end

end TrustFederation.Tree.Store
