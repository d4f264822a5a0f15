import TrustFederation.Proofs.Crawl.Invariant
import TrustFederation.Proofs.Sharing.Ownership
/-!
# Published versions are final

Crawls that share a store publish versions, and the store itself would let any of them go on writing
to what is published. None does: a crawl writes to its own version only, and it publishes this
version when it has nothing left to do. So from the moment when a version is published until it is
collected it is the tree that its own crawl has made, and the published version never goes back.
-/
namespace TrustFederation

open TrustFederation.Tree (Generation Node Store Version)

namespace Sharing

open Crawl

variable {ι σ : Type}

/-- A write to a version makes of it what it makes of a tree. -/
theorem generation_apply_into {store : StatementStore} {op : Store.Op Statement} {version : Version}
    (into : op.Into version) :
    (store.apply op).generation? version = grow (store.generation? version) op := by
  cases op with
  | append child parent number =>
    exact (Store.generation_modify store number version _).trans (if_pos into.symm)
  | setData node data number =>
    exact (Store.generation_modify store number version _).trans (if_pos into.symm)
  | _ => exact absurd into not_false

/-! ## What a turn leaves -/

namespace Loader.Did

variable {loader after : Loader σ} {store changed : StatementStore} {owned next : Option Version}
  {version : Version}

/-- Each turn is one operation on the store, or none. It writes to no version but the one that the
crawl owns, and only while there is something left to do. -/
theorem store_cases (did : Did loader store owned after next changed) :
    changed = store ∨ ∃ op, changed = store.apply op ∧
      ∀ version, op.Into version → owned = some version ∧ loader.drained = false := by
  cases did with
  | quiet => exact .inl rfl
  | began root data => exact .inr ⟨.create root data, rfl, nofun⟩
  | @filled version after op busy into =>
    exact .inr ⟨op, rfl, fun other also => ⟨congrArg some (into.unique also), busy⟩⟩
  | gaveUp => exact .inl rfl
  | @published version => exact .inr ⟨.publish version, rfl, nofun⟩

theorem numbered (did : Did loader store owned after next changed) (numbered : store.Numbered) :
    changed.Numbered := by
  rcases did.store_cases with rfl | ⟨op, rfl, -⟩
  · exact numbered
  · exact numbered.apply op

theorem allocated_le (did : Did loader store owned after next changed) :
    store.allocated ≤ changed.allocated := by
  rcases did.store_cases with rfl | ⟨op, rfl, -⟩
  · exact Nat.le_refl _
  · exact store.allocated_apply op

theorem current_le (did : Did loader store owned after next changed) :
    store.current ≤ changed.current := by
  rcases did.store_cases with rfl | ⟨op, rfl, -⟩
  · exact Nat.le_refl _
  · exact store.current_apply op

theorem gone (did : Did loader store owned after next changed) (numbered : store.Numbered)
    (known : version ≤ store.allocated) (collected : store.generation? version = none) :
    changed.generation? version = none := by
  rcases did.store_cases with rfl | ⟨op, rfl, -⟩
  · exact collected
  · exact Store.generation_apply_none numbered known collected op

/-- A version is left as it is or collected, if the crawl does not own it or has nothing left to
do. -/
theorem spared (did : Did loader store owned after next changed) (numbered : store.Numbered)
    (known : version ≤ store.allocated)
    (settled : owned = some version → loader.drained = true) :
    changed.generation? version = store.generation? version ∨
      changed.generation? version = none := by
  rcases did.store_cases with rfl | ⟨op, rfl, writes⟩
  · exact .inl rfl
  · apply Store.generation_apply_other numbered known
    intro into
    obtain ⟨own, busy⟩ := writes version into
    rw [settled own] at busy
    cases busy

/-- The version of a crawl is what its own changes have made, unless it has been collected. -/
theorem content (did : Did loader store owned after next changed) (numbered : store.Numbered)
    (known : ∀ version, owned = some version → version ≤ store.allocated)
    (own : ∀ version, owned = some version →
      store.generation? version = none ∨ store.generation? version = loader.tree)
    (named : next = some version) :
    changed.generation? version = none ∨ changed.generation? version = after.tree := by
  cases did with
  | quiet busy written hooked =>
    rw [tree, written]
    exact own version named
  | began root data busy written hooked =>
    right
    obtain rfl := Option.some.inj named
    rw [Store.generation_create numbered, if_pos rfl, tree, written, List.foldl_append]
    rfl
  | filled busy into written hooked =>
    obtain rfl := Option.some.inj named
    rw [generation_apply_into into, tree, written, List.foldl_append]
    rcases own _ rfl with collected | same
    · left
      rw [← generation_apply_into into]
      exact Store.generation_apply_none numbered (known _ rfl) collected _
    · right
      rw [same]
      rfl
  | gaveUp drained => cases named
  | published drained reported =>
    obtain rfl := Option.some.inj named
    rw [Store.generation_publish_self]
    exact own _ rfl

/-- A crawl keeps the version that it owns. If it owned none, it may own a new one. -/
theorem next_cases (did : Did loader store owned after next changed) :
    next = owned ∨
      owned = none ∧ next = some (store.allocated + 1) ∧
        changed.allocated = store.allocated + 1 := by
  cases did with
  | began root data => exact .inr ⟨rfl, rfl, rfl⟩
  | _ => exact .inl rfl

/-- A crawl with nothing left to do hands its version over, and that is all. -/
theorem rested (did : Did loader store owned after next changed)
    (drained : loader.drained = true) : after = { loader with hooked := true } := by
  cases did with
  | quiet busy | began root data busy | filled busy => exact absurd (drained.symm.trans busy) nofun
  | _ => rfl

/-- What has been handed over is not worked on any more. -/
theorem idle (did : Did loader store owned after next changed)
    (before : loader.hooked = true → loader.drained = true) (hooked : after.hooked = true) :
    after.drained = true := by
  have contradicts (busy : loader.drained = false) (same : after.hooked = loader.hooked) :
      after.drained = true := by
    rw [before (same.symm.trans hooked)] at busy
    cases busy
  cases did with
  | quiet busy _ same => exact contradicts busy same
  | began root data busy _ same => exact contradicts busy same
  | filled busy _ _ same => exact contradicts busy same
  | gaveUp drained => exact drained
  | published drained => exact drained

/-- The published version stays, and so does whatever is held then, or it is the version of the crawl
now, which has been handed over. -/
theorem current_cases (did : Did loader store owned after next changed) (numbered : store.Numbered) :
    changed.current = store.current ∧ (∀ version ≤ store.allocated,
        (store.generation? version).isSome → (changed.generation? version).isSome) ∨
      next = some changed.current ∧ after.hooked = true ∧
        (changed.generation? changed.current).isSome := by
  cases did with
  | quiet | gaveUp => exact .inl ⟨rfl, fun _ _ held => held⟩
  | began root data =>
    refine .inl ⟨rfl, ?_⟩
    intro version known held
    rw [Store.generation_create numbered, if_neg (Nat.ne_of_lt (Nat.lt_succ_of_le known))]
    exact held
  | filled busy into =>
    refine .inl ⟨(Store.write_keeps into store.current).1, ?_⟩
    intro version _ held
    exact (Store.write_keeps into version).2.trans held
  | @published number =>
    rcases store.publish_cases number with same | ⟨moved, kept⟩
    · rw [same]
      exact .inl ⟨rfl, fun _ _ held => held⟩
    · rw [moved]
      exact .inr ⟨rfl, rfl, kept⟩

end Loader.Did

/-! ## What a run preserves -/

variable {crew : ι → Crawler σ} {first : StatementStore} {system after : System ι σ}
  {owned next : ι → Option Version} {version : Version}

/-- What holds of crawls that share a store. `owned` says which version each of them has allocated, and
`first` is the store that they began with. -/
structure Kept (first : StatementStore) (system : System ι σ) (owned : ι → Option Version) :
    Prop where
  numbered : system.store.Numbered
  allocated : first.allocated ≤ system.store.allocated
  phase (i : ι) : (system.loaders i).Phase (owned i)
  /-- The versions of the crawls are new. -/
  fresh {i : ι} {version : Version} (own : owned i = some version) :
    first.allocated < version ∧ version ≤ system.store.allocated
  /-- No version has two owners. -/
  apart {i j : ι} {version : Version} (own : owned i = some version)
    (also : owned j = some version) : i = j
  idle {i : ι} (hooked : (system.loaders i).hooked = true) : (system.loaders i).drained = true
  content {i : ι} {version : Version} (own : owned i = some version) :
    system.store.generation? version = none ∨
      system.store.generation? version = (system.loaders i).tree
  /-- What has been published is held, and it is a version that a crawl has handed over. -/
  published : system.store.current = first.current ∨
    (system.store.generation? system.store.current).isSome ∧
      ∃ i, owned i = some system.store.current ∧ (system.loaders i).hooked = true

theorem kept_start (crew : ι → Crawler σ) (numbered : first.Numbered) (world : σ) :
    Kept first (.start crew first world) fun _ => none :=
  ⟨numbered, Nat.le_refl _, fun i => Loader.phase_start (crew i).anchor, nofun, nofun, nofun, nofun,
    .inl rfl⟩

/-- A version that nobody writes to any more. -/
def Settled (system : System ι σ) (owned : ι → Option Version) (version : Version) : Prop :=
  version ≤ system.store.allocated ∧
    ∀ i, owned i = some version → (system.loaders i).hooked = true

/-- Nobody writes to the published version: it is older than the crawls, or has been handed over. -/
theorem Kept.settled_current (kept : Kept first system owned) (numbered : first.Numbered) :
    Settled system owned system.store.current := by
  refine ⟨kept.numbered.published, ?_⟩
  intro i own
  rcases kept.published with old | ⟨-, j, also, hooked⟩
  · have new := (kept.fresh own).1
    rw [old] at new
    exact absurd numbered.published (Nat.not_le_of_lt new)
  · rw [kept.apart own also]
    exact hooked

/-- What moves leave of what was there before. -/
structure Passed (system : System ι σ) (owned : ι → Option Version) (after : System ι σ)
    (next : ι → Option Version) : Prop where
  allocated : system.store.allocated ≤ after.store.allocated
  current : system.store.current ≤ after.store.current
  keeps {i : ι} {version : Version} (own : owned i = some version) : next i = some version
  rested {i : ι} (drained : (system.loaders i).drained = true) :
    (after.loaders i).drained = true ∧ (after.loaders i).report = (system.loaders i).report ∧
      (after.loaders i).written = (system.loaders i).written
  gone {version : Version} (known : version ≤ system.store.allocated)
    (collected : system.store.generation? version = none) : after.store.generation? version = none
  settled {version : Version} (settled : Settled system owned version) :
    Settled after next version ∧
      (after.store.generation? version = system.store.generation? version ∨
        after.store.generation? version = none)

theorem Passed.refl (system : System ι σ) (owned : ι → Option Version) :
    Passed system owned system owned :=
  ⟨Nat.le_refl _, Nat.le_refl _, fun own => own, fun drained => ⟨drained, rfl, rfl⟩,
    fun _ collected => collected, fun settled => ⟨settled, .inl rfl⟩⟩

theorem Passed.trans {last : System ι σ} {final : ι → Option Version}
    (early : Passed system owned after next) (late : Passed after next last final) :
    Passed system owned last final := by
  refine ⟨early.allocated.trans late.allocated, early.current.trans late.current,
    fun own => late.keeps (early.keeps own), ?_, ?_, ?_⟩
  · intro i drained
    obtain ⟨still, report, written⟩ := early.rested drained
    obtain ⟨ended, same, kept⟩ := late.rested still
    exact ⟨ended, same.trans report, kept.trans written⟩
  · intro version known collected
    exact late.gone (known.trans early.allocated) (early.gone known collected)
  · intro version settled
    obtain ⟨still, before⟩ := early.settled settled
    obtain ⟨ended, later⟩ := late.settled still
    refine ⟨ended, ?_⟩
    rcases before with same | collected
    · rw [← same]
      exact later
    · exact .inr (late.gone still.1 collected)

variable [DecidableEq ι] {i : ι} {own : Option Version}

/-- One crawl has had a turn, and the others are as they were. `own` is the version that it owns
then. -/
structure Turned (system : System ι σ) (owned : ι → Option Version) (i : ι) (own : Option Version)
    (after : System ι σ) : Prop where
  phase : (after.loaders i).Phase own
  did : (system.loaders i).Did system.store (owned i) (after.loaders i) own after.store
  others (j : ι) (other : j ≠ i) : after.loaders j = system.loaders j

namespace Turned

/-- What a crawl owns it owned before, or it is new and nobody did. -/
theorem owner_cases (turned : Turned system owned i own after) {j : ι} {version : Version}
    (now : Function.update owned i own j = some version) :
    owned j = some version ∨ j = i ∧ version = system.store.allocated + 1 ∧
      after.store.allocated = system.store.allocated + 1 := by
  by_cases same : j = i
  · subst same
    rw [Function.update_self] at now
    rcases turned.did.next_cases with old | ⟨-, new, allocated⟩
    · exact .inl (old.symm.trans now)
    · exact .inr ⟨rfl, Option.some.inj (now.symm.trans new), allocated⟩
  · rw [Function.update_of_ne same] at now
    exact .inl now

/-- What a crawl has owned before it still owns. -/
theorem owns (turned : Turned system owned i own after) {j : ι} {version : Version}
    (before : owned j = some version) : Function.update owned i own j = some version := by
  by_cases same : j = i
  · subst same
    rw [Function.update_self]
    rcases turned.did.next_cases with same | ⟨unowned, -⟩
    · exact same.trans before
    · rw [unowned] at before
      cases before
  · rw [Function.update_of_ne same]
    exact before

/-- A crawl with nothing left to do stays so, with its report and what it has written. -/
theorem rested (turned : Turned system owned i own after) {j : ι}
    (drained : (system.loaders j).drained = true) :
    (after.loaders j).drained = true ∧ (after.loaders j).report = (system.loaders j).report ∧
      (after.loaders j).written = (system.loaders j).written := by
  by_cases same : j = i
  · subst same
    rw [turned.did.rested drained]
    exact ⟨drained, rfl, rfl⟩
  · rw [turned.others j same]
    exact ⟨drained, rfl, rfl⟩

/-- What has been handed over stays so. -/
theorem hooked (turned : Turned system owned i own after) (kept : Kept first system owned) {j : ι}
    (hooked : (system.loaders j).hooked = true) : (after.loaders j).hooked = true := by
  by_cases same : j = i
  · subst same
    rw [turned.did.rested (kept.idle hooked)]
  · rw [turned.others j same]
    exact hooked

/-- No version has two owners after the turn: the only new one is newer than all before. -/
theorem apart (turned : Turned system owned i own after) (kept : Kept first system owned) {j k : ι}
    {version : Version} (mine : Function.update owned i own j = some version)
    (theirs : Function.update owned i own k = some version) : j = k := by
  rcases turned.owner_cases mine with before | ⟨rfl, new, -⟩
  · rcases turned.owner_cases theirs with also | ⟨-, new, -⟩
    · exact kept.apart before also
    · exact absurd (new ▸ (kept.fresh before).2) (Nat.not_succ_le_self _)
  · rcases turned.owner_cases theirs with also | ⟨rfl, -, -⟩
    · exact absurd (new ▸ (kept.fresh also).2) (Nat.not_succ_le_self _)
    · rfl

/-- Each version that is still held is what its own crawl has made, also after the turn of another
crawl. -/
theorem content (turned : Turned system owned i own after) (kept : Kept first system owned) {j : ι}
    {version : Version} (now : Function.update owned i own j = some version) :
    after.store.generation? version = none ∨
      after.store.generation? version = (after.loaders j).tree := by
  by_cases same : j = i
  · subst same
    rw [Function.update_self] at now
    exact turned.did.content kept.numbered (fun _ own => (kept.fresh own).2)
      (fun _ => kept.content) now
  · rw [Function.update_of_ne same] at now
    rw [turned.others j same]
    rcases turned.did.spared kept.numbered (kept.fresh now).2 fun also =>
      absurd (kept.apart now also) same with unchanged | collected
    · rw [unchanged]
      exact kept.content now
    · exact .inl collected

/-- What is published after the turn is from before all crawls, or it is held and its crawl has
handed it over. -/
theorem published (turned : Turned system owned i own after) (kept : Kept first system owned) :
    after.store.current = first.current ∨
      (after.store.generation? after.store.current).isSome ∧
        ∃ j, Function.update owned i own j = some after.store.current ∧
          (after.loaders j).hooked = true := by
  rcases turned.did.current_cases kept.numbered with ⟨same, held⟩ | ⟨mine, hooked, held⟩
  · rw [same]
    rcases kept.published with old | ⟨before, j, owns, hooked⟩
    · exact .inl old
    · exact .inr ⟨held _ kept.numbered.published before, j, turned.owns owns,
        turned.hooked kept hooked⟩
  · refine .inr ⟨held, i, ?_, hooked⟩
    rw [Function.update_self]
    exact mine

/-- A turn of one crawl keeps what holds of all of them. -/
theorem kept (turned : Turned system owned i own after) (kept : Kept first system owned) :
    Kept first after (Function.update owned i own) := by
  refine ⟨turned.did.numbered kept.numbered, kept.allocated.trans turned.did.allocated_le, ?_, ?_,
    turned.apart kept, ?_, turned.content kept, turned.published kept⟩
  · intro j
    by_cases same : j = i
    · subst same
      rw [Function.update_self]
      exact turned.phase
    · rw [Function.update_of_ne same, turned.others j same]
      exact kept.phase j
  · intro j version now
    rcases turned.owner_cases now with before | ⟨-, rfl, allocated⟩
    · exact ⟨(kept.fresh before).1, (kept.fresh before).2.trans turned.did.allocated_le⟩
    · exact ⟨Nat.lt_succ_of_le kept.allocated, Nat.le_of_eq allocated.symm⟩
  · intro j hooked
    by_cases same : j = i
    · subst same
      exact turned.did.idle kept.idle hooked
    · rw [turned.others j same] at hooked ⊢
      exact kept.idle hooked

/-- What a turn of one crawl leaves of what was there before. -/
theorem passed (turned : Turned system owned i own after) (kept : Kept first system owned) :
    Passed system owned after (Function.update owned i own) := by
  refine ⟨turned.did.allocated_le, turned.did.current_le, turned.owns, turned.rested,
    turned.did.gone kept.numbered, ?_⟩
  intro version settled
  refine ⟨⟨settled.1.trans turned.did.allocated_le, ?_⟩, ?_⟩
  · intro j now
    rcases turned.owner_cases now with before | ⟨-, rfl, -⟩
    · exact turned.hooked kept (settled.2 j before)
    · exact absurd settled.1 (Nat.not_succ_le_self _)
  · exact turned.did.spared kept.numbered settled.1 fun own => kept.idle (settled.2 i own)

end Turned

theorem Kept.move (kept : Kept first system owned) (crew : ι → Crawler σ) (move : Move ι) :
    ∃ next, Kept first (system.move crew move) next ∧
      Passed system owned (system.move crew move) next := by
  rcases move_cases crew system move with same | ⟨i, loader, store, world, turn, same⟩
  · rw [same]
    exact ⟨owned, kept, .refl system owned⟩
  · obtain ⟨own, phase, did⟩ := (kept.phase i).turn turn
    have here : (system.move crew move).loaders i = loader := by
      rw [same]
      exact Function.update_self ..
    have turned : Turned system owned i own (system.move crew move) := by
      refine ⟨here ▸ phase, ?_, ?_⟩
      · rw [here, same]
        exact did
      · intro j other
        rw [same]
        exact Function.update_of_ne other ..
    exact ⟨_, turned.kept kept, turned.passed kept⟩

theorem Kept.run (kept : Kept first system owned) (crew : ι → Crawler σ) (moves : List (Move ι)) :
    ∃ next, Kept first (system.run crew moves) next ∧
      Passed system owned (system.run crew moves) next := by
  induction moves generalizing system owned with
  | nil => exact ⟨owned, kept, .refl system owned⟩
  | cons move rest ih =>
    obtain ⟨middle, still, early⟩ := kept.move crew move
    obtain ⟨next, ended, late⟩ := ih still
    exact ⟨next, ended, early.trans late⟩

/-- A move is one operation on the store, or none, and it does not write to a settled version. -/
theorem Kept.move_spares (kept : Kept first system owned) (settled : Settled system owned version)
    (crew : ι → Crawler σ) (move : Move ι) :
    ∃ ops, (system.move crew move).store = system.store.applyAll ops ∧
      ∀ op ∈ ops, ¬ op.Into version := by
  rcases move_cases crew system move with same | ⟨i, loader, store, world, turn, same⟩
  · exact ⟨[], by rw [same]; rfl, fun op member => absurd member List.not_mem_nil⟩
  · obtain ⟨own, -, did⟩ := (kept.phase i).turn turn
    rw [same]
    rcases did.store_cases with unchanged | ⟨op, changed, writes⟩
    · exact ⟨[], unchanged, fun op member => absurd member List.not_mem_nil⟩
    · refine ⟨[op], changed, fun other member into => ?_⟩
      obtain rfl := List.mem_singleton.mp member
      obtain ⟨own, busy⟩ := writes version into
      rw [kept.idle (settled.2 i own)] at busy
      cases busy

/-- Moves are operations on the store that do not write to a settled version. -/
theorem Kept.run_spares (kept : Kept first system owned) (settled : Settled system owned version)
    (crew : ι → Crawler σ) (moves : List (Move ι)) :
    ∃ ops, (system.run crew moves).store = system.store.applyAll ops ∧
      ∀ op ∈ ops, ¬ op.Into version := by
  induction moves generalizing system owned with
  | nil => exact ⟨[], rfl, fun op member => absurd member List.not_mem_nil⟩
  | cons move rest ih =>
    obtain ⟨early, moved, before⟩ := kept.move_spares settled crew move
    obtain ⟨next, still, passed⟩ := kept.move crew move
    obtain ⟨late, ended, after⟩ := ih still (passed.settled settled).1
    refine ⟨early ++ late, ?_, fun op member => ?_⟩
    · rw [Store.applyAll, List.foldl_append]
      rw [moved] at ended
      exact ended
    · rcases List.mem_append.mp member with first | second
      · exact before op first
      · exact after op second

/-! ## What is published -/

/-- The version is that of a crawl which has nothing left to do and has handed it over, and it is
the tree that the changes of this crawl make. It was the same tree whenever the crawl had nothing
left to do. -/
structure HandedOver (crew : ι → Crawler σ) (start : System ι σ) (moves : List (Move ι))
    (version : Version) (i : ι) : Prop where
  hooked : ((start.run crew moves).loaders i).hooked = true
  drained : ((start.run crew moves).loaders i).drained = true
  named : ((start.run crew moves).loaders i).report.version = some version
  held : ((start.run crew moves).store.generation? version).isSome
  made : (start.run crew moves).store.generation? version = ((start.run crew moves).loaders i).tree
  since (early late : List (Move ι)) (split : moves = early ++ late)
    (ended : ((start.run crew early).loaders i).drained = true) :
    (start.run crew early).store.generation? version =
      (start.run crew moves).store.generation? version

/-- The version that a crawl with nothing left to do has allocated is the one in its report. -/
theorem Loader.Phase.named {loader : Loader σ} {own : Option Version} (phase : loader.Phase own)
    (drained : loader.drained = true) : loader.report.version = own := by
  cases phase with
  | opening unbegun => exact unbegun
  | begun waiting only => simp [Loader.drained, only] at drained
  | filling named => exact named

theorem Kept.handed_over {start : System ι σ} {before : ι → Option Version}
    (began : Kept first start before) {moves : List (Move ι)}
    (kept : Kept first (start.run crew moves) owned) {i : ι} (own : owned i = some version)
    (hooked : ((start.run crew moves).loaders i).hooked = true)
    (held : ((start.run crew moves).store.generation? version).isSome) :
    HandedOver crew start moves version i := by
  have drained := kept.idle hooked
  have named := ((kept.phase i).named drained).trans own
  have made : (start.run crew moves).store.generation? version =
      ((start.run crew moves).loaders i).tree := by
    rcases kept.content own with collected | same
    · rw [collected] at held
      cases held
    · exact same
  refine ⟨hooked, drained, named, held, made, ?_⟩
  intro early late split ended
  obtain ⟨then_owned, then_kept, -⟩ := began.run crew early
  obtain ⟨_, -, passed⟩ := then_kept.run crew late
  rw [← System.run_append, ← split] at passed
  obtain ⟨-, report, written⟩ := passed.rested ended
  have then_own : then_owned i = some version := by
    rw [← (then_kept.phase i).named ended, ← report]
    exact named
  rcases then_kept.content then_own with collected | same
  · rw [passed.gone (then_kept.fresh then_own).2 collected] at held
    cases held
  · rw [made, same, Loader.tree, Loader.tree, written]

/-- Crawls share a store, each with its own client, policy and anchor. However their requests and
their operations on the store are interleaved, the published version never goes back. From the moment
when a version is published it stays as it is until it is collected, and then it is gone for good. It
is a version from before, or the complete tree of one crawl. A crawl that is over when a newer version
has been published changes nothing any more. -/
theorem published_versions_are_final (crew : ι → Crawler σ) (retained : Nat)
    (prior : List (Store.Op Statement)) (world : σ) (moves more : List (Move ι)) :
    let first := (Store.empty retained).applyAll prior
    let start := System.start crew first world
    let system := start.run crew moves
    let later := system.run crew more
    system.store.current ≤ later.store.current ∧
    (later.store.generation? system.store.current =
        system.store.generation? system.store.current ∨
      ∀ further, (later.run crew further).store.generation? system.store.current = none) ∧
    (system.store.current = first.current ∨
      ∃ i, HandedOver crew start moves system.store.current i) ∧
    ∀ i version, (system.loaders i).report.version = some version →
      version ≤ system.store.current →
      (system.move crew (.publish i)).store = system.store := by
  intro first start system later
  have numbered : first.Numbered := Store.numbered_apply_all retained prior
  have began : Kept first start fun _ => none := kept_start crew numbered world
  obtain ⟨owned, kept, -⟩ := began.run crew moves
  obtain ⟨next, ended, passed⟩ := kept.run crew more
  have settled : Settled system owned system.store.current := kept.settled_current numbered
  refine ⟨passed.current, ?_, ?_, ?_⟩
  · rcases (passed.settled settled).2 with same | collected
    · exact .inl same
    · right
      intro further
      obtain ⟨_, -, beyond⟩ := ended.run crew further
      exact beyond.gone (passed.settled settled).1.1 collected
  · rcases kept.published with old | ⟨held, i, own, hooked⟩
    · exact .inl old
    · exact .inr ⟨i, began.handed_over kept own hooked held⟩
  · intro i version named old
    simp only [System.move]
    split
    case isTrue =>
      show (system.loaders i).report.publish system.store = system.store
      rw [Loader.publish_eq, named]
      exact Store.publish_old old
    case isFalse => rfl

/-- Two crawls of the circle of two entities overlap. The first one allocates version 1 and stops
there, the second one publishes version 2, and then the first one goes on until it is over. Its version
is complete, but version 2 stays published, and as it is. -/
theorem published_versions_are_final_circle :
    let crew : Bool → Crawler Unit := fun _ => ⟨circle, ⟨.sequential, .drop, 1⟩, "a"⟩
    let steps (i : Bool) (count : Nat) : List (Move Bool) :=
      (List.replicate count (.send i 3 :: (List.replicate 6 (.act i 0) ++ [.land i 0]))).flatten
    let moves := steps false 2 ++ steps true 5 ++ [.publish true]
    let start := System.start crew ((Store.empty 3).applyAll []) ()
    let system := start.run crew moves
    let later := system.run crew (steps false 3)
    system.store.current = 2 ∧ HandedOver crew start moves 2 true ∧
      later.store.generation? 2 = system.store.generation? 2 ∧
      (later.loaders false).drained = true ∧
      (later.loaders false).report = ⟨"a", some 1, 5, 0, 0, []⟩ ∧
      (later.move crew (.publish false)).store = later.store ∧ later.store.current = 2 := by
  intro crew steps moves start system later
  have current : system.store.current = 2 := by decide +kernel
  have also_current : later.store.current = 2 := by decide +kernel
  have report : (later.loaders false).report = ⟨"a", some 1, 5, 0, 0, []⟩ := by decide +kernel
  have late : (system.loaders false).report.version = some 1 := by decide +kernel
  have run : (System.start crew ((Store.empty 3).applyAll []) ()).run crew moves = system := rfl
  have further : system.run crew (steps false 3) = later := rfl
  obtain ⟨-, kept, finished, -⟩ :=
    published_versions_are_final crew 3 [] () moves (steps false 3)
  obtain ⟨-, -, -, stays⟩ :=
    published_versions_are_final crew 3 [] () (moves ++ steps false 3) []
  rw [System.run_append, run, further] at stays
  rw [run, further, current] at kept
  rw [run, current] at finished
  refine ⟨current, ?_, ?_, by decide +kernel, report, ?_, also_current⟩
  · rcases finished with old | ⟨i, handed⟩
    · cases old
    · cases i with
      | true => exact handed
      | false =>
        have other := handed.named
        rw [run, late] at other
        cases other
  · rcases kept with same | gone
    · exact same
    · have held : (later.store.generation? 2).isSome = true := by decide +kernel
      have collected := gone []
      rw [System.run, List.foldl_nil] at collected
      rw [collected] at held
      cases held
  · apply stays false 1
    · rw [report]
    · rw [also_current]
      decide

end Sharing

end TrustFederation
