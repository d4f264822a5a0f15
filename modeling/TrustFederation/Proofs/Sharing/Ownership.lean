import TrustFederation.Proofs.Crawl.Turns
import TrustFederation.Proofs.Sharing.System
import TrustFederation.Proofs.Tree.Versions
/-!
# Whose version it is

Nothing in the store keeps a crawl from writing to any version. What does is how a crawl goes on. Its
first step, and no other one, allocates a version, and while that step is under way nothing else is.
All steps that follow are taken up with this version, and the programs of these steps write to it and
to no other. So a turn of a crawl does one of five things to the store, and which of them it can do
depends on the version that the crawl owns.
-/
namespace TrustFederation

open TrustFederation.Tree (Node Reads Store Version)

/-- The step allocates a version. -/
def Crawl.Step.Begins : Crawl.Step → Prop
  | .resolveRoot _ => True
  | _ => False

namespace Sharing

open Crawl

variable {ι σ α β : Type}

/-! ## What the program of a step writes -/

/-- A failure, or a good value. -/
def Yields (good : α → Prop) : Except Failure α → Prop
  | .ok value => good value
  | .error _ => True

/-- A later step allocates no version, and no step that follows it does. -/
def Output.Later (output : Output) : Prop :=
  output.created = none ∧ ∀ step ∈ output.next, ¬ step.Begins

/-- The program of a later step writes to one version. -/
def Program.Fills (version : Version) (program : Program σ (Except Failure Output)) : Prop :=
  program.Uses (Store.Op.Into version) (Yields Output.Later)

/-- The program of the first step fails, or it allocates a version and is done. -/
def Program.Opens : Program σ (Except Failure Output) → Prop
  | .done result => ∃ failure, result = .error failure
  | .ask _ next => ∀ world, (next world).Opens
  | .look next => ∀ store, (next store).Opens
  | .change op next => (∃ root data, op = .create root data) ∧ ∀ store, ∃ steps,
      next store = .done (.ok ⟨some store.allocated, steps⟩) ∧ ∀ step ∈ steps, ¬ step.Begins

section

variable {allowed : Store.Op Statement → Prop} {fine : α → Prop} {good : β → Prop}

theorem uses_bind {routine : Routine σ α} {use : α → Routine σ β}
    (first : routine.run.Uses allowed (Yields fine))
    (rest : ∀ value, fine value → (use value).run.Uses allowed (Yields good)) :
    (routine >>= use).run.Uses allowed (Yields good) := by
  apply Program.Uses.bind first
  intro result yields
  cases result with
  | error failure => exact trivial
  | ok value => exact rest value yields

theorem uses_lift {program : Program σ α} (uses : program.Uses allowed fine) :
    (lift program).run.Uses allowed (Yields fine) :=
  Program.Uses.bind uses fun _ good => good

theorem uses_root (version : Version) :
    (lift (σ := σ) (Program.reads.root version)).run.Uses allowed (Yields fun _ => True) :=
  fun _ => trivial

theorem uses_write {op : Store.Op Statement} (permitted : allowed op) :
    (lift (σ := σ) (Program.write op)).run.Uses allowed (Yields fun _ => True) :=
  ⟨permitted, fun _ => trivial⟩

theorem uses_request (answer : σ → Except Failure α × σ) :
    (request answer).run.Uses allowed (Yields fun _ => True) := by
  intro world
  show Yields _ (answer world).1
  cases (answer world).1 <;> exact trivial

theorem uses_except (result : Except Failure α) :
    (liftM result : Routine σ α).run.Uses allowed (Yields fun _ => True) := by
  cases result <;> exact trivial

/-- A search in a list changes nothing, if what is done for each of them does not. -/
theorem uses_find_some {seek : α → Program σ (Option β)}
    (each : ∀ value, (seek value).Uses allowed fun _ => True) (values : List α) :
    (values.findSomeM? seek).Uses allowed fun _ => True := by
  induction values with
  | nil => exact trivial
  | cons value rest ih =>
    apply Program.Uses.bind (each value)
    intro found _
    cases found with
    | none => exact ih
    | some _ => exact trivial

/-- Looking for a node changes nothing. -/
theorem uses_find_node (version : Version) (key : String) (bound : Nat) (node : Node) :
    (Tree.findNode (Program.reads : Reads (Program σ) Statement) version key bound node).Uses
      allowed fun _ => True := by
  induction bound generalizing node with
  | zero => exact trivial
  | succ bound ih =>
    unfold Tree.findNode
    by_cases same : node.matches key = true
    · rw [if_pos same]
      exact trivial
    · rw [if_neg same]
      intro store
      exact uses_find_some ih (store.children version node)

end

theorem add_child_fills (bound : Nat) (node : Node) (parent : String) (data : Statement)
    (version : Version) :
    (addChild (σ := σ) bound node parent data version).run.Uses (Store.Op.Into version)
      (Yields fun _ => True) := by
  apply uses_bind (uses_root version)
  intro root _
  cases root with
  | none => exact trivial
  | some root =>
    apply uses_bind (uses_lift (uses_find_node version parent bound root))
    intro found _
    cases found with
    | none => exact trivial
    | some found =>
      have appends : Store.Op.Into version (.append node found version : Store.Op Statement) := rfl
      have sets : Store.Op.Into version (.setData node data version : Store.Op Statement) := rfl
      apply uses_bind (uses_write appends)
      intro _ _
      exact uses_write sets

theorem attach_fills (bound : Nat) (version : Version) (parent statement : Statement) {next : Step}
    (later : ¬ next.Begins) :
    (attach (σ := σ) bound version parent statement next).run.Fills version := by
  apply uses_bind (uses_except parent.nodeKey)
  intro parentKey _
  apply uses_bind (uses_except statement.nodeKey)
  intro key _
  apply uses_bind (add_child_fills bound key.text parentKey.text statement version)
  intro _ _
  exact ⟨rfl, fun step member => List.mem_singleton.mp member ▸ later⟩

/-- A later step that is taken up with a version writes to this version. -/
theorem routine_fills (client : Client σ) (bound : Nat) {step : Step} (later : ¬ step.Begins)
    (useCached : Bool) (version : Version) :
    (routine client bound step useCached (some version)).run.Fills version := by
  cases step with
  | resolveRoot entity => exact absurd trivial later
  | listSubordinates authority =>
    simp only [routine]
    cases authority.endpoints?.filter (·.canListSubordinates) with
    | none => exact ⟨rfl, fun step member => absurd member List.not_mem_nil⟩
    | some endpoints =>
      apply uses_bind (uses_request _)
      intro subordinates _
      refine ⟨rfl, ?_⟩
      intro step member
      obtain ⟨subordinate, -, rfl⟩ := List.mem_map.mp member
      exact not_false
  | fetchSubordinate authority subordinate =>
    simp only [routine, requireVersion]
    cases authority.endpoints? with
    | none => exact trivial
    | some endpoints =>
      apply uses_bind (uses_request _)
      intro statement _
      apply uses_bind (uses_except _)
      intro _ _
      exact attach_fills bound version authority statement not_false
  | fetchConfiguration statement =>
    apply uses_bind (uses_request _)
    intro configuration _
    apply uses_bind (uses_except _)
    intro _ _
    exact attach_fills bound version statement configuration not_false

/-- The first step opens. -/
theorem routine_opens (client : Client σ) (bound : Nat) {step : Step} (first : step.Begins)
    (useCached : Bool) (version : Option Version) :
    (routine client bound step useCached version).run.Opens := by
  cases step with
  | resolveRoot entity =>
    intro world
    show Program.Opens (ExceptT.bindCont (start entity) (client.configuration _ world).1)
    cases (client.configuration ((Client.Request.plain useCached).withParameter "sub" entity)
      world).1 with
    | error failure => exact ⟨failure, rfl⟩
    | ok configuration =>
      show (start entity configuration).run.Opens
      unfold start
      cases checkStatement configuration entity entity with
      | error failure => exact ⟨failure, rfl⟩
      | ok _ =>
        cases configuration.nodeKey with
        | error failure => exact ⟨failure, rfl⟩
        | ok key =>
          refine ⟨⟨key.text, configuration, rfl⟩, fun store => ⟨_, rfl, ?_⟩⟩
          intro step member
          exact List.mem_singleton.mp member ▸ not_false
  | _ => exact absurd first not_false

/-! ## Where a crawl stands -/

namespace Loader

/-- The steps that are still to be done. -/
def steps (loader : Loader σ) : List Step :=
  loader.jobs.map (·.attempt.step) ++ (loader.queue ++ loader.deferred).map (·.step)

/-- Where a crawl stands, with the version that it owns. -/
inductive Phase (loader : Loader σ) : Option Version → Prop where
  /-- No version is allocated. The only step left, if there is one, is the first. -/
  | opening (unbegun : loader.report.version = none) (alone : loader.steps.length ≤ 1)
      (first : ∀ step ∈ loader.steps, step.Begins)
      (programs : ∀ job ∈ loader.jobs, job.program.Opens) : Phase loader none
  /-- The first step has allocated the version and is done. -/
  | begun {version : Version} {attempt : Attempt} {next : List Step}
      (waiting : loader.queue ++ loader.deferred = [])
      (only : loader.jobs = [⟨attempt, .done (.ok ⟨some version, next⟩)⟩])
      (later : ∀ step ∈ next, ¬ step.Begins) : Phase loader (some version)
  /-- The version is being filled, or finished. -/
  | filling {version : Version} (named : loader.report.version = some version)
      (later : ∀ step ∈ loader.steps, ¬ step.Begins)
      (programs : ∀ job ∈ loader.jobs, job.program.Fills version) : Phase loader (some version)

/-- What a turn of a crawl does: the crawl, the version that it owns and the store, before and
after. -/
inductive Did (loader : Loader σ) (store : StatementStore) :
    Option Version → Loader σ → Option Version → StatementStore → Prop where
  /-- It changes nothing in the store. -/
  | quiet {owned : Option Version} {after : Loader σ} (busy : loader.drained = false)
      (written : after.written = loader.written) (hooked : after.hooked = loader.hooked) :
      Did loader store owned after owned store
  /-- It allocates its version. -/
  | began {after : Loader σ} (root : Node) (data : Statement) (busy : loader.drained = false)
      (written : after.written = loader.written ++ [.create root data])
      (hooked : after.hooked = loader.hooked) :
      Did loader store none after (some (store.allocated + 1)) (store.create root data)
  /-- It writes to its version. -/
  | filled {version : Version} {after : Loader σ} {op : Store.Op Statement}
      (busy : loader.drained = false) (into : op.Into version)
      (written : after.written = loader.written ++ [op]) (hooked : after.hooked = loader.hooked) :
      Did loader store (some version) after (some version) (store.apply op)
  /-- It is over without a version. -/
  | gaveUp (drained : loader.drained = true) :
      Did loader store none { loader with hooked := true } none store
  /-- It is over and publishes its version. -/
  | published {version : Version} (drained : loader.drained = true)
      (named : loader.report.version = some version) :
      Did loader store (some version) { loader with hooked := true } (some version)
        (store.publish version)

variable {crawler : Crawler σ} {loader : Loader σ} {store : StatementStore} {world : σ}
  {index : Nat} {job : Job σ} {attempt : Attempt} {result : Except Failure Output}

theorem steps_send (crawler : Crawler σ) {rest : List Attempt} (bound : Nat)
    (waits : loader.queue = attempt :: rest) :
    (loader.send crawler bound attempt rest).steps.Perm loader.steps := by
  simp only [steps, send, waits, List.map_append, List.cons_append, List.map_cons, List.map_nil,
    List.append_assoc, List.nil_append]
  exact .refl _

theorem steps_acted (store : StatementStore) (world : σ)
    (present : loader.jobs[index]? = some job) :
    (loader.acted store world index job).steps = loader.steps := by
  obtain ⟨inside, rfl⟩ := List.getElem?_eq_some_iff.mp present
  have same := congrArg (List.map (·.attempt.step)) (List.set_getElem_self inside)
  rw [List.map_set] at same
  simp only [steps, acted, List.map_set, same]

theorem steps_landed (present : loader.jobs[index]? = some job) :
    loader.steps.Perm
      (job.attempt.step :: { loader with jobs := loader.jobs.eraseIdx index }.steps) := by
  obtain ⟨inside, rfl⟩ := List.getElem?_eq_some_iff.mp present
  have moved : (loader.jobs[index] :: loader.jobs.eraseIdx index).Perm loader.jobs :=
    List.getElem_cons_eraseIdx_perm inside
  exact ((moved.map (·.attempt.step)).append_right _).symm

/-- With its records changed, a crawl has the steps to do that are under way or pending. -/
theorem steps_resume (state : State σ) (none_flies : state.inFlight = []) :
    (loader.resume state).steps = loader.jobs.map (·.attempt.step) ++ state.pending := by
  simp only [steps, resume, State.pending, State.scheduled, none_flies, List.map_nil,
    List.nil_append]

theorem steps_replay (store : StatementStore) (world : σ) (loader : Loader σ) :
    (loader.replay store world).steps.Perm loader.steps := by
  rw [replay, steps_resume _ rfl]
  exact ((State.scheduled_replay (loader.state store world)).map (·.step)).append_left _

/-- What was kept of a listing was listed. -/
theorem mem_of_claim {claimed : List String} {steps : List Step} {step : Step}
    (kept : step ∈ (State.claim claimed steps).1) : step ∈ steps := by
  induction steps generalizing claimed with
  | nil => exact kept
  | cons other rest ih =>
    cases other with
    | fetchSubordinate authority subordinate =>
      simp only [State.claim] at kept
      split at kept
      case isTrue => exact List.mem_cons_of_mem _ (ih kept)
      case isFalse =>
        rcases List.mem_cons.mp kept with rfl | later
        · exact List.mem_cons_self
        · exact List.mem_cons_of_mem _ (ih later)
    | _ =>
      rcases List.mem_cons.mp kept with rfl | later
      · exact List.mem_cons_self
      · exact List.mem_cons_of_mem _ (ih later)

/-- A result that fails leaves steps that were there, and names no version. -/
theorem land_failed (policy : Policy) (store : StatementStore) (world : σ) (failure : Failure)
    (present : loader.jobs[index]? = some ⟨attempt, .done (.error failure)⟩) :
    let after := loader.land policy store world index attempt (.error failure)
    after.steps.length ≤ loader.steps.length ∧ after.steps ⊆ loader.steps ∧
      after.report.version = loader.report.version := by
  intro after
  let landed := { loader with jobs := loader.jobs.eraseIdx index }
  have kept := State.fail_keeps policy attempt (landed.state store world)
  have split : loader.steps.Perm (attempt.step :: landed.steps) := steps_landed present
  have steps : after.steps = landed.jobs.map (·.attempt.step) ++
      ((landed.state store world).fail policy attempt).pending := steps_resume _ kept.2.2.2.2
  have old : landed.steps = landed.jobs.map (·.attempt.step) ++ (landed.state store world).pending :=
    rfl
  have few : after.steps.Perm (attempt.step :: landed.steps) ∨ after.steps.Perm landed.steps := by
    rw [steps, old]
    rcases State.pending_fail policy attempt (landed.state store world) with again | dropped
    · exact .inl ((again.append_left _).trans List.perm_middle)
    · exact .inr (dropped.append_left _)
  refine ⟨?_, ?_, kept.2.2.2.1⟩
  · rcases few with again | dropped
    · exact Nat.le_of_eq (again.trans split.symm).length_eq
    · rw [dropped.length_eq, split.length_eq]
      exact Nat.le_succ _
  · intro step member
    apply split.symm.subset
    rcases few with again | dropped
    · exact again.subset member
    · exact List.mem_cons_of_mem _ (dropped.subset member)

/-- A result that succeeds leaves the other steps, and those that it names. -/
theorem land_succeeded (loader : Loader σ) (policy : Policy) (store : StatementStore) (world : σ)
    (index : Nat) (attempt : Attempt) (output : Output) :
    let after := loader.land policy store world index attempt (.ok output)
    (∀ step ∈ after.steps,
      step ∈ output.next ∨ step ∈ { loader with jobs := loader.jobs.eraseIdx index }.steps) ∧
      after.report.version = output.created.orElse fun _ => loader.report.version := by
  intro after
  let landed := { loader with jobs := loader.jobs.eraseIdx index }
  have steps : after.steps = landed.jobs.map (·.attempt.step) ++
      ((landed.state store world).succeed ⟨store, output.created, output.next⟩).pending :=
    steps_resume _ rfl
  have old : landed.steps = landed.jobs.map (·.attempt.step) ++ (landed.state store world).pending :=
    rfl
  refine ⟨?_, rfl⟩
  intro step member
  rw [steps] at member
  rcases List.mem_append.mp member with under | waits
  · exact .inr (old ▸ List.mem_append_left _ under)
  · rcases List.mem_append.mp ((State.pending_succeed _ _).subset waits) with brought | before
    · exact .inl (mem_of_claim brought)
    · exact .inr (old ▸ List.mem_append_right _ before)

/-! ## Turns -/

theorem phase_start (anchor : String) : (start anchor : Loader σ).Phase none := by
  refine .opening rfl ?_ ?_ fun job member => absurd member List.not_mem_nil
  · simp [steps, start]
  · intro step member
    obtain rfl : step = .resolveRoot anchor := by simpa [steps, start, Attempt.first] using member
    exact trivial

/-- A crawl with a step under way is not drained. -/
theorem busy_of_job (present : loader.jobs[index]? = some job) : loader.drained = false := by
  have some_job : loader.jobs ≠ [] := by
    intro none_left
    rw [none_left] at present
    cases present
  simp [drained, some_job]

/-- Nothing but the version of a crawl is taken from its report when it is published. -/
theorem publish_eq (report : Report) (store : StatementStore) :
    report.publish store = match report.version with
      | some version => store.publish version
      | none => store := rfl

namespace Phase

variable {owned : Option Version}

/-- Of a crawl that has one step left, which is under way, there is nothing else. -/
theorem only_job (alone : loader.steps.length ≤ 1) (present : loader.jobs[index]? = some job) :
    loader.jobs = [job] ∧ index = 0 ∧ loader.queue ++ loader.deferred = [] := by
  obtain ⟨inside, rfl⟩ := List.getElem?_eq_some_iff.mp present
  simp only [steps, List.length_append, List.length_map] at alone
  have single : loader.jobs.length = 1 := by omega
  have first : index = 0 := by omega
  subst first
  obtain ⟨only, jobs⟩ := List.length_eq_one_iff.mp single
  refine ⟨?_, rfl, ?_⟩
  · simp only [jobs, List.getElem_cons_zero]
  · rw [← List.length_eq_zero_iff, List.length_append]
    omega

theorem send (phase : Phase loader owned) {rest : List Attempt} (bound : Nat)
    (waits : loader.queue = attempt :: rest) :
    Phase (loader.send crawler bound attempt rest) owned := by
  have same := steps_send crawler bound waits
  have member : attempt.step ∈ loader.steps := by simp [steps, waits]
  cases phase with
  | opening unbegun alone first programs =>
    refine .opening unbegun (same.length_eq ▸ alone)
      (fun step inside => first step (same.subset inside)) ?_
    intro job inside
    rcases List.mem_append.mp inside with old | new
    · exact programs job old
    · rw [List.mem_singleton.mp new]
      exact routine_opens crawler.client bound (first _ member) _ _
  | begun waiting only later =>
    rw [waits] at waiting
    cases waiting
  | filling named later programs =>
    refine .filling named (fun step inside => later step (same.subset inside)) ?_
    intro job inside
    rcases List.mem_append.mp inside with old | new
    · exact programs job old
    · rw [List.mem_singleton.mp new, named]
      exact routine_fills crawler.client bound (later _ member) _ _

theorem replay (phase : Phase loader owned) (store : StatementStore) (world : σ)
    (left : loader.deferred ≠ []) :
    Phase (loader.replay store world) owned := by
  have same := steps_replay store world loader
  cases phase with
  | opening unbegun alone first programs =>
    exact .opening unbegun (same.length_eq ▸ alone)
      (fun step inside => first step (same.subset inside)) programs
  | begun waiting only later => exact absurd (List.append_eq_nil_iff.mp waiting).2 left
  | filling named later programs =>
    exact .filling named (fun step inside => later step (same.subset inside)) programs

theorem land (phase : Phase loader owned) (policy : Policy) (store : StatementStore) (world : σ)
    (present : loader.jobs[index]? = some ⟨attempt, .done result⟩) :
    Phase (loader.land policy store world index attempt result) owned := by
  have inside : ⟨attempt, .done result⟩ ∈ loader.jobs := List.mem_of_getElem? present
  have fewer {job : Job σ} (left : job ∈ loader.jobs.eraseIdx index) : job ∈ loader.jobs :=
    List.mem_of_mem_eraseIdx left
  cases phase with
  | opening unbegun alone first programs =>
    obtain ⟨failure, rfl⟩ := programs _ inside
    obtain ⟨few, subset, version⟩ := land_failed policy store world failure present
    exact .opening (version.trans unbegun) (few.trans alone)
      (fun step member => first step (subset member)) (fun job left => programs job (fewer left))
  | @begun version first next waiting only later =>
    -- The step under way is the first one, and it leaves nothing but what it names.
    obtain ⟨single, same⟩ := List.getElem?_eq_some_iff.mp present
    obtain rfl : index = 0 := by
      rw [only] at single
      exact Nat.lt_one_iff.mp single
    simp only [only, List.getElem_cons_zero, Job.mk.injEq, Program.done.injEq] at same
    obtain ⟨rfl, rfl⟩ := same
    have nothing : { loader with jobs := loader.jobs.eraseIdx 0 }.steps = [] := by
      simp [steps, only, waiting]
    obtain ⟨origin, named⟩ :=
      land_succeeded loader policy store world 0 first ⟨some version, next⟩
    refine .filling named ?_ ?_
    · intro step member
      rcases origin step member with brought | old
      · exact later step brought
      · rw [nothing] at old
        cases old
    · intro job left
      have left : job ∈ loader.jobs.eraseIdx 0 := left
      rw [only] at left
      cases left
  | filling named later programs =>
    cases result with
    | error failure =>
      obtain ⟨few, subset, version⟩ := land_failed policy store world failure present
      exact .filling (version.trans named) (fun step member => later step (subset member))
        (fun job left => programs job (fewer left))
    | ok output =>
      obtain ⟨origin, version⟩ := land_succeeded loader policy store world index attempt output
      have calm : output.Later := programs _ inside
      refine .filling ?_ ?_ (fun job left => programs job (fewer left))
      · rw [version, calm.1]
        exact named
      · intro step member
        rcases origin step member with brought | old
        · exact calm.2 step brought
        · exact later step ((steps_landed present).symm.subset (List.mem_cons_of_mem _ old))

/-- The next operation of a step under way. -/
theorem act (phase : Phase loader owned) (world : σ) (present : loader.jobs[index]? = some job) :
    ∃ after, Phase (loader.acted store world index job) after ∧
      Did loader store owned (loader.acted store world index job) after
        (job.program.act store world).2.1 := by
  have busy := busy_of_job present
  have inside : job ∈ loader.jobs := List.mem_of_getElem? present
  have steps := steps_acted store world present
  have others {other : Job σ} (member : other ∈ (loader.acted store world index job).jobs) :
      other ∈ loader.jobs ∨ other = { job with program := (job.program.act store world).1 } :=
    List.mem_or_eq_of_mem_set member
  have quiet (none_next : job.program.op? = none) :
      Did loader store owned (loader.acted store world index job) owned
        (job.program.act store world).2.1 := by
    rw [Program.act_store, none_next]
    refine .quiet busy ?_ rfl
    simp [acted, none_next]
  cases phase with
  | opening unbegun alone first programs =>
    have opens := programs job inside
    have still (goes_on : (job.program.act store world).1.Opens) :
        Phase (loader.acted store world index job) none := by
      refine .opening unbegun (steps ▸ alone) (steps ▸ first) ?_
      intro other member
      rcases others member with old | rfl
      · exact programs other old
      · exact goes_on
    obtain ⟨only, rfl, waiting⟩ := only_job alone present
    obtain ⟨attempt, program⟩ := job
    cases program with
    | done result => exact ⟨none, still opens, quiet rfl⟩
    | ask after next => exact ⟨none, still (opens world), quiet rfl⟩
    | look next => exact ⟨none, still (opens store), quiet rfl⟩
    | change op next =>
      obtain ⟨⟨root, data, rfl⟩, ends⟩ := opens
      obtain ⟨steps, last, later⟩ := ends (store.create root data)
      have ended : loader.jobs.set 0 ⟨attempt, next (store.create root data)⟩ =
          [⟨attempt, .done (.ok ⟨some (store.allocated + 1), steps⟩)⟩] := by
        rw [only, last]
        rfl
      exact ⟨some (store.allocated + 1), .begun waiting ended later, .began root data busy rfl rfl⟩
  | @begun version first next waiting only later =>
    rw [only] at present
    obtain ⟨single, rfl⟩ := List.getElem?_eq_some_iff.mp present
    obtain rfl : index = 0 := Nat.lt_one_iff.mp single
    have same : loader.jobs.set 0 ⟨first, .done (.ok ⟨some version, next⟩)⟩ =
        [⟨first, .done (.ok ⟨some version, next⟩)⟩] := by
      rw [only]
      rfl
    exact ⟨some version, .begun waiting same later, quiet rfl⟩
  | @filling version named later programs =>
    have fills := programs job inside
    refine ⟨some version, .filling named (steps ▸ later) ?_, ?_⟩
    · intro other member
      rcases others member with old | rfl
      · exact programs other old
      · exact fills.act store world
    · cases next : job.program.op? with
      | none => exact quiet next
      | some op =>
        rw [Program.act_store, next]
        refine .filled busy (fills.permits next) ?_ rfl
        simp [acted, next]

/-- Every turn of a crawl is one of these. -/
theorem turn {after : Loader σ} {changed : StatementStore} (phase : Phase loader owned)
    (turn : Turn crawler loader store after changed) :
    ∃ next, Phase after next ∧ Did loader store owned after next changed := by
  cases turn with
  | send bound waits =>
    refine ⟨owned, phase.send bound waits, .quiet ?_ rfl rfl⟩
    simp [drained, waits]
  | act world present => exact phase.act world present
  | land world present =>
    exact ⟨owned, phase.land _ _ _ present, .quiet (busy_of_job present) rfl rfl⟩
  | replay world left =>
    refine ⟨owned, phase.replay _ _ left, .quiet ?_ rfl rfl⟩
    simp [drained, left]
  | publish ended first =>
    cases phase with
    | opening unbegun alone begins programs =>
      rw [publish_eq, unbegun]
      exact ⟨none, .opening unbegun alone begins programs, .gaveUp ended⟩
    | begun waiting only later =>
      simp [drained, only] at ended
    | @filling version named later programs =>
      rw [publish_eq, named]
      exact ⟨some version, .filling named later programs, .published ended named⟩

end Phase

end Loader

end Sharing

end TrustFederation
