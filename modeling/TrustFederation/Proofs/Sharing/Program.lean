import TrustFederation.Crawl.Loop
import TrustFederation.Proofs.Tree.Descent
/-!
# Steps of a crawl that shares the store

Running a step as a whole is what one crawl does when nobody else uses the store. When several use
it, what is atomic is one operation on the store and one request, and between two of them others have
their turn. A program says what is left to do; it makes one operation after the other and sees what
it finds then. Run without a break, the program of a step does what running the step does.
-/
namespace TrustFederation.Sharing

open Client (Request)
open Crawl
open TrustFederation.Tree (Node Reads Store Version)

/-- What is left to do. -/
inductive Program (σ α : Type) where
  /-- Nothing: there is a result. -/
  | done (result : α)
  /-- To ask the world, which changes it. What comes next depends on the world that was asked. -/
  | ask (after : σ → σ) (next : σ → Program σ α)
  /-- To read the store. -/
  | look (next : StatementStore → Program σ α)
  /-- To change the store. What comes next depends on the store after the change. -/
  | change (op : Store.Op Statement) (next : StatementStore → Program σ α)

variable {σ α β : Type}

namespace Program

/-- Goes on with the result of a program. -/
def bind (use : α → Program σ β) : Program σ α → Program σ β
  | .done result => use result
  | .ask after next => .ask after fun world => (next world).bind use
  | .look next => .look fun store => (next store).bind use
  | .change op next => .change op fun store => (next store).bind use

instance : Monad (Program σ) where
  pure := .done
  bind program use := program.bind use

/-- Reading, one read after the other. -/
def reads : Reads (Program σ) Statement where
  current := .look fun store => .done store.current
  root version := .look fun store => .done (store.root? version)
  children version node := .look fun store => .done (store.children version node)
  data version node := .look fun store => .done (store.data? version node)

/-- A request. -/
def call (request : σ → α × σ) : Program σ α :=
  .ask (fun world => (request world).2) fun world => .done (request world).1

/-- A change. -/
def write (op : Store.Op Statement) : Program σ Unit := .change op fun _ => .done ()

/-- Allocates a version with its root. -/
def create (root : Node) (data : Statement) : Program σ Version :=
  .change (.create root data) fun store => .done store.allocated

/-- The next operation of a program. -/
def act (store : StatementStore) (world : σ) :
    Program σ α → Program σ α × StatementStore × σ
  | .done result => (.done result, store, world)
  | .ask after next => (next world, store, after world)
  | .look next => (next store, store, world)
  | .change op next => (next (store.apply op), store.apply op, world)

/-- The change that a program makes next, if its next operation is one. -/
def op? : Program σ α → Option (Store.Op Statement)
  | .change op _ => some op
  | _ => none

/-- The next operation changes the store by the change that it makes, if it makes one. -/
theorem act_store (program : Program σ α) (store : StatementStore) (world : σ) :
    (program.act store world).2.1 = program.op?.elim store store.apply := by
  cases program <;> rfl

/-- A program without a break. -/
def run (store : StatementStore) (world : σ) : Program σ α → α × StatementStore × σ
  | .done result => (result, store, world)
  | .ask after next => (next world).run store (after world)
  | .look next => (next store).run store world
  | .change op next => (next (store.apply op)).run (store.apply op) world

theorem run_bind (program : Program σ α) (use : α → Program σ β) (store : StatementStore)
    (world : σ) :
    (program >>= use).run store world =
      (use (program.run store world).1).run (program.run store world).2.1
        (program.run store world).2.2 := by
  induction program generalizing store world with
  | done result => rfl
  | ask after next ih => exact ih world store (after world)
  | look next ih => exact ih store store world
  | change op next ih => exact ih (store.apply op) (store.apply op) world

/-- What may happen in a program: the changes that it makes are allowed, and the results that it ends
with are good. -/
def Uses (allowed : Store.Op Statement → Prop) (good : α → Prop) : Program σ α → Prop
  | .done result => good result
  | .ask _ next => ∀ world, (next world).Uses allowed good
  | .look next => ∀ store, (next store).Uses allowed good
  | .change op next => allowed op ∧ ∀ store, (next store).Uses allowed good

variable {allowed : Store.Op Statement → Prop} {fine : α → Prop} {good : β → Prop}

theorem Uses.bind {program : Program σ α} {use : α → Program σ β} (first : program.Uses allowed fine)
    (rest : ∀ result, fine result → (use result).Uses allowed good) :
    (program >>= use).Uses allowed good := by
  induction program with
  | done result => exact rest result first
  | ask after next ih => exact fun world => ih world (first world)
  | look next ih => exact fun store => ih store (first store)
  | change op next ih => exact ⟨first.1, fun store => ih store (first.2 store)⟩

theorem Uses.act {program : Program σ α} (uses : program.Uses allowed fine)
    (store : StatementStore) (world : σ) : (program.act store world).1.Uses allowed fine := by
  cases program with
  | done result => exact uses
  | ask after next => exact uses world
  | look next => exact uses store
  | change op next => exact uses.2 (store.apply op)

theorem Uses.permits {program : Program σ α} (uses : program.Uses allowed fine)
    {op : Store.Op Statement} (next : program.op? = some op) : allowed op := by
  cases program with
  | change made rest =>
    obtain rfl := Option.some.inj next
    exact uses.1
  | _ => cases next

end Program

/-! ## The program of a step -/

/-- A program that may fail. -/
abbrev Routine (σ α : Type) := ExceptT Failure (Program σ) α

/-- What a step leaves besides the store: the version if it started one, and the steps that follow. -/
structure Output where
  created : Option Version
  next : List Step
deriving DecidableEq

/-- A program that does not fail. -/
def lift (program : Program σ α) : Routine σ α := ExceptT.lift program

/-- Asks a client. -/
def request (answer : σ → Except Failure α × σ) : Routine σ α := ExceptT.mk (Program.call answer)

/-- Attaches a node with its data under the first node that has the key of its parent. `bound` limits
how deep it looks. -/
def addChild (bound : Nat) (node : Node) (parent : String) (data : Statement) (version : Version) :
    Routine σ Unit := do
  match ← lift (Program.reads.root version) with
  | none => throw (.tree s!"Version {version} has no root")
  | some root =>
    match ← lift (Tree.findNode Program.reads version parent bound root) with
    | none => throw (.tree s!"Parent {parent} not found in version {version}")
    | some found =>
      lift (Program.write (.append node found version))
      lift (Program.write (.setData node data version))

/-- Starts a version with the configuration of the anchor. -/
def start (entity : String) (configuration : Statement) : Routine σ Output := do
  checkStatement configuration entity entity
  let key ← configuration.nodeKey
  let version ← lift (Program.create key.text configuration)
  return ⟨some version, [.listSubordinates configuration]⟩

/-- Attaches a statement below its parent. -/
def attach (bound : Nat) (version : Version) (parent statement : Statement) (next : Step) :
    Routine σ Output := do
  let parentKey ← parent.nodeKey
  let key ← statement.nodeKey
  addChild bound key.text parentKey.text statement version
  return ⟨none, [next]⟩

/-- The program of a step. `version` is the version that the crawl fills, if it has started one. -/
def routine (client : Client σ) (bound : Nat) (step : Step) (useCached : Bool)
    (version : Option Version) : Routine σ Output :=
  match step with
  | .resolveRoot entity => do
    let configuration ←
      request (client.configuration ((Request.plain useCached).withParameter "sub" entity))
    start entity configuration
  | .listSubordinates authority =>
    match authority.endpoints?.filter (·.canListSubordinates) with
    | none => return ⟨none, []⟩
    | some endpoints => do
      let subordinates ←
        request (client.listing ((Request.plain useCached).withEndpoints endpoints))
      return ⟨none, subordinates.map (.fetchSubordinate authority)⟩
  | .fetchSubordinate authority subordinate =>
    match requireVersion version, authority.endpoints? with
    | .error failure, _ => throw failure
    | .ok _, none =>
      throw (.invalidRequest (authority.subject ++ " has no federation_entity metadata"))
    | .ok filled, some endpoints => do
      let statement ← request (client.fetch
        (((Request.plain useCached).withParameter "sub" subordinate).withEndpoints endpoints))
      checkStatement statement authority.subject subordinate
      attach bound filled authority statement (.fetchConfiguration statement)
  | .fetchConfiguration statement =>
    match requireVersion version with
    | .error failure => throw failure
    | .ok filled => do
      let configuration ← request (client.configuration (configurationRequest statement useCached))
      checkStatement configuration statement.subject statement.subject
      attach bound filled statement configuration (.listSubordinates configuration)

/-! ## Without a break -/

/-- Performs a routine without a break. -/
def perform (store : StatementStore) (world : σ) (routine : Routine σ α) :
    Except Failure α × StatementStore × σ := routine.run.run store world

/-- What running a step comes to, told like a routine. A failed step leaves the store as it was. -/
def told (store : StatementStore) : Except Failure Outcome × σ →
    Except Failure Output × StatementStore × σ
  | (.ok outcome, world) => (.ok ⟨outcome.created, outcome.next⟩, outcome.store, world)
  | (.error failure, world) => (.error failure, store, world)

theorem perform_bind (routine : Routine σ α) (use : α → Routine σ β) (store : StatementStore)
    (world : σ) :
    perform store world (routine >>= use) =
      match perform store world routine with
      | (.ok value, after, later) => perform after later (use value)
      | (.error failure, after, later) => (.error failure, after, later) := by
  refine (Program.run_bind routine.run (ExceptT.bindCont use) store world).trans ?_
  unfold perform
  rcases Program.run store world routine.run with ⟨value | failure, after, later⟩ <;> rfl

theorem perform_lift (program : Program σ α) (store : StatementStore) (world : σ) :
    perform store world (lift program) =
      (.ok (program.run store world).1, (program.run store world).2) :=
  Program.run_bind program (fun value => pure (Except.ok value)) store world

/-- A search in a list, one after the other, when what is done for each of them leaves everything as
it was. -/
theorem run_find_some {seek : α → Program σ (Option β)} {answer : α → Option β}
    {store : StatementStore} {world : σ}
    (each : ∀ value, (seek value).run store world = (answer value, store, world)) (values : List α) :
    (values.findSomeM? seek).run store world = (values.findSome? answer, store, world) := by
  induction values with
  | nil => rfl
  | cons value rest ih =>
    refine (Program.run_bind (seek value) _ store world).trans ?_
    rw [each value, List.findSome?_cons]
    cases answer value with
    | none => exact ih
    | some found => rfl

/-- Looking for a node finds what is in the store, and changes nothing. -/
theorem run_find_node (store : StatementStore) (world : σ) (version : Version) (key : String)
    (bound : Nat) (node : Node) :
    (Tree.findNode Program.reads version key bound node).run store world =
      (Tree.found? store version key bound node, store, world) := by
  induction bound generalizing node with
  | zero => rfl
  | succ bound ih =>
    unfold Tree.findNode
    rw [Tree.found_succ]
    by_cases same : node.matches key = true
    · rw [if_pos same, if_pos same]
      rfl
    · rw [if_neg same, if_neg same]
      exact (Program.run_bind (Program.reads.children version node) _ store world).trans
        (run_find_some ih (store.children version node))

/-- The bound on the paths of a version, if a crawl has started one. -/
def boundOf (store : StatementStore) : Option Version → Nat
  | some version => store.pathBound version
  | none => 0

theorem perform_add_child (store : StatementStore) (world : σ) (node : Node) (parent : String)
    (data : Statement) (version : Version) :
    perform store world (addChild (store.pathBound version) node parent data version) =
      match store.addChild node parent data version with
      | .ok attached => (.ok (), attached, world)
      | .error failure => (.error failure, store, world) := by
  unfold addChild Store.addChild
  rw [perform_bind, perform_lift]
  show perform store world (match store.root? version with | none => _ | some root => _) = _
  cases store.root? version with
  | none => rfl
  | some root =>
    dsimp only
    rw [perform_bind, perform_lift, run_find_node]
    show perform store world (match store.findNode version root parent with
      | none => _ | some found => _) = _
    cases store.findNode version root parent with
    | none => rfl
    | some found => rfl

theorem perform_attach (store : StatementStore) (world : σ) (version : Version)
    (parent statement : Statement) (next : Step) :
    perform store world (attach (store.pathBound version) version parent statement next) =
      told store (Crawl.attach version store parent statement next, world) := by
  unfold attach Crawl.attach
  cases parent.nodeKey with
  | error failure => rfl
  | ok parentKey =>
    cases statement.nodeKey with
    | error failure => rfl
    | ok key =>
      show perform store world (addChild _ key.text parentKey.text statement version >>= _) =
        told store ((store.addChild key.text parentKey.text statement version >>= _), world)
      rw [perform_bind, perform_add_child]
      cases store.addChild key.text parentKey.text statement version with
      | error failure => rfl
      | ok attached => rfl

theorem perform_start (entity : String) (configuration : Statement) (store : StatementStore)
    (world : σ) :
    perform store world (start entity configuration) =
      told store (startVersion entity store configuration, world) := by
  unfold start startVersion
  cases checkStatement configuration entity entity with
  | error failure => rfl
  | ok _ =>
    cases configuration.nodeKey with
    | error failure => rfl
    | ok key => rfl

/-- A request, and then what is done with the answer. -/
theorem perform_request (answer : σ → Except Failure α × σ) {use : α → Routine σ Output}
    {reference : α → Except Failure Outcome} {store : StatementStore} (world : σ)
    (each : ∀ value later, perform store later (use value) = told store (reference value, later)) :
    perform store world (request answer >>= use) = told store (andThen (answer world) reference) := by
  rw [perform_bind]
  show (match ((answer world).1, store, (answer world).2) with
    | (.ok value, after, later) => perform after later (use value)
    | (.error failure, after, later) => (.error failure, after, later)) = _
  unfold andThen
  cases (answer world).1 with
  | error failure => rfl
  | ok value => exact each value (answer world).2

/-- A check, and then the rest. -/
theorem perform_check {checked : Except Failure Unit} {rest : Routine σ Output}
    {reference : Except Failure Outcome} {store : StatementStore} {world : σ}
    (same : perform store world rest = told store (reference, world)) :
    perform store world (do checked; rest) = told store (checked >>= fun _ => reference, world) := by
  cases checked with
  | error failure => rfl
  | ok _ => exact same

/-- Without a break, the program of a step does what running the step does. -/
theorem perform_routine (client : Client σ) (step : Step) (useCached : Bool)
    (version : Option Version) (store : StatementStore) (world : σ) :
    perform store world (routine client (boundOf store version) step useCached version) =
      told store (execute client step useCached version store world) := by
  cases step with
  | resolveRoot entity =>
    exact perform_request _ world fun configuration later =>
      perform_start entity configuration store later
  | listSubordinates authority =>
    simp only [routine, execute]
    cases authority.endpoints?.filter (·.canListSubordinates) with
    | none => rfl
    | some endpoints =>
      apply perform_request
      intro subordinates later
      rfl
  | fetchSubordinate authority subordinate =>
    cases version with
    | none => rfl
    | some filled =>
      simp only [routine, execute, requireVersion]
      cases authority.endpoints? with
      | none => rfl
      | some endpoints =>
        exact perform_request _ world fun statement later =>
          perform_check (perform_attach store later filled authority statement _)
  | fetchConfiguration statement =>
    cases version with
    | none => rfl
    | some filled =>
      exact perform_request _ world fun configuration later =>
        perform_check (perform_attach store later filled statement configuration _)

end TrustFederation.Sharing
