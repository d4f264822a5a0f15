import Mathlib.Logic.Function.Basic
import TrustFederation.Proofs.Sharing.Program
/-!
# Crawls that share a store

Any number of crawls run side by side on one store and one world. A crawl takes up an attempt, its
step makes one operation after the other, and the result is dealt with when the step is done; when
nothing is left to do, the version of the crawl is published. A move is one of these by one of the
crawls. Which crawl moves next, and which of its steps, is left open, and so is how long a request
takes: any list of moves is a run. A move that is not possible changes nothing.
-/
namespace TrustFederation.Sharing

open Crawl
open TrustFederation.Tree (Generation Store Version)

/-- What a crawl is run with. -/
structure Crawler (σ : Type) where
  client : Client σ
  policy : Policy
  anchor : String

/-- A step under way. -/
structure Job (σ : Type) where
  attempt : Attempt
  program : Program σ (Except Failure Output)

/-- A crawl that shares the store. -/
structure Loader (σ : Type) where
  /-- The identifiers claimed so far. -/
  claimed : List String
  /-- The attempts that wait, the next one first. -/
  queue : List Attempt
  /-- The attempts that wait for the next round, oldest first. -/
  deferred : List Attempt
  /-- The steps under way, oldest first. -/
  jobs : List (Job σ)
  report : Report
  /-- The changes that its steps have made to the store, oldest first. -/
  written : List (Store.Op Statement)
  /-- The crawl is over, and its version has been handed over for publication. -/
  hooked : Bool

variable {ι σ : Type}

/-- What a change makes of a tree, whatever version it names. -/
def grow : Option (Generation Statement) → Store.Op Statement → Option (Generation Statement)
  | _, .create root data => some (.ofRoot root data)
  | tree, .append child parent _ => tree.map (·.append child parent)
  | tree, .setData node data _ => tree.map (·.setData node data)
  | tree, _ => tree

namespace Loader

/-- Before the first move. -/
def start (anchor : String) : Loader σ :=
  ⟨[Text.lowercase anchor], [.first (.resolveRoot anchor)], [], [], ⟨anchor, none, 0, 0, 0, []⟩, [],
    false⟩

/-- The tree that the changes of the crawl make by themselves. -/
def tree (loader : Loader σ) : Option (Generation Statement) := loader.written.foldl grow none

/-- Nothing waits, nothing is under way and nothing is deferred. -/
def drained (loader : Loader σ) : Bool :=
  loader.queue.isEmpty && loader.jobs.isEmpty && loader.deferred.isEmpty

/-- The crawl as one that has the store for itself, with nothing under way. -/
def state (store : StatementStore) (world : σ) (loader : Loader σ) : State σ :=
  ⟨world, store, loader.claimed, loader.queue, [], loader.deferred, loader.report⟩

/-- The crawl after its records have changed. -/
def resume (state : State σ) (loader : Loader σ) : Loader σ :=
  { loader with
    claimed := state.claimed
    queue := state.queue
    deferred := state.deferred
    report := state.report }

/-- Takes an attempt up. -/
def send (crawler : Crawler σ) (bound : Nat) (attempt : Attempt) (rest : List Attempt)
    (loader : Loader σ) : Loader σ :=
  { loader with
    queue := rest
    jobs := loader.jobs ++ [⟨attempt, routine crawler.client bound attempt.step
      (attempt.useCached crawler.policy.cacheThreshold) loader.report.version⟩] }

/-- Puts the program of a step after its next operation, and notes the change if it is one. -/
def acted (store : StatementStore) (world : σ) (index : Nat) (job : Job σ) (loader : Loader σ) :
    Loader σ :=
  { loader with
    jobs := loader.jobs.set index { job with program := (job.program.act store world).1 }
    written := loader.written ++ job.program.op?.toList }

/-- Deals with the result of a step that is done. -/
def land (policy : Policy) (store : StatementStore) (world : σ) (index : Nat) (attempt : Attempt)
    (result : Except Failure Output) (loader : Loader σ) : Loader σ :=
  let landed := { loader with jobs := loader.jobs.eraseIdx index }
  landed.resume <| match result with
    | .ok output => (landed.state store world).succeed ⟨store, output.created, output.next⟩
    | .error _ => (landed.state store world).fail policy attempt

/-- Opens a round for the deferred attempts. -/
def replay (store : StatementStore) (world : σ) (loader : Loader σ) : Loader σ :=
  loader.resume (loader.state store world).replay

end Loader

/-- Crawls with the store and the world that they share. -/
structure System (ι σ : Type) where
  store : StatementStore
  world : σ
  loaders : ι → Loader σ

/-- What can happen next. -/
inductive Move (ι : Type) where
  /-- A crawl takes its next attempt up, if fewer are under way than its policy allows. The bound is
  the one of the search for the parent, if the step makes one. -/
  | send (loader : ι) (bound : Nat)
  /-- A step makes its next operation. -/
  | act (loader : ι) (job : Nat)
  /-- The result of a step that is done is dealt with. -/
  | land (loader : ι) (job : Nat)
  /-- A crawl with nothing left but deferred attempts opens a round for them. -/
  | replay (loader : ι)
  /-- A crawl with nothing left to do publishes its version. -/
  | publish (loader : ι)
deriving DecidableEq

namespace System

/-- Before the first move. -/
def start (crew : ι → Crawler σ) (store : StatementStore) (world : σ) : System ι σ :=
  ⟨store, world, fun loader => .start (crew loader).anchor⟩

variable [DecidableEq ι]

/-- The system after one crawl and the store have changed. -/
def set (loader : ι) (changed : Loader σ) (store : StatementStore) (system : System ι σ) :
    System ι σ :=
  { system with store := store, loaders := Function.update system.loaders loader changed }

/-- The system after a move. -/
def move (crew : ι → Crawler σ) (system : System ι σ) : Move ι → System ι σ
  | .send i bound =>
    match (system.loaders i).queue with
    | [] => system
    | attempt :: rest =>
      if (system.loaders i).jobs.length < (crew i).policy.execution.maxInFlight then
        system.set i ((system.loaders i).send (crew i) bound attempt rest) system.store
      else system
  | .act i index =>
    match (system.loaders i).jobs[index]? with
    | none => system
    | some job =>
      let (_, store, world) := job.program.act system.store system.world
      { system.set i ((system.loaders i).acted system.store system.world index job) store with
        world := world }
  | .land i index =>
    match (system.loaders i).jobs[index]? with
    | some ⟨attempt, .done result⟩ =>
      system.set i ((system.loaders i).land (crew i).policy system.store system.world index attempt
        result) system.store
    | _ => system
  | .replay i =>
    if (system.loaders i).queue.isEmpty && (system.loaders i).jobs.isEmpty &&
        !(system.loaders i).deferred.isEmpty then
      system.set i ((system.loaders i).replay system.store system.world) system.store
    else system
  | .publish i =>
    if (system.loaders i).drained && !(system.loaders i).hooked then
      system.set i { system.loaders i with hooked := true }
        ((system.loaders i).report.publish system.store)
    else system

/-- The system after several moves. -/
def run (crew : ι → Crawler σ) (system : System ι σ) (moves : List (Move ι)) : System ι σ :=
  moves.foldl (move crew) system

theorem run_append (crew : ι → Crawler σ) (system : System ι σ) (early late : List (Move ι)) :
    system.run crew (early ++ late) = (system.run crew early).run crew late :=
  List.foldl_append

end System

/-! ## What a move can do -/

/-- What a crawl can do in one move: the crawl and the store before and after. -/
inductive Turn (crawler : Crawler σ) (loader : Loader σ) (store : StatementStore) :
    Loader σ → StatementStore → Prop where
  | send {attempt : Attempt} {rest : List Attempt} (bound : Nat)
      (waits : loader.queue = attempt :: rest) :
      Turn crawler loader store (loader.send crawler bound attempt rest) store
  | act {index : Nat} {job : Job σ} (world : σ) (present : loader.jobs[index]? = some job) :
      Turn crawler loader store (loader.acted store world index job)
        (job.program.act store world).2.1
  | land {index : Nat} {attempt : Attempt} {result : Except Failure Output} (world : σ)
      (present : loader.jobs[index]? = some ⟨attempt, .done result⟩) :
      Turn crawler loader store
        (loader.land crawler.policy store world index attempt result) store
  | replay (world : σ) (left : loader.deferred ≠ []) :
      Turn crawler loader store (loader.replay store world) store
  | publish (drained : loader.drained = true) (first : loader.hooked = false) :
      Turn crawler loader store { loader with hooked := true } (loader.report.publish store)

variable [DecidableEq ι] {crew : ι → Crawler σ}

/-- A move changes nothing, or it is a turn of one crawl, and the others stay as they are. -/
theorem move_cases (crew : ι → Crawler σ) (system : System ι σ) (move : Move ι) :
    system.move crew move = system ∨
      ∃ i loader store world, Turn (crew i) (system.loaders i) system.store loader store ∧
        system.move crew move = { system.set i loader store with world := world } := by
  cases move with
  | send i bound =>
    simp only [System.move]
    cases waits : (system.loaders i).queue with
    | nil => exact .inl rfl
    | cons attempt rest =>
      by_cases room : (system.loaders i).jobs.length < (crew i).policy.execution.maxInFlight
      · exact .inr ⟨i, _, _, system.world, .send bound waits, if_pos room⟩
      · exact .inl (if_neg room)
  | act i index =>
    simp only [System.move]
    cases present : (system.loaders i).jobs[index]? with
    | none => exact .inl rfl
    | some job => exact .inr ⟨i, _, _, _, .act system.world present, rfl⟩
  | land i index =>
    simp only [System.move]
    split
    case h_1 attempt result present =>
      exact .inr ⟨i, _, _, system.world, .land system.world present, rfl⟩
    case h_2 => exact .inl rfl
  | replay i =>
    simp only [System.move]
    split
    case isTrue idle =>
      have left : (system.loaders i).deferred ≠ [] := by
        rw [Bool.and_eq_true] at idle
        simpa [List.isEmpty_iff] using idle.2
      exact .inr ⟨i, _, _, system.world, .replay system.world left, rfl⟩
    case isFalse => exact .inl rfl
  | publish i =>
    simp only [System.move]
    split
    case isTrue ended =>
      rw [Bool.and_eq_true] at ended
      have first : (system.loaders i).hooked = false := by simpa using ended.2
      exact .inr ⟨i, _, _, system.world, .publish ended.1 first, rfl⟩
    case isFalse => exact .inl rfl

end TrustFederation.Sharing
