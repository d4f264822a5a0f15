import TrustFederation.Proofs.Crawl.Turns
import TrustFederation.Proofs.Refresh.Parties
import TrustFederation.Refresh.Scheduler
import TrustFederation.Refresh.Script
/-!
# A scheduler as a run of parties

A scheduler runs its crawls itself, and while one runs the world may ask it for refreshes. What it
does is a run of the parties all the same: for each of its refreshes another party calls, and what the
world asks for during a crawl are requests. So whatever holds of all runs of parties holds of a
scheduler. The bound on the crawls of one refresh may cut a refresh short, and then its party never
gets hold of the state again, but it is a run still.
-/
namespace TrustFederation.Refresh

open Shared
open Crawl (Policy Report StatementStore execute)

variable {ι σ : Type}

/-- While a crawl runs, all that can become of the state is that it gets stale. -/
def Touched (before after : State) : Prop := before ≠ .idle → after = before ∨ after = .stale

/-- Whatever a client is asked, it only asks for refreshes itself. -/
structure Polite (client : Client (State × σ)) : Prop where
  configuration (request : Client.Request) (world : State × σ) :
    Touched world.1 (client.configuration request world).2.1
  fetch (request : Client.Request) (world : State × σ) :
    Touched world.1 (client.fetch request world).2.1
  listing (request : Client.Request) (world : State × σ) :
    Touched world.1 (client.listing request world).2.1

namespace Touched

theorem refl (state : State) : Touched state state := fun _ => .inl rfl

theorem trans {first second third : State} (early : Touched first second)
    (late : Touched second third) : Touched first third := by
  intro going
  rcases early going with rfl | rfl
  · exact late going
  · exact .inr ((late nofun).elim id id)

theorem going {before after : State} (touched : Touched before after) (going : before ≠ .idle) :
    after ≠ .idle := by
  rcases touched going with rfl | rfl
  · exact going
  · exact nofun

end Touched

/-- An action that is performed while a crawl runs makes it stale, or only looks at the state. -/
theorem touched_apply (action : Action) (state : State) :
    Touched state (action.apply state).2 := by
  intro going
  cases action <;> cases state <;> simp_all [Action.apply, State.begin, State.request]

namespace WatchedScript

theorem touched_perform (call : String) (actions : List Action) (state : State)
    (watched : WatchedScript) : Touched state (perform call actions (state, watched)).1 := by
  induction actions generalizing state watched with
  | nil => exact .refl _
  | cons action rest ih => exact (touched_apply action state).trans (ih _ _)

theorem touched_answer {α : Type} (call : String)
    (ask : Client.Script → Except Failure α × Client.Script) (world : State × WatchedScript) :
    Touched world.1 (answer call ask world).2.1 :=
  touched_perform call _ world.1 _

/-- A script with triggers asks for nothing but refreshes. -/
theorem polite_client : Polite client :=
  ⟨fun _ => touched_answer _ _, fun _ => touched_answer _ _, fun _ => touched_answer _ _⟩

end WatchedScript

/-! ## A crawl only makes the state stale -/

section

variable {client : Client (State × σ)} {policy : Policy}

theorem touched_execute (polite : Polite client) (step : Crawl.Step) (useCached : Bool)
    (version : Option Tree.Version) (store : StatementStore) (world : State × σ) :
    Touched world.1 (execute client step useCached version store world).2.1 := by
  cases step with
  | resolveRoot entity => exact polite.configuration _ world
  | listSubordinates authority =>
    simp only [execute]
    split
    · exact .refl _
    · exact polite.listing _ world
  | fetchSubordinate authority subordinate =>
    simp only [execute]
    split
    · exact .refl _
    · exact .refl _
    · exact polite.fetch _ world
  | fetchConfiguration statement =>
    simp only [execute]
    split
    · exact .refl _
    · exact polite.configuration _ world

theorem touched_complete (polite : Polite client) (flight : Crawl.Flight)
    (state : Crawl.State (State × σ)) {world : State × σ} (same : state.world = world) :
    Touched world.1 (state.complete client policy flight).world.1 := by
  subst same
  have touched := touched_execute polite flight.attempt.step
    (flight.attempt.useCached policy.cacheThreshold) flight.version state.store state.world
  simp only [Crawl.State.complete]
  split
  · exact touched
  · simp only [Crawl.State.fail]
    split <;> exact touched

theorem touched_run (polite : Polite client) (choices : Nat → Nat) (turns : Nat)
    (state : Crawl.State (State × σ)) :
    Touched state.world.1 (state.run client policy choices turns).world.1 := by
  induction turns generalizing state with
  | zero => exact .refl _
  | succ turns ih =>
    simp only [Crawl.State.run]
    cases advanced : state.advance client policy (choices turns) with
    | none => exact .refl _
    | some next =>
      refine .trans ?_ (ih next)
      rcases Crawl.State.advance_cases advanced with ⟨-, -, rfl⟩ | ⟨inside, rfl⟩
      · exact .refl _
      · exact touched_complete polite _ _ rfl

end

/-! ## A refresh is a run -/

namespace Scheduler

section

variable [DecidableEq ι] {plan : Plan σ} {loops : ι → Bool} {i : ι} {running : Nat}
  {scheduler middle after : Scheduler σ} {system : System ι}

/-- The state and the notice of a scheduler are those that parties share. It has counted every crawl
that started, but for those that run. -/
structure Shares (running : Nat) (scheduler : Scheduler σ) (system : System ι) : Prop where
  state_eq : scheduler.state = system.state
  notice_eq : scheduler.notice = system.notice
  crawls_eq : (landings system.events).length = scheduler.crawls + running

/-- A run in which one party moves and others request ends in what a scheduler shares. -/
structure Leads (loops : ι → Bool) (i : ι) (system : System ι) (running : Nat)
    (after : Scheduler σ) (moves : List (Move ι)) : Prop where
  shares : after.Shares running (system.run loops moves)
  party : ∀ move ∈ moves, ∀ j, move.party = some j → j = i

theorem Leads.append {early late : List (Move ι)}
    (first : Leads loops i system running middle early)
    (second : Leads loops i (system.run loops early) 0 after late) :
    Leads loops i system 0 after (early ++ late) where
  shares := by
    rw [System.run_append]
    exact second.shares
  party move member := (List.mem_append.mp member).elim (first.party move) (second.party move)

theorem leads_of_move {move : Move ι} (moved : after.Shares running (system.move loops move))
    (party : move.party = some i) : Leads loops i system running after [move] where
  shares := moved
  party other member j mine := by
    obtain rfl := List.mem_singleton.mp member
    exact Option.some.inj (mine.symm.trans party)

/-- The other parties stay where they are. -/
theorem Leads.elsewhere {moves : List (Move ι)} (leads : Leads loops i system running after moves)
    {j : ι} (other : j ≠ i) : (system.run loops moves).phases j = system.phases j := by
  have party := leads.party
  clear leads
  induction moves generalizing system with
  | nil => rfl
  | cons move rest ih =>
    refine (ih fun _ member => party _ (List.mem_cons_of_mem _ member)).trans ?_
    rcases move_cases loops system move with same | turn
    · rw [same]
    · exact elsewhere_turn turn fun mine => other (party move List.mem_cons_self j mine)

/-- A refresh that is requested is a move. -/
theorem shares_request (loops : ι → Bool) (shares : scheduler.Shares running system) :
    scheduler.requestRefresh.Shares running (system.move loops .request) := by
  obtain ⟨same, also, counted⟩ := shares
  exact ⟨by simp only [requestRefresh, System.move, same],
    by simp only [requestRefresh, System.move, same, also],
    (length_landings_of_asks rfl system.events).trans counted⟩

/-- A party that has called gets hold of the state. -/
theorem enter_leads (loops : ι → Bool) (shares : scheduler.Shares 0 system)
    (calls : system.phases i = .calling) :
    scheduler.state.begin = (true, .running) ∧
        (system.move loops (.enter i)).phases i = .crawling ∧
        Leads loops i system 1 { scheduler with state := .running } [.enter i] ∨
      scheduler.state.begin = (false, .stale) ∧
        Leads loops i system 0 { scheduler with state := .stale } [.enter i] := by
  obtain ⟨same, also, counted⟩ := shares
  have turn : Turn loops system (.enter i) (system.move loops (.enter i)) := turn_of_enter calls
  generalize moved : system.move loops (.enter i) = next at turn
  rw [same]
  cases turn with
  | started calls idle =>
    refine .inl ⟨by rw [idle]; rfl, Function.update_self .., leads_of_move ?_ rfl⟩
    rw [moved]
    exact ⟨rfl, also, congrArg (· + 1) counted⟩
  | refused calls going =>
    have refuses : system.state.begin = (false, .stale) := by
      cases found : system.state with
      | idle => exact absurd found going
      | running | stale => rfl
    refine .inr ⟨refuses, leads_of_move ?_ rfl⟩
    rw [moved]
    exact ⟨rfl, also, (length_landings_of_asks rfl system.events).trans counted⟩

/-- A party whose crawl is over gets hold of the state. -/
theorem leave_leads (loops : ι → Bool) (shares : scheduler.Shares 0 system)
    (leaves : system.phases i = .leaving) :
    scheduler.state.finish = (true, .running) ∧
        (system.move loops (.leave i)).phases i = .crawling ∧
        Leads loops i system 1 { scheduler with state := .running } [.leave i] ∨
      scheduler.state.finish = (false, .idle) ∧
        Leads loops i system 0 { scheduler with state := .idle } [.leave i] := by
  obtain ⟨same, also, counted⟩ := shares
  have turn : Turn loops system (.leave i) (system.move loops (.leave i)) := turn_of_leave leaves
  generalize moved : system.move loops (.leave i) = next at turn
  rw [same]
  cases turn with
  | followed ended stale =>
    refine .inl ⟨by rw [stale]; rfl, Function.update_self .., leads_of_move ?_ rfl⟩
    rw [moved]
    exact ⟨rfl, also, congrArg (· + 1) counted⟩
  | returned ended fresh =>
    have returns : system.state.finish = (false, .idle) := by
      cases found : system.state with
      | stale => exact absurd found fresh
      | running | idle => rfl
    refine .inr ⟨returns, leads_of_move ?_ rfl⟩
    rw [moved]
    exact ⟨rfl, also, counted⟩

/-- While a crawl runs others may request a refresh. Then it is over. -/
theorem crawl_leads (loops : ι → Bool) (polite : Polite plan.client)
    (shares : scheduler.Shares 1 system) (crawls : system.phases i = .crawling)
    (going : scheduler.state ≠ .idle) :
    ∃ moves, Leads loops i system 0 (scheduler.crawl plan).2 moves ∧
      (system.run loops moves).phases i = .leaving := by
  have touched : Touched scheduler.state (scheduler.crawl plan).2.state :=
    touched_run polite _ _ (Crawl.State.start plan.root scheduler.store
      (scheduler.state, scheduler.world))
  obtain ⟨same, also, counted⟩ := shares
  -- However often the world asks during the crawl, one request has the same effect.
  rcases touched going with unchanged | stale
  · have ended : system.run loops [.complete i] = system.put i .leaving := if_pos crawls
    refine ⟨[.complete i], leads_of_move ?_ rfl, ?_⟩
    · rw [show system.move loops (.complete i) = _ from ended]
      exact ⟨unchanged.trans same, also, counted⟩
    · rw [ended]
      exact Function.update_self ..
  · have asked : system.move loops .request =
        { system with state := .stale, events := .requested :: system.events } := by
      have turn := turn_of_request loops system
      generalize system.move loops .request = next at turn
      cases turn with
      | noticed idle => exact absurd (same.trans idle) going
      | landed => rfl
    have ended : system.run loops [.request, .complete i] =
        (system.move loops .request).put i .leaving := if_pos (by rw [asked]; exact crawls)
    refine ⟨[.request, .complete i], ⟨?_, by simp [Move.party]⟩, ?_⟩
    · rw [ended, asked]
      exact ⟨stale, also, (length_landings_of_asks rfl system.events).trans counted⟩
    · rw [ended]
      exact Function.update_self ..

/-- Crawling until no crawl is due any more. Where the bound cuts it short, the party has not got hold
of the state yet. -/
theorem crawl_until_done_leads (loops : ι → Bool) (polite : Polite plan.client) (bound : Nat)
    (shares : scheduler.Shares 1 system) (crawls : system.phases i = .crawling)
    (going : scheduler.state ≠ .idle) :
    ∃ moves, Leads loops i system 0 (crawlUntilDone plan bound scheduler).2 moves := by
  induction bound generalizing scheduler system with
  | zero =>
    obtain ⟨moves, leads, -⟩ := crawl_leads loops polite shares crawls going
    exact ⟨moves, leads⟩
  | succ bound ih =>
    obtain ⟨moves, leads, leaves⟩ := crawl_leads loops polite shares crawls going
    rw [crawlUntilDone]
    rcases leave_leads loops leads.shares leaves with ⟨again, inside, left⟩ | ⟨done, left⟩
    · obtain ⟨later, rest⟩ := ih left.shares inside nofun
      simp only [again]
      exact ⟨_, leads.append (left.append rest)⟩
    · simp only [done]
      exact ⟨_, leads.append left⟩

/-- A refresh of a party that has called. -/
theorem refresh_leads (loops : ι → Bool) (polite : Polite plan.client)
    (shares : scheduler.Shares 0 system) (calls : system.phases i = .calling) :
    ∃ moves, Leads loops i system 0 (scheduler.refresh plan).2 moves := by
  rw [refresh]
  rcases enter_leads loops shares calls with ⟨begins, inside, entered⟩ | ⟨refuses, entered⟩
  · obtain ⟨moves, rest⟩ := crawl_until_done_leads loops polite Crawl.turnLimit
      entered.shares inside nofun
    simp only [begins]
    exact ⟨_, entered.append rest⟩
  · simp only [refuses]
    exact ⟨_, entered⟩

end

/-! ## The life of a scheduler is a run -/

/-- What can be asked of a scheduler while no crawl runs, or can happen to it. -/
inductive Demand (σ : Type) where
  | refresh
  | requestRefresh
  | startJob
  | stopJob
  | advance (seconds : Nat)
  /-- The jobs have their turns, for at most a number of turns. -/
  | settle (turns : Nat)
  /-- The world changes. -/
  | change (world : σ → σ)

/-- The scheduler after a demand. -/
def obey (plan : Plan σ) (scheduler : Scheduler σ) : Demand σ → Scheduler σ
  | .refresh => (scheduler.refresh plan).2
  | .requestRefresh => scheduler.requestRefresh
  | .startJob => scheduler.startJob plan
  | .stopJob => scheduler.stopJob
  | .advance seconds => scheduler.advance seconds
  | .settle turns => settleFor plan turns scheduler
  | .change world => { scheduler with world := world scheduler.world }

/-- What a scheduler has done is a run of numbered parties, all of them loops, of which a new one
calls for each refresh. So those from some number on have not called yet. -/
structure Past (scheduler : Scheduler σ) (parties : Nat) (moves : List (Move Nat)) : Prop where
  shares : scheduler.Shares 0 (System.start.run (fun _ => true) moves)
  rests : ∀ i, parties ≤ i → (System.start.run (fun _ => true) moves).phases i = .resting

theorem past_start (store : StatementStore) (world : σ) :
    (start store world).Past 0 [] :=
  ⟨⟨rfl, rfl, rfl⟩, fun _ _ => rfl⟩

section

variable {plan : Plan σ} {scheduler after : Scheduler σ} {parties : Nat} {moves : List (Move Nat)}

namespace Past

/-- Other fields of a scheduler do not matter. -/
theorem congr (past : scheduler.Past parties moves) (state : after.state = scheduler.state)
    (notice : after.notice = scheduler.notice) (crawls : after.crawls = scheduler.crawls) :
    after.Past parties moves where
  shares := ⟨state.trans past.shares.state_eq, notice.trans past.shares.notice_eq,
    past.shares.crawls_eq.trans (congrArg (· + 0) crawls.symm)⟩
  rests := past.rests

theorem append {later : List (Move Nat)} (past : scheduler.Past parties moves)
    (leads : Leads (fun _ => true) parties (System.start.run (fun _ => true) moves) 0 after later) :
    after.Past (parties + 1) (moves ++ later) where
  shares := by
    rw [System.run_append]
    exact leads.shares
  rests i late := by
    rw [System.run_append, leads.elsewhere (Nat.ne_of_gt late)]
    exact past.rests i (Nat.le_of_lt late)

/-- The next party has called for a refresh and gets it. -/
theorem refresh_of_calling (polite : Polite plan.client) (past : scheduler.Past parties moves)
    (move : Move Nat) (party : move.party = some parties)
    (shares : after.Shares 0 ((System.start.run (fun _ => true) moves).move (fun _ => true) move))
    (calls : ((System.start.run (fun _ => true) moves).move (fun _ => true) move).phases parties =
      .calling) :
    ∃ later, (after.refresh plan).2.Past (parties + 1) (moves ++ later) := by
  obtain ⟨later, leads⟩ := refresh_leads (fun _ => true) polite shares calls
  exact ⟨_, past.append ((leads_of_move shares party).append leads)⟩

theorem refresh (polite : Polite plan.client) (past : scheduler.Past parties moves) :
    ∃ later, (scheduler.refresh plan).2.Past (parties + 1) (moves ++ later) := by
  refine past.refresh_of_calling polite (.call parties) rfl ?_ ?_ <;>
    rw [System.move, if_pos (past.rests parties (Nat.le_refl _))]
  · exact ⟨past.shares.state_eq, past.shares.notice_eq, past.shares.crawls_eq⟩
  · exact Function.update_self ..

/-- A refresh for a notice, which the next party takes. -/
theorem refresh_of_notice (polite : Polite plan.client) (past : scheduler.Past parties moves)
    (left : scheduler.notice = true) :
    ∃ later, (Scheduler.refresh plan { scheduler with notice := false }).2.Past (parties + 1)
      (moves ++ later) := by
  have ready := And.intro (past.rests parties (Nat.le_refl _))
    (And.intro (Eq.refl true) (past.shares.notice_eq.symm.trans left))
  refine past.refresh_of_calling polite (.wake parties) rfl ?_ ?_ <;>
    rw [System.move, if_pos ready]
  · exact ⟨past.shares.state_eq, rfl, past.shares.crawls_eq⟩
  · exact Function.update_self ..

/-- A refresh that is requested while no crawl runs. -/
theorem request (past : scheduler.Past parties moves) :
    scheduler.requestRefresh.Past parties (moves ++ [.request]) where
  shares := by
    rw [System.run_append]
    exact shares_request (fun _ => true) past.shares
  rests i late := by
    rw [System.run_append]
    exact (elsewhere_turn (turn_of_request (fun _ => true) _) nofun).trans (past.rests i late)

/-- A turn of the jobs. -/
theorem job_turn (polite : Polite plan.client) (past : scheduler.Past parties moves)
    (turned : scheduler.jobTurn plan = some after) :
    ∃ later, after.Past (parties + 1) (moves ++ later) := by
  unfold jobTurn at turned
  split at turned
  case h_1 jobs due =>
    obtain rfl := Option.some.inj turned
    exact Past.refresh polite (past.congr rfl rfl rfl)
  case h_2 =>
    split at turned
    case isTrue ready =>
      obtain rfl := Option.some.inj turned
      exact past.refresh_of_notice polite (Bool.and_eq_true_iff.mp ready).1
    case isFalse => cases turned

theorem settle_for (polite : Polite plan.client) (turns : Nat)
    (past : scheduler.Past parties moves) :
    ∃ parties moves, (settleFor plan turns scheduler).Past parties moves := by
  induction turns generalizing scheduler parties moves with
  | zero => exact ⟨_, _, past⟩
  | succ turns ih =>
    rw [settleFor]
    split
    case h_1 next turned =>
      obtain ⟨_, later⟩ := past.job_turn polite turned
      exact ih later
    case h_2 => exact ⟨_, _, past⟩

theorem obey (polite : Polite plan.client) (demand : Demand σ)
    (past : scheduler.Past parties moves) :
    ∃ parties moves, (scheduler.obey plan demand).Past parties moves := by
  cases demand with
  | refresh =>
    obtain ⟨_, later⟩ := past.refresh polite
    exact ⟨_, _, later⟩
  | requestRefresh => exact ⟨_, _, past.request⟩
  | startJob =>
    refine ⟨_, _, past.congr ?_ ?_ ?_⟩ <;> simp only [Scheduler.obey, startJob] <;> split <;> rfl
  | stopJob | advance | change => exact ⟨_, _, past.congr rfl rfl rfl⟩
  | settle turns => exact past.settle_for polite turns

end Past

end

/-- Whatever is asked of a scheduler, and whatever refreshes are requested while it crawls, it has the
state and the notice that a run of parties leads to, and it has crawled as often as crawls started in
the run. -/
theorem past_of_demands {plan : Plan σ} (polite : Polite plan.client) (store : StatementStore)
    (world : σ) (demands : List (Demand σ)) :
    ∃ parties moves, (demands.foldl (obey plan) (start store world)).Past parties moves := by
  suffices ∀ (scheduler : Scheduler σ) parties moves, scheduler.Past parties moves →
      ∃ parties moves, (demands.foldl (obey plan) scheduler).Past parties moves from
    this _ _ _ (past_start store world)
  induction demands with
  | nil => exact fun _ parties moves past => ⟨parties, moves, past⟩
  | cons demand rest ih =>
    intro scheduler parties moves past
    obtain ⟨_, _, obeyed⟩ := past.obey polite demand
    exact ih _ _ _ obeyed

end Scheduler

end TrustFederation.Refresh
