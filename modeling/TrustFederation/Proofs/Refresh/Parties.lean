import Mathlib.Data.List.Basic
import Mathlib.Logic.Function.Basic
import TrustFederation.Refresh.State
/-!
# Parties that refresh one federation

Any number of parties share one state of refreshing and one notice. A party calls for a refresh, and
when it gets hold of the state it is let in and crawls, or it is refused. When its crawl is over it
gets hold of the state again, and then it crawls once more or returns. Anybody may request a refresh
at any time. Some of the parties are loops: they call for a refresh again and again, when it is time
or when a notice is left, which they take. A move is one of these by one of the parties, each of them
as one step. Any list of moves is a run, and a move that is not possible changes nothing.

What a crawl does is left out here, and so is a party that is stopped while it crawls.
-/
namespace TrustFederation.Refresh.Shared

/-- Where a party stands. -/
inductive Phase where
  /-- It has not called for a refresh, or its refresh has returned. -/
  | resting
  /-- It has called for a refresh and has not got hold of the state yet. -/
  | calling
  /-- Its crawl runs. -/
  | crawling
  /-- Its crawl is over, and it has not got hold of the state yet. -/
  | leaving
deriving DecidableEq

/-- A crawl of the party is in progress: it was let in and has not left. -/
def Phase.busy : Phase → Bool
  | .crawling | .leaving => true
  | .resting | .calling => false

/-- What can be seen of a run. -/
inductive Event (ι : Type) where
  /-- A party was let in, and its crawl started. -/
  | started (party : ι)
  /-- A party was refused: its refresh returned nothing. -/
  | refused (party : ι)
  /-- A refresh was requested. -/
  | requested
  /-- The crawl of a party was over, and another one of the same party started. -/
  | followed (party : ι)
  /-- The crawl of a party was over, and its refresh returned the report. -/
  | returned (party : ι)
  /-- A loop took the notice and called for a refresh. -/
  | woken (party : ι)
deriving DecidableEq

/-- A refresh was asked for and did not start a crawl. -/
def Event.asks {ι : Type} : Event ι → Bool
  | .refused _ | .requested => true
  | _ => false

/-- A crawl started because of what was asked for during the one before. -/
def Event.isFollowed {ι : Type} : Event ι → Bool
  | .followed _ => true
  | _ => false

/-- Parties with the state and the notice that they share, and what has been seen of them, the last
event first. -/
structure System (ι : Type) where
  state : State
  notice : Bool
  phases : ι → Phase
  events : List (Event ι)

/-- What can happen next. -/
inductive Move (ι : Type) where
  /-- A party calls for a refresh, of its own accord or because it is time. -/
  | call (party : ι)
  /-- A loop takes the notice and calls for a refresh. -/
  | wake (party : ι)
  /-- A party that has called for a refresh gets hold of the state. -/
  | enter (party : ι)
  /-- The crawl of a party is over. -/
  | complete (party : ι)
  /-- A party whose crawl is over gets hold of the state. -/
  | leave (party : ι)
  /-- Somebody requests a refresh. -/
  | request
deriving DecidableEq

variable {ι : Type}

/-- The party that moves. Nobody in particular requests a refresh. -/
def Move.party : Move ι → Option ι
  | .call i | .wake i | .enter i | .complete i | .leave i => some i
  | .request => none

namespace System

/-- Before the first move. -/
def start : System ι := ⟨.idle, false, fun _ => .resting, []⟩

variable [DecidableEq ι]

/-- The system after a party has gone into a phase. -/
def put (party : ι) (phase : Phase) (system : System ι) : System ι :=
  { system with phases := Function.update system.phases party phase }

/-- The system after a move. The loops are given by a predicate. -/
def move (loops : ι → Bool) (system : System ι) : Move ι → System ι
  | .call i => if system.phases i = .resting then system.put i .calling else system
  | .wake i =>
    if system.phases i = .resting ∧ loops i = true ∧ system.notice = true then
      { system.put i .calling with notice := false, events := .woken i :: system.events }
    else system
  | .enter i =>
    if system.phases i = .calling then
      match system.state.begin with
      | (true, state) =>
        { system.put i .crawling with state := state, events := .started i :: system.events }
      | (false, state) =>
        { system.put i .resting with state := state, events := .refused i :: system.events }
    else system
  | .complete i => if system.phases i = .crawling then system.put i .leaving else system
  | .leave i =>
    if system.phases i = .leaving then
      match system.state.finish with
      | (true, state) =>
        { system.put i .crawling with state := state, events := .followed i :: system.events }
      | (false, state) =>
        { system.put i .resting with state := state, events := .returned i :: system.events }
    else system
  | .request =>
    let (noticed, state) := system.state.request
    { system with
      state := state
      notice := system.notice || noticed
      events := .requested :: system.events }

/-- The system after several moves. -/
def run (loops : ι → Bool) (system : System ι) (moves : List (Move ι)) : System ι :=
  moves.foldl (move loops) system

theorem run_append (loops : ι → Bool) (system : System ι) (early late : List (Move ι)) :
    system.run loops (early ++ late) = (system.run loops early).run loops late :=
  List.foldl_append

end System

/-! ## What a move can do -/

/-- What a move that is possible leaves, with what it takes to be possible. -/
inductive Turn [DecidableEq ι] (loops : ι → Bool) (system : System ι) :
    Move ι → System ι → Prop where
  | called {i : ι} (rests : system.phases i = .resting) :
      Turn loops system (.call i) (system.put i .calling)
  | woken {i : ι} (rests : system.phases i = .resting) (loop : loops i = true)
      (left : system.notice = true) :
      Turn loops system (.wake i)
        { system.put i .calling with notice := false, events := .woken i :: system.events }
  | started {i : ι} (calls : system.phases i = .calling) (idle : system.state = .idle) :
      Turn loops system (.enter i)
        { system.put i .crawling with state := .running, events := .started i :: system.events }
  | refused {i : ι} (calls : system.phases i = .calling) (going : system.state ≠ .idle) :
      Turn loops system (.enter i)
        { system.put i .resting with state := .stale, events := .refused i :: system.events }
  | completed {i : ι} (crawls : system.phases i = .crawling) :
      Turn loops system (.complete i) (system.put i .leaving)
  | followed {i : ι} (leaves : system.phases i = .leaving) (stale : system.state = .stale) :
      Turn loops system (.leave i)
        { system.put i .crawling with state := .running, events := .followed i :: system.events }
  | returned {i : ι} (leaves : system.phases i = .leaving) (fresh : system.state ≠ .stale) :
      Turn loops system (.leave i)
        { system.put i .resting with state := .idle, events := .returned i :: system.events }
  | noticed (idle : system.state = .idle) :
      Turn loops system .request
        { system with notice := true, events := .requested :: system.events }
  | landed (going : system.state ≠ .idle) :
      Turn loops system .request
        { system with state := .stale, events := .requested :: system.events }

section

variable [DecidableEq ι] {loops : ι → Bool} {system : System ι} {i : ι}

/-- A party that calls is let in if nothing is going on, else it is refused. -/
theorem turn_of_enter (calls : system.phases i = .calling) :
    Turn loops system (.enter i) (system.move loops (.enter i)) := by
  simp only [System.move, if_pos calls]
  cases found : system.state with
  | idle => exact .started calls found
  | running => exact .refused calls (by simp [found])
  | stale => exact .refused calls (by simp [found])

/-- A party whose crawl is over crawls again if the crawl is stale, else it returns. -/
theorem turn_of_leave (leaves : system.phases i = .leaving) :
    Turn loops system (.leave i) (system.move loops (.leave i)) := by
  simp only [System.move, if_pos leaves]
  cases found : system.state with
  | idle => exact .returned leaves (by simp [found])
  | running => exact .returned leaves (by simp [found])
  | stale => exact .followed leaves found

/-- A request is always possible. -/
theorem turn_of_request (loops : ι → Bool) (system : System ι) :
    Turn loops system .request (system.move loops .request) := by
  obtain ⟨state, notice, phases, events⟩ := system
  cases state with
  | idle =>
    have noticed : Turn loops ⟨.idle, notice, phases, events⟩ .request _ := .noticed rfl
    simpa [System.move, State.request] using noticed
  | running =>
    have landed : Turn loops ⟨.running, notice, phases, events⟩ .request _ := .landed nofun
    simpa [System.move, State.request] using landed
  | stale =>
    have landed : Turn loops ⟨.stale, notice, phases, events⟩ .request _ := .landed nofun
    simpa [System.move, State.request] using landed

/-- A move changes nothing, or it is a turn. -/
theorem move_cases (loops : ι → Bool) (system : System ι) (move : Move ι) :
    system.move loops move = system ∨ Turn loops system move (system.move loops move) := by
  cases move with
  | call i =>
    by_cases rests : system.phases i = .resting
    · exact .inr (by simpa only [System.move, if_pos rests] using .called rests)
    · exact .inl (if_neg rests)
  | wake i =>
    by_cases ready : system.phases i = .resting ∧ loops i = true ∧ system.notice = true
    · obtain ⟨rests, loop, left⟩ := ready
      exact .inr (by simpa [System.move, rests, loop, left] using .woken rests loop left)
    · exact .inl (if_neg ready)
  | enter i =>
    by_cases calls : system.phases i = .calling
    · exact .inr (turn_of_enter calls)
    · exact .inl (if_neg calls)
  | complete i =>
    by_cases crawls : system.phases i = .crawling
    · exact .inr (by simpa only [System.move, if_pos crawls] using .completed crawls)
    · exact .inl (if_neg crawls)
  | leave i =>
    by_cases leaves : system.phases i = .leaving
    · exact .inr (turn_of_leave leaves)
    · exact .inl (if_neg leaves)
  | request => exact .inr (turn_of_request loops system)

theorem events_turn {move : Move ι} {after : System ι} (turn : Turn loops system move after) :
    system.events <:+ after.events := by
  cases turn with
  | called | completed => exact List.suffix_refl _
  | _ => exact List.suffix_cons _ _

/-- The other parties stay where they are. -/
theorem elsewhere_turn {move : Move ι} {after : System ι} (turn : Turn loops system move after)
    (other : move.party ≠ some i) : after.phases i = system.phases i := by
  cases turn with
  | noticed | landed => rfl
  | _ => exact Function.update_of_ne (fun same => other (congrArg some same.symm)) ..

/-- Events are never taken back. -/
theorem events_run (loops : ι → Bool) (system : System ι) (moves : List (Move ι)) :
    system.events <:+ (system.run loops moves).events := by
  induction moves generalizing system with
  | nil => exact List.suffix_refl _
  | cons move rest ih =>
    refine List.IsSuffix.trans ?_ (ih (system.move loops move))
    rcases move_cases loops system move with same | turn
    · simp only [same, List.suffix_refl]
    · exact events_turn turn

end

/-! ## What the events say -/

/-- The party whose crawl is in progress. -/
def runner : List (Event ι) → Option ι
  | [] => none
  | .started i :: _ | .followed i :: _ => some i
  | .returned _ :: _ => none
  | .refused _ :: earlier | .requested :: earlier | .woken _ :: earlier => runner earlier

/-- How many refreshes were asked for while each crawl was in progress, the last crawl first. A
refresh that was refused counts as one that was requested. -/
def landings : List (Event ι) → List Nat
  | [] => []
  | .started _ :: earlier | .followed _ :: earlier => 0 :: landings earlier
  | .returned _ :: earlier | .woken _ :: earlier => landings earlier
  | .refused _ :: earlier | .requested :: earlier =>
    if (runner earlier).isSome then (landings earlier).modifyHead (· + 1) else landings earlier

/-- How many refreshes were asked for since the last crawl started and while it was in progress. -/
def landed (events : List (Event ι)) : Nat := (landings events).headD 0

/-- The same for each crawl that is over. -/
def settled (events : List (Event ι)) : List Nat :=
  if (runner events).isSome then (landings events).tail else landings events

/-- A refresh was requested while no crawl was in progress, and no loop has taken the notice since. -/
def noticed : List (Event ι) → Bool
  | [] => false
  | .requested :: earlier => (runner earlier).isNone || noticed earlier
  | .woken _ :: _ => false
  | .started _ :: earlier | .refused _ :: earlier | .followed _ :: earlier | .returned _ :: earlier =>
    noticed earlier

/-- The state of refreshing that the events lead to. -/
def stateOf (events : List (Event ι)) : State :=
  if (runner events).isNone then .idle else if landed events = 0 then .running else .stale

/-- A crawl in progress is the last one that has been counted. -/
theorem landings_of_runner {events : List (Event ι)} (going : (runner events).isSome) :
    landings events = landed events :: settled events := by
  suffices landings events ≠ [] by
    obtain ⟨first, rest, whole⟩ := List.exists_cons_of_ne_nil this
    simp [landed, settled, whole, going]
  induction events with
  | nil => simp [runner] at going
  | cons event earlier ih =>
    cases event with
    | started party => simp [landings]
    | followed party => simp [landings]
    | returned party => simp [runner] at going
    | woken party => exact ih going
    | refused party =>
      have before : (runner earlier).isSome := going
      simpa [landings, before] using ih before
    | requested =>
      have before : (runner earlier).isSome := going
      simpa [landings, before] using ih before

/-- What is asked for starts no crawl. -/
theorem length_landings_of_asks {event : Event ι} (asks : event.asks = true)
    (earlier : List (Event ι)) :
    (landings (event :: earlier)).length = (landings earlier).length := by
  cases event with
  | refused | requested =>
    rw [landings]
    split
    · exact List.length_modifyHead
    · rfl
  | _ => cases asks

/-- What is asked for while a crawl is in progress counts for this crawl. -/
theorem counted_of_asks {event : Event ι} {earlier : List (Event ι)} (asks : event.asks = true)
    (going : (runner earlier).isSome) :
    runner (event :: earlier) = runner earlier ∧
      landed (event :: earlier) = landed earlier + 1 ∧
      settled (event :: earlier) = settled earlier := by
  have counted : landings (event :: earlier) = (landed earlier + 1) :: settled earlier := by
    cases event with
    | refused party => simp only [landings, going, if_true, landings_of_runner going, List.modifyHead]
    | requested => simp only [landings, going, if_true, landings_of_runner going, List.modifyHead]
    | _ => cases asks
  have same : runner (event :: earlier) = runner earlier := by
    cases event with
    | refused party => rfl
    | requested => rfl
    | _ => cases asks
  refine ⟨same, by rw [landed, counted]; rfl, ?_⟩
  rw [settled, if_pos (same ▸ going), counted, List.tail_cons]

theorem state_of_idle_iff (events : List (Event ι)) :
    stateOf events = .idle ↔ runner events = none := by
  unfold stateOf
  split
  case isTrue none => simpa using none
  case isFalse going =>
    have some : runner events ≠ none := by simpa using going
    split <;> simp [some]

theorem state_of_stale_iff (events : List (Event ι)) :
    stateOf events = .stale ↔ (runner events).isSome ∧ 0 < landed events := by
  unfold stateOf
  split
  case isTrue none => simp_all
  case isFalse going =>
    have some : (runner events).isSome := by simpa [Option.isSome_iff_ne_none] using going
    split
    case isTrue quiet => simp [quiet]
    case isFalse asked => simp [some, Nat.pos_of_ne_zero asked]

end TrustFederation.Refresh.Shared
