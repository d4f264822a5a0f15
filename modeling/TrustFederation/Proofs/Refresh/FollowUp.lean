import TrustFederation.Proofs.Refresh.Parties
/-!
# One crawl at a time, and one after it

However the parties move, at most one crawl is in progress, and the state tells whether there is one
and whether a refresh was asked for while it was. So what is asked for during a crawl is not lost: the
crawl is followed by another one, and by one only, however often it was asked for. What is requested
while no crawl is in progress leaves a notice, and only a loop takes it, which then calls for a
refresh.
-/
namespace TrustFederation.Refresh.Shared

variable {ι : Type} {system after : System ι}

/-- The phases, the state and the notice are what the events lead to, and as many crawls followed
another one as there are crawls during which a refresh was asked for. -/
structure Ordered (system : System ι) : Prop where
  busy_iff (i : ι) : (system.phases i).busy = true ↔ runner system.events = some i
  state_eq : system.state = stateOf system.events
  notice_eq : system.notice = noticed system.events
  followed_eq : system.events.countP (·.isFollowed) = (settled system.events).countP (0 < ·)

theorem ordered_start : Ordered (System.start : System ι) :=
  ⟨fun _ => by simp [System.start, Phase.busy, runner], rfl, rfl, rfl⟩

namespace Ordered

theorem idle_iff (ordered : Ordered system) :
    system.state = .idle ↔ runner system.events = none := by
  rw [ordered.state_eq, state_of_idle_iff]

theorem stale_iff (ordered : Ordered system) :
    system.state = .stale ↔ (runner system.events).isSome ∧ 0 < landed system.events := by
  rw [ordered.state_eq, state_of_stale_iff]

theorem runner_is_some (ordered : Ordered system) (going : system.state ≠ .idle) :
    (runner system.events).isSome := by
  rwa [ne_eq, ordered.idle_iff, ← ne_eq, ← Option.isSome_iff_ne_none] at going

theorem runner_of_busy (ordered : Ordered system) {i : ι} {phase : Phase}
    (stands : system.phases i = phase) (busy : phase.busy = true) :
    runner system.events = some i :=
  (ordered.busy_iff i).mp (stands ▸ busy)

theorem none_busy (ordered : Ordered system) (idle : system.state = .idle) (i : ι) :
    (system.phases i).busy = false := by
  rw [← Bool.not_eq_true, ordered.busy_iff, ordered.idle_iff.mp idle]
  exact nofun

theorem some_busy (ordered : Ordered system) (going : system.state ≠ .idle) :
    ∃ i, (system.phases i).busy = true := by
  obtain ⟨i, running⟩ := Option.isSome_iff_exists.mp (ordered.runner_is_some going)
  exact ⟨i, (ordered.busy_iff i).mpr running⟩

theorem idle_iff_none_busy (ordered : Ordered system) :
    system.state = .idle ↔ ∀ i, (system.phases i).busy = false := by
  refine ⟨ordered.none_busy, fun still => ?_⟩
  by_contra going
  obtain ⟨i, busy⟩ := ordered.some_busy going
  rw [still i] at busy
  cases busy

theorem not_runner (ordered : Ordered system) {i : ι} {phase : Phase}
    (stands : system.phases i = phase) (still : phase.busy = false) :
    runner system.events ≠ some i := by
  rw [ne_eq, ← ordered.busy_iff, stands, still]
  exact Bool.false_ne_true

/-- What is asked for while a crawl is in progress makes it stale. -/
theorem asked (ordered : Ordered system) {event : Event ι} (asks : event.asks = true)
    (going : system.state ≠ .idle) :
    Ordered { system with state := .stale, events := event :: system.events } := by
  have some := ordered.runner_is_some going
  obtain ⟨same, more, ended⟩ := counted_of_asks asks some
  refine ⟨fun j => ?_, ?_, ?_, ?_⟩
  · show _ ↔ runner (event :: system.events) = _
    rw [same]
    exact ordered.busy_iff j
  · refine ((state_of_stale_iff _).mpr ⟨?_, ?_⟩).symm
    · rwa [same]
    · rw [more]
      exact Nat.succ_pos _
  · show system.notice = noticed (event :: system.events)
    rw [ordered.notice_eq]
    cases event with
    | refused party => rfl
    | requested => simp [noticed, Option.isSome_iff_ne_none.mp some]
    | _ => cases asks
  · show (event :: system.events).countP _ = (settled (event :: system.events)).countP _
    rw [ended, ← ordered.followed_eq, List.countP_cons_of_neg]
    cases event <;> simp_all [Event.asks, Event.isFollowed]

/-- What is requested while no crawl is in progress leaves a notice. -/
theorem notified (ordered : Ordered system) (idle : system.state = .idle) :
    Ordered { system with notice := true, events := .requested :: system.events } := by
  have none := ordered.idle_iff.mp idle
  refine ⟨ordered.busy_iff, ?_, ?_, ?_⟩
  · exact idle.trans ((state_of_idle_iff (.requested :: system.events)).mpr none).symm
  · simp [noticed, none]
  · have before := ordered.followed_eq
    simp only [settled, none] at before
    simpa [settled, runner, landings, none, Event.isFollowed] using before

end Ordered

/-! ## Every turn keeps the order -/

section

variable [DecidableEq ι] {loops : ι → Bool} {move : Move ι} {i : ι} {phase : Phase}

theorem busy_put (i j : ι) (phase : Phase) (system : System ι) :
    ((system.put i phase).phases j).busy =
      if j = i then phase.busy else (system.phases j).busy := by
  by_cases same : j = i
  · subst same
    simp [System.put]
  · simp [System.put, same]

namespace Ordered

/-- A party goes into a phase without getting hold of the state. -/
theorem put (ordered : Ordered system)
    (same : phase.busy = true ↔ runner system.events = some i) : Ordered (system.put i phase) where
  busy_iff j := by
    rw [busy_put]
    split
    case isTrue here => rwa [here]
    case isFalse => exact ordered.busy_iff j
  state_eq := ordered.state_eq
  notice_eq := ordered.notice_eq
  followed_eq := ordered.followed_eq

/-- A party gets hold of the state, or leaves it, while no other crawl is in progress. -/
theorem busy_alone (ordered : Ordered system)
    (alone : ∀ j, j ≠ i → runner system.events ≠ some j) (j : ι) :
    ((system.put i phase).phases j).busy = true ↔ phase.busy = true ∧ i = j := by
  rw [busy_put]
  split
  case isTrue here => simp [here]
  case isFalse other =>
    rw [ordered.busy_iff]
    simp [alone j other, Ne.symm other]

theorem started (ordered : Ordered system) (idle : system.state = .idle) :
    Ordered { system.put i .crawling with
      state := .running, events := .started i :: system.events } := by
  have none := ordered.idle_iff.mp idle
  refine ⟨fun j => ?_, rfl, ordered.notice_eq, ?_⟩
  · rw [ordered.busy_alone (fun j _ => by simp [none]) j]
    simp [Phase.busy, runner]
  · have ended : settled system.events = landings system.events := by simp [settled, none]
    have before := ordered.followed_eq
    rw [ended] at before
    exact before

theorem followed (ordered : Ordered system) (leaves : system.phases i = .leaving)
    (stale : system.state = .stale) :
    Ordered { system.put i .crawling with
      state := .running, events := .followed i :: system.events } := by
  have going := ordered.runner_of_busy leaves rfl
  have asked := (ordered.stale_iff.mp stale).2
  refine ⟨fun j => ?_, rfl, ordered.notice_eq, ?_⟩
  · rw [ordered.busy_alone (fun j other => by simp [going, Ne.symm other]) j]
    simp [Phase.busy, runner]
  · show _ = (landings system.events).countP _
    rw [landings_of_runner (by simp [going]), List.countP_cons, List.countP_cons,
      ordered.followed_eq]
    simp [Event.isFollowed, asked]

theorem returned (ordered : Ordered system) (leaves : system.phases i = .leaving)
    (fresh : system.state ≠ .stale) :
    Ordered { system.put i .resting with
      state := .idle, events := .returned i :: system.events } := by
  have going := ordered.runner_of_busy leaves rfl
  have some : (runner system.events).isSome := by simp [going]
  have quiet : landed system.events = 0 := by
    by_contra asked
    exact fresh (ordered.stale_iff.mpr ⟨some, Nat.pos_of_ne_zero asked⟩)
  refine ⟨fun j => ?_, rfl, ordered.notice_eq, ?_⟩
  · rw [ordered.busy_alone (fun j other => by simp [going, Ne.symm other]) j]
    simp [Phase.busy, runner]
  · show _ = (landings system.events).countP _
    rw [landings_of_runner some, List.countP_cons, List.countP_cons, ordered.followed_eq]
    simp [Event.isFollowed, quiet]

theorem turn (ordered : Ordered system) (turn : Turn loops system move after) : Ordered after := by
  cases turn with
  | called rests =>
    exact ordered.put (by simp [Phase.busy, ordered.not_runner rests rfl])
  | @woken i rests =>
    have called : Ordered (system.put i .calling) :=
      ordered.put (by simp [Phase.busy, ordered.not_runner rests rfl])
    exact ⟨called.busy_iff, called.state_eq, rfl, called.followed_eq⟩
  | started calls idle => exact ordered.started idle
  | @refused i calls going =>
    have rested : Ordered (system.put i .resting) :=
      ordered.put (by simp [Phase.busy, ordered.not_runner calls rfl])
    exact rested.asked rfl going
  | completed crawls =>
    exact ordered.put (by simp [Phase.busy, ordered.runner_of_busy crawls rfl])
  | followed leaves stale => exact ordered.followed leaves stale
  | returned leaves fresh => exact ordered.returned leaves fresh
  | noticed idle => exact ordered.notified idle
  | landed going => exact ordered.asked rfl going

theorem run (ordered : Ordered system) (moves : List (Move ι)) :
    Ordered (system.run loops moves) := by
  induction moves generalizing system with
  | nil => exact ordered
  | cons move rest ih =>
    apply ih
    rcases move_cases loops system move with same | turn
    · rwa [same]
    · exact ordered.turn turn

/-! ## What is asked for is not lost -/

/-- A crawl during which a refresh was asked for goes on, or the turn starts the one that follows. -/
theorem stale_turn (ordered : Ordered system) (turn : Turn loops system move after)
    (going : runner system.events = some i) (stale : system.state = .stale) :
    after.events = .followed i :: system.events ∨
      runner after.events = some i ∧ after.state = .stale := by
  have busy : system.state ≠ .idle := by simp [stale]
  cases turn with
  | called | completed | woken => exact .inr ⟨going, stale⟩
  | started calls idle => exact absurd idle busy
  | refused => exact .inr ⟨going, rfl⟩
  | followed leaves =>
    obtain rfl := Option.some.inj ((ordered.runner_of_busy leaves rfl).symm.trans going)
    exact .inl rfl
  | returned leaves fresh => exact absurd stale fresh
  | noticed idle => exact absurd idle busy
  | landed => exact .inr ⟨going, rfl⟩

/-- A crawl during which a refresh was asked for is followed by another one as soon as it is over. -/
theorem stale_run (ordered : Ordered system) (going : runner system.events = some i)
    (stale : system.state = .stale) (moves : List (Move ι)) :
    ∃ new, (system.run loops moves).events = new ++ system.events ∧
      (.followed i ∈ new ∨
        runner (system.run loops moves).events = some i ∧
          (system.run loops moves).state = .stale) := by
  induction moves generalizing system with
  | nil => exact ⟨[], rfl, .inr ⟨going, stale⟩⟩
  | cons move rest ih =>
    have split : system.run loops (move :: rest) = (system.move loops move).run loops rest := rfl
    rw [split]
    rcases move_cases loops system move with same | turn
    · rw [same]
      exact ih ordered going stale
    · rcases ordered.stale_turn turn going stale with followed | ⟨still, yet⟩
      · obtain ⟨new, grown⟩ := events_run loops (system.move loops move) rest
        rw [followed] at grown
        exact ⟨new ++ [.followed i], by simp [← grown], .inl (by simp)⟩
      · obtain ⟨later, grown⟩ := events_turn turn
        obtain ⟨new, whole, rest⟩ := ih (ordered.turn turn) still yet
        refine ⟨new ++ later, by rw [whole, ← grown, List.append_assoc], ?_⟩
        exact rest.imp_left fun member => List.mem_append_left later member

end Ordered

/-- How refreshes behave at one moment, and how they can go on from there. -/
structure Orderly (loops : ι → Bool) (system : System ι) : Prop where
  /-- At most one crawl is in progress, and it is the one that the events show. -/
  alone (i j : ι) : (system.phases i).busy = true → (system.phases j).busy = true → i = j
  runner_iff (i : ι) : (system.phases i).busy = true ↔ runner system.events = some i
  /-- The state is idle exactly if no crawl is in progress. -/
  idle_iff : system.state = .idle ↔ ∀ i, (system.phases i).busy = false
  /-- A refresh returns nothing exactly if a crawl is in progress when it gets hold of the state. Else
  it starts one. -/
  enters (i : ι) : system.phases i = .calling →
    let next := system.move loops (.enter i)
    (∃ j, (system.phases j).busy = true) ∧ next.phases i = .resting ∧
        next.events = .refused i :: system.events ∨
      (∀ j, (system.phases j).busy = false) ∧ next.phases i = .crawling ∧
        next.events = .started i :: system.events
  /-- A crawl that runs can be over at any moment. -/
  completes (i : ι) : system.phases i = .crawling →
    (system.move loops (.complete i)).phases i = .leaving
  /-- When a crawl is over the state becomes idle, and the refresh returns, exactly if no refresh was
  asked for since the crawl started. Else another crawl starts, for which nothing has been asked
  yet. -/
  leaves (i : ι) : system.phases i = .leaving →
    let next := system.move loops (.leave i)
    landed system.events = 0 ∧ next.state = .idle ∧ next.phases i = .resting ∧
        next.events = .returned i :: system.events ∨
      0 < landed system.events ∧ next.state = .running ∧ next.phases i = .crawling ∧
        next.events = .followed i :: system.events ∧ landed next.events = 0
  /-- A crawl during which a refresh was asked for is followed by another one, whatever happens until
  it is over. -/
  follows (i : ι) (moves : List (Move ι)) : runner system.events = some i →
    0 < landed system.events →
    ∃ new, (system.run loops moves).events = new ++ system.events ∧
      (.followed i ∈ new ∨ runner (system.run loops moves).events = some i ∧
        (system.run loops moves).state = .stale)
  /-- Each crawl that is over and during which a refresh was asked for, be it once or many times, was
  followed by one crawl, and no other crawl was. -/
  counts : system.events.countP (·.isFollowed) = (settled system.events).countP (0 < ·)
  /-- A refresh that is requested during a crawl counts for it and leaves no notice. Else it leaves a
  notice and nothing more. -/
  requests :
    let next := system.move loops .request
    (∃ j, (system.phases j).busy = true) ∧ landed next.events = landed system.events + 1 ∧
        next.notice = system.notice ∨
      (∀ j, (system.phases j).busy = false) ∧
        next = { system with notice := true, events := .requested :: system.events }
  /-- There is a notice exactly if a refresh was requested while no crawl was in progress and no loop
  has taken the notice since. -/
  notice_eq : system.notice = noticed system.events
  /-- Only a loop takes the notice, and it calls for a refresh then. -/
  notice_kept (move : Move ι) : system.notice = true →
    (system.move loops move).notice = true ∨
      ∃ i, move = .wake i ∧ loops i = true ∧ (system.move loops move).phases i = .calling
  /-- A loop that rests can take a notice that is left. -/
  wakes (i : ι) : system.phases i = .resting → loops i = true → system.notice = true →
    (system.move loops (.wake i)).phases i = .calling ∧ (system.move loops (.wake i)).notice = false
  /-- A party that has called for a refresh goes on calling until it gets hold of the state. -/
  calls (i : ι) (move : Move ι) : system.phases i = .calling → move ≠ .enter i →
    (system.move loops move).phases i = .calling

namespace Ordered

theorem enters (ordered : Ordered system) (calls : system.phases i = .calling) :
    let next := system.move loops (.enter i)
    (∃ j, (system.phases j).busy = true) ∧ next.phases i = .resting ∧
        next.events = .refused i :: system.events ∨
      (∀ j, (system.phases j).busy = false) ∧ next.phases i = .crawling ∧
        next.events = .started i :: system.events := by
  intro next
  have turn : Turn loops system (.enter i) next := turn_of_enter calls
  generalize next = entered at turn
  cases turn with
  | started calls idle =>
    exact .inr ⟨ordered.none_busy idle, Function.update_self .., rfl⟩
  | refused calls going => exact .inl ⟨ordered.some_busy going, Function.update_self .., rfl⟩

theorem leaves (ordered : Ordered system) (ended : system.phases i = .leaving) :
    let next := system.move loops (.leave i)
    landed system.events = 0 ∧ next.state = .idle ∧ next.phases i = .resting ∧
        next.events = .returned i :: system.events ∨
      0 < landed system.events ∧ next.state = .running ∧ next.phases i = .crawling ∧
        next.events = .followed i :: system.events ∧ landed next.events = 0 := by
  intro next
  have turn : Turn loops system (.leave i) next := turn_of_leave ended
  generalize next = left at turn
  cases turn with
  | followed ended stale =>
    exact .inr ⟨(ordered.stale_iff.mp stale).2, rfl, Function.update_self .., rfl, rfl⟩
  | returned ended fresh =>
    have going := ordered.runner_of_busy ended rfl
    have quiet : landed system.events = 0 := by
      by_contra asked
      exact fresh (ordered.stale_iff.mpr ⟨by simp [going], Nat.pos_of_ne_zero asked⟩)
    exact .inl ⟨quiet, rfl, Function.update_self .., rfl⟩

theorem requests (ordered : Ordered system) :
    let next := system.move loops .request
    (∃ j, (system.phases j).busy = true) ∧ landed next.events = landed system.events + 1 ∧
        next.notice = system.notice ∨
      (∀ j, (system.phases j).busy = false) ∧
        next = { system with notice := true, events := .requested :: system.events } := by
  intro next
  have turn : Turn loops system .request next := turn_of_request loops system
  generalize next = requested at turn
  cases turn with
  | noticed idle => exact .inr ⟨ordered.none_busy idle, rfl⟩
  | landed going =>
    obtain ⟨-, counted, -⟩ := counted_of_asks (show Event.requested.asks = true from rfl)
      (ordered.runner_is_some going)
    exact .inl ⟨ordered.some_busy going, counted, rfl⟩

end Ordered

theorem notice_turn (turn : Turn loops system move after) (left : system.notice = true) :
    after.notice = true ∨ ∃ i, move = .wake i ∧ loops i = true ∧ after.phases i = .calling := by
  cases turn with
  | @woken i rests loop => exact .inr ⟨i, rfl, loop, Function.update_self ..⟩
  | noticed => exact .inl rfl
  | _ => exact .inl left

theorem calling_turn (turn : Turn loops system move after) (calls : system.phases i = .calling)
    (elsewhere : move ≠ .enter i) : after.phases i = .calling := by
  suffices other : move.party ≠ some i from (elsewhere_turn turn other).trans calls
  have differs {j : ι} {phase : Phase} (stands : system.phases j = phase)
      (moves : phase ≠ .calling) : some j ≠ some i := by
    rintro ⟨⟩
    exact moves (stands.symm.trans calls)
  cases turn with
  | called stands => exact differs stands nofun
  | woken stands => exact differs stands nofun
  | started | refused => exact fun same => elsewhere (congrArg Move.enter (Option.some.inj same))
  | completed stands => exact differs stands nofun
  | followed stands => exact differs stands nofun
  | returned stands => exact differs stands nofun
  | noticed | landed => exact nofun

/-- However the moves of the parties and the requests are interleaved, refreshes are orderly at every
moment. -/
theorem orderly_of_run (loops : ι → Bool) (moves : List (Move ι)) :
    Orderly loops (System.start.run loops moves) := by
  have ordered : Ordered (System.start.run loops moves) := ordered_start.run moves
  generalize System.start.run loops moves = system at ordered
  refine ⟨fun i j busy also => ?_, ordered.busy_iff, ordered.idle_iff_none_busy,
    fun i => ordered.enters, fun i crawls => ?_, fun i => ordered.leaves,
    fun i later going asked => ?_, ordered.followed_eq, ordered.requests, ordered.notice_eq,
    fun move left => ?_, fun i rests loop left => ?_, fun i move calls elsewhere => ?_⟩
  · rw [ordered.busy_iff] at busy also
    exact Option.some.inj (busy.symm.trans also)
  · simp [System.move, crawls, System.put]
  · exact ordered.stale_run going (ordered.stale_iff.mpr ⟨by simp [going], asked⟩) later
  · rcases move_cases loops system move with same | turn
    · rw [same]
      exact .inl left
    · exact notice_turn turn left
  · simp [System.move, rests, loop, left, System.put]
  · rcases move_cases loops system move with same | turn
    · rwa [same]
    · exact calling_turn turn calls elsewhere

end

/-- A loop and another caller. Three times a refresh is asked for during the first crawl, once by the
loop, and one crawl follows. After it nothing runs any more, a notice is left and wakes the loop. -/
theorem orderly_of_run_loop_and_caller :
    let system := (System.start : System Bool).run id [.call false, .enter false, .request, .request,
      .call true, .enter true, .complete false, .leave false, .complete false, .leave false, .request,
      .wake true, .enter true]
    system.events = [.started true, .woken true, .requested, .returned false, .followed false,
      .refused true, .requested, .requested, .started false] ∧
    settled system.events = [0, 3] ∧
    system.events.countP (·.isFollowed) = (settled system.events).countP (0 < ·) ∧
    (system.state = .idle ↔ ∀ party, (system.phases party).busy = false) := by
  intro system
  have orderly : Orderly id system := orderly_of_run id _
  exact ⟨by decide, by decide, orderly.counts, orderly.idle_iff⟩

end TrustFederation.Refresh.Shared
