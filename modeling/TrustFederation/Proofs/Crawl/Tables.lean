import TrustFederation.Proofs.Crawl.Bookkeeping
/-!
# Clients that answer by a table

A client may be moody: it may fail a step twice and answer it at the third attempt, or answer it
otherwise then. It answers by a table when nothing else matters, neither what it was asked for other
steps nor when. For such a client the attempt with which a step succeeds and the steps that follow
can be read off the table, before any crawl is run.
-/
namespace TrustFederation.Crawl

open Client (Request)

variable {σ : Type} {client : Client σ} {policy : Policy} {anchor : String} {history : History σ}
  {moment : Moment σ} {flight : Flight}

/-! ## Answers -/

/-- What a client may answer. -/
inductive Response where
  | statement (answer : Except Failure Statement)
  | listing (answer : Except Failure (List String))
deriving DecidableEq

/-- The answer that an attempt of a step gets, if it asks for anything. -/
def answer? (client : Client σ) (step : Step) (useCached : Bool) (world : σ) : Option Response :=
  match step with
  | .resolveRoot entity =>
    let request := (Request.plain useCached).withParameter "sub" entity
    some (.statement (client.configuration request world).1)
  | .listSubordinates authority =>
    (authority.endpoints?.filter (·.canListSubordinates)).map fun endpoints =>
      .listing (client.listing ((Request.plain useCached).withEndpoints endpoints) world).1
  | .fetchSubordinate authority subordinate =>
    authority.endpoints?.map fun endpoints =>
      let request := ((Request.plain useCached).withParameter "sub" subordinate).withEndpoints
        endpoints
      .statement (client.fetch request world).1
  | .fetchConfiguration statement =>
    some (.statement (client.configuration (configurationRequest statement useCached) world).1)

/-- Nothing but the answer decides whether a step gets a well-formed matching reply, and what
follows it. -/
theorem Replies.of_same_answer {step : Step} {useCached : Bool} {world other : σ} {next : List Step}
    (replies : Replies client useCached world step next)
    (same : answer? client step useCached other = answer? client step useCached world) :
    Replies client useCached other step next := by
  cases replies with
  | root answer fits =>
    simp only [answer?, Option.some.injEq, Response.statement.injEq] at same
    exact .root (same.trans answer) fits
  | leaf offers => exact .leaf offers
  | listing offers answer =>
    simp only [answer?, offers, Option.map_some, Option.some.injEq, Response.listing.injEq] at same
    exact .listing offers (same.trans answer)
  | subordinate offers answer fits =>
    simp only [answer?, offers, Option.map_some, Option.some.injEq, Response.statement.injEq] at same
    exact .subordinate offers (same.trans answer) fits
  | configuration answer fits =>
    simp only [answer?, Option.some.injEq, Response.statement.injEq] at same
    exact .configuration (same.trans answer) fits

/-! ## Tables -/

/-- An answer for every step, for requests that take an earlier answer and for those that do not,
and for every number of attempts that the step had before. -/
abbrev Table := Step → Bool → Nat → Option Response

/-- In every turn of the history the client has answered by the table: what it answered depends only
on the request of the step and on how many attempts of the same step came before. -/
def Tabled (client : Client σ) (policy : Policy) (table : Table) (history : History σ) : Prop :=
  ∀ (turn : Nat) (moment : Moment σ) (flight : Flight), history[turn]? = some moment →
    moment.landing? policy = some flight →
    answer? client flight.attempt.step (flight.attempt.useCached policy.cacheThreshold)
        moment.state.world =
      table flight.attempt.step (flight.attempt.useCached policy.cacheThreshold)
        (History.trialsOf client policy flight.attempt.step (history.take turn)).length

/-- Whether a history was answered by a table can be computed. -/
instance (client : Client σ) (policy : Policy) (table : Table) (history : History σ) :
    Decidable (Tabled client policy table history) :=
  decidable_of_iff (∀ turn ∈ List.range history.length, ∀ moment ∈ history[turn]?,
      ∀ flight ∈ moment.landing? policy,
      answer? client flight.attempt.step (flight.attempt.useCached policy.cacheThreshold)
          moment.state.world =
        table flight.attempt.step (flight.attempt.useCached policy.cacheThreshold)
          (History.trialsOf client policy flight.attempt.step (history.take turn)).length)
    ⟨fun every turn moment flight found landing =>
      every turn (List.mem_range.mpr (List.getElem?_eq_some_iff.mp found).1) moment found flight
        landing,
    fun tabled turn _ moment found flight landing => tabled turn moment flight found landing⟩

namespace Tabled

variable {table : Table}

/-- A history that was answered by a table was so before its last turn. -/
theorem earlier (tabled : Tabled client policy table (history ++ [moment])) :
    Tabled client policy table history := by
  intro turn other flight found landing
  have inside := (List.getElem?_eq_some_iff.mp found).1
  have answered := tabled turn other flight ((List.getElem?_append_left inside).trans found) landing
  rwa [List.take_append_of_le_length inside.le] at answered

/-- The last turn was answered by the table. -/
theorem last (tabled : Tabled client policy table (history ++ [moment]))
    (landing : moment.landing? policy = some flight) :
    answer? client flight.attempt.step (flight.attempt.useCached policy.cacheThreshold)
        moment.state.world =
      table flight.attempt.step (flight.attempt.useCached policy.cacheThreshold)
        (history.trialsOf client policy flight.attempt.step).length := by
  have answered := tabled history.length moment flight List.getElem?_concat_length landing
  rwa [List.take_append_of_le_length (Nat.le_refl _), List.take_length] at answered

end Tabled

/-! ## What a table says -/

/-- By the table, the attempt with this number gets a well-formed matching reply, which these steps
follow. -/
def Tells (client : Client σ) (table : Table) (threshold : Nat) (step : Step) (number : Nat)
    (next : List Step) : Prop :=
  ∃ world, answer? client step (decide (threshold ≤ number)) world =
      table step (decide (threshold ≤ number)) number ∧
    Replies client (decide (threshold ≤ number)) world step next

theorem Tells.unique {table : Table} {threshold number : Nat} {step : Step} {next other : List Step}
    (tells : Tells client table threshold step number next)
    (also : Tells client table threshold step number other) : next = other := by
  obtain ⟨world, answer, replies⟩ := tells
  obtain ⟨second, second_answer, second_replies⟩ := also
  exact replies.unique (second_replies.of_same_answer (answer.trans second_answer.symm))

/-- By the table, the step succeeds with the attempt of this number, and these steps follow. The
limit is the number of attempts that are allowed. -/
structure Succeeds (client : Client σ) (table : Table) (threshold limit : Nat) (step : Step)
    (number : Nat) (next : List Step) : Prop where
  spent : ∀ earlier < number, ∀ other, ¬ Tells client table threshold step earlier other
  allowed : number < limit
  tells : Tells client table threshold step number next

/-- A step succeeds with one attempt and in one way. -/
theorem Succeeds.unique {table : Table} {threshold limit number second : Nat} {step : Step}
    {next other : List Step} (succeeds : Succeeds client table threshold limit step number next)
    (also : Succeeds client table threshold limit step second other) :
    number = second ∧ next = other := by
  obtain rfl : number = second := by
    rcases Nat.lt_trichotomy number second with earlier | same | later
    · exact absurd succeeds.tells (also.spent number earlier next)
    · exact same
    · exact absurd also.tells (succeeds.spent second later other)
  exact ⟨rfl, succeeds.tells.unique also.tells⟩

variable {table : Table}

/-- In a crawl, the attempt that lands carries the number of the attempts that its step had. -/
theorem Crawled.failures_eq (crawled : Crawled client policy anchor history moment.state)
    (landing : moment.landing? policy = some flight) :
    flight.attempt.failures = (history.failed client policy).count flight.attempt.step ∧
      flight.attempt.failures = (history.trialsOf client policy flight.attempt.step).length := by
  have waiting : flight.attempt ∈ moment.state.scheduled := by
    rw [State.scheduled_eq]
    exact List.mem_append_left _ (Moment.active_of_landing landing)
  have undone := List.count_eq_zero.mpr
    (crawled.ledger.open_of_pending (List.mem_map_of_mem waiting)).1
  have number := (crawled.counted.waiting _ waiting).1
  refine ⟨number, ?_⟩
  rw [History.trials_of_length, undone, number]
  rfl

/-- When the client answers by a table, an attempt that lands does what the table says. -/
theorem Crawled.tells_iff (crawled : Crawled client policy anchor history moment.state)
    (tabled : Tabled client policy table (history ++ [moment]))
    (landing : moment.landing? policy = some flight) (next : List Step) :
    (∃ outcome, (flight.land client policy moment.state).result = .ok outcome ∧
      outcome.next = next) ↔
    Tells client table policy.cacheThreshold flight.attempt.step flight.attempt.failures next := by
  have answered := tabled.last landing
  rw [← (crawled.failures_eq landing).2] at answered
  refine (crawled.crawling.executes_iff (Moment.sent_of_landing landing) _ next).trans ?_
  constructor
  · exact fun replies => ⟨moment.state.world, answered, replies⟩
  · rintro ⟨world, answer, replies⟩
    exact replies.of_same_answer (answered.trans answer.symm)

end TrustFederation.Crawl
