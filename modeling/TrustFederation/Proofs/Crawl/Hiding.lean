import TrustFederation.Proofs.Crawl.Exploration
/-!
# What a dropped step hides

An identifier is claimed by the authority that lists it first, and the claim is kept when the step
that it led to is given up. So an entity whose first authority does not answer stays out of the
version, even if another authority lists it too and answers. What the crawl goes through with finds
its way: an entity is in the version if the steps that were taken up about it are answered, and so
are those about the entities on a route from the anchor to it, whatever happens to all the others.
-/
namespace TrustFederation.Crawl

open Text (lowercase)
open TrustFederation.Tree (Store)

variable {σ : Type} {client : Client σ} {policy : Policy} {anchor : String} {history : History σ}
  {state : State σ}

/-! ## Steps that are answered -/

/-- One of the attempts that a step may get is answered with something well-formed that matches its
request, whatever has happened before. -/
def Answered (client : Client σ) (policy : Policy) (step : Step) : Prop :=
  ∃ failures < policy.recovery.attempts, ∀ world, ∃ next,
    Replies client (decide (policy.cacheThreshold ≤ failures)) world step next

/-- An answered step is not given up: it would have failed in every attempt that it may get. -/
theorem Crawled.kept_of_answered (crawled : Crawled client policy anchor history state)
    {step : Step} (answered : Answered client policy step) :
    step ∉ history.dropped client policy := by
  intro given_up
  have ledger := crawled.ledger
  obtain ⟨failures, allowed, replied⟩ := answered
  -- A step is given up after all its attempts, so the answered one has been made.
  have inside : failures < (history.trialsOf client policy step).length := by
    rw [History.trials_of_length, crawled.counted.dropped step given_up]
    omega
  have found := List.getElem?_eq_getElem inside
  have numbered := (crawled.attempted found).1
  obtain ⟨tried, own⟩ := List.mem_filter.mp (List.getElem_mem inside)
  generalize (history.trialsOf client policy step)[failures] = trial at numbered tried own
  obtain ⟨moment, member, flight, landing, rfl⟩ := History.mem_trials.mp tried
  obtain rfl : flight.attempt.step = step := of_decide_eq_true own
  obtain ⟨next, replies⟩ := replied moment.state.world
  have same : flight.attempt.useCached policy.cacheThreshold =
      decide (policy.cacheThreshold ≤ failures) := by
    rw [← numbered]
    rfl
  obtain ⟨outcome, succeeded, -⟩ := ((crawled.crawling_of_mem member).executes_iff
    (Moment.sent_of_landing landing) _ next).mpr (same ▸ replies)
  have done : flight.attempt.step ∈ history.completed client policy := by
    refine List.mem_flatMap.mpr ⟨_, tried, ?_⟩
    simp only [Trial.completed, Flight.land, succeeded]
    exact List.mem_singleton_self _
  exact ledger.kept_of_completed done given_up

/-- When a crawl is over, the answered steps among those that it took up have succeeded. -/
theorem Crawled.completed_of_answered (crawled : Crawled client policy anchor history state)
    (ended : state.pending = []) {step : Step} (known : step ∈ history.steps client policy anchor)
    (answered : Answered client policy step) : step ∈ history.completed client policy :=
  (crawled.ledger.settled ended known).resolve_right (crawled.kept_of_answered answered)

/-! ## Routes -/

/-- The listing of an authority is answered, and every answer that an attempt of it may get names
the identifier. -/
structure Names (client : Client σ) (policy : Policy) (authority : Statement)
    (identifier : String) : Prop where
  answered : Answered client policy (.listSubordinates authority)
  named : ∀ failures < policy.recovery.attempts, ∀ world next,
    Replies client (decide (policy.cacheThreshold ≤ failures)) world
      (.listSubordinates authority) next →
    ∃ subordinate, .fetchSubordinate authority subordinate ∈ next ∧
      lowercase subordinate = identifier

/-- The identifiers on routes from the anchor, given the steps that a crawl has taken up. The steps
about an entity on a route are answered, whichever authority has claimed it, and so are the listings
that name the next one. -/
inductive Route (client : Client σ) (policy : Policy) (anchor : String) (steps : List Step) :
    String → Prop where
  | anchor (answered : Answered client policy (.resolveRoot anchor)) :
      Route client policy anchor steps (lowercase anchor)
  | listed {identifier next : String} (route : Route client policy anchor steps identifier)
      (names : ∀ authority, .listSubordinates authority ∈ steps →
        lowercase authority.subject = identifier → Names client policy authority next)
      (answered : ∀ step ∈ steps, step.identifier = next →
        (∀ authority, step ≠ .listSubordinates authority) → Answered client policy step) :
      Route client policy anchor steps next

/-- A listing that names an identifier, and has succeeded, has claimed it. -/
theorem Names.claimed {authority : Statement} {identifier : String}
    (names : Names client policy authority identifier)
    (crawled : Crawled client policy anchor history state)
    (done : .listSubordinates authority ∈ history.completed client policy) :
    identifier ∈ state.claimed := by
  obtain ⟨moment, member, flight, outcome, landing, step, result⟩ :=
    History.landed_of_completed done
  have allowed := (crawled.tried_of_landing member landing).2
  have replies := replies_of_execute result
  rw [step] at replies
  obtain ⟨subordinate, follows, rfl⟩ := names.named _ allowed _ _ replies
  generalize outcome.next = next at replies follows
  cases replies with
  | leaf nothing => cases follows
  | @listing authority endpoints subordinates offers answer =>
    obtain ⟨listed, among, same⟩ := List.mem_map.mp follows
    cases same
    have heard : Listed client policy history authority subordinates :=
      ⟨moment, member, flight, landing, step, endpoints, offers, answer⟩
    exact (crawled.ledger.heard authority subordinates heard).2.1 _ among

/-- When a crawl is over, it has taken up the listing of every entity on a route.

Proof: induction over the route. The listing of the entity before has succeeded, so the identifier
is claimed, and the steps about it have succeeded up to its listing. -/
theorem Route.listing (crawled : Crawled client policy anchor history state)
    (ended : state.pending = []) {identifier : String}
    (route : Route client policy anchor (history.steps client policy anchor) identifier) :
    ∃ configuration, .listSubordinates configuration ∈ history.steps client policy anchor ∧
      lowercase configuration.subject = identifier := by
  induction route with
  | anchor answered =>
    have known : .resolveRoot anchor ∈ history.steps client policy anchor := List.mem_cons_self
    obtain ⟨successor, taken_up, about, lighter⟩ := History.successor_of_completed
      (crawled.completed_of_answered ended known answered) (by simp) anchor
    cases successor with
    | listSubordinates configuration => exact ⟨configuration, taken_up, about⟩
    | resolveRoot | fetchSubordinate | fetchConfiguration =>
      simp only [weight] at lighter
      omega
  | listed route names answered ih =>
    obtain ⟨authority, listing, subject⟩ := ih
    have lists := names authority listing subject
    have claimed := lists.claimed crawled
      (crawled.completed_of_answered ended listing lists.answered)
    obtain ⟨step, known, about⟩ := (crawled.ledger.lineage.about _).mp claimed
    exact History.listing_of_step (fun step known about other =>
      crawled.completed_of_answered ended known (answered step known about other)) known about

/-- When a crawl is over, its version holds the configuration of every entity on a route, whatever
other steps failed or were given up. -/
theorem held_of_route (crawled : Crawled client policy anchor history state)
    (ended : ∀ choice, state.advance client policy choice = none) {identifier : String}
    (route : Route client policy anchor (history.steps client policy anchor) identifier) :
    ∃ configuration, Holds state.store state.report.version configuration ∧
      lowercase configuration.subject = identifier := by
  obtain ⟨configuration, taken_up, subject⟩ :=
    route.listing crawled ((State.advance_none_iff client policy 0 state).mp (ended 0))
  exact ⟨configuration, (crawled.holds_iff_taken_up configuration).mpr taken_up, subject⟩

/-! ## Paths of answers -/

/-- Every request for the step is answered with something well-formed that matches it, and these
steps follow. -/
def Replied (client : Client σ) (step : Step) (next : List Step) : Prop :=
  ∀ useCached world, Replies client useCached world step next

theorem Replied.answered {step : Step} {next : List Step} (replied : Replied client step next)
    (policy : Policy) : Answered client policy step :=
  ⟨0, policy.recovery.attempts_pos, fun world => ⟨next, replied _ world⟩⟩

theorem Replied.names {authority : Statement} {subordinate : String} {next : List Step}
    (replied : Replied client (.listSubordinates authority) next)
    (follows : .fetchSubordinate authority subordinate ∈ next) (policy : Policy) :
    Names client policy authority (lowercase subordinate) := by
  refine ⟨replied.answered policy, ?_⟩
  intro failures _ world other replies
  rw [replies.unique (replied _ world)]
  exact ⟨subordinate, follows, rfl⟩

/-- The configurations at the ends of paths from the anchor: each entity on the way lists the next
one, and the listings, the statements and the configurations on the way are had for the asking. -/
inductive Path (client : Client σ) (anchor : String) : Statement → Prop where
  | anchor {configuration : Statement}
      (root : Replied client (.resolveRoot anchor) [.listSubordinates configuration]) :
      Path client anchor configuration
  | listed {authority statement configuration : Statement} {subordinates : List String}
      {subordinate : String} (path : Path client anchor authority)
      (listing : Replied client (.listSubordinates authority)
        (subordinates.map (.fetchSubordinate authority)))
      (member : subordinate ∈ subordinates)
      (vouched : Replied client (.fetchSubordinate authority subordinate)
        [.fetchConfiguration statement])
      (declared : Replied client (.fetchConfiguration statement)
        [.listSubordinates configuration]) :
      Path client anchor configuration

/-- The first entity lists `x` and `b`, but gives no statement about `x`. The second one lists `x`
as well and answers. -/
def detour : Client Unit :=
  { circle with
    fetch := fun request world =>
      let issuer := (request.endpoints.bind (·.fetch)).getD ""
      let subject := (request.parameter? "sub").getD ""
      if issuer = "a" ∧ subject = "x" then (.error (.client "down"), world)
      else (.ok (authorityStatement issuer subject), world)
    listing := fun request world =>
      match request.endpoints.bind (·.list) with
      | some "a" => (.ok ["x", "b"], world)
      | some "b" => (.ok ["x"], world)
      | _ => (.ok [], world) }

theorem detour_root : Replied detour (.resolveRoot "a")
    [.listSubordinates (authorityStatement "a" "a")] :=
  fun _ _ => .root rfl ⟨by decide +kernel, by decide +kernel, _, rfl⟩

theorem detour_listing : Replied detour (.listSubordinates (authorityStatement "a" "a"))
    (["x", "b"].map (.fetchSubordinate (authorityStatement "a" "a"))) :=
  fun _ _ => .listing rfl rfl

theorem detour_statement :
    Replied detour (.fetchSubordinate (authorityStatement "a" "a") "b")
      [.fetchConfiguration (authorityStatement "a" "b")] :=
  fun _ _ => .subordinate rfl rfl ⟨by decide +kernel, by decide +kernel, _, rfl⟩

theorem detour_configuration :
    Replied detour (.fetchConfiguration (authorityStatement "a" "b"))
      [.listSubordinates (authorityStatement "b" "b")] :=
  fun _ _ => .configuration rfl ⟨by decide +kernel, by decide +kernel, _, rfl⟩

/-- There is a path to `x` through the second entity. -/
theorem detour_path : Path detour "a" (authorityStatement "x" "x") := by
  have second : Path detour "a" (authorityStatement "b" "b") :=
    .listed (.anchor detour_root) detour_listing (by simp) detour_statement detour_configuration
  have listing : Replied detour (.listSubordinates (authorityStatement "b" "b"))
      (["x"].map (.fetchSubordinate (authorityStatement "b" "b"))) := fun _ _ => .listing rfl rfl
  have statement : Replied detour (.fetchSubordinate (authorityStatement "b" "b") "x")
      [.fetchConfiguration (authorityStatement "b" "x")] :=
    fun _ _ => .subordinate rfl rfl ⟨by decide +kernel, by decide +kernel, _, rfl⟩
  have configuration : Replied detour (.fetchConfiguration (authorityStatement "b" "x"))
      [.listSubordinates (authorityStatement "x" "x")] :=
    fun _ _ => .configuration rfl ⟨by decide +kernel, by decide +kernel, _, rfl⟩
  exact .listed second listing (by simp) statement configuration

/-- A path is not enough. The first entity has claimed `x`, its statement is given up, and the
second entity, which would answer, is not asked. -/
theorem hidden_on_path : ¬ ∀ (client : Client Unit) (policy : Policy) (anchor : String)
    (configuration : Statement), Path client anchor configuration →
    ∃ found, Holds (load client policy anchor (Store.empty 1) ()).2.1
        (load client policy anchor (Store.empty 1) ()).1.version found ∧
      lowercase found.subject = lowercase configuration.subject := by
  intro always
  obtain ⟨found, ⟨number, generation, node, begun, held, stored, -⟩, same⟩ :=
    always detour ⟨.sequential, .drop, 0⟩ "a" (authorityStatement "x" "x") detour_path
  have version : (load detour ⟨.sequential, .drop, 0⟩ "a" (Store.empty 1) ()).1.version =
      some 1 := by decide +kernel
  obtain rfl : 1 = number := Option.some.inj (version.symm.trans begun)
  have subjects : ((load detour ⟨.sequential, .drop, 0⟩ "a" (Store.empty 1) ()).2.1.generation?
      1).map (·.entries.map fun entry => lowercase entry.2.subject) = some ["b", "b", "a"] := by
    decide +kernel
  rw [held, Option.map_some, Option.some.injEq] at subjects
  obtain ⟨before, after, entries, -⟩ := List.lookup_eq_some_iff.mp stored
  have present : lowercase found.subject ∈ ["b", "b", "a"] := by
    rw [← subjects, entries]
    exact List.mem_map.mpr ⟨(node, found), by simp, rfl⟩
  rw [same] at present
  exact absurd present (by decide +kernel)

/-- The second entity of the detour is on a route, and its configuration is held although a step was
given up. -/
theorem held_of_route_detour :
    let policy : Policy := ⟨.sequential, .drop, 0⟩
    let start := State.start "a" (Store.empty 1) ()
    let state := start.run detour policy (fun turns => turns) 9
    state.report.dropped = ["FetchSubordinate(a -> x)"] ∧
      ∃ configuration, Holds state.store state.report.version configuration ∧
        lowercase configuration.subject = "b" := by
  intro policy start state
  have crawled : Crawled detour policy "a"
      (start.moments detour policy (fun turns => turns) 9) state :=
    (Crawled.start 1 [] ()).run (fun turns => turns) 9
  have ended (choice : Nat) : state.advance detour policy choice = none :=
    (State.advance_none_iff detour policy choice state).mpr (by decide +kernel)
  refine ⟨by decide +kernel, held_of_route crawled ended ?_⟩
  have steps :
      History.steps detour policy "a" (start.moments detour policy (fun turns => turns) 9) =
      [.resolveRoot "a", .listSubordinates (authorityStatement "a" "a"),
        .fetchSubordinate (authorityStatement "a" "a") "x",
        .fetchSubordinate (authorityStatement "a" "a") "b",
        .fetchConfiguration (authorityStatement "a" "b"),
        .listSubordinates (authorityStatement "b" "b")] := by decide +kernel
  rw [steps]
  have second : lowercase "b" = "b" := by decide +kernel
  refine .listed (.anchor (detour_root.answered policy)) ?_ ?_
  · intro authority listing subject
    simp only [List.mem_cons, List.not_mem_nil, or_false, reduceCtorEq, false_or,
      Step.listSubordinates.injEq] at listing
    rcases listing with rfl | rfl
    · rw [← second]
      exact detour_listing.names (by simp) policy
    · exact absurd subject (by decide +kernel)
  · intro step known about other
    simp only [List.mem_cons, List.not_mem_nil, or_false] at known
    rcases known with rfl | rfl | rfl | rfl | rfl | rfl
    · exact absurd about (by decide +kernel)
    · exact absurd rfl (other _)
    · exact absurd about (by decide +kernel)
    · exact detour_statement.answered policy
    · exact detour_configuration.answered policy
    · exact absurd rfl (other _)

end TrustFederation.Crawl
