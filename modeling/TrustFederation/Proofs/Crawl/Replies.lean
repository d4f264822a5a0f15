import TrustFederation.Proofs.Crawl.Invariant
import TrustFederation.Proofs.Statement.Tokens
/-!
# What follows a step

Whether a step of a crawl succeeds is up to the answer that its client gives to one request, and
so are the steps that follow it. A step that lists an authority is followed by one for every
subordinate, and a crawl takes up those of them that nobody has claimed. Any other step is
followed by a single one, which is about the same entity and leads it one step further.
-/
namespace TrustFederation.Crawl

open Client (Request)
open Text (lowercase sameAscii)
open TrustFederation.Tree (Generation Version)

variable {σ : Type} {client : Client σ}

/-! ## Well-formed matching replies -/

/-- The statement is about what was asked for, and it has a key. -/
structure Matches (statement : Statement) (issuer subject : String) : Prop where
  issuer : sameAscii statement.issuer issuer = true
  subject : sameAscii statement.subject subject = true
  keyed : ∃ key, statement.nodeKey = .ok key

/-- The client answers the request of a step with something well-formed that matches the request,
and these are the steps that follow. An authority that does not offer to list its subordinates is
asked for nothing. -/
inductive Replies (client : Client σ) (useCached : Bool) (world : σ) : Step → List Step → Prop where
  | root {entity : String} {configuration : Statement}
      (answer : (client.configuration ((Request.plain useCached).withParameter "sub" entity)
        world).1 = .ok configuration)
      (fits : Matches configuration entity entity) :
      Replies client useCached world (.resolveRoot entity) [.listSubordinates configuration]
  | leaf {authority : Statement}
      (offers : authority.endpoints?.filter (·.canListSubordinates) = none) :
      Replies client useCached world (.listSubordinates authority) []
  | listing {authority : Statement} {endpoints : Endpoints} {subordinates : List String}
      (offers : authority.endpoints?.filter (·.canListSubordinates) = some endpoints)
      (answer : (client.listing ((Request.plain useCached).withEndpoints endpoints) world).1 =
        .ok subordinates) :
      Replies client useCached world (.listSubordinates authority)
        (subordinates.map (.fetchSubordinate authority))
  | subordinate {authority statement : Statement} {subordinate : String} {endpoints : Endpoints}
      (offers : authority.endpoints? = some endpoints)
      (answer : (client.fetch (((Request.plain useCached).withParameter "sub"
        subordinate).withEndpoints endpoints) world).1 = .ok statement)
      (fits : Matches statement authority.subject subordinate) :
      Replies client useCached world (.fetchSubordinate authority subordinate)
        [.fetchConfiguration statement]
  | configuration {statement configuration : Statement}
      (answer : (client.configuration (configurationRequest statement useCached) world).1 =
        .ok configuration)
      (fits : Matches configuration statement.subject statement.subject) :
      Replies client useCached world (.fetchConfiguration statement)
        [.listSubordinates configuration]

/-- A step has one well-formed matching reply at most. -/
theorem Replies.unique {useCached : Bool} {world : σ} {step : Step} {next other : List Step}
    (replies : Replies client useCached world step next)
    (also : Replies client useCached world step other) : next = other := by
  cases replies with
  | root answer =>
    cases also with
    | root second => rw [Except.ok.inj (answer.symm.trans second)]
  | leaf offers =>
    cases also with
    | leaf => rfl
    | listing others => cases offers.symm.trans others
  | listing offers answer =>
    cases also with
    | leaf others => cases offers.symm.trans others
    | listing others second =>
      rw [Option.some.inj (offers.symm.trans others)] at answer
      rw [Except.ok.inj (answer.symm.trans second)]
  | subordinate offers answer =>
    cases also with
    | subordinate others second =>
      rw [Option.some.inj (offers.symm.trans others)] at answer
      rw [Except.ok.inj (answer.symm.trans second)]
  | configuration answer =>
    cases also with
    | configuration second => rw [Except.ok.inj (answer.symm.trans second)]

theorem attach_ok {version : Version} {store : StatementStore} {parent statement : Statement}
    {next : Step} {outcome : Outcome}
    (attached : attach version store parent statement next = .ok outcome) :
    (∃ key, statement.nodeKey = .ok key) ∧ outcome.next = [next] := by
  obtain ⟨parent_key, -, rest⟩ := bind_ok_iff.mp attached
  obtain ⟨key, keyed, rest⟩ := bind_ok_iff.mp rest
  obtain ⟨grown, -, made⟩ := bind_ok_iff.mp rest
  cases made
  exact ⟨⟨key, keyed⟩, rfl⟩

/-- A statement that is attached was received, and it matches the request. -/
theorem reply_of_attached {version : Version} {store : StatementStore} {parent : Statement}
    {answer : Except Failure Statement × σ} {issuer subject : String} {next : Statement → Step}
    {outcome : Outcome}
    (succeeded : (andThen answer fun statement => do
      checkStatement statement issuer subject
      attach version store parent statement (next statement)).1 = .ok outcome) :
    ∃ statement, answer.1 = .ok statement ∧ Matches statement issuer subject ∧
      outcome.next = [next statement] := by
  obtain ⟨statement, received, rest⟩ := bind_ok_iff.mp succeeded
  obtain ⟨_, checked, attached⟩ := bind_ok_iff.mp rest
  obtain ⟨issuer, subject⟩ := (check_statement_ok_iff _ _ _).mp checked
  obtain ⟨keyed, follows⟩ := attach_ok attached
  exact ⟨statement, received, ⟨issuer, subject, keyed⟩, follows⟩

/-- A step that succeeds has got a well-formed matching reply. -/
theorem replies_of_execute {step : Step} {useCached : Bool} {filled : Option Version}
    {store : StatementStore} {world : σ} {outcome : Outcome}
    (succeeded : (execute client step useCached filled store world).1 = .ok outcome) :
    Replies client useCached world step outcome.next := by
  cases step with
  | resolveRoot entity =>
    simp only [execute, andThen] at succeeded
    obtain ⟨configuration, answer, started⟩ := bind_ok_iff.mp succeeded
    obtain ⟨_, checked, rest⟩ := bind_ok_iff.mp started
    obtain ⟨key, keyed, made⟩ := bind_ok_iff.mp rest
    cases made
    obtain ⟨issuer, subject⟩ := (check_statement_ok_iff _ _ _).mp checked
    exact .root answer ⟨issuer, subject, key, keyed⟩
  | listSubordinates authority =>
    simp only [execute] at succeeded
    cases offers : authority.endpoints?.filter (·.canListSubordinates) with
    | none =>
      simp only [offers] at succeeded
      cases succeeded
      exact .leaf offers
    | some endpoints =>
      simp only [offers, andThen] at succeeded
      obtain ⟨subordinates, answer, made⟩ := bind_ok_iff.mp succeeded
      cases made
      exact .listing offers answer
  | fetchSubordinate authority subordinate =>
    simp only [execute] at succeeded
    split at succeeded
    · cases succeeded
    · cases succeeded
    case h_3 version endpoints begun offers =>
      obtain ⟨statement, answer, fits, next⟩ := reply_of_attached succeeded
      rw [next]
      exact .subordinate offers answer fits
  | fetchConfiguration statement =>
    simp only [execute] at succeeded
    split at succeeded
    · cases succeeded
    case h_2 version begun =>
      obtain ⟨configuration, answer, fits, next⟩ := reply_of_attached succeeded
      rw [next]
      exact .configuration answer fits

/-- The first step of a crawl succeeds with a well-formed matching reply. -/
theorem root_executes {entity : String} {useCached : Bool} {world : σ} {next : List Step}
    (replies : Replies client useCached world (.resolveRoot entity) next)
    (filled : Option Version) (store : StatementStore) :
    ∃ outcome, (execute client (.resolveRoot entity) useCached filled store world).1 =
      .ok outcome ∧ outcome.next = next := by
  cases replies with
  | @root _ configuration answer fits =>
    obtain ⟨key, keyed⟩ := fits.keyed
    have checked := (check_statement_ok_iff configuration entity entity).mpr
      ⟨fits.issuer, fits.subject⟩
    simp only [execute, andThen, answer, Except.bind, startVersion, checked, keyed]
    exact ⟨_, rfl, rfl⟩

/-- Below a statement of a chart, a statement that has a key is attached. -/
theorem attach_executes {generation : Generation Statement} (chart : Chart generation)
    {store : StatementStore} {version : Version}
    (held : store.generation? version = some generation) {node : Tree.Node}
    {parent statement : Statement} (stored : generation.data? node = some parent)
    (keyed : ∃ key, statement.nodeKey = .ok key) (next : Step) :
    ∃ outcome, attach version store parent statement next = .ok outcome ∧
      outcome.next = [next] := by
  obtain ⟨key, keyed⟩ := keyed
  rw [attach_eq chart held stored, keyed]
  exact ⟨_, rfl, rfl⟩

/-- A ready step succeeds with a well-formed matching reply: its parent is found. -/
theorem Ready.executes {generation : Generation Statement} (chart : Chart generation)
    {store : StatementStore} {version : Version}
    (held : store.generation? version = some generation) {step : Step} {useCached : Bool}
    {world : σ} {next : List Step} (ready : Ready generation step)
    (replies : Replies client useCached world step next) :
    ∃ outcome, (execute client step useCached (some version) store world).1 = .ok outcome ∧
      outcome.next = next := by
  cases replies with
  | root => cases ready
  | leaf offers =>
    simp only [execute, offers]
    exact ⟨_, rfl, rfl⟩
  | listing offers answer =>
    simp only [execute, offers, andThen, answer, Except.bind]
    exact ⟨_, rfl, rfl⟩
  | @subordinate authority statement subordinate endpoints offers answer fits =>
    have checked := (check_statement_ok_iff statement authority.subject subordinate).mpr
      ⟨fits.issuer, fits.subject⟩
    simp only [execute, requireVersion, offers, andThen, answer, Except.bind]
    rw [checked]
    cases ready with
    | subordinate stored => exact attach_executes chart held stored fits.keyed _
  | @configuration statement configuration answer fits =>
    have checked := (check_statement_ok_iff configuration statement.subject
      statement.subject).mpr ⟨fits.issuer, fits.subject⟩
    simp only [execute, requireVersion, andThen, answer, Except.bind]
    rw [checked]
    cases ready with
    | configuration stored => exact attach_executes chart held stored fits.keyed _

/-- In a crawl, a step in flight succeeds exactly with a well-formed matching reply, and this reply
alone decides what follows. -/
theorem Crawling.executes_iff {policy : Policy} {anchor : String} {state : State σ}
    (crawling : Crawling client policy anchor state) {flight : Flight}
    (sent : flight ∈ (state.fill policy).inFlight) (useCached : Bool) (next : List Step) :
    (∃ outcome, (execute client flight.attempt.step useCached flight.version state.store
      state.world).1 = .ok outcome ∧ outcome.next = next) ↔
    Replies client useCached state.world flight.attempt.step next := by
  constructor
  · rintro ⟨outcome, succeeded, rfl⟩
    exact replies_of_execute succeeded
  · intro replies
    rcases crawling.invariant.phase with opening | ⟨version, generation, building⟩
    · rw [opening.step_eq sent] at replies ⊢
      exact root_executes replies _ _
    · rw [State.fill_flights policy building.flights flight sent, building.begun]
      exact (building.ready _ (State.pending_of_sent sent)).executes building.chart building.held
        replies

/-! ## Identifiers and weights -/

/-- The identifier, with its letters made small, of the entity that a step is about. -/
def Step.identifier : Step → String
  | .resolveRoot entity => lowercase entity
  | .listSubordinates authority => lowercase authority.subject
  | .fetchSubordinate _ subordinate => lowercase subordinate
  | .fetchConfiguration statement => lowercase statement.subject

/-- How many turns a step may still give rise to, without those of other entities. -/
def weight : Step → Nat
  | .resolveRoot _ => 2
  | .listSubordinates _ => 1
  | .fetchSubordinate .. => 3
  | .fetchConfiguration _ => 2

/-- What all steps of a list weigh together. -/
def worth : List Step → Nat
  | [] => 0
  | step :: rest => weight step + worth rest

theorem weight_pos (step : Step) : 0 < weight step := by
  cases step <;> exact Nat.succ_pos _

theorem worth_append (steps others : List Step) :
    worth (steps ++ others) = worth steps + worth others := by
  induction steps with
  | nil => exact (Nat.zero_add _).symm
  | cons step rest ih =>
    rw [List.cons_append, worth, worth, ih]
    omega

theorem worth_perm {steps others : List Step} (same : steps.Perm others) :
    worth steps = worth others := by
  induction same with
  | nil => rfl
  | cons step _ ih => rw [worth, worth, ih]
  | swap one two rest =>
    simp only [worth]
    omega
  | trans _ _ first second => exact first.trans second

theorem worth_listed (authority : Statement) (news : List String) :
    worth (news.map (Step.fetchSubordinate authority)) = 3 * news.length := by
  induction news with
  | nil => rfl
  | cons subordinate rest ih =>
    rw [List.map_cons, worth, ih, List.length_cons]
    simp only [weight]
    omega

/-- Every step weighs something. -/
theorem length_le_worth (steps : List Step) : steps.length ≤ worth steps := by
  induction steps with
  | nil => exact Nat.le_refl 0
  | cons step rest ih =>
    have positive := weight_pos step
    rw [List.length_cons, worth]
    omega

/-! ## What a crawl takes up -/

/-- The steps that a crawl takes up after a step has succeeded, and what is claimed then. -/
inductive Brings (claimed : List String) : Step → List Step → List String → Prop where
  /-- The next step about the same entity. -/
  | further {step successor : Step} (about : successor.identifier = step.identifier)
      (lighter : weight successor + 1 = weight step) :
      Brings claimed step [successor] claimed
  /-- One step for every identifier that was not claimed before. -/
  | claims {authority : Statement} {news : List String} (distinct : (news.map lowercase).Nodup)
      (fresh : ∀ subordinate ∈ news, lowercase subordinate ∉ claimed) :
      Brings claimed (.listSubordinates authority) (news.map (.fetchSubordinate authority))
        ((news.map lowercase).reverse ++ claimed)

/-- Claims are never given back. -/
theorem Brings.grown {claimed claims : List String} {step : Step} {news : List Step}
    (brings : Brings claimed step news claims) {identifier : String}
    (member : identifier ∈ claimed) : identifier ∈ claims := by
  cases brings with
  | further => exact member
  | claims => exact List.mem_append_right _ member

/-- After a well-formed matching reply, a crawl takes up the next step about the entity, or steps
for new identifiers. -/
theorem Replies.brings {step : Step} {useCached : Bool} {world : σ} {next : List Step}
    (replies : Replies client useCached world step next) (claimed : List String) :
    Brings claimed step (State.claim claimed next).1 (State.claim claimed next).2 := by
  cases replies with
  | root answer fits =>
    exact .further (Text.lowercase_eq_of_same_ascii fits.subject) rfl
  | leaf offers => exact @Brings.claims claimed _ [] .nil fun _ none_listed => by cases none_listed
  | @listing authority endpoints subordinates offers answer =>
    obtain ⟨news, claims, -, distinct, fresh, -⟩ := claim_listing claimed authority subordinates
    rw [claims]
    exact .claims distinct fresh
  | subordinate offers answer fits =>
    exact .further (Text.lowercase_eq_of_same_ascii fits.subject) rfl
  | configuration answer fits =>
    exact .further (Text.lowercase_eq_of_same_ascii fits.subject) rfl

end TrustFederation.Crawl
