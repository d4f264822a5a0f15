import TrustFederation.Proofs.Crawl.Invariant
import TrustFederation.Proofs.Federation.Honest
/-!
# A client that serves an honest federation

A client serves a federation when it answers every request for it with what the entities say.
Then no step fails that the entities give rise to and whose parent is in the tree, and what it
leaves is known.
-/
namespace TrustFederation.Federation

open Text (lowercase sameAscii)
open TrustFederation.Crawl
open TrustFederation.Tree (Generation Node Store Version)

/-- The client answers every request for what the entities of a federation say. -/
structure Serves {σ : Type} (federation : Federation) (client : Client σ) : Prop where
  configuration : ∀ entity ∈ federation.entities, ∀ request world,
    request.parameter? Client.subjectParameter = some entity →
    (client.configuration request world).1 = .ok (federation.configuration entity)
  listing : ∀ authority ∈ federation.entities, ∀ endpoints request world,
    (federation.configuration authority).endpoints? = some endpoints →
    endpoints.canListSubordinates = true → request.endpoints = some endpoints →
    (client.listing request world).1 = .ok (federation.listing authority)
  fetch : ∀ authority ∈ federation.entities, ∀ subordinate ∈ federation.listing authority,
    ∀ endpoints request world,
    (federation.configuration authority).endpoints? = some endpoints →
    request.endpoints = some endpoints →
    request.parameter? Client.subjectParameter = some subordinate →
    (client.fetch request world).1 = .ok (federation.statement authority subordinate)

/-- What the client of the pair answers with. -/
def pairAnswer (issuer : String) (subject : Option String) : Except Failure Statement :=
  match subject with
  | some subject =>
    if (issuer, subject) ∈ pairSayings then .ok (pairStatement issuer subject)
    else .error (.notFound subject)
  | none => .error (.notFound issuer)

/-- The client of the pair, where only one entity has endpoints. -/
def pairClient : Client Unit where
  configuration request world :=
    let subject := request.parameter? Client.subjectParameter
    (pairAnswer (subject.getD "") subject, world)
  fetch request world := (pairAnswer "a" (request.parameter? Client.subjectParameter), world)
  listing _ world := (.ok (pair.listing "a"), world)

theorem pair_answer {issuer subject : String} (among : (issuer, subject) ∈ pairSayings) :
    pairAnswer issuer (some subject) = .ok (pairStatement issuer subject) := if_pos among

theorem pair_declares_of_answer {issuer : String} {subject : Option String}
    {statement : Statement} (answer : pairAnswer issuer subject = .ok statement) :
    ∃ subject, pair.Declares 2 issuer subject statement := by
  cases subject with
  | none => cases answer
  | some subject =>
    simp only [pairAnswer] at answer
    split at answer
    case isTrue among =>
      cases answer
      exact ⟨subject, pair_declares among⟩
    case isFalse => cases answer

theorem pair_serves : pair.Serves pairClient := by
  have silent : (pair.configuration "b").endpoints? = none := by decide +kernel
  have two (entity : String) (member : entity ∈ pair.entities) : entity = "a" ∨ entity = "b" := by
    simpa [pair] using member
  constructor
  · intro entity member request world asked
    show pairAnswer _ _ = _
    rw [asked]
    rcases two entity member with rfl | rfl
    · exact pair_answer (by decide)
    · exact pair_answer (by decide)
  · intro authority member endpoints request world offered
    rcases two authority member with rfl | rfl
    · exact fun _ _ => rfl
    · rw [silent] at offered
      cases offered
  · intro authority member subordinate listed endpoints request world _ _ asked
    rcases two authority member with rfl | rfl
    · show pairAnswer _ _ = _
      rw [asked]
      simp only [pair, if_true, List.mem_cons, List.not_mem_nil, or_false] at listed
      rcases listed with rfl | rfl
      · exact pair_answer (by decide)
      · exact pair_answer (by decide)
    · cases listed

/-- The client that answers with another configuration of one entity. -/
def reconfiguredClient {σ : Type} (client : Client σ) (entity : String)
    (configuration : Statement) : Client σ :=
  { client with
    configuration := fun request world =>
      let (answer, after) := client.configuration request world
      (if request.parameter? Client.subjectParameter = some entity then .ok configuration
        else answer, after) }

/-- The entities to which listings lead from an anchor. -/
inductive Reaches (federation : Federation) (anchor : String) : String → Prop where
  | anchor : Reaches federation anchor anchor
  | listed {authority subordinate : String} (above : Reaches federation anchor authority)
      (member : subordinate ∈ federation.listing authority) :
      Reaches federation anchor subordinate

variable {σ : Type} {federation : Federation} {now : Int} {client : Client σ}

theorem Reaches.mem_entities (honest : federation.Honest now) {anchor entity : String}
    (reaches : federation.Reaches anchor entity) (start : anchor ∈ federation.entities) :
    entity ∈ federation.entities := by
  induction reaches with
  | anchor => exact start
  | listed _ member ih => exact honest.listed _ ih _ member

/-- A client that serves a federation serves it also with another configuration of one entity, if
this has the same endpoints. -/
theorem Serves.reconfigured (serves : federation.Serves client) {entity : String}
    {configuration : Statement}
    (same : configuration.endpoints? = (federation.configuration entity).endpoints?) :
    (federation.reconfigured entity configuration).Serves
      (reconfiguredClient client entity configuration) := by
  have before {authority : String} {endpoints : Endpoints}
      (offered : ((federation.reconfigured entity configuration).configuration
        authority).endpoints? = some endpoints) :
      (federation.configuration authority).endpoints? = some endpoints := by
    rcases eq_or_ne authority entity with rfl | differs
    · rwa [reconfigured_self, same] at offered
    · rwa [reconfigured_of_ne differs] at offered
  constructor
  · intro other member request world asked
    show (if request.parameter? Client.subjectParameter = some entity then _ else _) = _
    rw [asked]
    rcases eq_or_ne other entity with rfl | differs
    · rw [if_pos rfl, reconfigured_self]
    · rw [if_neg (by simpa using differs), reconfigured_of_ne differs]
      exact serves.configuration other member request world asked
  · intro authority member endpoints request world offered
    exact serves.listing authority member endpoints request world (before offered)
  · intro authority member subordinate listed endpoints request world offered
    exact serves.fetch authority member subordinate listed endpoints request world (before offered)

/-! ## Kinds of statements -/

theorem configuration_kind (honest : federation.Honest now) {entity : String}
    (member : entity ∈ federation.entities) :
    IsConfiguration (federation.configuration entity) := by
  rw [IsConfiguration, (honest.configurations entity member).maker,
    (honest.configurations entity member).about]
  exact Text.sameAscii_refl entity

/-- An entity has one configuration only, and no other entity has it. -/
theorem configuration_inj (honest : federation.Honest now) {entity other : String}
    (member : entity ∈ federation.entities) (also : other ∈ federation.entities)
    (same : federation.configuration entity = federation.configuration other) :
    entity = other := by
  rw [← (honest.configurations entity member).about, same,
    (honest.configurations other also).about]

/-- What an authority says about another entity is nobody's configuration. -/
theorem subordinate_ne_configuration (honest : federation.Honest now) {statement : Statement}
    (differs : IsSubordinate statement) {entity : String} (member : entity ∈ federation.entities) :
    statement ≠ federation.configuration entity := by
  rintro rfl
  exact (configuration_kind honest member).not_subordinate differs

/-! ## Steps that are answered -/

/-- The step is one that the entities of the federation give rise to. -/
inductive Genuine (federation : Federation) : Step → Prop where
  | listing {entity : String} (member : entity ∈ federation.entities) :
      Genuine federation (.listSubordinates (federation.configuration entity))
  | subordinate {authority subordinate : String} (member : authority ∈ federation.entities)
      (listed : subordinate ∈ federation.listing authority) :
      Genuine federation (.fetchSubordinate (federation.configuration authority) subordinate)
  | configuration {authority subordinate : String} (member : authority ∈ federation.entities)
      (listed : subordinate ∈ federation.listing authority) :
      Genuine federation (.fetchConfiguration (federation.statement authority subordinate))

/-- What a genuine step leaves when it is answered. -/
inductive Served (federation : Federation) (store : StatementStore) (version : Version)
    (generation : Generation Statement) : Step → Outcome → Prop where
  | listing {entity : String} (member : entity ∈ federation.entities) :
      Served federation store version generation
        (.listSubordinates (federation.configuration entity))
        ⟨store, none, (federation.listing entity).map
          (.fetchSubordinate (federation.configuration entity))⟩
  | subordinate {authority subordinate : String} {node : Node} {key : Tree.NodeKey}
      (member : authority ∈ federation.entities)
      (listed : subordinate ∈ federation.listing authority)
      (stored : generation.data? node = some (federation.configuration authority))
      (keyed : (federation.statement authority subordinate).nodeKey = .ok key) :
      Served federation store version generation
        (.fetchSubordinate (federation.configuration authority) subordinate)
        ⟨attached store version node key.text (federation.statement authority subordinate), none,
          [.fetchConfiguration (federation.statement authority subordinate)]⟩
  | configuration {authority subordinate : String} {node : Node} {key : Tree.NodeKey}
      (member : authority ∈ federation.entities)
      (listed : subordinate ∈ federation.listing authority)
      (stored : generation.data? node = some (federation.statement authority subordinate))
      (keyed : (federation.configuration subordinate).nodeKey = .ok key) :
      Served federation store version generation
        (.fetchConfiguration (federation.statement authority subordinate))
        ⟨attached store version node key.text (federation.configuration subordinate), none,
          [.listSubordinates (federation.configuration subordinate)]⟩

/-- What an entity says about another one has a key. -/
theorem Declares.keyed (honest : federation.Honest now) {issuer subject : String}
    {statement : Statement} (declared : federation.Declares now issuer subject statement)
    (maker : issuer ∈ federation.entities) (about : subject ∈ federation.entities) :
    ∃ key, statement.nodeKey = .ok key := by
  have free : Tree.separator ∉ statement.issuer.toList ∧
      Tree.separator ∉ statement.subject.toList := by
    rw [declared.maker, declared.about]
    exact ⟨honest.plain issuer maker, honest.plain subject about⟩
  exact Tree.NodeKey.made_of_parts_iff.mpr free

theorem Declares.checked {issuer subject : String} {statement : Statement}
    (declared : federation.Declares now issuer subject statement) :
    checkStatement statement issuer subject = .ok () := by
  rw [check_statement_ok_iff, declared.maker, declared.about]
  exact ⟨Text.sameAscii_refl issuer, Text.sameAscii_refl subject⟩

/-- A request with a subject asks about this subject, wherever a configuration is looked for. -/
theorem configuration_request_subject (statement : Statement) (useCached : Bool) :
    (configurationRequest statement useCached).parameter? Client.subjectParameter =
      some statement.subject := by
  unfold configurationRequest
  cases statement.configurationLocation with
  | none => simp [Client.Request.parameter?, Client.Request.withParameter,
      Client.subjectParameter, Text.Dictionary.lookup_insert]
  | some location => simp [Client.Request.parameter?, Client.Request.withParameter,
      Client.subjectParameter, Text.Dictionary.lookup_insert]

/-- A request for one statement asks about its subject. -/
theorem request_subject (useCached : Bool) (subject : String) :
    ((Client.Request.plain useCached).withParameter "sub" subject).parameter?
      Client.subjectParameter = some subject := by
  simp [Client.Request.parameter?, Client.Request.withParameter, Client.subjectParameter,
    Text.Dictionary.lookup_insert]

/-- The first step of a crawl succeeds. -/
theorem Serves.root (serves : federation.Serves client) (honest : federation.Honest now)
    {anchor : String} (start : anchor ∈ federation.entities) (useCached : Bool)
    (filled : Option Version) (store : StatementStore) (world : σ) :
    ∃ key, (federation.configuration anchor).nodeKey = .ok key ∧
      (execute client (.resolveRoot anchor) useCached filled store world).1 =
        .ok ⟨store.create key.text (federation.configuration anchor),
          some (store.allocated + 1), [.listSubordinates (federation.configuration anchor)]⟩ := by
  have declared := honest.configurations anchor start
  obtain ⟨key, keyed⟩ := declared.keyed honest start start
  have answer := serves.configuration anchor start _ world (request_subject useCached anchor)
  refine ⟨key, keyed, ?_⟩
  simp only [execute, andThen, answer, Except.bind, startVersion, declared.checked, keyed]
  rfl

/-- A listing of an entity succeeds. An entity without endpoints lists nothing. -/
theorem Serves.lists (serves : federation.Serves client) (honest : federation.Honest now)
    {entity : String} (member : entity ∈ federation.entities) (useCached : Bool)
    (filled : Option Version) (store : StatementStore) (world : σ) :
    (execute client (.listSubordinates (federation.configuration entity)) useCached filled store
      world).1 = .ok ⟨store, none,
        (federation.listing entity).map (.fetchSubordinate (federation.configuration entity))⟩ := by
  cases offered : (federation.configuration entity).endpoints?.filter (·.canListSubordinates) with
  | none =>
    have nothing : federation.listing entity = [] := by
      by_cases some_listed : federation.listing entity = []
      · exact some_listed
      · obtain ⟨endpoints, found, lists⟩ := honest.offers entity member some_listed
        rw [found, Option.filter_some, if_pos lists] at offered
        cases offered
    simp only [execute, offered, nothing, List.map_nil]
  | some endpoints =>
    obtain ⟨found, lists⟩ := Option.filter_eq_some_iff.mp offered
    have answer := serves.listing entity member endpoints
      ((Client.Request.plain useCached).withEndpoints endpoints) world found lists rfl
    simp only [execute, offered, andThen, answer, Except.bind]

section Attaching

variable {store : StatementStore} {version : Version} {generation : Generation Statement}
  {authority subordinate : String} {node : Node}

/-- The statement of an authority about a subordinate that it lists is fetched and attached. -/
theorem Serves.fetches_statement (serves : federation.Serves client)
    (honest : federation.Honest now)
    (chart : Chart generation) (held : store.generation? version = some generation)
    (member : authority ∈ federation.entities)
    (listed : subordinate ∈ federation.listing authority)
    (stored : generation.data? node = some (federation.configuration authority))
    (useCached : Bool) (world : σ) :
    ∃ key, (federation.statement authority subordinate).nodeKey = .ok key ∧
      (execute client (.fetchSubordinate (federation.configuration authority) subordinate)
        useCached (some version) store world).1 =
        .ok ⟨attached store version node key.text (federation.statement authority subordinate),
          none, [.fetchConfiguration (federation.statement authority subordinate)]⟩ := by
  have declared := honest.statements authority member subordinate listed
  have inside := honest.listed authority member subordinate listed
  obtain ⟨key, keyed⟩ := declared.keyed honest member inside
  obtain ⟨endpoints, found, -⟩ := honest.offers authority member (List.ne_nil_of_mem listed)
  have answer := serves.fetch authority member subordinate listed endpoints
    (((Client.Request.plain useCached).withParameter "sub" subordinate).withEndpoints
      endpoints) world found rfl (request_subject useCached subordinate)
  have checked : checkStatement (federation.statement authority subordinate)
      (federation.configuration authority).subject subordinate = .ok () := by
    rw [(honest.configurations authority member).about]
    exact declared.checked
  refine ⟨key, keyed, ?_⟩
  simp only [execute, requireVersion, found, andThen, answer, Except.bind, checked]
  show attach version store (federation.configuration authority)
    (federation.statement authority subordinate) _ = _
  rw [attach_eq chart held stored, keyed]
  rfl

/-- The configuration of a subordinate is fetched and attached. -/
theorem Serves.fetches_configuration (serves : federation.Serves client)
    (honest : federation.Honest now)
    (chart : Chart generation) (held : store.generation? version = some generation)
    (member : authority ∈ federation.entities)
    (listed : subordinate ∈ federation.listing authority)
    (stored : generation.data? node = some (federation.statement authority subordinate))
    (useCached : Bool) (world : σ) :
    ∃ key, (federation.configuration subordinate).nodeKey = .ok key ∧
      (execute client (.fetchConfiguration (federation.statement authority subordinate))
        useCached (some version) store world).1 =
        .ok ⟨attached store version node key.text (federation.configuration subordinate), none,
          [.listSubordinates (federation.configuration subordinate)]⟩ := by
  have about := (honest.statements authority member subordinate listed).about
  have inside := honest.listed authority member subordinate listed
  have declared := honest.configurations subordinate inside
  obtain ⟨key, keyed⟩ := declared.keyed honest inside inside
  have asked : (configurationRequest (federation.statement authority subordinate)
      useCached).parameter? Client.subjectParameter = some subordinate := by
    rw [configuration_request_subject, about]
  have answer := serves.configuration subordinate inside _ world asked
  refine ⟨key, keyed, ?_⟩
  simp only [execute, requireVersion, andThen, answer, Except.bind, about, declared.checked]
  show attach version store (federation.statement authority subordinate)
    (federation.configuration subordinate) _ = _
  rw [attach_eq chart held stored, keyed]
  rfl

/-- A genuine step that is ready succeeds, with what the entities say. -/
theorem Serves.ready (serves : federation.Serves client) (honest : federation.Honest now)
    (chart : Chart generation) (held : store.generation? version = some generation) {step : Step}
    (genuine : Genuine federation step) (ready : Ready generation step) (useCached : Bool)
    (world : σ) :
    ∃ outcome, (execute client step useCached (some version) store world).1 = .ok outcome ∧
      Served federation store version generation step outcome := by
  cases genuine with
  | listing member =>
    exact ⟨_, serves.lists honest member useCached _ store world, .listing member⟩
  | subordinate member listed =>
    cases ready with
    | subordinate stored _ _ _ =>
      obtain ⟨key, keyed, executed⟩ :=
        serves.fetches_statement honest chart held member listed stored useCached world
      exact ⟨_, executed, .subordinate member listed stored keyed⟩
  | configuration member listed =>
    cases ready with
    | configuration stored _ _ _ =>
      obtain ⟨key, keyed, executed⟩ :=
        serves.fetches_configuration honest chart held member listed stored useCached world
      exact ⟨_, executed, .configuration member listed stored keyed⟩

end Attaching

end TrustFederation.Federation
