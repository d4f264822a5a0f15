import TrustFederation.Proofs.Crawl.Replies
import TrustFederation.Proofs.Federation.Service
/-!
# A crawl covers an honest federation

When a client serves an honest federation, no step of a crawl fails. Whatever the order in which
the steps complete, each of them uses up some of what an entity is worth, so a crawl is over after
three turns for each entity. Then every entity that can be reached from the anchor through
listings has its configuration in the tree.
-/
namespace TrustFederation.Federation

open Text (lowercase sameAscii)
open TrustFederation.Crawl
open TrustFederation.Tree (Generation Node Store Version)

variable {σ : Type} {federation : Federation} {now : Int} {client : Client σ} {policy : Policy}
  {anchor : String} {state next : State σ} {version : Version} {generation : Generation Statement}

/-! ## What is covered, and what is left -/

/-- The statement is a configuration of an entity, or what an authority says about another
entity that it lists. -/
def Spoken (federation : Federation) (statement : Statement) : Prop :=
  (∃ entity ∈ federation.entities, statement = federation.configuration entity) ∨
  IsSubordinate statement ∧ ∃ authority ∈ federation.entities,
    ∃ subordinate ∈ federation.listing authority,
      statement = federation.statement authority subordinate

/-- The crawl of an honest federation covers what it has claimed: a claimed identifier is that of
an entity whose configuration is in the tree or promised, and an entity in the tree is about to
be listed, or everything that it lists is claimed. -/
structure Covering (federation : Federation) (state : State σ) (version : Version)
    (generation : Generation Statement) : Prop where
  begun : state.report.version = some version
  held : state.store.generation? version = some generation
  newer : state.store.current < version
  undeferred : state.deferred = []
  genuine : ∀ step ∈ state.pending, Genuine federation step
  stored : ∀ {node statement}, generation.data? node = some statement →
    Spoken federation statement
  distinct : state.claimed.Nodup
  claims : ∀ identifier ∈ state.claimed, ∃ entity ∈ federation.entities,
    identifier = lowercase entity ∧
      ((∃ node, generation.data? node = some (federation.configuration entity)) ∨
        ∃ step ∈ state.pending, step.promise = some identifier)
  covered : ∀ entity ∈ federation.entities,
    (∃ node, generation.data? node = some (federation.configuration entity)) →
    .listSubordinates (federation.configuration entity) ∈ state.pending ∨
      ∀ subordinate ∈ federation.listing entity, lowercase subordinate ∈ state.claimed

/-- How many turns a crawl may still take: three for each entity that is not claimed yet, and
those of the pending steps. -/
def remaining (federation : Federation) (state : State σ) : Nat :=
  3 * (federation.entities.length - state.claimed.length) + worth state.pending

/-- When a step has succeeded, its weight is replaced by that of the steps it left. -/
theorem worth_of_completed {step : Step} {rest : List Step} {outcome : Outcome}
    (completed : Completed policy state next step rest outcome) :
    worth next.pending + weight step =
      worth (State.claim state.claimed outcome.next).1 + worth state.pending := by
  have after := worth_perm completed.pending
  have before := worth_perm completed.before
  rw [worth_append] at after
  rw [worth] at before
  omega

/-- No more identifiers are claimed than there are entities. -/
theorem Covering.claimed_length (covering : Covering federation state version generation) :
    state.claimed.length ≤ federation.entities.length := by
  have among : state.claimed ⊆ federation.entities.map lowercase := by
    intro identifier member
    obtain ⟨entity, inside, rfl, -⟩ := covering.claims identifier member
    exact List.mem_map.mpr ⟨entity, inside, rfl⟩
  have shorter := covering.distinct.length_le_of_subset among
  rwa [List.length_map] at shorter

/-! ## Listings -/

/-- Listing an entity covers it. -/
theorem Covering.listed (covering : Covering federation state version generation)
    (honest : federation.Honest now) {entity : String} (member : entity ∈ federation.entities)
    {rest : List Step}
    (completed : Completed policy state next
      (.listSubordinates (federation.configuration entity)) rest ⟨state.store, none,
        (federation.listing entity).map (.fetchSubordinate (federation.configuration entity))⟩) :
    Covering federation next version generation := by
  obtain ⟨news, claims, kept, distinct, fresh, all⟩ :=
    claim_listing state.claimed (federation.configuration entity) (federation.listing entity)
  have claimed : next.claimed = (news.map lowercase).reverse ++ state.claimed := by
    rw [completed.claimed, claims]
  have asked {subordinate : String} (listed : subordinate ∈ news) :
      .fetchSubordinate (federation.configuration entity) subordinate ∈ next.pending := by
    refine completed.pending.mem_iff.mpr (List.mem_append_left _ ?_)
    rw [claims]
    exact List.mem_map.mpr ⟨subordinate, listed, rfl⟩
  refine ⟨completed.version.trans covering.begun, ?_, ?_,
    completed.deferred.trans covering.undeferred, ?_, covering.stored, ?_, ?_, ?_⟩
  · rw [completed.store]
    exact covering.held
  · rw [completed.store]
    exact covering.newer
  · intro step among
    rcases completed.next_cases among with new | old
    · rw [claims] at new
      obtain ⟨subordinate, listed, rfl⟩ := List.mem_map.mp new
      exact .subordinate member (kept.subset listed)
    · exact covering.genuine step (completed.old old)
  · rw [claimed, List.nodup_append]
    refine ⟨List.nodup_reverse.mpr distinct, covering.distinct, ?_⟩
    rintro identifier new other old rfl
    obtain ⟨subordinate, listed, rfl⟩ := List.mem_map.mp (List.mem_reverse.mp new)
    exact fresh subordinate listed old
  · intro identifier among
    rw [claimed] at among
    rcases List.mem_append.mp among with new | old
    · obtain ⟨subordinate, listed, rfl⟩ := List.mem_map.mp (List.mem_reverse.mp new)
      exact ⟨subordinate, honest.listed entity member subordinate (kept.subset listed), rfl,
        .inr ⟨_, asked listed, rfl⟩⟩
    · obtain ⟨known, inside, same, present | ⟨step, waits, promise⟩⟩ :=
        covering.claims identifier old
      · exact ⟨known, inside, same, .inl present⟩
      · rcases completed.pending_cases waits with rfl | later
        · cases promise
        · exact ⟨known, inside, same, .inr ⟨step, completed.still later, promise⟩⟩
  · intro known inside present
    rcases covering.covered known inside present with waits | listed
    · rcases completed.pending_cases waits with same | later
      · rw [configuration_inj honest inside member (Step.listSubordinates.inj same), claimed]
        exact .inr all
      · exact .inl (completed.still later)
    · refine .inr fun subordinate among => ?_
      rw [claimed]
      exact List.mem_append_right _ (listed subordinate among)

/-- Listing an entity uses up one of the remaining turns. Every subordinate that it adds was not
claimed before. -/
theorem Covering.listed_remaining (covers : Covering federation next version generation)
    {authority : Statement} {subordinates : List String} {rest : List Step}
    (completed : Completed policy state next (.listSubordinates authority) rest
      ⟨state.store, none, subordinates.map (.fetchSubordinate authority)⟩) :
    remaining federation next + 1 = remaining federation state := by
  obtain ⟨news, claims, -⟩ := claim_listing state.claimed authority subordinates
  have grown : next.claimed.length = news.length + state.claimed.length := by
    rw [completed.claimed, claims]
    simp
  have weights := worth_of_completed completed
  rw [claims] at weights
  simp only [worth_listed, weight] at weights
  have bound := covers.claimed_length
  unfold remaining
  omega

/-! ## Statements that are attached -/

section Attaching

variable {step successor : Step} {rest : List Step} {parent node : Node} {statement : Statement}
  {key : Tree.NodeKey}

/-- Attaching what an entity says keeps the claims covered, if the step that follows keeps the
promise or the promise is redeemed. -/
theorem Covering.grafted (covering : Covering federation state version generation)
    (completed : Completed policy state next step rest
      ⟨attached state.store version parent node statement, none, [successor]⟩)
    (unclaimed : State.claim state.claimed [successor] = ([successor], state.claimed))
    (fresh : generation.data? node = none) (spoken : Spoken federation statement)
    (genuine : Genuine federation successor)
    (other : ∀ entity, step ≠ .listSubordinates (federation.configuration entity))
    (redeemed : ∀ identifier, step.promise = some identifier →
      successor.promise = some identifier ∨ ∃ entity ∈ federation.entities,
        identifier = lowercase entity ∧ statement = federation.configuration entity)
    (followed : ∀ entity ∈ federation.entities, statement = federation.configuration entity →
      successor = .listSubordinates (federation.configuration entity)) :
    Covering federation next version (generation.graft parent node statement) := by
  have claimed : next.claimed = state.claimed := by
    rw [completed.claimed, unclaimed]
  have follows : successor ∈ next.pending := by
    refine completed.pending.mem_iff.mpr (List.mem_append_left _ ?_)
    rw [unclaimed]
    exact List.mem_singleton_self _
  refine ⟨completed.version.trans covering.begun, ?_, ?_,
    completed.deferred.trans covering.undeferred, ?_, ?_, ?_, ?_, ?_⟩
  · rw [completed.store]
    exact attached_held covering.held parent node statement
  · rw [completed.store]
    exact covering.newer
  · intro waiting among
    rcases completed.next_cases among with new | old
    · rw [unclaimed, List.mem_singleton] at new
      rw [new]
      exact genuine
    · exact covering.genuine waiting (completed.old old)
  · intro place known found
    rcases Tree.data_graft_cases found with ⟨-, rfl⟩ | old
    · exact spoken
    · exact covering.stored old
  · rw [claimed]
    exact covering.distinct
  · intro identifier among
    rw [claimed] at among
    obtain ⟨known, inside, same, ⟨place, present⟩ | ⟨waiting, waits, promise⟩⟩ :=
      covering.claims identifier among
    · exact ⟨known, inside, same, .inl ⟨place, Tree.data_graft_of_old fresh present⟩⟩
    · rcases completed.pending_cases waits with rfl | later
      · rcases redeemed identifier promise with kept | ⟨entity, member, about, rfl⟩
        · exact ⟨known, inside, same, .inr ⟨successor, follows, kept⟩⟩
        · refine ⟨entity, member, about, .inl ⟨node, ?_⟩⟩
          rw [Tree.data_graft, if_pos rfl]
      · exact ⟨known, inside, same, .inr ⟨waiting, completed.still later, promise⟩⟩
  · rintro known inside ⟨place, present⟩
    rw [claimed]
    rcases Tree.data_graft_cases present with ⟨-, new⟩ | old
    · rw [← followed known inside new.symm]
      exact .inl follows
    · rcases covering.covered known inside ⟨place, old⟩ with waits | listed
      · rcases completed.pending_cases waits with same | later
        · exact absurd same.symm (other known)
        · exact .inl (completed.still later)
      · exact .inr listed

/-- Attaching a statement uses up one of the remaining turns, when the step that follows weighs
less by one. -/
theorem remaining_grafted {store : StatementStore} {created : Option Version}
    (completed : Completed policy state next step rest ⟨store, created, [successor]⟩)
    (unclaimed : State.claim state.claimed [successor] = ([successor], state.claimed))
    (lighter : weight successor + 1 = weight step) :
    remaining federation next + 1 = remaining federation state := by
  have weights := worth_of_completed completed
  rw [unclaimed] at weights
  simp only [worth] at weights
  unfold remaining
  rw [completed.claimed, unclaimed]
  simp only
  omega

/-- Attaching the statement of an authority leaves the configuration of the subordinate to be
fetched. -/
theorem Covering.subordinate (covering : Covering federation state version generation)
    (honest : federation.Honest now) (chart : Chart generation) {authority subordinate : String}
    (member : authority ∈ federation.entities)
    (listed : subordinate ∈ federation.listing authority)
    (ready : Ready generation
      (.fetchSubordinate (federation.configuration authority) subordinate))
    (keyed : (federation.statement authority subordinate).nodeKey = .ok key)
    (completed : Completed policy state next
      (.fetchSubordinate (federation.configuration authority) subordinate) rest
      ⟨attached state.store version node key.text (federation.statement authority subordinate),
        none, [.fetchConfiguration (federation.statement authority subordinate)]⟩) :
    ∃ grown, Covering federation next version grown := by
  have declared := honest.statements authority member subordinate listed
  have issuer : sameAscii (federation.statement authority subordinate).issuer
      (federation.configuration authority).subject = true := by
    rw [declared.maker, (honest.configurations authority member).about]
    exact Text.sameAscii_refl authority
  have subject : sameAscii (federation.statement authority subordinate).subject
      subordinate = true := by
    rw [declared.about]
    exact Text.sameAscii_refl subordinate
  obtain ⟨differs, free⟩ := ready.free_subordinate issuer subject
  have promise : (Step.fetchConfiguration (federation.statement authority subordinate)).promise =
      (Step.fetchSubordinate (federation.configuration authority) subordinate).promise :=
    congrArg (fun about => some (lowercase about)) declared.about
  exact ⟨_, covering.grafted completed rfl
    (chart.fresh_node ⟨key, keyed, rfl⟩ (.inr differs) free)
    (.inr ⟨differs, authority, member, subordinate, listed, rfl⟩)
    (.configuration member listed) (fun entity same => by cases same)
    (fun identifier promised => .inl (promise.trans promised))
    (fun entity inside same => absurd same (subordinate_ne_configuration honest differs inside))⟩

/-- Attaching the configuration of a subordinate redeems the promise, and leaves this entity to be
listed. -/
theorem Covering.configuration (covering : Covering federation state version generation)
    (honest : federation.Honest now) (chart : Chart generation) {authority subordinate : String}
    (member : authority ∈ federation.entities)
    (listed : subordinate ∈ federation.listing authority)
    (ready : Ready generation (.fetchConfiguration (federation.statement authority subordinate)))
    (keyed : (federation.configuration subordinate).nodeKey = .ok key)
    (completed : Completed policy state next
      (.fetchConfiguration (federation.statement authority subordinate)) rest
      ⟨attached state.store version node key.text (federation.configuration subordinate), none,
        [.listSubordinates (federation.configuration subordinate)]⟩) :
    ∃ grown, Covering federation next version grown := by
  have declared := honest.statements authority member subordinate listed
  have inside := honest.listed authority member subordinate listed
  have own := honest.configurations subordinate inside
  have subject : sameAscii (federation.configuration subordinate).subject
      (federation.statement authority subordinate).subject = true := by
    rw [own.about, declared.about]
    exact Text.sameAscii_refl subordinate
  have issuer : sameAscii (federation.configuration subordinate).issuer
      (federation.statement authority subordinate).subject = true := by
    rw [own.maker, declared.about]
    exact Text.sameAscii_refl subordinate
  obtain ⟨configuration, free⟩ := ready.free_configuration issuer subject
  have promise : (Step.fetchConfiguration (federation.statement authority subordinate)).promise =
      some (lowercase subordinate) :=
    congrArg (fun about => some (lowercase about)) declared.about
  exact ⟨_, covering.grafted completed rfl
    (chart.fresh_node ⟨key, keyed, rfl⟩ (.inl configuration) free)
    (.inl ⟨subordinate, inside, rfl⟩) (.listing inside) (fun entity same => by cases same)
    (fun identifier promised => .inr ⟨subordinate, inside,
      Option.some.inj (promised.symm.trans promise), rfl⟩)
    (fun entity _ same => congrArg Step.listSubordinates same)⟩

end Attaching

/-! ## Every turn makes progress -/

/-- The crawl of an honest federation is about to begin, or covers what it has claimed. -/
structure Progress (federation : Federation) (client : Client σ) (anchor : String)
    (state : State σ) : Prop where
  invariant : Invariant client anchor state
  phase : (state.report.version = none ∧ state.pending = [.resolveRoot anchor] ∧
      state.deferred = []) ∨
    ∃ version generation, Covering federation state version generation

/-- A turn of a crawl that covers what it has claimed uses up one of the remaining turns.

Proof: nothing is deferred, so the turn completes a step. The step is genuine and ready, so it
succeeds, and what it leaves is known. -/
theorem Covering.turn (serves : federation.Serves client) (honest : federation.Honest now)
    (invariant : Invariant client anchor state)
    (covering : Covering federation state version generation)
    (turn : Turn client policy state next) :
    (∃ grown, Covering federation next version grown) ∧
      remaining federation next + 1 = remaining federation state := by
  have building : Building client anchor state version generation :=
    invariant.building covering.begun covering.held
  have succeeds {flight : Flight} (sent : flight ∈ (state.fill policy).inFlight)
      (waits : flight.attempt.step ∈ state.pending) :
      ∃ outcome, (execute client flight.attempt.step
        (flight.attempt.useCached policy.cacheThreshold) flight.version state.store
          state.world).1 = .ok outcome ∧
        Served federation state.store version generation flight.attempt.step outcome := by
    rw [State.fill_flights policy building.flights flight sent, building.begun]
    exact serves.ready honest building.chart building.held (covering.genuine _ waits)
      (building.ready _ waits) _ state.world
  cases turn with
  | replayed waited => exact absurd covering.undeferred waited
  | failed flight rest failure sent result before =>
    obtain ⟨outcome, success, -⟩ := succeeds sent (before.mem_iff.mpr List.mem_cons_self)
    rw [result] at success
    cases success
  | succeeded flight rest outcome sent result completed =>
    have ready := building.ready _ completed.waiting
    obtain ⟨expected, success, served⟩ := succeeds sent completed.waiting
    rw [result] at success
    obtain rfl : outcome = expected := Except.ok.inj success
    generalize flight.attempt.step = step at completed ready served
    cases served with
    | listing member =>
      have covers := covering.listed honest member completed
      exact ⟨⟨generation, covers⟩, covers.listed_remaining completed⟩
    | subordinate member listed stored keyed =>
      exact ⟨covering.subordinate honest building.chart member listed ready keyed completed,
        remaining_grafted completed rfl rfl⟩
    | configuration member listed stored keyed =>
      exact ⟨covering.configuration honest building.chart member listed ready keyed completed,
        remaining_grafted completed rfl rfl⟩

/-- A crawl that has begun its version covers the anchor. -/
theorem Covering.begin (start : anchor ∈ federation.entities)
    (numbered : state.store.Numbered) (opening : Opening anchor state)
    (undeferred : state.deferred = []) {key : Tree.NodeKey} {rest : List Step}
    (completed : Completed policy state next (.resolveRoot anchor) rest
      ⟨state.store.create key.text (federation.configuration anchor),
        some (state.store.allocated + 1), [.listSubordinates (federation.configuration anchor)]⟩) :
    Covering federation next (state.store.allocated + 1)
      (.ofRoot key.text (federation.configuration anchor)) := by
  obtain ⟨-, rfl⟩ := opening.alone completed.before
  have one : next.pending = [.listSubordinates (federation.configuration anchor)] :=
    List.perm_singleton.mp completed.pending
  have alone : next.claimed = [lowercase anchor] := completed.claimed.trans opening.claimed
  refine ⟨completed.version, ?_, ?_, completed.deferred.trans undeferred, ?_, ?_, ?_, ?_, ?_⟩
  · rw [completed.store]
    exact (Store.generation_create numbered _ _ _).trans (if_pos rfl)
  · rw [completed.store]
    exact Nat.lt_succ_of_le numbered.published
  · intro step member
    rw [one, List.mem_singleton] at member
    rw [member]
    exact .listing start
  · intro node statement stored
    exact .inl ⟨anchor, start, Tree.data_of_root_eq stored⟩
  · rw [alone]
    exact List.nodup_singleton _
  · intro identifier member
    rw [alone, List.mem_singleton] at member
    refine ⟨anchor, start, member, .inl ⟨key.text, ?_⟩⟩
    rw [Tree.data_of_root, if_pos rfl]
  · rintro entity member ⟨node, stored⟩
    rw [one, Tree.data_of_root_eq stored]
    exact .inl (List.mem_singleton_self _)

/-- The first turn of a crawl covers the anchor. -/
theorem Covering.first (serves : federation.Serves client) (honest : federation.Honest now)
    (start : anchor ∈ federation.entities) (numbered : state.store.Numbered)
    (opening : Opening anchor state) (undeferred : state.deferred = [])
    (turn : Turn client policy state next) :
    (∃ version grown, Covering federation next version grown) ∧
      remaining federation next + 1 = remaining federation state := by
  have served {flight : Flight} (sent : flight ∈ (state.fill policy).inFlight) :
      ∃ key, (federation.configuration anchor).nodeKey = .ok key ∧
        (execute client flight.attempt.step (flight.attempt.useCached policy.cacheThreshold)
          flight.version state.store state.world).1 =
          .ok ⟨state.store.create key.text (federation.configuration anchor),
            some (state.store.allocated + 1),
            [.listSubordinates (federation.configuration anchor)]⟩ := by
    rw [opening.step_eq sent]
    exact serves.root honest start _ _ state.store state.world
  cases turn with
  | replayed waited => exact absurd undeferred waited
  | failed flight rest failure sent result =>
    obtain ⟨key, -, success⟩ := served sent
    rw [result] at success
    cases success
  | succeeded flight rest outcome sent result completed =>
    obtain ⟨key, -, success⟩ := served sent
    rw [result] at success
    obtain rfl := Except.ok.inj success
    rw [opening.step_eq sent] at completed
    exact ⟨⟨_, _, Covering.begin start numbered opening undeferred completed⟩,
      remaining_grafted completed rfl rfl⟩

theorem Progress.turn (serves : federation.Serves client) (honest : federation.Honest now)
    (start : anchor ∈ federation.entities) (progress : Progress federation client anchor state)
    (turn : Turn client policy state next) :
    Progress federation client anchor next ∧
      remaining federation next + 1 = remaining federation state := by
  have invariant : Invariant client anchor next := progress.invariant.turn turn
  rcases progress.phase with ⟨unbegun, -, undeferred⟩ | ⟨version, generation, covering⟩
  · have opening : Opening anchor state := by
      rcases progress.invariant.phase with opening | ⟨version, generation, building⟩
      · exact opening
      · rw [building.begun] at unbegun
        cases unbegun
    obtain ⟨covers, less⟩ :=
      Covering.first serves honest start progress.invariant.numbered opening undeferred turn
    exact ⟨⟨invariant, .inr covers⟩, less⟩
  · obtain ⟨covers, less⟩ := covering.turn serves honest progress.invariant turn
    exact ⟨⟨invariant, .inr ⟨version, covers⟩⟩, less⟩

/-- Every step is worth at least one turn. -/
theorem pending_nil_of_remaining (spent : remaining federation state = 0) :
    state.pending = [] := by
  cases pending : state.pending with
  | nil => rfl
  | cons step rest =>
    unfold remaining at spent
    rw [pending, worth] at spent
    have positive : 0 < weight step := weight_pos step
    omega

/-- A crawl that has enough turns left ends with nothing pending, and covers what it has
claimed. -/
theorem Progress.run (serves : federation.Serves client) (honest : federation.Honest now)
    (start : anchor ∈ federation.entities) (policy : Policy) (choices : Nat → Nat) {turns : Nat}
    (progress : Progress federation client anchor state)
    (enough : remaining federation state ≤ turns) :
    (state.run client policy choices turns).pending = [] ∧
      Progress federation client anchor (state.run client policy choices turns) := by
  induction turns generalizing state with
  | zero => exact ⟨pending_nil_of_remaining (Nat.le_zero.mp enough), progress⟩
  | succ turns ih =>
    cases advanced : state.advance client policy (choices turns) with
    | none =>
      simp only [State.run, advanced]
      exact ⟨(State.advance_none_iff client policy _ state).mp advanced, progress⟩
    | some next =>
      simp only [State.run, advanced]
      obtain ⟨further, less⟩ := progress.turn serves honest start (State.turn_of_advance advanced)
      exact ih further (by omega)

/-! ## When nothing is pending -/

/-- When nothing is pending any more, every entity that listings lead to has its configuration in
the tree.

Proof: induction over the listings. The root is the configuration of the anchor. Whatever an
entity in the tree lists is claimed, and nothing claimed is promised any more. -/
theorem Covering.complete (honest : federation.Honest now)
    (start : anchor ∈ federation.entities)
    (covering : Covering federation state version generation)
    (building : Building client anchor state version generation) (finished : state.pending = [])
    {entity : String} (reaches : federation.Reaches anchor entity) :
    ∃ node, generation.data? node = some (federation.configuration entity) := by
  induction reaches with
  | anchor =>
    obtain ⟨root, topmost⟩ := building.chart.grown.root_data
    have about := Text.lowercase_eq_of_same_ascii (building.anchored topmost)
    rcases covering.stored topmost with ⟨entity, member, rfl⟩ | ⟨differs, -⟩
    · rw [(honest.configurations entity member).about] at about
      rw [← honest.entity_unique member start about]
      exact ⟨generation.root, topmost⟩
    · exact absurd differs (building.chart.rooted topmost).not_subordinate
  | @listed authority subordinate above member ih =>
    have inside := above.mem_entities honest start
    have listed := honest.listed authority inside subordinate member
    rcases covering.covered authority inside ih with waits | claimed
    · rw [finished] at waits
      exact absurd waits List.not_mem_nil
    · obtain ⟨known, among, same, present | ⟨step, waits, -⟩⟩ :=
        covering.claims _ (claimed subordinate member)
      · rw [honest.entity_unique listed among same]
        exact present
      · rw [finished] at waits
        exact absurd waits List.not_mem_nil

end TrustFederation.Federation
