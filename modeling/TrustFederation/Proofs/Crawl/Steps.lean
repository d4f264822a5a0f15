import TrustFederation.Proofs.Crawl.Acceptance
import TrustFederation.Proofs.Crawl.Chart
import TrustFederation.Proofs.Tree.Versions
/-!
# What a step does to a chart

A pending step relies on the chart that its crawl fills: the statement that it works on has its
node there, and what it is going to attach has a free slot. Under these conditions a step has
few outcomes. It never misses a parent, and it fails for no other reason than what its client
gave it.
-/
namespace TrustFederation.Crawl

open Text (lowercase sameAscii)
open TrustFederation.Tree (Generation Node NodeKey Store Version)

/-- The client gave the statement as an answer. -/
inductive Fetched {σ : Type} (client : Client σ) (statement : Statement) : Prop where
  | configuration (request : Client.Request) (world : σ)
      (answer : (client.configuration request world).1 = .ok statement)
  | subordinate (request : Client.Request) (world : σ)
      (answer : (client.fetch request world).1 = .ok statement)

/-- The client gave the failure instead of an answer. -/
inductive ClientFailed {σ : Type} (client : Client σ) (failure : Failure) : Prop where
  | configuration (request : Client.Request) (world : σ)
      (answer : (client.configuration request world).1 = .error failure)
  | subordinate (request : Client.Request) (world : σ)
      (answer : (client.fetch request world).1 = .error failure)
  | listing (request : Client.Request) (world : σ)
      (answer : (client.listing request world).1 = .error failure)

/-- Why a step fails: its client failed, or answered with a statement that is about something
else or that has no key. -/
inductive Rejected {σ : Type} (client : Client σ) (failure : Failure) : Prop where
  | client (failed : ClientFailed client failure)
  | mismatched (statement : Statement) (issuer subject : String)
      (fetched : Fetched client statement)
      (checked : checkStatement statement issuer subject = .error failure)
  | keyless (statement : Statement) (fetched : Fetched client statement)
      (unkeyed : statement.nodeKey = .error failure)

/-- What a pending step relies on. -/
inductive Ready (generation : Generation Statement) : Step → Prop where
  | listing {node : Node} {authority : Statement}
      (stored : generation.data? node = some authority) (own : IsConfiguration authority) :
      Ready generation (.listSubordinates authority)
  | subordinate {node : Node} {authority : Statement} {subordinate : String}
      (stored : generation.data? node = some authority) (own : IsConfiguration authority)
      (offers : authority.endpoints?.isSome)
      (unknown : ∀ other known, generation.data? other = some known →
        lowercase known.subject ≠ lowercase subordinate) :
      Ready generation (.fetchSubordinate authority subordinate)
  | configuration {node : Node} {statement : Statement}
      (stored : generation.data? node = some statement) (differs : IsSubordinate statement)
      (childless : generation.children node = [])
      (unknown : ∀ other known, generation.data? other = some known → IsConfiguration known →
        lowercase known.subject ≠ lowercase statement.subject) :
      Ready generation (.fetchConfiguration statement)

/-- The identifier, with its letters made small, that a step will attach a statement about. -/
def Step.promise : Step → Option String
  | .fetchSubordinate _ subordinate => some (lowercase subordinate)
  | .fetchConfiguration statement => some (lowercase statement.subject)
  | _ => none

/-- The store with a statement attached in one version. -/
def attached (store : StatementStore) (version : Version) (parent node : Node)
    (statement : Statement) : StatementStore :=
  (store.append node parent version).setData node statement version

variable {σ : Type} {client : Client σ} {store : StatementStore} {version : Version}
  {generation : Generation Statement}

theorem attached_held (held : store.generation? version = some generation) (parent node : Node)
    (statement : Statement) :
    (attached store version parent node statement).generation? version =
      some (generation.graft parent node statement) := by
  simp [attached, Store.setData, Store.append, Store.generation_modify, held, Generation.graft]

theorem attached_numbered (numbered : store.Numbered) (parent node : Node)
    (statement : Statement) : (attached store version parent node statement).Numbered :=
  (numbered.modify version _).modify version _

/-- Attaching below a statement of the chart attaches below its node. -/
theorem attach_eq (chart : Chart generation)
    (held : store.generation? version = some generation) {node : Node}
    {parent : Statement} (stored : generation.data? node = some parent) (statement : Statement)
    (next : Step) :
    attach version store parent statement next = statement.nodeKey.map fun key =>
      ⟨attached store version node key.text statement, none, [next]⟩ := by
  obtain ⟨key, keyed, rfl⟩ := chart.stands stored
  have found := chart.finds_parent held stored
  unfold attach
  rw [keyed]
  cases statement.nodeKey with
  | error failure => rfl
  | ok own =>
    have grafted : store.addChild own.text key.text statement version =
        .ok (attached store version key.text own.text statement) := by
      simp only [Store.addChild, Store.root_held held, found]
      rfl
    show (store.addChild own.text key.text statement version >>= _) = _
    rw [grafted]
    rfl

/-- A step stays ready when another statement is attached, unless this one is about the subject
that the step will attach a statement about. -/
theorem Ready.graft {step : Step} {parent node : Node} {above statement : Statement}
    (ready : Ready generation step) (placed : generation.data? parent = some above)
    (fresh : generation.data? node = none) (fits : Fits above statement)
    (other : ∀ identifier, step.promise = some identifier →
      lowercase statement.subject ≠ identifier) :
    Ready (generation.graft parent node statement) step := by
  cases ready with
  | listing stored own => exact .listing (Tree.data_graft_of_old fresh stored) own
  | subordinate stored own offers unknown =>
    refine .subordinate (Tree.data_graft_of_old fresh stored) own offers ?_
    intro place known found
    rcases Tree.data_graft_cases found with ⟨-, rfl⟩ | old
    · exact other _ rfl
    · exact unknown place known old
  | @configuration place awaited stored differs childless unknown =>
    refine .configuration (Tree.data_graft_of_old fresh stored) differs ?_ ?_
    · have elsewhere : parent ≠ place := by
        rintro rfl
        obtain rfl : above = awaited := Option.some.inj (placed.symm.trans stored)
        exact other _ rfl (Text.lowercase_eq_of_same_ascii (fits.configuration differs).2)
      rw [Tree.children_graft, childless, if_neg elsewhere]
      rfl
    · intro second known found own
      rcases Tree.data_graft_cases found with ⟨-, rfl⟩ | old
      · exact other _ rfl
      · exact unknown second known old own

/-- The statement that a ready step fetches from an authority is about another entity, of which
the chart knows nothing. -/
theorem Ready.free_subordinate {authority statement : Statement} {subordinate : String}
    (ready : Ready generation (.fetchSubordinate authority subordinate))
    (issuer : sameAscii statement.issuer authority.subject = true)
    (subject : sameAscii statement.subject subordinate = true) :
    IsSubordinate statement ∧ ∀ other known, generation.data? other = some known →
      lowercase known.subject = lowercase statement.subject →
      ¬ (IsConfiguration known ↔ IsConfiguration statement) := by
  have about : lowercase statement.subject = lowercase subordinate :=
    Text.lowercase_eq_of_same_ascii subject
  cases ready with
  | @subordinate node _ _ stored own offers unknown =>
    constructor
    · unfold IsSubordinate
      rw [Text.lowercase_eq_of_same_ascii issuer, about]
      exact unknown node authority stored
    · intro other known found same _
      exact unknown other known found (same.trans about)

/-- The configuration that a ready step fetches is about its issuer, and the chart knows no other
configuration of this entity. -/
theorem Ready.free_configuration {statement configuration : Statement}
    (ready : Ready generation (.fetchConfiguration statement))
    (issuer : sameAscii configuration.issuer statement.subject = true)
    (subject : sameAscii configuration.subject statement.subject = true) :
    IsConfiguration configuration ∧ ∀ other known, generation.data? other = some known →
      lowercase known.subject = lowercase configuration.subject →
      ¬ (IsConfiguration known ↔ IsConfiguration configuration) := by
  have about : lowercase configuration.subject = lowercase statement.subject :=
    Text.lowercase_eq_of_same_ascii subject
  have own : IsConfiguration configuration :=
    Text.sameAscii_trans issuer (Text.sameAscii_comm subject)
  cases ready with
  | configuration stored differs childless unknown =>
    exact ⟨own, fun other known found same kinds =>
      unknown other known found (kinds.mpr own) (same.trans about)⟩

/-! ## The outcomes of ready steps -/

/-- What running a ready step comes to. -/
inductive Executed {σ : Type} (client : Client σ) (store : StatementStore) (version : Version)
    (generation : Generation Statement) : Step → Except Failure Outcome → Prop where
  | listed {authority : Statement} (subordinates : List String)
      (offers : subordinates ≠ [] → authority.endpoints?.isSome) :
      Executed client store version generation (.listSubordinates authority)
        (.ok ⟨store, none, subordinates.map (.fetchSubordinate authority)⟩)
  | subordinate {node : Node} {authority statement : Statement} {subordinate : String}
      {key : NodeKey} (fetched : Fetched client statement)
      (stored : generation.data? node = some authority)
      (issuer : sameAscii statement.issuer authority.subject = true)
      (subject : sameAscii statement.subject subordinate = true)
      (keyed : statement.nodeKey = .ok key) :
      Executed client store version generation (.fetchSubordinate authority subordinate)
        (.ok ⟨attached store version node key.text statement, none,
          [.fetchConfiguration statement]⟩)
  | configuration {node : Node} {statement configuration : Statement} {key : NodeKey}
      (fetched : Fetched client configuration)
      (stored : generation.data? node = some statement)
      (issuer : sameAscii configuration.issuer statement.subject = true)
      (subject : sameAscii configuration.subject statement.subject = true)
      (keyed : configuration.nodeKey = .ok key) :
      Executed client store version generation (.fetchConfiguration statement)
        (.ok ⟨attached store version node key.text configuration, none,
          [.listSubordinates configuration]⟩)
  | rejected {step : Step} {failure : Failure} (reason : Rejected client failure) :
      Executed client store version generation step (.error failure)

/-- A listing leaves the store as it is. -/
theorem execute_listing (authority : Statement) (useCached : Bool) (filled : Option Version)
    (world : σ) :
    Executed client store version generation (.listSubordinates authority)
      (execute client (.listSubordinates authority) useCached filled store world).1 := by
  simp only [execute]
  cases offered : authority.endpoints?.filter (·.canListSubordinates) with
  | none => exact .listed [] fun some_listed => absurd rfl some_listed
  | some endpoints =>
    have offers : authority.endpoints?.isSome := by
      rw [(Option.filter_eq_some_iff.mp offered).1]
      rfl
    cases answer : (client.listing ((Client.Request.plain useCached).withEndpoints endpoints)
      world).1 with
    | error failure =>
      simp only [andThen, answer, Except.bind]
      exact .rejected (.client (.listing _ world answer))
    | ok subordinates =>
      simp only [andThen, answer, Except.bind]
      exact .listed subordinates fun _ => offers

theorem Unaccepted.rejected {answer : Except Failure Statement} {issuer subject : String}
    {failure : Failure} (unaccepted : Unaccepted answer issuer subject failure)
    (fails : ∀ failure, answer = .error failure → ClientFailed client failure)
    (gives : ∀ statement, answer = .ok statement → Fetched client statement) :
    Rejected client failure := by
  cases unaccepted with
  | unanswered failed => exact .client (fails failure failed)
  | mismatched received other =>
    exact .mismatched _ issuer subject (gives _ received) (check_statement_error other)

/-- A statement that a client gives is attached below its parent, or it is rejected. -/
theorem attach_answer (chart : Chart generation)
    (held : store.generation? version = some generation) {node : Node} {parent : Statement}
    (stored : generation.data? node = some parent) {answer : Except Failure Statement × σ}
    {issuer subject : String}
    (fails : ∀ failure, answer.1 = .error failure → ClientFailed client failure)
    (gives : ∀ statement, answer.1 = .ok statement → Fetched client statement)
    (next : Statement → Step) :
    Comes (Rejected client) (fun outcome => ∃ statement key,
        Fetched client statement ∧ Accepted answer.1 issuer subject statement ∧
        statement.nodeKey = .ok key ∧
        outcome = ⟨attached store version node key.text statement, none, [next statement]⟩)
      (andThen answer fun statement => do
        checkStatement statement issuer subject
        attach version store parent statement (next statement)).1 := by
  refine answer_comes answer (fun _ unaccepted => unaccepted.rejected fails gives) ?_
  intro statement accepted
  have fetched : Fetched client statement := gives statement accepted.received
  rw [attach_eq chart held stored]
  cases keyed : statement.nodeKey with
  | error failure => exact .failed (.keyless statement fetched keyed)
  | ok key => exact .came ⟨statement, key, fetched, accepted, keyed, rfl⟩

/-- Running a ready step of a crawl has one of these outcomes.

Proof: the parent is found because the statement that the step works on has its node in the
chart. What remains are the answers of the client and the two checks on them. -/
theorem execute_ready (client : Client σ) (chart : Chart generation)
    (held : store.generation? version = some generation) {step : Step}
    (ready : Ready generation step) (useCached : Bool) (world : σ) :
    Executed client store version generation step
      (execute client step useCached (some version) store world).1 := by
  cases ready with
  | @listing node authority stored own => exact execute_listing authority useCached _ world
  | @subordinate node authority subordinate stored own offers unknown =>
    obtain ⟨endpoints, offered⟩ := Option.isSome_iff_exists.mp offers
    simp only [execute, requireVersion, offered]
    refine (attach_answer chart held stored (fun _ => .subordinate _ world)
      (fun _ => .subordinate _ world) .fetchConfiguration).elim (fun _ => .rejected) ?_
    rintro _ ⟨statement, key, fetched, accepted, keyed, rfl⟩
    exact .subordinate fetched stored accepted.issuer accepted.subject keyed
  | @configuration node statement stored differs childless unknown =>
    refine (attach_answer chart held stored (fun _ => .configuration _ world)
      (fun _ => .configuration _ world) .listSubordinates).elim (fun _ => .rejected) ?_
    rintro _ ⟨configuration, key, fetched, accepted, keyed, rfl⟩
    exact .configuration fetched stored accepted.issuer accepted.subject keyed

/-- What running the first step of a crawl comes to. -/
inductive Started {σ : Type} (client : Client σ) (store : StatementStore) (anchor : String) :
    Except Failure Outcome → Prop where
  | created {configuration : Statement} {key : NodeKey} (fetched : Fetched client configuration)
      (issuer : sameAscii configuration.issuer anchor = true)
      (subject : sameAscii configuration.subject anchor = true)
      (keyed : configuration.nodeKey = .ok key) :
      Started client store anchor (.ok ⟨store.create key.text configuration,
        some (store.allocated + 1), [.listSubordinates configuration]⟩)
  | rejected {failure : Failure} (reason : Rejected client failure) :
      Started client store anchor (.error failure)

theorem execute_root (client : Client σ) (store : StatementStore) (anchor : String)
    (useCached : Bool) (filled : Option Version) (world : σ) :
    Started client store anchor
      (execute client (.resolveRoot anchor) useCached filled store world).1 := by
  have comes : Comes (Rejected client) (fun outcome => Started client store anchor (.ok outcome))
      (execute client (.resolveRoot anchor) useCached filled store world).1 := by
    refine answer_comes _ (fun _ unaccepted => unaccepted.rejected
      (fun _ => .configuration _ world) fun _ => .configuration _ world) ?_
    intro configuration accepted
    have fetched : Fetched client configuration := .configuration _ world accepted.received
    cases keyed : configuration.nodeKey with
    | error failure => exact .failed (.keyless configuration fetched keyed)
    | ok key => exact .came (.created fetched accepted.issuer accepted.subject keyed)
  exact comes.elim (fun _ => .rejected) fun _ started => started

end TrustFederation.Crawl
