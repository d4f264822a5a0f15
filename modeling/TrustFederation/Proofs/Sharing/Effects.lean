import TrustFederation.Proofs.Crawl.Confluence
import TrustFederation.Proofs.Sharing.Changes
import TrustFederation.Proofs.Tree.Attachment
/-!
# What an attempt leaves

Whatever the client answers and whatever is in the store, an attempt of a step that fails leaves the
store as it was, and says why. One that succeeds has a single effect: it starts one version, it
leaves the store alone, or it attaches one statement below its parent. So an attempt can be made
again after any number of failures, and comes to what it would have come to at first.
-/
namespace TrustFederation.Tree.Store

variable {α : Type}

/-- One store is the other one with one more version, which holds its root only. Everything else is
as it was. -/
structure Begun (store : Store α) (top : Node) (data : α) (after : Store α) : Prop where
  versions : after.versions = store.versions ++ [store.allocated + 1]
  allocated : after.allocated = store.allocated + 1
  root : ∀ number, after.root? number =
    if number = store.allocated + 1 then some top else store.root? number
  children : ∀ number upper, after.children number upper =
    if number = store.allocated + 1 then [] else store.children number upper
  data : ∀ number lower, after.data? number lower =
    if number = store.allocated + 1 then if lower = top then some data else none
    else store.data? number lower
  current : after.current = store.current
  retained : after.retained = store.retained

theorem begun_of_create {store : Store α} (numbered : store.Numbered) (top : Node) (data : α) :
    store.Begun top data (store.create top data) := by
  have held := generation_create numbered top data
  constructor
  · rw [Store.versions, Store.create, List.map_append]
    rfl
  · rfl
  · intro number
    rw [root?, held]
    split <;> rfl
  · intro number upper
    rw [Store.children, held]
    by_cases new : number = store.allocated + 1
    · rw [if_pos new, if_pos new]
      rfl
    · rw [if_neg new, if_neg new]
      rfl
  · intro number lower
    rw [data?, held]
    by_cases new : number = store.allocated + 1
    · rw [if_pos new, if_pos new]
      exact data_of_root top lower data
    · rw [if_neg new, if_neg new]
      rfl
  · rfl
  · rfl

/-- Without cycles, no path leads to a node with a key that is not found. -/
theorem Acyclic.keyless {store : Store α} {version : Version} (acyclic : store.Acyclic version)
    {root : Node} (rooted : store.root? version = some root) {key : String}
    (absent : store.findNode version root key = none) : ¬ store.HasKey version key := by
  obtain ⟨order, walk, sought⟩ := acyclic.find_node_eq rooted key
  rw [has_key_iff rooted walk]
  rintro ⟨lower, member, fits⟩
  exact List.find?_eq_none.mp (sought.symm.trans absent) lower member (matches_iff_lowercase.mpr fits)

end TrustFederation.Tree.Store

namespace TrustFederation.Sharing

open Client (Request)
open Crawl
open Text (lowercase sameAscii)
open TrustFederation.Tree (Descent FirstWithKey Node NodeKey Preorder Store Version separator)

/-! ## Where a statement is attached -/

section

variable (store : StatementStore) (version : Version) (parent statement : Statement)

/-- One store is the other one with a statement attached below the node of its parent: this is the
first one, in the order of a walk from the root, that has the key of the parent up to the case of
letters. -/
inductive Joined (after : StatementStore) : Prop where
  | below {upper lower : NodeKey} {root found : Node} {depth : Nat}
      (parentKey : parent.nodeKey = .ok upper) (key : statement.nodeKey = .ok lower)
      (rooted : store.root? version = some root)
      (reached : Descent (store.children version) depth root found)
      (fits : lowercase found = lowercase upper.text)
      (first : store.Acyclic version → ∃ order,
        Preorder (store.children version) [root] order ∧ FirstWithKey upper.text order found)
      (attached : store.Attached version found lower.text statement after)

/-- A statement cannot be attached: it or its parent has no key, or the node of the parent is
missing. -/
inductive Unjoined : Failure → Prop where
  | parentKeyless {failure : Failure} (keyless : Keyless parent failure) : Unjoined failure
  | keyless {failure : Failure} (keyless : Keyless statement failure) : Unjoined failure
  | unrooted (rootless : store.root? version = none) :
      Unjoined (.tree s!"Version {version} has no root")
  | orphaned {upper : NodeKey} {root : Node} (parentKey : parent.nodeKey = .ok upper)
      (rooted : store.root? version = some root)
      (missing : store.Acyclic version → ¬ store.HasKey version upper.text) :
      Unjoined (.tree s!"Parent {upper.text} not found in version {version}")

end

/-- No statement is attached: none was accepted, or the one that was cannot be attached. -/
inductive Unattached (answer : Except Failure Statement) (issuer subject : String)
    (store : StatementStore) (version : Version) (parent : Statement) : Failure → Prop where
  | unaccepted {failure : Failure} (unaccepted : Unaccepted answer issuer subject failure) :
      Unattached answer issuer subject store version parent failure
  | unjoined {statement : Statement} {failure : Failure}
      (accepted : Accepted answer issuer subject statement)
      (unjoined : Unjoined store version parent statement failure) :
      Unattached answer issuer subject store version parent failure

/-! ## What a step can come to -/

section

variable {σ : Type} (client : Client σ) (useCached : Bool) (version : Option Version)
  (store : StatementStore) (world : σ)

/-- What a client answers when it is asked for the configuration of an anchor. -/
def anchorAnswer (entity : String) : Except Failure Statement :=
  (client.configuration ((Request.plain useCached).withParameter "sub" entity) world).1

/-- What a client answers when it is asked for the subordinates of an entity with endpoints. -/
def listingAnswer (endpoints : Endpoints) : Except Failure (List String) :=
  (client.listing ((Request.plain useCached).withEndpoints endpoints) world).1

/-- What a client answers when an entity with endpoints is asked for its statement about another. -/
def subordinateAnswer (endpoints : Endpoints) (subordinate : String) : Except Failure Statement :=
  (client.fetch (((Request.plain useCached).withParameter "sub" subordinate).withEndpoints endpoints)
    world).1

/-- What a client answers when it is asked for the configuration of the subject of a statement. -/
def configurationAnswer (statement : Statement) : Except Failure Statement :=
  (client.configuration (configurationRequest statement useCached) world).1

/-- What an attempt of a step that succeeds comes to: its output and the store that it leaves. -/
inductive Effect : Step → Output → StatementStore → Prop where
  /-- One version is started, with the configuration that was received at its root. -/
  | started {entity : String} {configuration : Statement} {key : NodeKey} {after : StatementStore}
      (accepted : Accepted (anchorAnswer client useCached world entity) entity entity configuration)
      (keyed : configuration.nodeKey = .ok key)
      (begun : store.Begun key.text configuration after) :
      Effect (.resolveRoot entity) ⟨some (store.allocated + 1), [.listSubordinates configuration]⟩
        after
  /-- Without both endpoints, nothing is asked for and nothing follows. -/
  | unlisted {authority : Statement}
      (missing : ∀ endpoints, authority.endpoints? = some endpoints →
        endpoints.list.isNone = true ∨ endpoints.fetch.isNone = true) :
      Effect (.listSubordinates authority) ⟨none, []⟩ store
  /-- One step follows for each identifier that was received, in their order. -/
  | listed {authority : Statement} {endpoints : Endpoints} {subordinates : List String}
      (offered : authority.endpoints? = some endpoints) (lists : endpoints.list.isSome = true)
      (fetches : endpoints.fetch.isSome = true)
      (received : listingAnswer client useCached world endpoints = .ok subordinates) :
      Effect (.listSubordinates authority)
        ⟨none, subordinates.map (.fetchSubordinate authority)⟩ store
  /-- The statement that was received is attached below the one of the authority. -/
  | subordinate {filled : Version} {authority statement : Statement} {subordinate : String}
      {endpoints : Endpoints} {after : StatementStore} (begun : version = some filled)
      (offered : authority.endpoints? = some endpoints)
      (accepted : Accepted (subordinateAnswer client useCached world endpoints subordinate)
        authority.subject subordinate statement)
      (joined : Joined store filled authority statement after) :
      Effect (.fetchSubordinate authority subordinate) ⟨none, [.fetchConfiguration statement]⟩ after
  /-- The configuration that was received is attached below the statement about its subject. -/
  | configuration {filled : Version} {statement configuration : Statement} {after : StatementStore}
      (begun : version = some filled)
      (accepted : Accepted (configurationAnswer client useCached world statement)
        statement.subject statement.subject configuration)
      (joined : Joined store filled statement configuration after) :
      Effect (.fetchConfiguration statement) ⟨none, [.listSubordinates configuration]⟩ after

/-- Why an attempt of a step fails. -/
inductive Refused : Step → Failure → Prop where
  | anchor {entity : String} {failure : Failure}
      (unaccepted : Unaccepted (anchorAnswer client useCached world entity) entity entity failure) :
      Refused (.resolveRoot entity) failure
  | anchorKeyless {entity : String} {configuration : Statement} {failure : Failure}
      (accepted : Accepted (anchorAnswer client useCached world entity) entity entity configuration)
      (keyless : Keyless configuration failure) : Refused (.resolveRoot entity) failure
  | listing {authority : Statement} {endpoints : Endpoints} {failure : Failure}
      (offered : authority.endpoints? = some endpoints) (lists : endpoints.list.isSome = true)
      (fetches : endpoints.fetch.isSome = true)
      (failed : listingAnswer client useCached world endpoints = .error failure) :
      Refused (.listSubordinates authority) failure
  | unbegun {step : Step} (fetches : step.promise.isSome = true) (unbegun : version = none) :
      Refused step (.internal "Crawl has no root version")
  | silent {filled : Version} {authority : Statement} {subordinate : String}
      (begun : version = some filled) (missing : authority.endpoints? = none) :
      Refused (.fetchSubordinate authority subordinate)
        (.invalidRequest (authority.subject ++ " has no federation_entity metadata"))
  | subordinate {filled : Version} {authority : Statement} {subordinate : String}
      {endpoints : Endpoints} {failure : Failure} (begun : version = some filled)
      (offered : authority.endpoints? = some endpoints)
      (unattached : Unattached (subordinateAnswer client useCached world endpoints subordinate)
        authority.subject subordinate store filled authority failure) :
      Refused (.fetchSubordinate authority subordinate) failure
  | configuration {filled : Version} {statement : Statement} {failure : Failure}
      (begun : version = some filled)
      (unattached : Unattached (configurationAnswer client useCached world statement)
        statement.subject statement.subject store filled statement failure) :
      Refused (.fetchConfiguration statement) failure

end

/-! ## One part of a step after the other -/

section

variable {σ : Type}

/-- The child is attached below its parent, or the parent is missing. -/
theorem add_child_comes {store : StatementStore} {version : Version} {parent statement : Statement}
    {upper lower : NodeKey} (parentKey : parent.nodeKey = .ok upper)
    (key : statement.nodeKey = .ok lower) :
    Comes (Unjoined store version parent statement) (Joined store version parent statement)
      (store.addChild lower.text upper.text statement version) := by
  unfold Store.addChild
  cases rooted : store.root? version with
  | none => exact .failed (.unrooted rooted)
  | some root =>
    dsimp only
    cases sought : store.findNode version root upper.text with
    | none => exact .failed (.orphaned parentKey rooted fun acyclic => acyclic.keyless rooted sought)
    | some found =>
      obtain ⟨fits, depth, reached⟩ := Tree.found_sound sought
      refine .came (.below parentKey key rooted reached (Tree.matches_iff_lowercase.mp fits) ?_
        (Store.attached_of_rooted rooted found lower.text statement))
      intro acyclic
      obtain ⟨order, walk, same⟩ := acyclic.find_node_eq rooted upper.text
      exact ⟨order, walk, Tree.first_with_key_iff.mpr (same.symm.trans sought)⟩

theorem attach_comes (store : StatementStore) (version : Version) (parent statement : Statement)
    (next : Step) :
    Comes (Unjoined store version parent statement) (fun outcome =>
        Joined store version parent statement outcome.store ∧ outcome.created = none ∧
          outcome.next = [next])
      (Crawl.attach version store parent statement next) := by
  apply (node_key_comes parent).bind fun _ => .parentKeyless
  intro upper parentKey
  apply (node_key_comes statement).bind fun _ => .keyless
  intro lower key
  apply (add_child_comes parentKey key).bind fun _ => id
  exact fun after joined => .came ⟨joined, rfl, rfl⟩

/-- What running a step comes to. -/
theorem execute_comes {store : StatementStore} (numbered : store.Numbered) (client : Client σ)
    (step : Step) (useCached : Bool) (version : Option Version) (world : σ) :
    Comes (Refused client useCached version store world step)
      (fun outcome => Effect client useCached version store world step
        ⟨outcome.created, outcome.next⟩ outcome.store)
      (execute client step useCached version store world).1 := by
  cases step with
  | resolveRoot entity =>
    apply answer_comes _ fun _ => Refused.anchor
    intro configuration accepted
    apply (node_key_comes configuration).bind fun _ => Refused.anchorKeyless accepted
    intro key keyed
    exact .came (.started accepted keyed (Store.begun_of_create numbered key.text configuration))
  | listSubordinates authority =>
    simp only [execute]
    cases offers : authority.endpoints?.filter (·.canListSubordinates) with
    | none =>
      refine .came (.unlisted fun endpoints offered => ?_)
      have unable := Option.filter_eq_none_iff.mp offers endpoints offered
      have either := Bool.and_eq_false_iff.mp (Bool.eq_false_iff.mpr unable)
      exact either.imp Option.isSome_eq_false_iff.mp Option.isSome_eq_false_iff.mp
    | some endpoints =>
      obtain ⟨offered, able⟩ := Option.filter_eq_some_iff.mp offers
      obtain ⟨lists, fetches⟩ := Bool.and_eq_true_iff.mp able
      apply (comes_self (listingAnswer client useCached world endpoints)).bind fun _ =>
        Refused.listing offered lists fetches
      exact fun subordinates received => .came (.listed offered lists fetches received)
  | fetchSubordinate authority subordinate =>
    cases version with
    | none => exact .failed (.unbegun rfl rfl)
    | some filled =>
      simp only [execute, requireVersion]
      cases offered : authority.endpoints? with
      | none => exact .failed (.silent rfl offered)
      | some endpoints =>
        apply answer_comes _ fun _ unaccepted => Refused.subordinate rfl offered (.unaccepted unaccepted)
        intro statement accepted
        apply (attach_comes store filled authority statement _).mono
        · exact fun _ unjoined => .subordinate rfl offered (.unjoined accepted unjoined)
        · rintro ⟨after, created, next⟩ ⟨joined, rfl, rfl⟩
          exact .subordinate rfl offered accepted joined
  | fetchConfiguration statement =>
    cases version with
    | none => exact .failed (.unbegun rfl rfl)
    | some filled =>
      apply answer_comes _ fun _ unaccepted => Refused.configuration rfl (.unaccepted unaccepted)
      intro configuration accepted
      apply (attach_comes store filled statement configuration _).mono
      · exact fun _ unjoined => .configuration rfl (.unjoined accepted unjoined)
      · rintro ⟨after, created, next⟩ ⟨joined, rfl, rfl⟩
        exact .configuration rfl accepted joined

end

/-! ## Attempts -/

section

variable {σ : Type} (client : Client σ) (step : Step) (version : Option Version)

/-- An attempt of a step, with what it leaves: its result, the store and the world. -/
def attempt (useCached : Bool) (store : StatementStore) (world : σ) :
    Except Failure Output × StatementStore × σ :=
  perform store world (routine client (boundOf store version) step useCached version)

/-- The stores after any number of attempts of a step that all failed. Between two of them anything
may happen in the world. -/
inductive Tried (store : StatementStore) : StatementStore → Prop where
  | untried : Tried store store
  | again {before after : StatementStore} {useCached : Bool} {world later : σ} {failure : Failure}
      (tried : Tried store before)
      (failed : attempt client step version useCached before world =
        (.error failure, after, later)) :
      Tried store after

end

section

variable {σ : Type} {client : Client σ} {step : Step} {version : Option Version}
  {store after : StatementStore} {useCached : Bool} {world later : σ}

theorem told_error {ran : Except Failure Outcome × σ} {failure : Failure}
    (failed : told store ran = (.error failure, after, later)) :
    after = store ∧ ran.1 = .error failure := by
  rcases ran with ⟨cause | outcome, world⟩
  · cases failed
    exact ⟨rfl, rfl⟩
  · cases failed

theorem told_ok {ran : Except Failure Outcome × σ} {output : Output}
    (done : told store ran = (.ok output, after, later)) :
    ran.1 = .ok ⟨after, output.created, output.next⟩ := by
  rcases ran with ⟨cause | outcome, world⟩
  · cases done
  · cases done
    rfl

/-- An attempt comes to what running the step comes to. -/
theorem attempt_eq (client : Client σ) (step : Step) (version : Option Version) (useCached : Bool)
    (store : StatementStore) (world : σ) :
    attempt client step version useCached store world =
      told store (execute client step useCached version store world) :=
  perform_routine client step useCached version store world

theorem Tried.store_eq (tried : Tried client step version store after) : after = store := by
  induction tried with
  | untried => rfl
  | again tried failed ih => exact (told_error (attempt_eq .. ▸ failed)).1.trans ih

/-- After any number of failures, an attempt comes to what it would have come to at first: it leaves
the store as it was and fails for one of the reasons, or it has the one effect of its step. This is
what running the step comes to. The last part is about attempts between whose operations others
change the store: what they change themselves is nothing if they fail, and else the one effect. -/
theorem effect_of_attempt {σ : Type} (client : Client σ) (step : Step) (version : Option Version)
    {store after : StatementStore} (numbered : store.Numbered)
    (tried : Tried client step version store after) (useCached : Bool) (world : σ) :
    (∀ failure left later,
      attempt client step version useCached after world = (.error failure, left, later) →
      left = store ∧ Refused client useCached version store world step failure) ∧
    (∀ output left later,
      attempt client step version useCached after world = (.ok output, left, later) →
      Effect client useCached version store world step output left) ∧
    attempt client step version useCached after world =
      told store (execute client step useCached version store world) ∧
    ∀ bound found ops result,
      (routine client bound step useCached version).run.course found = (ops, .done result) →
      Sound (Changes version step) ops result := by
  obtain rfl := tried.store_eq
  have comes := execute_comes numbered client step useCached version world
  refine ⟨?_, ?_, attempt_eq client step version useCached after world,
    fun bound found ops result ended =>
      (routine_ends client bound step useCached version).of_course ended⟩
  · intro failure left later failed
    obtain ⟨unchanged, result⟩ := told_error (attempt_eq .. ▸ failed)
    rw [result] at comes
    cases comes with
    | failed reason => exact ⟨unchanged, reason⟩
  · intro output left later done
    rw [told_ok (attempt_eq .. ▸ done)] at comes
    cases comes with
    | came effect => exact effect

/-- An authority that makes no statement at first is asked for it again. -/
theorem effect_of_attempt_again :
    let authority := authorityStatement "a" "a"
    let store := (Store.empty 1).create "a!a" authority
    let after := (store.append "a!b" "a!a" 1).setData "a!b" (authorityStatement "a" "b") 1
    let step := Step.fetchSubordinate authority "b"
    store.Numbered ∧ Tried reluctant step (some 1) store store ∧
      attempt reluctant step (some 1) true store ["b"] =
        (.ok ⟨none, [.fetchConfiguration (authorityStatement "a" "b")]⟩, after, ["b"]) ∧
      Effect reluctant true (some 1) store ["b"] step
        ⟨none, [.fetchConfiguration (authorityStatement "a" "b")]⟩ after := by
  intro authority store after step
  have numbered : store.Numbered := (Store.numbered_empty 1).create "a!a" authority
  have failed : attempt reluctant step (some 1) false store [] =
      (.error (.client "not now"), store, ["b"]) := by decide +kernel
  have tried : Tried reluctant step (some 1) store store := .again .untried failed
  have done : attempt reluctant step (some 1) true store ["b"] =
      (.ok ⟨none, [.fetchConfiguration (authorityStatement "a" "b")]⟩, after, ["b"]) := by
    decide +kernel
  exact ⟨numbered, tried, done,
    (effect_of_attempt reluctant step (some 1) numbered tried true ["b"]).2.1 _ _ _ done⟩

end

end TrustFederation.Sharing
