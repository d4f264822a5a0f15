import TrustFederation.Client.ScriptedWeb
import TrustFederation.Proofs.Client.Destinations
import TrustFederation.Proofs.Text.Dictionaries
/-!
# What a client over the web keeps

A client over the web is asked for configurations, statements, listings and trust marks, in any
order. With a record of all requests that it sent and of what came of them, what it keeps is exactly,
under each address, the last body that came from there. It sends one request for each operation at
most, and none when an earlier answer will do and there is one, or when the operation is refused
because there is nowhere to send it. A client whose operations overlap is not considered.
-/
namespace TrustFederation.Client

/-! ## Operations -/

/-- What an operation answers with. -/
inductive Content where
  | statement (statement : Statement)
  | identifiers (identifiers : List String)
  | trustMark (text : String)
deriving DecidableEq

/-- What bodies are read as. -/
inductive Format where
  | statement
  | identifiers
  | trustMark
deriving DecidableEq

/-- What the body of an operation is read as. -/
def Operation.format (operation : Operation) : Format :=
  match operation.kind with
  | .configuration | .fetch => .statement
  | .listing | .trustMarkedListing => .identifiers
  | .trustMark => .trustMark

/-- Reads a body that came from an address. -/
def Format.read (format : Format) (url body : String) : Except Failure Content :=
  match format with
  | .statement => (Statement.ofToken body).map .statement
  | .identifiers => (Web.readListing url body).map .identifiers
  | .trustMark => .ok (.trustMark (Text.trim body))

namespace Web

variable {σ : Type}

/-- Performs an operation. -/
def perform (web : Web σ) (operation : Operation) (state : WebState σ) :
    Except Failure Content × WebState σ :=
  match operation.kind with
  | .configuration => Prod.map (·.map .statement) id (web.configuration operation.request state)
  | .fetch => Prod.map (·.map .statement) id (web.fetch operation.request state)
  | .listing => Prod.map (·.map .identifiers) id (web.listing operation.request state)
  | .trustMark => Prod.map (·.map .trustMark) id (web.trustMark operation.request state)
  | .trustMarkedListing =>
    Prod.map (·.map .identifiers) id (web.trustMarkedListing operation.request state)

/-- Performs operations one after the other. -/
def run (web : Web σ) : List Operation → WebState σ → List (Except Failure Content) × WebState σ
  | [], state => ([], state)
  | operation :: rest, state =>
    ((web.perform operation state).1 :: (web.run rest (web.perform operation state).2).1,
      (web.run rest (web.perform operation state).2).2)

/-- Reading more from the answer of a request is reading it in another way. -/
theorem map_ask {α β : Type} (web : Web σ) (request : Request) (address : Except Failure String)
    (read : String → String → Except Failure α) (use : α → β) (state : WebState σ) :
    Prod.map (·.map use) id (web.ask request address read state) =
      web.ask request address (fun url text => (read url text).map use) state := by
  unfold ask
  cases address with
  | error failure => rfl
  | ok url =>
    dsimp only
    rcases web.body url request.useCached state with ⟨failure | text, next⟩ <;> rfl

/-- All operations are made alike: an address is asked, and something is read from the body. -/
theorem perform_eq (web : Web σ) (operation : Operation) (state : WebState σ) :
    web.perform operation state =
      web.ask operation.request operation.address operation.format.read state := by
  obtain ⟨kind, request⟩ := operation
  cases kind <;> exact map_ask web request _ _ _ state

end Web

/-! ## The record of requests -/

/-- A request that was sent, by its address, and what came of it. -/
structure Exchange where
  url : String
  reply : Reply
deriving DecidableEq

/-- The exchange brought a body from an address: the answer was successful and could be read. -/
def Exchange.Brings (exchange : Exchange) (url body : String) : Prop :=
  exchange.url = url ∧
    ∃ status, isSuccess status = true ∧ exchange.reply = .answer status body

/-- The body that the last successful exchange with an address brought. -/
def LastBody (record : List Exchange) (url body : String) : Prop :=
  ∃ before exchange after, record = before ++ exchange :: after ∧ exchange.Brings url body ∧
    ∀ later ∈ after, ∀ other, ¬ later.Brings url other

/-- The body that an exchange brought from an address, if it did. -/
def Exchange.body? (url : String) (exchange : Exchange) : Option String :=
  if exchange.url = url then (exchange.reply.body url).toOption else none

/-- The last body that came from an address. -/
def lastBody? (record : List Exchange) (url : String) : Option String :=
  record.reverse.findSome? (·.body? url)

theorem Reply.body_ok_iff {url : String} {reply : Reply} {body : String} :
    reply.body url = .ok body ↔ ∃ status, isSuccess status = true ∧ reply = .answer status body := by
  cases reply with
  | answer status text =>
    by_cases success : isSuccess status = true
    · simp [Reply.body, success]
    · simp [Reply.body, success]
  | unreadable status detail =>
    by_cases success : isSuccess status = true
    · simp [Reply.body, success]
    · simp [Reply.body, success]
  | _ => simp [Reply.body]

theorem Exchange.body_eq_some_iff {exchange : Exchange} {url body : String} :
    exchange.body? url = some body ↔ exchange.Brings url body := by
  unfold Exchange.body? Exchange.Brings
  rw [← @Reply.body_ok_iff url]
  by_cases same : exchange.url = url
  · cases exchange.reply.body url <;> simp [same, Except.toOption]
  · simp [same]

theorem Exchange.body_eq_none_iff {exchange : Exchange} {url : String} :
    exchange.body? url = none ↔ ∀ body, ¬ exchange.Brings url body := by
  rw [Option.eq_none_iff_forall_ne_some]
  exact forall_congr' fun body => not_congr Exchange.body_eq_some_iff

theorem last_body_iff {record : List Exchange} {url body : String} :
    lastBody? record url = some body ↔ LastBody record url body := by
  unfold lastBody? LastBody
  rw [List.findSome?_eq_some_iff]
  simp only [Exchange.body_eq_some_iff, Exchange.body_eq_none_iff]
  constructor
  · rintro ⟨after, exchange, before, whole, brings, later⟩
    refine ⟨before.reverse, exchange, after.reverse, ?_, brings, ?_⟩
    · rw [← List.reverse_reverse record, whole]
      simp
    · simpa using later
  · rintro ⟨before, exchange, after, rfl, brings, later⟩
    exact ⟨after.reverse, exchange, before.reverse, by simp, brings, by simpa using later⟩

theorem last_body_snoc (record : List Exchange) (exchange : Exchange) (url : String) :
    lastBody? (record ++ [exchange]) url = (exchange.body? url).or (lastBody? record url) := by
  rw [lastBody?, List.reverse_append, List.reverse_singleton, List.singleton_append,
    List.findSome?_cons]
  cases exchange.body? url <;> rfl

namespace Web

variable {σ : Type}

/-- The web with a record of the requests that were sent to it, oldest first. -/
def recorded (web : Web σ) : Web (σ × List Exchange) where
  get url world :=
    let (reply, after) := web.get url world.1
    (reply, after, world.2 ++ [⟨url, reply⟩])

end Web

namespace WebState

variable {σ : Type}

/-- The requests that were sent so far. -/
def record (state : WebState (σ × List Exchange)) : List Exchange := state.world.2

/-- The state without the record. -/
def unrecorded (state : WebState (σ × List Exchange)) : WebState σ := ⟨state.cache, state.world.1⟩

/-- The state with a new record. -/
def recording (state : WebState σ) : WebState (σ × List Exchange) := ⟨state.cache, state.world, []⟩

end WebState

/-! ## What one operation does -/

/-- An operation sends one request, and what it keeps and answers with depends on what comes of it. -/
structure Sends {σ : Type} (web : Web σ) (operation : Operation) (url : String)
    (before : WebState (σ × List Exchange)) (answer : Except Failure Content)
    (after : WebState (σ × List Exchange)) : Prop where
  once : after.record = before.record ++ [⟨url, (web.get url before.world.1).1⟩]
  world : after.world.1 = (web.get url before.world.1).2
  /-- A body that came is kept in place of what was kept under the address, and then it is read. -/
  brought : ∀ body, (⟨url, (web.get url before.world.1).1⟩ : Exchange).Brings url body →
    after.cache = before.cache.insert url body ∧ answer = operation.format.read url body
  /-- If no body came, for whatever reason, what is kept does not change. -/
  failed : (∀ body, ¬ (⟨url, (web.get url before.world.1).1⟩ : Exchange).Brings url body) →
    after.cache = before.cache ∧ ∃ failure, answer = .error failure

/-- How an operation uses the web and what is kept. -/
structure Turn {σ : Type} (web : Web σ) (operation : Operation)
    (before : WebState (σ × List Exchange)) (answer : Except Failure Content)
    (after : WebState (σ × List Exchange)) : Prop where
  /-- The request goes somewhere, unless it is refused. -/
  goes : (∃ url, operation.GoesTo url) ∨ ∃ failure, operation.IsRefused failure
  /-- If it is refused, nothing is sent and nothing changes. -/
  refused : ∀ failure, operation.IsRefused failure → answer = .error failure ∧ after = before
  /-- A fresh answer takes one request. -/
  fresh : ∀ url, operation.GoesTo url → operation.request.useCached = false →
    Sends web operation url before answer after
  /-- If an earlier answer will do and a body is kept, this body is read and nothing is sent. -/
  kept : ∀ url body, operation.GoesTo url → operation.request.useCached = true →
    (url, body) ∈ before.cache → answer = operation.format.read url body ∧ after = before
  /-- If an earlier answer will do but no body is kept, it takes one request. -/
  missed : ∀ url, operation.GoesTo url → operation.request.useCached = true →
    (∀ body, (url, body) ∉ before.cache) → Sends web operation url before answer after

section

variable {σ : Type} {web : Web σ} {operation : Operation} {url : String}

theorem perform_refused {failure : Failure} (unaddressed : operation.address = .error failure)
    (state : WebState σ) : web.perform operation state = (.error failure, state) := by
  simp only [Web.perform_eq, Web.ask, unaddressed]

theorem perform_kept {state : WebState σ} {body : String}
    (addressed : operation.address = .ok url) (cached : operation.request.useCached = true)
    (held : state.cache.lookup url = some body) :
    web.perform operation state = (operation.format.read url body, state) := by
  simp only [Web.perform_eq, Web.ask, addressed, Web.body, cached, held, if_true]

theorem perform_sent {state : WebState σ} (addressed : operation.address = .ok url)
    (asked : operation.request.useCached = false ∨ state.cache.lookup url = none) :
    web.perform operation state =
      match (web.get url state.world).1.body url with
      | .ok body =>
        (operation.format.read url body, ⟨state.cache.insert url body, (web.get url state.world).2⟩)
      | .error failure => (.error failure, ⟨state.cache, (web.get url state.world).2⟩) := by
  have missing : (if operation.request.useCached = true then state.cache.lookup url else none) =
      none := by
    rcases asked with fresh | absent
    · rw [fresh]
      rfl
    · rw [absent, ite_self]
  simp only [Web.perform_eq, Web.ask, addressed, Web.body, missing, Web.fresh]
  cases (web.get url state.world).1.body url <;> rfl

theorem sends_of_sent {before : WebState (σ × List Exchange)}
    (addressed : operation.address = .ok url)
    (asked : operation.request.useCached = false ∨ before.cache.lookup url = none) :
    Sends web operation url before (web.recorded.perform operation before).1
      (web.recorded.perform operation before).2 := by
  rw [perform_sent addressed asked]
  have reply : web.recorded.get url before.world = ((web.get url before.world.1).1,
      (web.get url before.world.1).2, before.record ++ [⟨url, (web.get url before.world.1).1⟩]) :=
    rfl
  rw [reply]
  cases came : (web.get url before.world.1).1.body url with
  | ok body =>
    obtain brings := Reply.body_ok_iff.mp came
    refine ⟨rfl, rfl, fun other brought => ?_, fun nothing => absurd ⟨rfl, brings⟩ (nothing body)⟩
    obtain rfl : body = other :=
      Except.ok.inj (came.symm.trans (Reply.body_ok_iff.mpr brought.2))
    exact ⟨rfl, rfl⟩
  | error failure =>
    refine ⟨rfl, rfl, fun body brought => ?_, fun _ => ⟨rfl, failure, rfl⟩⟩
    rw [Reply.body_ok_iff.mpr brought.2] at came
    cases came

/-- An operation is refused, reads what is kept, or sends one request. -/
theorem perform_cases (web : Web σ) (operation : Operation)
    (before : WebState (σ × List Exchange)) :
    (web.recorded.perform operation before).2 = before ∨
      ∃ url, Sends web operation url before (web.recorded.perform operation before).1
        (web.recorded.perform operation before).2 := by
  cases addressed : operation.address with
  | error failure => exact .inl (by rw [perform_refused addressed])
  | ok url =>
    cases held : before.cache.lookup url with
    | none => exact .inr ⟨url, sends_of_sent addressed (.inr held)⟩
    | some body =>
      cases cached : operation.request.useCached with
      | false => exact .inr ⟨url, sends_of_sent addressed (.inl cached)⟩
      | true => exact .inl (by rw [perform_kept addressed cached held])

/-- A client uses the web as told, if what it keeps is in order. -/
theorem turn_of_perform (web : Web σ) (operation : Operation)
    {before : WebState (σ × List Exchange)} (ascending : before.cache.Ascending) :
    Turn web operation before (web.recorded.perform operation before).1
      (web.recorded.perform operation before).2 := by
  refine ⟨goes_or_refused operation, fun failure refused => ?_, fun url goes fresh => ?_,
    fun url body goes cached held => ?_, fun url goes cached absent => ?_⟩
  · rw [perform_refused (address_of_refused refused)]
    exact ⟨rfl, rfl⟩
  · exact sends_of_sent (address_of_goes goes) (.inl fresh)
  · rw [perform_kept (address_of_goes goes) cached ((ascending.mem_iff_lookup url body).mp held)]
    exact ⟨rfl, rfl⟩
  · refine sends_of_sent (address_of_goes goes)
      (.inr (Option.eq_none_iff_forall_ne_some.mpr ?_))
    exact fun body held => absent body ((ascending.mem_iff_lookup url body).mpr held)

theorem Exchange.body_elsewhere {exchange : Exchange} {other : String}
    (elsewhere : other ≠ exchange.url) : exchange.body? other = none :=
  if_neg elsewhere.symm

/-- After one request, what is kept under an address is the body that came from there, or what was
kept if none came. -/
theorem Sends.lookup {before after : WebState (σ × List Exchange)} {answer : Except Failure Content}
    (sends : Sends web operation url before answer after) (other : String) :
    after.cache.lookup other =
      ((⟨url, (web.get url before.world.1).1⟩ : Exchange).body? other).or
        (before.cache.lookup other) := by
  cases came : (⟨url, (web.get url before.world.1).1⟩ : Exchange).body? url with
  | none =>
    rw [(sends.failed (Exchange.body_eq_none_iff.mp came)).1]
    by_cases same : other = url
    · rw [same, came, Option.none_or]
    · rw [Exchange.body_elsewhere same, Option.none_or]
  | some body =>
    rw [(sends.brought body (Exchange.body_eq_some_iff.mp came)).1, Text.Dictionary.lookup_insert]
    by_cases same : other = url
    · rw [if_pos same, same, came, Option.some_or]
    · rw [if_neg same, Exchange.body_elsewhere same, Option.none_or]

theorem Sends.ascending {before after : WebState (σ × List Exchange)}
    {answer : Except Failure Content} (sends : Sends web operation url before answer after)
    (ascending : before.cache.Ascending) : after.cache.Ascending := by
  cases came : (⟨url, (web.get url before.world.1).1⟩ : Exchange).body? url with
  | none => rwa [(sends.failed (Exchange.body_eq_none_iff.mp came)).1]
  | some body =>
    rw [(sends.brought body (Exchange.body_eq_some_iff.mp came)).1]
    exact ascending.insert url body

/-! ## What is kept after many operations -/

/-- What is kept stays in order under operations. -/
theorem ascending_run {before : WebState (σ × List Exchange)} (ascending : before.cache.Ascending)
    (operations : List Operation) : (web.recorded.run operations before).2.cache.Ascending := by
  induction operations generalizing before with
  | nil => exact ascending
  | cons operation rest ih =>
    refine ih ?_
    rcases perform_cases web operation before with same | ⟨url, sends⟩
    · rwa [same]
    · exact sends.ascending ascending

/-- What is kept is accounted for: under each address stands the last body that came from there
according to the record, or what was kept at first if none came. -/
def Accounted (first : Text.Dictionary String) (state : WebState (σ × List Exchange)) : Prop :=
  ∀ url, state.cache.lookup url = (lastBody? state.record url).or (first.lookup url)

variable {first : Text.Dictionary String}

/-- What is kept stays accounted for by one operation. -/
theorem Accounted.perform {before : WebState (σ × List Exchange)}
    (accounted : Accounted first before) (operation : Operation) :
    Accounted first (web.recorded.perform operation before).2 := by
  rcases perform_cases web operation before with same | ⟨url, sends⟩
  · rwa [same]
  · intro other
    rw [sends.lookup, sends.once, last_body_snoc, Option.or_assoc, accounted]

/-- What is kept stays accounted for by operations, whatever comes of their requests. -/
theorem Accounted.run {before : WebState (σ × List Exchange)} (accounted : Accounted first before)
    (operations : List Operation) : Accounted first (web.recorded.run operations before).2 := by
  induction operations generalizing before with
  | nil => exact accounted
  | cons operation rest ih => exact ih (accounted.perform operation)

/-- Before any request, what is kept is what was kept at first. -/
theorem accounted_recording (state : WebState σ) : Accounted state.cache state.recording :=
  fun _ => rfl

/-! ## The record changes nothing -/

theorem perform_recorded (web : Web σ) (operation : Operation)
    (before : WebState (σ × List Exchange)) :
    (web.recorded.perform operation before).1 = (web.perform operation before.unrecorded).1 ∧
      (web.recorded.perform operation before).2.unrecorded =
        (web.perform operation before.unrecorded).2 := by
  simp only [Web.perform_eq, Web.ask]
  cases operation.address with
  | error failure => exact ⟨rfl, rfl⟩
  | ok url =>
    have same : before.unrecorded.cache = before.cache := rfl
    simp only [Web.body, same]
    cases if operation.request.useCached = true then before.cache.lookup url else none with
    | some body => exact ⟨rfl, rfl⟩
    | none =>
      have reply : (web.recorded.get url before.world).1 =
          (web.get url before.unrecorded.world).1 := rfl
      simp only [Web.fresh, reply]
      cases (web.get url before.unrecorded.world).1.body url <;> exact ⟨rfl, rfl⟩

theorem run_recorded (web : Web σ) (operations : List Operation)
    (before : WebState (σ × List Exchange)) :
    (web.recorded.run operations before).1 = (web.run operations before.unrecorded).1 ∧
      (web.recorded.run operations before).2.unrecorded =
        (web.run operations before.unrecorded).2 := by
  induction operations generalizing before with
  | nil => exact ⟨rfl, rfl⟩
  | cons operation rest ih =>
    obtain ⟨answer, after⟩ := perform_recorded web operation before
    obtain ⟨answers, last⟩ := ih (web.recorded.perform operation before).2
    rw [after] at answers last
    exact ⟨congrArg₂ List.cons answer answers, last⟩

/-- What a client over the web keeps is coherent with what came from there. After any operations, in
any order and whatever the web answers, it keeps under each address the body of the last successful
answer from this address, each address once, and nothing else. The next operation either is refused,
for want of a subject or of an endpoint, and then changes nothing, or its request has an address. Then
it takes one request if its answer is to be fresh, and also if an earlier answer will do but none is
kept; it takes none if one is kept, and is answered from this one. Only a body that came changes what
is kept.
All this is told by a record of the requests, which changes neither the answers nor what is kept. -/
theorem cache_coherent (web : Web σ) (world : σ) (operations : List Operation) :
    let empty : WebState σ := ⟨[], world⟩
    let answers := (web.recorded.run operations empty.recording).1
    let state := (web.recorded.run operations empty.recording).2
    (answers = (web.run operations empty).1 ∧ state.unrecorded = (web.run operations empty).2) ∧
      state.cache.Ascending ∧
      (∀ url body, (url, body) ∈ state.cache ↔ LastBody state.record url body) ∧
      ∀ next, Turn web next state (web.recorded.perform next state).1
        (web.recorded.perform next state).2 := by
  intro empty answers state
  have accounted : Accounted empty.cache (web.recorded.run operations empty.recording).2 :=
    (accounted_recording empty).run operations
  have vacant : empty.recording.cache.Ascending := List.Pairwise.nil
  have ascending : (web.recorded.run operations empty.recording).2.cache.Ascending :=
    ascending_run vacant operations
  refine ⟨run_recorded web operations empty.recording, ascending, fun url body => ?_,
    fun next => turn_of_perform web next ascending⟩
  rw [ascending.mem_iff_lookup, accounted, ← last_body_iff, List.lookup_nil, Option.or_none]

end

/-- A request for the listing of an authority. -/
def listingAt (url : String) (useCached : Bool) : Operation :=
  ⟨.listing, (Request.plain useCached).withEndpoints { Endpoints.none with list := some url }⟩

/-- A listing is kept when it has come. Then a request that takes an earlier answer sends nothing and
is answered with it, a fresh one is sent although the server is out of order by now, and one for a
statement is refused because the authority offers only the listing. -/
theorem cache_coherent_listing :
    let url := "http://ia/list"
    let web := ScriptedWeb.web.recorded
    let world := (ScriptedWeb.empty true).merge
      [(url, [.reply 200 "[\"http://rp\"]" none, .reply 503 "" none])]
    let state := (web.run [listingAt url false] (WebState.recording ⟨[], world⟩)).2
    (url, "[\"http://rp\"]") ∈ state.cache ∧
      web.perform (listingAt url true) state = (.ok (.identifiers ["http://rp"]), state) ∧
      (web.perform (listingAt url false) state).2.record.length = state.record.length + 1 ∧
      web.perform ⟨.fetch, (listingAt url false).request⟩ state =
        (.error (.invalidRequest ("Entity exposes no " ++ "federation_fetch_endpoint")), state) := by
  intro url web world state
  have turns : ∀ next, Turn ScriptedWeb.web next state (web.perform next state).1
      (web.perform next state).2 :=
    (cache_coherent ScriptedWeb.web world [listingAt url false]).2.2.2
  have came : (url, "[\"http://rp\"]") ∈ state.cache := by decide +kernel
  -- What follows holds of every state with this body in it.
  clear_value state
  have goes (useCached : Bool) : (listingAt url useCached).GoesTo (endpointUrl url []) :=
    .offered rfl rfl rfl
  have refused : Operation.IsRefused ⟨.fetch, (listingAt url false).request⟩
      (.invalidRequest ("Entity exposes no " ++ "federation_fetch_endpoint")) :=
    .withheld rfl fun endpoints found => by cases found; rfl
  have read : (listingAt url true).format.read url "[\"http://rp\"]" =
      .ok (.identifiers ["http://rp"]) := by decide +kernel
  obtain ⟨answered, same⟩ := (turns (listingAt url true)).kept url _ (goes true) rfl came
  obtain ⟨failed, unchanged⟩ := (turns ⟨.fetch, (listingAt url false).request⟩).refused _ refused
  have sent := ((turns (listingAt url false)).fresh url (goes false) rfl).once
  refine ⟨came, Prod.ext (answered.trans read) same, ?_, Prod.ext failed unchanged⟩
  rw [sent, List.length_append, List.length_singleton]

end TrustFederation.Client
