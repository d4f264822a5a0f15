import TrustFederation.Crawl.Step
import TrustFederation.Tree.Walk
/-!
# What a step does

A step asks the client, checks that the answer is about what was asked for, attaches it to
the tree and names the steps that follow. A failed step leaves the tree as it was.
-/
namespace TrustFederation.Crawl

open Client (Request)
open TrustFederation.Tree (Store Version)

/-- The tree of statements. -/
abbrev StatementStore := Store Statement

/-- What a successful step leaves: the tree, the version if it started one, and the steps
that follow. -/
structure Outcome where
  store : StatementStore
  created : Option Version
  next : List Step
deriving DecidableEq

/-- A statement is about what was asked for, up to the case of ASCII letters. -/
def checkStatement (statement : Statement) (issuer subject : String) : Except Failure Unit :=
  if Text.sameAscii statement.issuer issuer && Text.sameAscii statement.subject subject then
    .ok ()
  else .error (.invalidStatement
    (s!"Expected statement {issuer} -> {subject}, " ++
      s!"got {statement.issuer} -> {statement.subject}"))

/-- The version that a crawl fills. -/
def requireVersion : Option Version → Except Failure Version
  | some version => .ok version
  | none => .error (.internal "Crawl has no root version")

/-- Starts a version with the configuration of the anchor. -/
def startVersion (entity : String) (store : StatementStore) (configuration : Statement) :
    Except Failure Outcome := do
  checkStatement configuration entity entity
  let key ← configuration.nodeKey
  let started := store.create key.text configuration
  return ⟨started, some started.allocated, [.listSubordinates configuration]⟩

/-- Attaches a statement below its parent. -/
def attach (version : Version) (store : StatementStore) (parent statement : Statement)
    (next : Step) : Except Failure Outcome := do
  let parentKey ← parent.nodeKey
  let key ← statement.nodeKey
  let attached ← store.addChild key.text parentKey.text statement version
  return ⟨attached, none, [next]⟩

/-- The request for the configuration of the subject of a statement. -/
def configurationRequest (statement : Statement) (useCached : Bool) : Request :=
  let request := (Request.plain useCached).withParameter "sub" statement.subject
  match statement.configurationLocation with
  | some location => request.withParameter "location" location
  | none => request

variable {σ : Type}

/-- Goes on with the answer of a client. -/
def andThen {α : Type} (answer : Except Failure α × σ) (use : α → Except Failure Outcome) :
    Except Failure Outcome × σ :=
  (answer.1.bind use, answer.2)

/-- Runs a step. `version` is the version that the crawl fills, if it has started one. -/
def execute (client : Client σ) (step : Step) (useCached : Bool) (version : Option Version)
    (store : StatementStore) (world : σ) : Except Failure Outcome × σ :=
  match step with
  | .resolveRoot entity =>
    let request := (Request.plain useCached).withParameter "sub" entity
    andThen (client.configuration request world) (startVersion entity store)
  | .listSubordinates authority =>
    match authority.endpoints?.filter (·.canListSubordinates) with
    | none => (.ok ⟨store, none, []⟩, world)
    | some endpoints =>
      andThen (client.listing ((Request.plain useCached).withEndpoints endpoints) world)
        fun subordinates => .ok ⟨store, none, subordinates.map (.fetchSubordinate authority)⟩
  | .fetchSubordinate authority subordinate =>
    match requireVersion version, authority.endpoints? with
    | .error failure, _ => (.error failure, world)
    | .ok _, none =>
      (.error (.invalidRequest (authority.subject ++ " has no federation_entity metadata")), world)
    | .ok filled, some endpoints =>
      let request := ((Request.plain useCached).withParameter "sub" subordinate).withEndpoints
        endpoints
      andThen (client.fetch request world) fun statement => do
        checkStatement statement authority.subject subordinate
        attach filled store authority statement (.fetchConfiguration statement)
  | .fetchConfiguration statement =>
    match requireVersion version with
    | .error failure => (.error failure, world)
    | .ok filled =>
      andThen (client.configuration (configurationRequest statement useCached) world)
        fun configuration => do
          checkStatement configuration statement.subject statement.subject
          attach filled store statement configuration (.listSubordinates configuration)

end TrustFederation.Crawl
