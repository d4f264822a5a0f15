import TrustFederation.Crawl.Strategy
import TrustFederation.Text.Blank
/-!
# Settings

What an operator decides: who the resolver is and which anchor it trusts, how crawls are
run, how answers are signed, how the web is asked and what is logged.
-/
namespace TrustFederation

/-- How crawl steps are scheduled. -/
inductive ExecutionMode where
  | sequential
  | concurrent
deriving DecidableEq

/-- What becomes of failed crawl steps. -/
inductive RecoveryMode where
  | drop
  | retry
  | deferred
deriving DecidableEq

namespace ExecutionMode

/-- The name of a mode. -/
def name : ExecutionMode → String
  | .sequential => "sequential"
  | .concurrent => "concurrent"

/-- The mode of a name, whatever the case of its letters and the blanks around it. -/
def parse (text : String) : Except Failure ExecutionMode :=
  match Text.asciiLowercase (Text.trim text) with
  | "sequential" => .ok .sequential
  | "concurrent" => .ok .concurrent
  | other => .error (.settings ("Unknown execution mode: " ++ other))

end ExecutionMode

namespace RecoveryMode

/-- The name of a mode. -/
def name : RecoveryMode → String
  | .drop => "drop"
  | .retry => "retry"
  | .deferred => "deferred"

/-- The mode of a name, whatever the case of its letters and the blanks around it. -/
def parse (text : String) : Except Failure RecoveryMode :=
  match Text.asciiLowercase (Text.trim text) with
  | "drop" => .ok .drop
  | "retry" => .ok .retry
  | "deferred" => .ok .deferred
  | other => .error (.settings ("Unknown recovery mode: " ++ other))

end RecoveryMode

/-- How the tree is crawled. -/
structure CrawlSettings where
  useCacheThreshold : Nat
  refreshIntervalSeconds : Nat
  execution : ExecutionMode
  maxConcurrency : Nat
  recovery : RecoveryMode
  maxAttempts : Nat
  retainedVersions : Nat
deriving DecidableEq

namespace CrawlSettings

/-- The settings if nothing else is set. -/
def default : CrawlSettings := ⟨2, 3600, .sequential, 8, .retry, 3, 3⟩

/-- The policy of crawls with these settings. -/
def policy (settings : CrawlSettings) : Crawl.Policy where
  execution := match settings.execution with
    | .sequential => .sequential
    | .concurrent => .concurrent settings.maxConcurrency
  recovery := match settings.recovery with
    | .drop => .drop
    | .retry => .retry settings.maxAttempts
    | .deferred => .deferred settings.maxAttempts
  cacheThreshold := settings.useCacheThreshold

/-- The settings as a JSON object. -/
def toJson (settings : CrawlSettings) : Json :=
  .ofMembers [("use_cache_threshold", .ofNat settings.useCacheThreshold),
    ("refresh_interval_secs", .ofNat settings.refreshIntervalSeconds),
    ("execution", .text settings.execution.name),
    ("max_concurrency", .ofNat settings.maxConcurrency),
    ("recovery", .text settings.recovery.name),
    ("max_attempts", .ofNat settings.maxAttempts),
    ("retained_versions", .ofNat settings.retainedVersions)]

end CrawlSettings

/-- All settings of a resolver. -/
structure Settings where
  entity : String
  trustAnchor : String
  /-- The keys of the trust anchor, as the text of a key set. -/
  trustAnchorKeys : String
  crawl : CrawlSettings
  secret : String
  keyId : String
  responseLifetime : Int
  userAgent : String
  timeoutSeconds : Nat
  logFilter : String
deriving DecidableEq

/-- The keys in a text that is trusted to hold those of the anchor. -/
def Settings.parseTrustedKeys (text : String) : Except Failure Jose.KeySet :=
  (Jose.KeySet.parse text).mapError fun complaint =>
    .settings ("Invalid trust anchor JWKS: " ++ complaint.message)

namespace Settings

/-- The trusted keys of the anchor. -/
def trustedKeys (settings : Settings) : Except Failure Jose.KeySet :=
  parseTrustedKeys settings.trustAnchorKeys

/-- Checks what a resolver needs to run. -/
def validate (settings : Settings) : Except Failure Unit := do
  if settings.entity.isEmpty then
    .error (.settings "Entity id cannot be empty")
  if settings.trustAnchor.isEmpty then
    .error (.settings "Trust anchor id cannot be empty")
  let keys ← settings.trustedKeys
  if keys.keys.isEmpty then
    .error (.settings "Trust anchor JWKS has no keys")
  let crawl := settings.crawl
  if crawl.useCacheThreshold = 0 ∨ crawl.maxConcurrency = 0 ∨ crawl.maxAttempts = 0 ∨
      crawl.retainedVersions = 0 ∨ crawl.refreshIntervalSeconds = 0 then
    .error (.settings "Crawl thresholds and limits must be positive")
  if settings.secret.utf8ByteSize < 32 then
    .error (.settings "Signing secret must be at least 32 characters")
  if settings.responseLifetime ≤ 0 then
    .error (.settings "Response lifetime must be positive")

/-- The settings as a JSON object, without the secret. -/
def toJson (settings : Settings) : Json :=
  .ofMembers
    [("service", .ofMembers [("entity_id", .text settings.entity),
        ("trust_anchor_id", .text settings.trustAnchor),
        ("trust_anchor_jwks", .text settings.trustAnchorKeys)]),
      ("crawl", settings.crawl.toJson),
      ("signing", .ofMembers [("key_id", .text settings.keyId),
        ("response_lifetime_secs", .ofInt settings.responseLifetime)]),
      ("http", .ofMembers [("user_agent", .text settings.userAgent),
        ("timeout_secs", .ofNat settings.timeoutSeconds)]),
      ("logging", .ofMembers [("level", .text settings.logFilter)])]

end Settings

end TrustFederation
