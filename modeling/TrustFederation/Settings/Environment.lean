import TrustFederation.Settings.Basic
import TrustFederation.Text.Digits
/-!
# Settings from the environment

Settings are read from variables. The anchor, its keys and the signing secret must be set;
everything else has a default. A variable with a malformed value is an error, and the first
one in the order of reading is reported.
-/
namespace TrustFederation.Settings

/-- Variables with their values. -/
abbrev Environment := List (String × String)

/-- The names of the variables that settings are read from. -/
def variableNames : List String :=
  ["RESOLVER_TRUST_ANCHOR_ID", "RESOLVER_TRUST_ANCHOR_JWKS", "RESOLVER_ENTITY_ID",
   "RESOLVER_USE_CACHE_THRESHOLD", "RESOLVER_REFRESH_INTERVAL_SECS", "RESOLVER_EXECUTION",
   "RESOLVER_MAX_CONCURRENCY", "RESOLVER_RECOVERY", "RESOLVER_MAX_ATTEMPTS",
   "RESOLVER_RETAINED_VERSIONS", "RESOLVER_SIGNING_SECRET", "RESOLVER_SIGNING_KEY_ID",
   "RESOLVER_RESPONSE_LIFETIME_SECS", "RESOLVER_USER_AGENT", "RESOLVER_HTTP_TIMEOUT_SECS",
   "RUST_LOG"]

/-- A natural number up to a limit. A plus sign may stand in front of it. -/
def readNat? (limit : Nat) (text : String) : Option Nat := do
  let value ← Text.readDigits? (match text.toList with
    | '+' :: digits => digits
    | digits => digits)
  if value ≤ limit then some value else none

/-- An integer of 64 bits. A sign may stand in front of it. -/
def readInt? (text : String) : Option Int :=
  match text.toList with
  | '-' :: digits => do
    let value ← Text.readDigits? digits
    if Word.leastSigned ≤ -(value : Int) then some (-(value : Int)) else none
  | _ => (readNat? Word.largestSigned.toNat text).map Int.ofNat

/-- A variable that must be set. -/
def required (environment : Environment) (name : String) (complaint : String) :
    Except Failure String :=
  match environment.lookup name with
  | some value => .ok value
  | none => .error (.settings complaint)

/-- A variable that is read without the blanks around its value. -/
def parsed {α : Type} (environment : Environment) (name : String) (read : String → Option α)
    (default : α) : Except Failure α :=
  match environment.lookup name with
  | none => .ok default
  | some value =>
    match read (Text.trim value) with
    | some found => .ok found
    | none => .error (.settings ("Invalid value for " ++ name))

/-- The user agent if no other is set. -/
def defaultUserAgent : String := "oidf-resolver/0.1.0"

/-- The log filter if no other is set. -/
def defaultLogFilter : String := "oidf_resolver=info"

/-- The settings of an environment. -/
def ofEnvironment (environment : Environment) : Except Failure Settings := do
  let trustAnchor ← required environment "RESOLVER_TRUST_ANCHOR_ID" "Trust anchor id required"
  let trustAnchorKeys ←
    required environment "RESOLVER_TRUST_ANCHOR_JWKS" "Trust anchor JWKS required"
  let entity := (environment.lookup "RESOLVER_ENTITY_ID").getD trustAnchor
  let word32 := readNat? Word.largestShort
  let word64 := readNat? Word.largest
  let defaults := CrawlSettings.default
  let useCacheThreshold ←
    parsed environment "RESOLVER_USE_CACHE_THRESHOLD" word32 defaults.useCacheThreshold
  let refreshIntervalSeconds ←
    parsed environment "RESOLVER_REFRESH_INTERVAL_SECS" word64 defaults.refreshIntervalSeconds
  let execution ← parsed environment "RESOLVER_EXECUTION"
    (fun text => (ExecutionMode.parse text).toOption) defaults.execution
  let maxConcurrency ←
    parsed environment "RESOLVER_MAX_CONCURRENCY" word64 defaults.maxConcurrency
  let recovery ← parsed environment "RESOLVER_RECOVERY"
    (fun text => (RecoveryMode.parse text).toOption) defaults.recovery
  let maxAttempts ← parsed environment "RESOLVER_MAX_ATTEMPTS" word32 defaults.maxAttempts
  let retainedVersions ←
    parsed environment "RESOLVER_RETAINED_VERSIONS" word64 defaults.retainedVersions
  let secret ← required environment "RESOLVER_SIGNING_SECRET" "Signing secret required"
  let keyId := (environment.lookup "RESOLVER_SIGNING_KEY_ID").getD (entity ++ "#resolver")
  let responseLifetime ← parsed environment "RESOLVER_RESPONSE_LIFETIME_SECS" readInt? 3600
  let userAgent := (environment.lookup "RESOLVER_USER_AGENT").getD defaultUserAgent
  let timeoutSeconds ← parsed environment "RESOLVER_HTTP_TIMEOUT_SECS" word64 10
  let logFilter := (environment.lookup "RUST_LOG").getD defaultLogFilter
  let crawl : CrawlSettings :=
    { useCacheThreshold, refreshIntervalSeconds, execution, maxConcurrency, recovery,
      maxAttempts, retainedVersions }
  return { entity, trustAnchor, trustAnchorKeys, crawl, secret, keyId, responseLifetime,
           userAgent, timeoutSeconds, logFilter }

end TrustFederation.Settings
