import TrustFederation.Client.Web
import TrustFederation.Command.Arguments
import TrustFederation.Crawl.Loop
import TrustFederation.Resolve.Resolver
import TrustFederation.Settings.LogFilter
/-!
# Running commands

A command reads the settings, checks them and crawls the federation once before it answers.
What it writes and how it ends are values, so nothing here touches the outside.
-/
namespace TrustFederation.Command

open Client (Web)

/-- How a program ends: its exit code, what it writes, and what it complains about. -/
structure Outcome where
  exitCode : Nat
  output : String
  complaint : String
deriving DecidableEq

/-- The end of a program that cannot start. -/
def Outcome.failed (message : String) : Outcome := ⟨1, "", "Error: " ++ message ++ "\n"⟩

/-- The end of a program that stops in the middle of its work. -/
def Outcome.aborted : Outcome := ⟨101, "", "\nthe program stopped\n"⟩

/-- The bytes of a user agent that can be sent. -/
def isSendable (userAgent : String) : Bool :=
  userAgent.toUTF8.data.toList.all fun byte => byte == 9 || (32 ≤ byte && byte != 127)

/-- The settings of an environment, checked in the order in which a program needs them. -/
def prepare (environment : Settings.Environment) (verbose : Bool) : Except Outcome Settings := do
  let fail (failure : Failure) : Outcome := .failed failure.message
  let settings ← (Settings.ofEnvironment environment).mapError fail
  if !verbose then
    (Settings.checkLogFilter settings.logFilter).mapError fun
      | .malformed => .failed ("invalid log filter: " ++ settings.logFilter)
      | .torn => .aborted
  settings.validate.mapError fail
  if !isSendable settings.userAgent then
    .error (fail (.internal "Failed to create HTTP client: builder error"))
  return settings

/-- The resolver of checked settings. -/
def resolver (settings : Settings) : Except Failure Resolve.Resolver := do
  let trusted ← settings.trustedKeys
  return {
    entity := settings.entity
    trustAnchor := settings.trustAnchor
    rules := Chain.standardRules trusted
    signer := .hmac (Jose.bytesOf settings.secret) settings.keyId
    lifetime := settings.responseLifetime }

variable {σ : Type}

/-- Crawls the federation once and publishes what was built. -/
def crawlOnce (settings : Settings) (web : Web σ) (world : σ) : Crawl.StatementStore × σ :=
  let (report, store, state) := Crawl.load web.client settings.crawl.policy settings.trustAnchor
    (.empty settings.crawl.retainedVersions) ⟨[], world⟩
  (report.publish store, state.world)

/-- Resolves one subject: the claims and the token of the answer, or the response to a
failure, unless the program stops. -/
def runResolve (settings : Settings) (resolver : Resolve.Resolver) (subject : String)
    (entityType : Option String) (store : Crawl.StatementStore) (now : Int) : Outcome :=
  match resolver.resolve store ⟨subject, settings.trustAnchor, entityType⟩ now with
  | .ok answer =>
    ⟨0, (Json.object answer.claims.members).pretty ++ "\n" ++ answer.token ++ "\n", ""⟩
  | .error (.failure failure) => ⟨1, failure.response.toJson.pretty ++ "\n", ""⟩
  | .error .overflow => .aborted

/-- Lists the entities with any of some entity types. -/
def runDiscover (settings : Settings) (resolver : Resolve.Resolver) (entityTypes : List String)
    (store : Crawl.StatementStore) : Outcome :=
  match resolver.discover store ⟨settings.trustAnchor, entityTypes, []⟩ with
  | .ok entities => ⟨0, (Json.ofTexts entities).pretty ++ "\n", ""⟩
  | .error failure => .failed failure.message

/-- Runs a command that ends by itself. A program that serves does not; it ends with code 0
when it is interrupted. -/
def run (operation : Operation) (settings : Settings) (web : Web σ) (world : σ) (now : Int) :
    Outcome × σ :=
  match resolver settings with
  | .error failure => (.failed failure.message, world)
  | .ok ready =>
    match operation with
    | .serve => (⟨0, "", ""⟩, world)
    | .resolve subject entityType =>
      let (store, after) := crawlOnce settings web world
      (runResolve settings ready subject entityType store now, after)
    | .discover entityTypes =>
      let (store, after) := crawlOnce settings web world
      (runDiscover settings ready entityTypes store, after)

/-- The help that the command line offers. -/
def helpText : String :=
  "OpenID Federation trust chain resolver\n\n" ++
  "Usage: oidf-resolver [OPTIONS] [COMMAND]\n\n" ++
  "Commands:\n" ++
  "  serve     Keep the federation tree fresh until interrupted\n" ++
  "  resolve   Crawl once, then resolve one entity\n" ++
  "  discover  Crawl once, then list entities of the given types\n" ++
  "  help      Print this message or the help of the given subcommand(s)\n\n" ++
  "Options:\n" ++
  "  -v, --verbose  Enable verbose logging\n" ++
  "  -h, --help     Print help\n"

/-- Runs a command line in an environment. -/
def runArguments (arguments : List String) (environment : Settings.Environment) (web : Web σ)
    (world : σ) (now : Int) : Outcome × σ :=
  match readArguments false arguments with
  | .help => (⟨0, helpText, ""⟩, world)
  | .malformed => (⟨2, "", "error: malformed command line\n"⟩, world)
  | .run operation verbose =>
    match prepare environment verbose with
    | .error outcome => (outcome, world)
    | .ok settings => run operation settings web world now

end TrustFederation.Command
