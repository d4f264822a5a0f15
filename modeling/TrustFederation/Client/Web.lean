import TrustFederation.Client.Endpoint
import TrustFederation.Client.Target
/-!
# Requests over the web

The web is asked for one address at a time and answers with a status and a body, or not at
all. The body of a successful answer is kept under the address as it was written; a request
that says that an earlier answer will do is answered from there, if there is one. What is kept
is the body as it came, before anything is read from it.
-/
namespace TrustFederation.Client

open Text (Dictionary)

/-- What comes of a request, after all redirects. -/
inductive Reply where
  /-- The address is malformed. -/
  | malformed
  /-- The address cannot be asked. Its normal form is kept. -/
  | unsupported (address : String)
  /-- No answer came from the address given. -/
  | noAnswer (address : String)
  /-- The address given was the last one of too many redirects. -/
  | endlessRedirect (address : String)
  /-- An answer with a status, but its body could not be read. -/
  | unreadable (status : Nat) (detail : String)
  /-- An answer with a status and a body. -/
  | answer (status : Nat) (body : String)
deriving DecidableEq

/-- A web, whose state changes with every request. A request names its address as it was
written. -/
structure Web (σ : Type) where
  get : String → σ → Reply × σ

/-- A web whose requests leave for addresses in normal form, and only for those that can be
asked. -/
def Web.ofNormal {σ : Type} (get : String → σ → Reply × σ) : Web σ where
  get url world :=
    match Target.ofAddress url with
    | .malformed => (.malformed, world)
    | .unsupported address => (.unsupported address, world)
    | .web address => get address world

/-- The bodies kept so far, and the state of the web. -/
structure WebState (σ : Type) where
  cache : Dictionary String
  world : σ

/-- The usual phrases of status codes. -/
def statusPhrases : List (Nat × String) :=
  [(100, "Continue"), (101, "Switching Protocols"), (102, "Processing"), (103, "Early Hints"),
   (200, "OK"), (201, "Created"), (202, "Accepted"), (203, "Non Authoritative Information"),
   (204, "No Content"), (205, "Reset Content"), (206, "Partial Content"), (207, "Multi-Status"),
   (208, "Already Reported"), (226, "IM Used"), (300, "Multiple Choices"),
   (301, "Moved Permanently"), (302, "Found"), (303, "See Other"), (304, "Not Modified"),
   (305, "Use Proxy"), (307, "Temporary Redirect"), (308, "Permanent Redirect"),
   (400, "Bad Request"), (401, "Unauthorized"), (402, "Payment Required"), (403, "Forbidden"),
   (404, "Not Found"), (405, "Method Not Allowed"), (406, "Not Acceptable"),
   (407, "Proxy Authentication Required"), (408, "Request Timeout"), (409, "Conflict"),
   (410, "Gone"), (411, "Length Required"), (412, "Precondition Failed"),
   (413, "Payload Too Large"), (414, "URI Too Long"), (415, "Unsupported Media Type"),
   (416, "Range Not Satisfiable"), (417, "Expectation Failed"), (418, "I'm a teapot"),
   (421, "Misdirected Request"), (422, "Unprocessable Entity"), (423, "Locked"),
   (424, "Failed Dependency"), (425, "Too Early"), (426, "Upgrade Required"),
   (428, "Precondition Required"), (429, "Too Many Requests"),
   (431, "Request Header Fields Too Large"), (451, "Unavailable For Legal Reasons"),
   (500, "Internal Server Error"), (501, "Not Implemented"), (502, "Bad Gateway"),
   (503, "Service Unavailable"), (504, "Gateway Timeout"), (505, "HTTP Version Not Supported"),
   (506, "Variant Also Negotiates"), (507, "Insufficient Storage"), (508, "Loop Detected"),
   (510, "Not Extended"), (511, "Network Authentication Required")]

/-- A status code with its phrase. -/
def statusText (status : Nat) : String :=
  toString status ++ " " ++ (statusPhrases.lookup status).getD "<unknown status code>"

/-- The status of a successful answer. -/
def isSuccess (status : Nat) : Bool := 200 ≤ status && status < 300

/-- A failed request to an address. -/
def fetchFailure (url detail : String) : Failure :=
  .client ("Failed to fetch " ++ url ++ ": " ++ detail)

/-- An answer that is not successful. -/
def statusFailure (url : String) (status : Nat) : Failure :=
  .client (url ++ " returned " ++ statusText status)

/-- The body of a successful answer that a request to an address got. -/
def Reply.body (url : String) : Reply → Except Failure String
  | .malformed => .error (fetchFailure url "builder error")
  | .unsupported address =>
    .error (fetchFailure url ("builder error for url (" ++ address ++ ")"))
  | .noAnswer last =>
    .error (fetchFailure url ("error sending request for url (" ++ last ++ ")"))
  | .endlessRedirect last =>
    .error (fetchFailure url ("error following redirect for url (" ++ last ++ ")"))
  | .unreadable status detail =>
    if isSuccess status then .error (.client ("Failed to read " ++ url ++ ": " ++ detail))
    else .error (statusFailure url status)
  | .answer status body =>
    if isSuccess status then .ok body else .error (statusFailure url status)

namespace Web

variable {σ : Type}

/-- Asks the web for an address and keeps the body of a successful answer. -/
def fresh (web : Web σ) (url : String) (state : WebState σ) :
    Except Failure String × WebState σ :=
  match web.get url state.world with
  | (reply, world) =>
    match reply.body url with
    | .ok body => (.ok body, ⟨state.cache.insert url body, world⟩)
    | .error failure => (.error failure, { state with world })

/-- The body under an address: the one kept, if that will do and there is one, otherwise a
fresh one. -/
def body (web : Web σ) (url : String) (useCached : Bool) (state : WebState σ) :
    Except Failure String × WebState σ :=
  match if useCached then state.cache.lookup url else none with
  | some kept => (.ok kept, state)
  | none => web.fresh url state

/-- A request whose address is known and whose body is read by `read`. -/
def ask {α : Type} (web : Web σ) (request : Request) (address : Except Failure String)
    (read : String → String → Except Failure α) (state : WebState σ) :
    Except Failure α × WebState σ :=
  match address with
  | .error failure => (.error failure, state)
  | .ok url =>
    match web.body url request.useCached state with
    | (.error failure, next) => (.error failure, next)
    | (.ok text, next) => (read url text, next)

/-- The identifiers in a listing. -/
def readListing (url text : String) : Except Failure (List String) :=
  (Json.decodeText Json.Decoder.texts text.toUTF8.data.toList).mapError fun complaint =>
    .client ("Invalid listing from " ++ url ++ ": " ++ complaint.message)

/-- The configuration of the subject. -/
def configuration (web : Web σ) (request : Request) :
    WebState σ → Except Failure Statement × WebState σ :=
  web.ask request request.configurationAddress fun _ => Statement.ofToken

/-- The statement of the addressed entity about the subject. -/
def fetch (web : Web σ) (request : Request) :
    WebState σ → Except Failure Statement × WebState σ :=
  web.ask request (request.endpointAddress "federation_fetch_endpoint" (·.fetch))
    fun _ => Statement.ofToken

/-- The subordinates of the addressed entity. -/
def listing (web : Web σ) (request : Request) :
    WebState σ → Except Failure (List String) × WebState σ :=
  web.ask request (request.endpointAddress "federation_list_endpoint" (·.list)) readListing

/-- A signed trust mark. -/
def trustMark (web : Web σ) (request : Request) :
    WebState σ → Except Failure String × WebState σ :=
  web.ask request (request.endpointAddress "federation_trust_mark_endpoint" (·.trustMark))
    fun _ text => .ok (Text.trim text)

/-- The entities that hold a trust mark of a type. -/
def trustMarkedListing (web : Web σ) (request : Request) :
    WebState σ → Except Failure (List String) × WebState σ :=
  web.ask request
    (request.endpointAddress "federation_trust_mark_list_endpoint" (·.trustMarkList)) readListing

/-- The web as the client of a crawl. -/
def client (web : Web σ) : Client (WebState σ) where
  configuration := web.configuration
  fetch := web.fetch
  listing := web.listing

end Web

end TrustFederation.Client
