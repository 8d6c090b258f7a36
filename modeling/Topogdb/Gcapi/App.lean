/-
The gateway gcapi (`gcapi/app.py`), as far as it decides which requests it
proxies.

A request arrives, is exempt, finds an approval in the cache or waits for the
answer of gccore; once it may go on it is dispatched to the first route that
matches its path and its method.  Requests interleave: while one waits, others
arrive and are answered.

The URL that a proxied request goes to, its headers and its body are left out.
Methods are ASCII tokens, and `toUpper` is `str.upper` on them.
-/
import Mathlib.Data.NNRat.Lemmas
import Topogdb.Lib.Json

namespace Gcapi

/-- `PROXY_METHODS`. -/
def proxyMethods : List String := ["GET", "HEAD", "OPTIONS", "POST", "PUT", "PATCH", "DELETE"]

/-- `AUTH_EXEMPT_PATHS`. -/
def authExemptPaths : List String := ["/healthz"]

/-- `AUTH_CACHE_TTL_SECONDS`. -/
def authCacheTtlSeconds : ℚ≥0 := 600

/-- `AUTH_CACHE_MAX_SIZE`. -/
def authCacheMaxSize : ℕ := 1024

/-- A request; a preflight is one with the headers of CORS. -/
structure Request where
  method : String
  path : String
  preflight : Bool := false

/-! ### Routes -/

/-- `re.match` of `^literal$`: the end is also found before a last newline. -/
def matchesLiteral (literal path : String) : Bool := path = literal ∨ path = literal ++ "\n"

/-- `re.match` of `^/(.*)$`. -/
def matchesCatchAll (path : String) : Bool :=
  match path.toList with
  | '/' :: rest => !('\n' ∈ rest.dropLast)
  | _ => false

/-- The paths of the documentation routes that the framework adds. -/
def docsPaths : List String := ["/openapi.json", "/docs", "/docs/oauth2-redirect", "/redoc"]

inductive Endpoint where
  | docs
  | healthz
  | rootProxy
  | catchAllProxy
deriving DecidableEq

/-- The first route that matches path and method; nothing is a 404 or a 405. -/
def dispatch (request : Request) : Option Endpoint :=
  if docsPaths.any (matchesLiteral · request.path) && request.method ∈ ["GET", "HEAD"] then some .docs
  else if matchesLiteral "/healthz" request.path && request.method = "GET" then some .healthz
  else if matchesLiteral "/" request.path && request.method ∈ proxyMethods then some .rootProxy
  else if matchesCatchAll request.path && request.method ∈ proxyMethods then some .catchAllProxy
  else none

/-- The request reaches `_proxy`; a preflight is answered before the routes. -/
def isProxied (request : Request) : Bool :=
  !(request.method = "OPTIONS" && request.preflight) &&
    (dispatch request = some .rootProxy || dispatch request = some .catchAllProxy)

/-! ### The cache -/

/-- `TTLCache`: keys with the time they expire, the oldest first. -/
abbrev TtlCache := List (String × ℚ≥0)

/-- `key in cache`. -/
def TtlCache.contains (cache : TtlCache) (key : String) (now : ℚ≥0) : Bool :=
  cache.any fun e => e.1 = key ∧ now < e.2

/-- `cache[key] = True`: what has expired goes, and the oldest of a full cache. -/
def TtlCache.set (cache : TtlCache) (key : String) (now : ℚ≥0) : TtlCache :=
  let fresh := List.filter (fun e => now < e.2 ∧ e.1 ≠ key) cache
  fresh.drop (fresh.length + 1 - authCacheMaxSize) ++ [(key, now + authCacheTtlSeconds)]

/-! ### Authorization -/

/-- `_client_id_for_request`. -/
def clientIdForRequest (_request : Request) : Option String := none

/-- `_authorization_cache_key`. -/
def authorizationCacheKey (clientId : Option String) : String := "client_id:" ++ clientId.getD "none"

/-- How the POST to gccore ends: an exception of the client, another exception,
or a response, whose body may be no JSON. -/
inductive Answer where
  | timeout
  | httpError (message : String)
  | raised
  | response (statusCode : ℕ) (body : Option Json)

/-- `AuthorizationError`; another exception is the framework's status 500. -/
structure AuthorizationError where
  statusCode : ℕ
  title : String
  detail : String

/-- What `_authorize_request` makes of the answer. -/
def authorizationError (authorizeUrl : String) : Answer → Option AuthorizationError
  | .timeout => some
    { statusCode := 504
      title := "Authorization timeout"
      detail := s!"Timed out contacting authorization service at {authorizeUrl}" }
  | .httpError message => some
    { statusCode := 502
      title := "Authorization unavailable"
      detail := s!"Could not contact authorization service at {authorizeUrl}: {message}" }
  | .raised => some { statusCode := 500, title := "Internal Server Error", detail := "" }
  | .response statusCode body =>
    if 400 ≤ statusCode then some
      { statusCode := 502
        title := "Authorization rejected"
        detail := s!"Authorization service returned an unexpected status {statusCode}" }
    else
      match body with
      | none => some
        { statusCode := 502
          title := "Authorization rejected"
          detail := "Authorization service returned invalid JSON" }
      | some (.obj payload) =>
        match payload.lookup "authorized" with
        | some (.bool true) => none
        | _ => some
          { statusCode := 401
            title := "Unauthorized"
            detail := "Authorization service did not approve the request" }
      | some _ => some
        { statusCode := 502
          title := "Authorization rejected"
          detail := "Authorization service returned an invalid response body" }

/-! ### The gateway -/

/-- What has happened. -/
inductive Entry where
  /-- gccore answered for a client. -/
  | answered (clientId : Option String) (answer : Answer) (now : ℚ≥0)
  /-- An approval was put into the cache. -/
  | cached (key : String) (now : ℚ≥0)
  /-- A request went to an upstream service, after the answer it waited for. -/
  | proxied (request : Request) (clientId : Option String) (awaited : Option Answer) (now : ℚ≥0)
  /-- A request was answered with a problem. -/
  | refused (request : Request) (error : AuthorizationError)

/-- A request that waits for the answer to its POST. -/
structure Pending where
  request : Request
  clientId : Option String

/-- The gateway; the log has the latest entry first. -/
structure Gateway where
  now : ℚ≥0 := 0
  cache : TtlCache := []
  pending : List Pending := []
  log : List Entry := []

/-- A request comes in, or the n-th waiting one gets its answer. -/
inductive Event where
  | arrive (request : Request)
  | answer (n : ℕ) (answer : Answer)

/-- `request.method.upper() == "OPTIONS" or request.url.path in AUTH_EXEMPT_PATHS`. -/
def isExempt (request : Request) : Bool :=
  request.method.toUpper = "OPTIONS" || authExemptPaths.contains request.path

/-- `call_next`: the request is dispatched. -/
def Gateway.callNext (g : Gateway) (request : Request) (clientId : Option String)
    (awaited : Option Answer) : Gateway :=
  if isProxied request then { g with log := .proxied request clientId awaited g.now :: g.log } else g

/-- `authorize_request_context`, to the POST of `_authorize_request`. -/
def Gateway.arrive (g : Gateway) (request : Request) : Gateway :=
  let clientId := clientIdForRequest request
  if isExempt request then g.callNext request clientId none
  else if g.cache.contains (authorizationCacheKey clientId) g.now then
    g.callNext request clientId none
  else { g with pending := g.pending ++ [⟨request, clientId⟩] }

/-- `_authorize_request` from the answer on, and the rest of the middleware. -/
def Gateway.answer (g : Gateway) (authorizeUrl : String) (n : ℕ) (answer : Answer) : Gateway :=
  match g.pending[n]? with
  | none => g
  | some p =>
    let g := { g with
      pending := g.pending.eraseIdx n
      log := .answered p.clientId answer g.now :: g.log }
    match authorizationError authorizeUrl answer with
    | some error => { g with log := .refused p.request error :: g.log }
    | none =>
      let key := authorizationCacheKey p.clientId
      let g := { g with
        cache := g.cache.set key g.now
        log := .cached key g.now :: g.log }
      g.callNext p.request p.clientId (some answer)

/-- An event after some time. -/
def Gateway.step (authorizeUrl : String) (g : Gateway) (e : ℚ≥0 × Event) : Gateway :=
  let g := { g with now := g.now + e.1 }
  match e.2 with
  | .arrive request => g.arrive request
  | .answer n answer => g.answer authorizeUrl n answer

/-- A run of a gateway that has just started. -/
def run (authorizeUrl : String) (events : List (ℚ≥0 × Event)) : Gateway :=
  events.foldl (Gateway.step authorizeUrl) {}

end Gcapi
