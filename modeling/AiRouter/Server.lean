import AiRouter.BasePath
import AiRouter.Dashboard
import AiRouter.SelectionPanics

/-
# The server: main.rs:196-402 and auth/middleware.rs

| here | there |
| --- | --- |
| `authMiddleware`  | `auth_middleware` (middleware.rs:26): the context that it puts on the request |
| `Site.route`      | the routes of `main` (main.rs:206-258) |
| `listModels`, `ollamaTags` | `list_models`, `ollama_tags` (main.rs:296-393) |
| `Handler.serve`   | `proxy_handler` from the bytes of the body on |
| `Site.serve`      | one request, from the middleware to its reply |

The middleware never refuses a request; the handlers do. The CORS layer answers every `OPTIONS` request itself.
The time limit for a request and the texts of `/metrics` are left out.
-/
namespace AiRouter

inductive Method where
  | get
  | head
  | post
  | options
  | other
deriving DecidableEq, Repr

structure HttpRequest where
  method : Method
  path : String
  query : Option String
  /-- the headers, where they are text -/
  authorization : Option String
  contentType : Option String
  body : List Chunk

/-- `path_and_query` -/
def HttpRequest.target (r : HttpRequest) : String :=
  match r.query with
  | some query => r.path ++ "?" ++ query
  | none => r.path

/-! ## Authentication -/

def publicPaths : List String := ["/health", "/vhealth", "/metrics", "/api/version"]

/-- `auth_header.strip_prefix("Bearer ")` -/
def bearerKey (header : String) : Option String := (header.toList.dropPrefix? "Bearer ".toList).map String.ofList

def authMiddleware (cfg : AppConfig) (r : HttpRequest) : Option AuthContext :=
  if r.path ∈ publicPaths then none
  else (bearerKey (r.authorization.getD "")).bind (authenticate cfg)

/-! ## Routes -/

inductive Route where
  | chat
  | models
  | generic
  | health
  | vhealth
  | stats
  | metrics
  | tags
  | version
  | methodNotAllowed
  | preflight
deriving DecidableEq, Repr

/-- What `main` decides and links: the base path, the JSON and URL libraries. -/
structure Site where
  basePath : String
  deps : Externs
  toVec : Json → Option (List UInt8)
  parseError : List UInt8 → String
  parseUrl : String → Option ParsedUrl

/-- The routes after the prefix, and whether they are posted to. -/
def routeTable : List (String × Bool × Route) :=
  [("/v1/chat/completions", true, .chat), ("/v1/responses", true, .chat), ("/v1/completions", true, .chat),
    ("/v1/messages", true, .chat), ("/v1/models", false, .models), ("/health", false, .health),
    ("/vhealth", false, .vhealth), ("/stats", false, .stats), ("/metrics", false, .metrics),
    ("/api/tags", false, .tags), ("/api/version", false, .version)]

/-- `get(..)` answers `HEAD` too. -/
def Method.fits (m : Method) (posted : Bool) : Bool := if posted then m = .post else m = .get ∨ m = .head

/-- A path that is no route's goes to `proxy_generic`. -/
def Site.route (site : Site) (r : HttpRequest) : Route :=
  if r.method = .options then .preflight
  else
    match routeTable.find? fun e => mountPrefix site.basePath ++ e.1 = r.path with
    | none => .generic
    | some (_, posted, route) => if r.method.fits posted then route else .methodNotAllowed

/-! ## Replies -/

inductive ServerReply where
  | refused (response : Response)
  /-- `none` while a retry loop still goes round -/
  | proxied (ending : Option Ending)
  | models (ids : List String)
  | tags (names : List String)
  | version
  | metrics
  | health (report : HealthReport)
  | dashboard (page : DashboardPage)
  | stats (report : StatsReport)
  /-- 500: the `Extension` extractor finds no context -/
  | missingExtension
  | methodNotAllowed
  | preflight
  | panicked (p : Panic)

structure Served where
  app : AppState
  ledger : List Charge
  trace : List Visit
  reply : ServerReply

def missingAuth : Response :=
  .jsonError 401 "Authentication required. Please provide a valid Bearer token." "authentication_error" "missing_auth"

namespace Served

/-- A reply that nobody is asked for. -/
def quick (app : AppState) (reply : ServerReply) : Served :=
  { app := app, ledger := [], trace := [], reply := reply }

def ofRun (run : Run) : Served :=
  { app := run.app, ledger := run.ledger, trace := run.trace, reply := .proxied run.ending }

/-- A page, or the panic of one of its masks. -/
def page {α : Type} (shown : AppState × Except Panic α) (reply : α → ServerReply) : Served :=
  quick shown.1 (match shown.2 with
    | .ok a => reply a
    | .error p => .panicked p)

end Served

/-! ## Handlers -/

/-- The names of the models that the key may use. -/
def AppConfig.accessibleModels (cfg : AppConfig) (tokenKey : String) : List String :=
  (cfg.models.filter (cfg.tokenHasModelAccess tokenKey ·.name)).map (·.name)

/-- A listing is limited as a request is. -/
def listed (now : Nat) (app : AppState) (auth : AuthContext) (reply : List String → ServerReply) : Served :=
  let limited := checkAllRateLimits app.config auth.team auth.tokenKey auth.rpm auth.tpm now
    { app := app, ledger := [] }
  match limited.2 with
  | some rej =>
    { app := { limited.1.app with
        liveStats := limited.1.app.liveStats.recordError auth.tokenKey auth.team "rate_limited" }
      ledger := limited.1.ledger
      trace := []
      reply := .refused rej.response }
  | none =>
    { app := limited.1.app
      ledger := limited.1.ledger
      trace := []
      reply := reply (app.config.accessibleModels auth.tokenKey) }

def listModels (now : Nat) (app : AppState) (auth : AuthContext) : Served := listed now app auth .models

def ollamaTags (now : Nat) (app : AppState) (auth : AuthContext) : Served := listed now app auth .tags

/-- The whole of `proxy_handler`, with at most `fuel` rounds of its loop. -/
def Handler.serve (site : Site) (env : Env) (fuel : Nat) (app : AppState) (raw : RawRequest) : Run :=
  match Handler.upToSelection site.deps site.toVec site.parseError env app raw with
  | .error run => run
  | .ok (ctx, s) =>
    let r := retryLoop site.deps env ctx fuel s
    { app := r.state.app, ledger := r.state.ledger, trace := r.state.trace, ending := r.result }

/-- The outside of a request: when it comes, and what the two proxies meet. -/
structure Outside where
  now : Nat
  chat : Env
  fuel : Nat
  generic : GenericEnv

namespace Site

variable (site : Site)

/-- The request as a proxy reads it; `path` is what the proxy takes it to be. -/
def raw (r : HttpRequest) (auth : AuthContext) (path : String) : RawRequest where
  auth := auth
  path := stripBasePath path site.basePath
  contentType := r.contentType
  body := r.body

/-- The reply to a request with a context. -/
def serveKnown (out : Outside) (app : AppState) (r : HttpRequest) (auth : AuthContext) : Route → Served
  | .chat => .ofRun (Handler.serve site out.chat out.fuel app (site.raw r auth r.path))
  | .generic => .ofRun (proxyGeneric site.deps out.generic app ((site.raw r auth r.target).read site.deps site.parseError))
  | .models => listModels out.now app auth
  | .tags => ollamaTags out.now app auth
  | .stats => .page (statsJson site.parseUrl out.now auth app) .stats
  | .health => .page (healthJson site.parseUrl out.now app) .health
  | .vhealth => .page (healthDashboard site.parseUrl out.now app) .dashboard
  | .metrics => .quick app .metrics
  | .version => .quick app .version
  | .methodNotAllowed => .quick app .methodNotAllowed
  | .preflight => .quick app .preflight

/-- The reply to a request without one. -/
def serveUnknown (out : Outside) (app : AppState) : Route → Served
  | .chat | .generic | .models | .tags => .quick app (.refused missingAuth)
  | .stats => .quick app .missingExtension
  | .health => .page (healthJson site.parseUrl out.now app) .health
  | .vhealth => .page (healthDashboard site.parseUrl out.now app) .dashboard
  | .metrics => .quick app .metrics
  | .version => .quick app .version
  | .methodNotAllowed => .quick app .methodNotAllowed
  | .preflight => .quick app .preflight

def serve (out : Outside) (app : AppState) (r : HttpRequest) : Served :=
  match authMiddleware app.config r with
  | some auth => site.serveKnown out app r auth (site.route r)
  | none => site.serveUnknown out app (site.route r)

end Site

/-! ## Requests one after another -/

/-- A request, what others have done before it, and its outside. -/
structure Arrival where
  before : Others
  outside : Outside
  request : HttpRequest

namespace Site

def meet (site : Site) (app : AppState) (a : Arrival) : Served := site.serve a.outside (app.disturb a.before) a.request

/-- What a request leaves behind. -/
def step (site : Site) (app : AppState) (a : Arrival) : AppState := (site.meet app a).app

def run (site : Site) : AppState → List Arrival → List Served
  | _, [] => []
  | app, a :: arrivals => site.meet app a :: run site (site.step app a) arrivals

end Site

end AiRouter
