import AiRouter.State

/-
# What is shown of the endpoints: health/dashboard.rs, and `mask_endpoint_url` (utils.rs:20-67)

| here | there |
| --- | --- |
| `maskEndpointUrl`  | `mask_endpoint_url`, over what `reqwest::Url::parse` gives |
| `healthJson`       | `health_json` (dashboard.rs:12) |
| `healthDashboard`  | `health_dashboard` (dashboard.rs:60): the cells of its rows, and the totals |
| `statsJson`        | `stats_json` (dashboard.rs:228) |

One instant stands for the whole reply. The markup, and the success rate, a floating-point quotient, are left out.
-/
namespace AiRouter

/-! ## Masked URLs -/

/-- What the URL library says of a URL. -/
structure ParsedUrl where
  scheme : String
  /-- `host_str().unwrap_or("")` -/
  host : String
  /-- `host.parse::<IpAddr>().is_ok()` -/
  isIp : Bool
  /-- none for the scheme's own port -/
  port : Option Nat
  path : String

/-- Segments of more than eight bytes keep four at either end. -/
def maskSegment (seg : String) : Except Panic String :=
  if seg.utf8ByteSize ≤ 8 then .ok seg
  else
    match ByteSlice.sliceTo seg 4, ByteSlice.sliceFrom seg (seg.utf8ByteSize - 4) with
    | some pre, some suf => .ok (pre ++ "..." ++ suf)
    | _, _ => .error .charBoundary

def splitOnChar (c : Char) (s : String) : List String := (s.toList.splitOn c).map String.ofList

def maskHost (url : ParsedUrl) : Except Panic String :=
  if url.isIp then
    match splitOnChar '.' url.host with
    | first :: _ :: _ => .ok (first ++ ".***")
    | _ => .ok "***"
  else
    match splitOnChar '.' url.host with
    | first :: second :: more =>
      let rest := String.intercalate "." (second :: more)
      if first.utf8ByteSize ≤ 3 then .ok (first ++ "***." ++ rest)
      else
        match ByteSlice.sliceTo first 3 with
        | some pre => .ok (pre ++ "***." ++ rest)
        | none => .error .charBoundary
    | _ => .ok url.host

def maskEndpointUrl (parse : String → Option ParsedUrl) (url : String) : Except Panic String :=
  match parse url with
  | none => .ok url
  | some parsed => do
    let host ← maskHost parsed
    let path ← (splitOnChar '/' parsed.path).mapM maskSegment
    let port := match parsed.port with
      | some p => ":" ++ toString p
      | none => ""
    .ok (parsed.scheme ++ "://" ++ host ++ port ++ String.intercalate "/" path)

/-! ## The replies -/

structure HealthRow where
  model : String
  endpointIndex : Nat
  url : String
  healthy : Bool
  banned : Bool
  lastError : String
  requests : Nat
  errors : Nat
  lastLatencyMs : Nat
  rpmLimit : Nat
  tpmLimit : Nat
deriving DecidableEq, Repr

structure HealthReport where
  models : Nat
  endpoints : List HealthRow
  activeTokens : Nat
  activeTeams : Nat
deriving DecidableEq, Repr

inductive EndpointStatus where
  | up
  | down
  | banned
deriving DecidableEq, Repr

structure DashboardRow where
  model : String
  endpointIndex : Nat
  url : String
  status : EndpointStatus
  reason : String
  requests : Nat
  errors : Nat
  latencyMs : Nat
  lastCheckSecs : Nat
  rpmLimit : Nat
  tpmLimit : Nat
deriving DecidableEq, Repr

structure DashboardPage where
  models : Nat
  totalEndpoints : Nat
  tokens : Nat
  teams : Nat
  totalRequests : Nat
  totalErrors : Nat
  bannedCount : Int
  rows : List DashboardRow
deriving DecidableEq, Repr

structure StatsRow where
  model : String
  url : String
  requests : Nat
  errors : Nat
  banned : Bool
  healthy : Bool
  tpmLimit : Nat
  tpmRemaining : Int
deriving DecidableEq, Repr

structure StatsReport where
  tokenKey : String
  team : String
  isAdmin : Bool
  tokenRequests : Nat
  tokenErrors : Nat
  tokenTpmLimit : Nat
  tokenTpmRemaining : Int
  teamRequests : Nat
  teamErrors : Nat
  teamTpmLimit : Nat
  teamTpmRemaining : Int
  endpoints : List StatsRow
  /-- requests and errors by token and by team, for an admin -/
  allTokens : Option (List (String × Nat × Nat))
  allTeams : Option (List (String × Nat × Nat))
deriving DecidableEq, Repr

/-! ## The handlers -/

/-- An endpoint, with the name of its model and its index there. -/
structure EndpointItem where
  model : String
  index : Nat
  endpoint : EndpointConfig

def ModelConfig.items (m : ModelConfig) : List EndpointItem :=
  m.endpoints.zipIdx.map fun e => { model := m.name, index := e.2, endpoint := e.1 }

namespace EndpointItem

def key (item : EndpointItem) : Except Panic String :=
  (Dashboard.maskKey item.endpoint.key).map (joinKey item.endpoint.url)

def rpmLimit (item : EndpointItem) : Nat := (item.endpoint.limits.map (·.rpm)).getD 0

def tpmLimit (item : EndpointItem) : Nat := (item.endpoint.limits.map (·.tpm)).getD 0

end EndpointItem

/-- A row for each endpoint, one after another; a panic ends the walk. -/
def walkRows {β : Type} (row : AppState → EndpointItem → AppState × Except Panic β) :
    List EndpointItem → AppState → AppState × Except Panic (List β)
  | [], app => (app, .ok [])
  | item :: rest, app =>
    let r := row app item
    match r.2 with
    | .error p => (r.1, .error p)
    | .ok b =>
      let rows := walkRows row rest r.1
      (rows.1, rows.2.map (b :: ·))

/-- `is_banned`, which forgets a ban that has run out. -/
def AppState.lookBan (app : AppState) (epKey : String) (now : Nat) : AppState × Bool :=
  let r := app.fail2ban.isBanned epKey now
  ({ app with fail2ban := r.1 }, r.2)

/-- `get_tpm_state(..).1`, asked only where there is a limit. -/
def AppState.tpmRemaining (app : AppState) (key : String) (limit now : Nat) : AppState × Int :=
  if 0 < limit then
    let r := app.limiters.getTpmState key limit now
    ({ app with limiters := r.1 }, r.2.2)
  else (app, 0)

def healthRow (parse : String → Option ParsedUrl) (now : Nat) (app : AppState) (item : EndpointItem) :
    AppState × Except Panic HealthRow :=
  match item.key with
  | .error p => (app, .error p)
  | .ok epKey =>
    let banned := app.lookBan epKey now
    let health := app.healthStore.states.lookup epKey
    (banned.1, (maskEndpointUrl parse item.endpoint.url).map fun url =>
      { model := item.model
        endpointIndex := item.index
        url := url
        healthy := (health.map (·.healthy)).getD true
        banned := banned.2
        lastError := (health.map (·.lastError)).getD ""
        requests := (health.map (·.requestCount)).getD 0
        errors := (health.map (·.errorCount)).getD 0
        lastLatencyMs := (health.map (·.lastLatencyMs)).getD 0
        rpmLimit := item.rpmLimit
        tpmLimit := item.tpmLimit })

def healthJson (parse : String → Option ParsedUrl) (now : Nat) (app : AppState) :
    AppState × Except Panic HealthReport :=
  let cfg := app.config
  let rows := walkRows (healthRow parse now) (cfg.models.flatMap (·.items)) app
  (rows.1, rows.2.map fun endpoints =>
    { models := cfg.models.length
      endpoints := endpoints
      activeTokens := cfg.tokens.length
      activeTeams := cfg.teams.length })

def dashboardRow (parse : String → Option ParsedUrl) (now : Nat) (app : AppState) (item : EndpointItem) :
    AppState × Except Panic DashboardRow :=
  match item.key with
  | .error p => (app, .error p)
  | .ok epKey =>
    let banned := app.lookBan epKey now
    let health := app.healthStore.states.lookup epKey
    let healthy := (health.map (·.healthy)).getD true
    (banned.1, (maskEndpointUrl parse item.endpoint.url).map fun url =>
      { model := item.model
        endpointIndex := item.index
        url := url
        status := if banned.2 then .banned else if healthy then .up else .down
        reason :=
          if banned.2 then (banned.1.fail2ban.banReason epKey now).getD ""
          else if healthy then "" else (health.map (·.lastError)).getD ""
        requests := (health.map (·.requestCount)).getD 0
        errors := (health.map (·.errorCount)).getD 0
        latencyMs := (health.map (·.lastLatencyMs)).getD 0
        lastCheckSecs := (health.map fun h => (now - h.lastCheck) / 10 ^ 9).getD 9999
        rpmLimit := item.rpmLimit
        tpmLimit := item.tpmLimit })

def healthDashboard (parse : String → Option ParsedUrl) (now : Nat) (app : AppState) :
    AppState × Except Panic DashboardPage :=
  let cfg := app.config
  let rows := walkRows (dashboardRow parse now) (cfg.models.flatMap (·.items)) app
  (rows.1, rows.2.map fun shown =>
    { models := cfg.models.length
      totalEndpoints := (cfg.models.map (·.endpoints.length)).sum
      tokens := cfg.tokens.length
      teams := cfg.teams.length
      totalRequests := app.healthStore.totalRequests
      totalErrors := app.healthStore.totalErrors
      bannedCount := rows.1.fail2ban.bannedCount now
      rows := shown })

def statsRow (parse : String → Option ParsedUrl) (now : Nat) (app : AppState) (item : EndpointItem) :
    AppState × Except Panic StatsRow :=
  match item.key with
  | .error p => (app, .error p)
  | .ok epKey =>
    let banned := app.lookBan epKey now
    let health := app.healthStore.states.lookup epKey
    let remaining := banned.1.tpmRemaining (epRlKey epKey) item.tpmLimit now
    (remaining.1, (maskEndpointUrl parse item.endpoint.url).map fun url =>
      { model := item.model
        url := url
        requests := (app.liveStats.requestsByEndpoint.lookup epKey).getD 0
        errors := (app.liveStats.errorsByEndpoint.lookup epKey).getD 0
        banned := banned.2
        healthy := (health.map (·.healthy)).getD true
        tpmLimit := item.tpmLimit
        tpmRemaining := remaining.2 })

/-- Each key of the first map, with its requests and errors. -/
def requestsAndErrors (requests errors : KeyMap String Nat) : List (String × Nat × Nat) :=
  requests.entries.map fun e => (e.1, e.2, (errors.lookup e.1).getD 0)

def statsJson (parse : String → Option ParsedUrl) (now : Nat) (auth : AuthContext) (app : AppState) :
    AppState × Except Panic StatsReport :=
  let cfg := app.config
  let live := app.liveStats
  let isAdmin := auth.models.any (· == "*")
  let token := app.tpmRemaining auth.tokenKey auth.tpm now
  let team := token.1.tpmRemaining (teamKey auth.team) (teamTpm cfg auth.team) now
  let shown := if isAdmin then cfg.models else cfg.models.filter (cfg.tokenHasModelAccess auth.tokenKey ·.name)
  let rows := walkRows (statsRow parse now) (shown.flatMap (·.items)) team.1
  (rows.1, rows.2.map fun endpoints =>
    { tokenKey := auth.tokenKey
      team := auth.team
      isAdmin := isAdmin
      tokenRequests := (live.requestsByToken.lookup auth.tokenKey).getD 0
      tokenErrors := (live.errorsByToken.lookup auth.tokenKey).getD 0
      tokenTpmLimit := auth.tpm
      tokenTpmRemaining := token.2
      teamRequests := (live.requestsByTeam.lookup auth.team).getD 0
      teamErrors := (live.errorsByTeam.lookup auth.team).getD 0
      teamTpmLimit := teamTpm cfg auth.team
      teamTpmRemaining := team.2
      endpoints := endpoints
      allTokens := if isAdmin then some (requestsAndErrors live.requestsByToken live.errorsByToken) else none
      allTeams := if isAdmin then some (requestsAndErrors live.requestsByTeam live.errorsByTeam) else none })

end AiRouter
