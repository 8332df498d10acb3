import AiRouter.Lib.Loop
import AiRouter.State

/-
# `proxy_handler` from the canonical model name on (handler.rs:195-777)

| here | there |
| --- | --- |
| `ChatRequest`      | what lines 126-194 and 259 have read out of the request |
| `prepare`          | lines 195-319: access, bans, first pick, rate limits |
| `turn`             | one round of the retry loop (lines 327-776) |
| `call`             | lines 384-428 (streaming) and `proxy_regular` (lines 823-874) |
| `LoopState.finish` | lines 543-706, the request is answered |
| `LoopState.tryNext`| `select_available` on the tried keys plus one (lines 344-352, 368-378, 765-775) |

Logging, metrics, response headers and the Anthropic format are left out; the body that is put back
is `restoreBody` (BodyFidelity.lean). `tokio::spawn`ed writes are made on the spot; what other tasks
do meanwhile is in `Env`.
-/
namespace AiRouter

structure ChatRequest where
  auth : AuthContext
  modelName : String
  isStream : Bool
  isAnthropic : Bool
  sessionId : Option String
  /-- why `serde_json::from_slice` refuses the body to be sent, if it does -/
  bodyError : Option String

/-- A request as `auth_middleware` and the body parser hand it over. -/
def RequestOf (cfg : AppConfig) (tokenKey modelName : String) (req : ChatRequest) : Prop :=
  authenticate cfg tokenKey = some req.auth ∧ req.modelName = modelName

theorem RequestOf.tokenKey {cfg : AppConfig} {tokenKey modelName : String} {req : ChatRequest}
    (h : RequestOf cfg tokenKey modelName req) : req.auth.tokenKey = tokenKey :=
  tokenKey_of_authenticate h.1

/-- The outside of one round: what others do, when, and what the upstream answers. -/
structure Turn where
  before : Others
  checkAt : Nat
  during : Others
  reply : Reply
  doneAt : Nat

structure Env where
  startAt : Nat
  /-- while the shared bans are looked up -/
  beforePick : Others
  beforeLimits : Others
  limitsAt : Nat
  turn : Nat → Turn

/-- One published configuration for the whole request. -/
def Env.KeepsConfig (env : Env) : Prop :=
  env.beforePick.KeepsConfig ∧ env.beforeLimits.KeepsConfig ∧
    ∀ k, (env.turn k).before.KeepsConfig ∧ (env.turn k).during.KeepsConfig

/-! ## State helpers -/

namespace AppState

def selectAvailable (app : AppState) (modelName : String) (bannedKeys triedKeys : Finset String) :
    AppState × Except Panic (Option SelectedEndpoint) :=
  let r := Balancer.selectAvailable app.config app.roundRobin modelName bannedKeys triedKeys
  ({ app with roundRobin := r.1 }, r.2)

/-- The local breaker or the shared ban. -/
def isBanned (app : AppState) (key : String) (now : Nat) : AppState × Bool :=
  let r := app.fail2ban.isBanned key now
  ({ app with fail2ban := r.1 }, r.2 || app.sync.isBanned key now)

/-- The loop that collects `banned_keys` (handler.rs:227-234). -/
def collectBanned (now : Nat) : List EndpointConfig → AppState → Finset String →
    AppState × Except Panic (Finset String)
  | [], app, bannedKeys => (app, .ok bannedKeys)
  | ep :: rest, app, bannedKeys =>
    match Handler.epKey ep.url ep.key with
    | .error p => (app, .error p)
    | .ok k =>
      let r := app.isBanned k now
      collectBanned now rest r.1 (if r.2 then insert k bannedKeys else bannedKeys)

/-- A failure of the endpoint, told to the breaker, to Redis when it bans, and to the health
records (handler.rs:525-538, 728-741). -/
def failed (app : AppState) (epKey : String) (statusCode now : Nat) : AppState :=
  let r := app.fail2ban.recordFailureWithCode epKey statusCode now
  { app with
    fail2ban := r.1
    sync := if r.2 then app.sync.setBan epKey 60 now else app.sync
    healthStore := app.healthStore.recordError epKey }

/-- How a status is classified (handler.rs:521-541). -/
def classify (app : AppState) (epKey : String) (status now : Nat) : AppState :=
  if app.fail2ban.isFailStatus status then app.failed epKey status now
  else { app with fail2ban := app.fail2ban.recordSuccess epKey }

/-- The endpoint's records of an answered request (handler.rs:545-547). -/
def answered (app : AppState) (epKey : String) (latencyMs : Nat) : AppState :=
  { app with healthStore := (app.healthStore.recordRequest epKey).recordLatency epKey latencyMs }

/-- Tie the session to the endpoint, here and in Redis (handler.rs:549-559). -/
def bindSession (app : AppState) (sessionId : Option String) (index now : Nat) : AppState :=
  { app with
    sticky := match sessionId with
      | none => app.sticky
      | some sid => app.sticky.set sid index now
    sync := match sessionId with
      | none => app.sync
      | some sid => app.sync.setSticky sid index app.stickyTtlSecs now }

end AppState

/-! ## Before the loop -/

/-- The sticky endpoint of the session, if it has one that is not banned (handler.rs:257-291). -/
def stickyPick (app : AppState) (model : Option ModelConfig) (bannedKeys : Finset String)
    (sessionId : Option String) (now : Nat) : AppState × Except Panic (Option SelectedEndpoint) :=
  match sessionId with
  | none => (app, .ok none)
  | some sid =>
    let r := app.sticky.get sid now
    let shared := app.sync.getSticky sid now
    -- Redis is asked only when there is no local binding
    let app := { app with sticky := r.1, sync := if r.2.isNone then shared.1 else app.sync }
    match r.2.orElse (fun _ => shared.2), model with
    | some idx, some m =>
      match m.endpoints[idx]? with
      | none => (app, .ok none)
      | some ep =>
        match Handler.epKey ep.url ep.key with
        | .error p => (app, .error p)
        | .ok key =>
          if key ∉ bannedKeys then
            ({ app with sticky := app.sticky.touch sid now },
              .ok (some (Handler.buildSelectedEndpoint ep idx m.endpoints.length)))
          else (app, .ok none)
    | _, _ => (app, .ok none)

/-- What the loop reads and never writes. -/
structure LoopCtx where
  req : ChatRequest
  canonicalModel : String
  bannedKeys : Finset String
  retryOnFailure : Bool
  /-- the team's TPM limit in the configuration the request started with -/
  teamTpm : Nat

/-- What became of the endpoint of one round. -/
inductive VisitStep where
  | panicked
  | limited
  | unsent
  | sent (reply : Reply)

structure Visit where
  endpoint : SelectedEndpoint
  step : VisitStep

structure LoopState where
  app : AppState
  ledger : List Charge
  current : SelectedEndpoint
  triedKeys : Finset String
  lastError : Option Response
  trace : List Visit

/-- The record of a whole run; `ending` is `none` while the loop still goes round. -/
structure Run where
  app : AppState
  ledger : List Charge
  trace : List Visit
  ending : Option Ending

def AppState.noteError (app : AppState) (req : ChatRequest) (what : String) : AppState :=
  { app with liveStats := app.liveStats.recordError req.auth.tokenKey req.auth.team what }

/-- A run that ends before the loop. -/
def earlyRun (app : AppState) (ledger : List Charge) (e : Ending) : Except Run (LoopCtx × LoopState) :=
  .error { app := app, ledger := ledger, trace := [], ending := some e }

def prepare (env : Env) (app : AppState) (req : ChatRequest) : Except Run (LoopCtx × LoopState) :=
  let cfg := app.config
  let canonicalModel := cfg.canonicalModelName req.modelName
  if ¬ cfg.tokenHasModelAccess req.auth.tokenKey canonicalModel then
    earlyRun (app.noteError req "forbidden") [] (.responded (.jsonError 403
      ("Token has no access to model: " ++ req.modelName) "access_denied" "model_not_allowed"))
  else
    let model := cfg.findModel canonicalModel
    let collected := app.collectBanned env.startAt ((model.map (·.endpoints)).getD []) ∅
    match collected.2 with
    | .error p => earlyRun collected.1 [] (.panicked p)
    | .ok bannedKeys =>
      if model.any (fun m => m.endpoints.length = bannedKeys.card ∧ 0 < m.endpoints.length) then
        earlyRun (collected.1.noteError req "all_banned") [] (.responded (.jsonError 503
          ("All endpoints banned for model: " ++ canonicalModel) "service_unavailable" "all_endpoints_banned"))
      else
        let app := collected.1.disturb env.beforePick
        let sticky := stickyPick app model bannedKeys req.sessionId env.startAt
        match sticky.2 with
        | .error p => earlyRun sticky.1 [] (.panicked p)
        | .ok endpoint =>
          let picked := match endpoint with
            | some ep => (sticky.1, Except.ok (some ep))
            | none => sticky.1.selectAvailable canonicalModel bannedKeys ∅
          match picked.2 with
          | .error p => earlyRun picked.1 [] (.panicked p)
          | .ok none =>
            earlyRun (picked.1.noteError req "no_endpoint") [] (.responded (.jsonError 503
              ("No available endpoint for model: " ++ canonicalModel) "service_unavailable" "no_available_endpoint"))
          | .ok (some current) =>
            let limited := checkAllRateLimits cfg req.auth.team req.auth.tokenKey req.auth.rpm
              req.auth.tpm env.limitsAt { app := picked.1.disturb env.beforeLimits, ledger := [] }
            match limited.2 with
            | some rej =>
              earlyRun (limited.1.app.noteError req "rate_limited") limited.1.ledger (.responded rej.response)
            | none =>
              .ok ({ req := req
                     canonicalModel := canonicalModel
                     bannedKeys := bannedKeys
                     retryOnFailure := cfg.fail2ban.retryOnFailure
                     teamTpm := teamTpm cfg req.auth.team },
                   { app := limited.1.app
                     ledger := limited.1.ledger
                     current := current
                     triedKeys := ∅
                     lastError := none
                     trace := [] })

/-! ## The retry loop -/

/-- The upstream call, as the loop sees it. -/
inductive Called where
  /-- the streaming branch returns from inside -/
  | returned (r : Response)
  | ok (status : Nat) (body : List Chunk)
  | err (message : String)

/-- `upstream_resp.text().await.unwrap_or_default()` -/
def textOrDefault (body : List Chunk) : List Chunk :=
  match readAll body with
  | .ok bytes => [.ok bytes]
  | .error _ => [.ok []]

def call (isStream : Bool) (bodyError : Option String) (reply : Reply) : Called :=
  match isStream, bodyError, reply with
  | true, some e, _ => .returned (invalidBody e)
  | true, none, .sendError e => .returned (badGateway e)
  | true, none, .response status body =>
    .ok status (if isSuccess status then body else textOrDefault body)
  | false, some e, _ => .err e
  | false, none, .sendError e => .err e
  | false, none, .response status body =>
    match readAll body with
    | .error e => .err e
    | .ok bytes => .ok status [.ok bytes]

/-- The checks of an endpoint's own limits: shared, then own. -/
def endpointChecks (ep : SelectedEndpoint) (epKey : String) (now : Nat) :
    List (Gate.Check Charged Rejection) :=
  (if 0 < ep.endpointLimitsRpm then
    [sharedCheck "ep" epKey ep.endpointLimitsRpm now "Endpoint (shared)"]
   else []) ++
  (if 0 < ep.endpointLimitsRpm ∨ 0 < ep.endpointLimitsTpm then
    [localCheck (epRlKey epKey) ep.endpointLimitsRpm ep.endpointLimitsTpm .endpoint now "Endpoint"]
   else [])

def allFailed : Response :=
  .jsonError 503 "All endpoints failed" "service_unavailable" "all_endpoints_failed"

namespace LoopState

def visit (s : LoopState) (step : VisitStep) : LoopState :=
  { s with trace := s.trace ++ [{ endpoint := s.current, step := step }] }

def charged (s : LoopState) : Charged := { app := s.app, ledger := s.ledger }

def withCharged (s : LoopState) (c : Charged) : LoopState := { s with app := c.app, ledger := c.ledger }

def tryNext (s : LoopState) (ctx : LoopCtx) (epKey : String) (giveUp : Response) :
    Loop.Flow LoopState Ending :=
  let triedKeys := insert epKey s.triedKeys
  let r := s.app.selectAvailable ctx.canonicalModel ctx.bannedKeys triedKeys
  let s := { s with app := r.1, triedKeys := triedKeys }
  match r.2 with
  | .error p => .exit s (.panicked p)
  | .ok (some ep) => .next { s with current := ep }
  | .ok none => .exit s (.responded giveUp)

/-- Remember the failure and try the next endpoint; with none left the failure is the answer. -/
def retry (s : LoopState) (ctx : LoopCtx) (epKey : String) (response : Response) :
    Loop.Flow LoopState Ending :=
  let s := { s with lastError := some response }
  s.tryNext ctx epKey (s.lastError.getD allFailed)

/-- The streaming task that a success response spawns, run to its end (handler.rs:434-494). -/
def chargeStream (s : LoopState) (deps : Externs) (ctx : LoopCtx) (epKey : String) (status : Nat)
    (body : List Chunk) (now : Nat) : LoopState :=
  if ctx.req.isStream ∧ isSuccess status then
    s.withCharged (chargeUsage s.charged ctx.req.auth.team ctx.req.auth.tokenKey epKey ctx.teamTpm
      ctx.req.auth.tpm s.current.endpointLimitsTpm (Handler.streamUsage deps body).total now)
  else s

/-- The request is answered: records, session, usage, statistics. -/
def finish (s : LoopState) (deps : Externs) (ctx : LoopCtx) (epKey : String) (status : Nat)
    (body : List Chunk) (startAt now : Nat) : LoopState :=
  let req := ctx.req
  let latencyMs := (now - startAt) / 1000000
  let app := (s.app.answered epKey latencyMs).bindSession req.sessionId s.current.index now
  let row (w : StatsWriter) (usage : Usage) : StatsWriter :=
    w.recordRequest ctx.canonicalModel s.current.url req.auth.team usage.prompt usage.completion
      latencyMs status (some (deps.hashToken req.auth.tokenKey)) s.current.costPrompt
      s.current.costCompletion now
  if req.isStream then { s with app := { app with stats := row app.stats .zero } }
  else
    let json := deps.fromSlice (toBytes body)
    let usage := bodyUsage json
    -- the team's limit is read from the configuration as it is now
    let c := chargeUsage { app := app, ledger := s.ledger } req.auth.team req.auth.tokenKey epKey
      (teamTpm app.config req.auth.team) req.auth.tpm s.current.endpointLimitsTpm usage.total now
    { s with
      app := { c.app with
        liveStats := c.app.liveStats.recordRequest req.auth.tokenKey req.auth.team epKey
        -- an Anthropic answer returns before the statistics are written
        stats := if req.isAnthropic ∧ json.isSome then c.app.stats else row c.app.stats usage }
      ledger := c.ledger }

end LoopState

/-- The upstream has answered with a status (handler.rs:518-720). -/
def settle (deps : Externs) (ctx : LoopCtx) (t : Turn) (epKey : String) (s : LoopState) (status : Nat)
    (body : List Chunk) : Loop.Flow LoopState Ending :=
  let s := s.chargeStream deps ctx epKey status body t.doneAt
  let isFail := s.app.fail2ban.isFailStatus status
  let s := { s with app := s.app.classify epKey status t.doneAt }
  if status < 400 ∨ ¬ (ctx.retryOnFailure ∧ isFail) then
    .exit (s.finish deps ctx epKey status body t.checkAt t.doneAt)
      (.responded (.passedOn s.current status body))
  else
    { s with app := s.app.noteError ctx.req epKey }.retry ctx epKey (.lastFailure s.current status body)

/-- The call failed (handler.rs:721-761). -/
def callFailed (ctx : LoopCtx) (t : Turn) (epKey : String) (s : LoopState) (message : String) :
    Loop.Flow LoopState Ending :=
  let s := { s with app := (s.app.failed epKey 0 t.doneAt).noteError ctx.req epKey }
  if ctx.retryOnFailure then s.retry ctx epKey (badGateway message)
  else .exit s (.responded (badGateway message))

/-- The round of an endpoint that its limits let through. -/
def attempt (deps : Externs) (ctx : LoopCtx) (t : Turn) (epKey : String) (s : LoopState) :
    Loop.Flow LoopState Ending :=
  let s := s.visit (if ctx.req.bodyError.isSome then .unsent else .sent t.reply)
  let s := { s with app := s.app.disturb t.during }
  match call ctx.req.isStream ctx.req.bodyError t.reply with
  | .returned r => .exit s (.responded r)
  | .ok status body => settle deps ctx t epKey s status body
  | .err message => callFailed ctx t epKey s message

/-- One round of the loop. -/
def turn (deps : Externs) (ctx : LoopCtx) (t : Turn) (s : LoopState) : Loop.Flow LoopState Ending :=
  let s := { s with app := s.app.disturb t.before }
  match Handler.epKey s.current.url s.current.apiKey with
  | .error p => .exit (s.visit .panicked) (.panicked p)
  | .ok epKey =>
    let c := Gate.runAll (endpointChecks s.current epKey t.checkAt) s.charged
    let s := s.withCharged c.1
    match c.2 with
    | some rej => (s.visit .limited).tryNext ctx epKey rej.response
    | none => attempt deps ctx t epKey s

def retryLoop (deps : Externs) (env : Env) (ctx : LoopCtx) (fuel : Nat) (s : LoopState) :
    Loop.Flow LoopState Ending :=
  Loop.run (fun k => turn deps ctx (env.turn k)) fuel 0 s

/-- The handler with at most `fuel` rounds of its loop. -/
def proxyHandler (deps : Externs) (env : Env) (fuel : Nat) (app : AppState) (req : ChatRequest) : Run :=
  match prepare env app req with
  | .error run => run
  | .ok (ctx, s) =>
    let r := retryLoop deps env ctx fuel s
    { app := r.state.app, ledger := r.state.ledger, trace := r.state.trace, ending := r.result }

end AiRouter
