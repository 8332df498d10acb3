import AiRouter.Handler

/-
# `proxy_generic` from its path check on (handler.rs:1144-1502)

| here | there |
| --- | --- |
| `ParsedBody`        | what reading and parsing the request body comes to (lines 1171-1196) |
| `reqPathType`       | `req_path_type` (handler.rs:1549) |
| `Generic.modelOf`   | the model name of a body that is not JSON (lines 1200-1218) |
| `proxyGeneric`      | the rest: limits, access, endpoint, one call, accounting |

There is no retry, no sticky session, no ban lookup and no check of the endpoint's own limits.
The streaming branch parses the body it has parsed before, which succeeds again.
-/
namespace AiRouter

inductive ParsedBody where
  /-- the body was not read or is not JSON: the response says so -/
  | refused (response : Response)
  | json (model : Option String) (stream : Option Bool)
  /-- any other content type, with the `model` field of a multipart form -/
  | other (multipartModel : Option String)

structure GenericRequest where
  auth : AuthContext
  /-- the path after `strip_base_path` -/
  path : String
  body : ParsedBody

structure GenericEnv where
  limitsAt : Nat
  /-- while the limits are checked and the body is read -/
  beforePick : Others
  callAt : Nat
  during : Others
  reply : Reply
  doneAt : Nat

def GenericEnv.KeepsConfig (env : GenericEnv) : Prop := env.beforePick.KeepsConfig ∧ env.during.KeepsConfig

/-- Nothing else runs, no time passes, and the upstream answers 200. -/
def GenericEnv.answering : GenericEnv where
  limitsAt := 0
  beforePick := .quiet
  callAt := 0
  during := .quiet
  reply := .response 200 []
  doneAt := 0

/-- `path.contains(part)` -/
def containsStr (path part : String) : Bool := decide (part.toList <:+: path.toList)

def reqPathType (path : String) : String :=
  if containsStr path "/audio/" then "audio"
  else if containsStr path "/embeddings" then "embedding"
  else if containsStr path "/rerank" then "rerank"
  else if containsStr path "/completions" ∧ ¬ containsStr path "/chat/" then "completions"
  else "chat"

namespace Generic

/-- The form's field, else a model of the path's type, else the first model. -/
def modelOf (cfg : AppConfig) (path : String) (multipartModel : Option String) : Option String :=
  (multipartModel.orElse fun _ =>
    (cfg.models.find? (·.modelType == reqPathType path)).map (·.name)).orElse fun _ =>
    cfg.models.head?.map (·.name)

/-- The model name and the stream flag, or the response that ends the request. -/
def resolveBody (cfg : AppConfig) (path : String) : ParsedBody → Except Response (String × Bool)
  | .refused response => .error response
  | .json model stream => .ok (model.getD "unknown", stream.getD false)
  | .other multipartModel =>
    match modelOf cfg path multipartModel with
    | some model => .ok (model, false)
    | none => .error (.jsonError 503 "No models configured" "service_unavailable" "no_models_configured")

/-! ## What one answer does to the breaker and the health records -/

def noteFailure (app : AppState) (epKey : String) (statusCode now : Nat) : AppState :=
  { app with
    fail2ban := (app.fail2ban.recordFailureWithCode epKey statusCode now).1
    healthStore := app.healthStore.recordError epKey }

def noteSuccess (app : AppState) (epKey : String) (latencyMs : Nat) : AppState :=
  { app with
    fail2ban := app.fail2ban.recordSuccess epKey
    healthStore := (app.healthStore.recordRequest epKey).recordLatency epKey latencyMs }

/-- The streaming branch looks at 2xx only (handler.rs:1295-1304, 1386-1388). -/
def classifyStream (app : AppState) (epKey : String) (status latencyMs now : Nat) : AppState :=
  if isSuccess status then noteSuccess app epKey latencyMs else noteFailure app epKey status now

/-- The other branch consults the patterns, from 400 on (handler.rs:1465-1472). -/
def classifyWhole (app : AppState) (epKey : String) (status latencyMs now : Nat) : AppState :=
  if 400 ≤ status ∧ app.fail2ban.isFailStatus status then noteFailure app epKey status now
  else noteSuccess app epKey latencyMs

end Generic

/-- The call's context: who asks, and the endpoint that serves. -/
structure GenericCall where
  auth : AuthContext
  canonicalModel : String
  endpoint : SelectedEndpoint
  epKey : String
  teamTpm : Nat

namespace GenericCall

def charge (c : GenericCall) (s : Charged) (total now : Nat) : Charged :=
  chargeUsage s c.auth.team c.auth.tokenKey c.epKey c.teamTpm c.auth.tpm c.endpoint.endpointLimitsTpm total now

def noteRequest (c : GenericCall) (app : AppState) : AppState :=
  { app with liveStats := app.liveStats.recordRequest c.auth.tokenKey c.auth.team c.epKey }

/-- The answer of the streaming branch (handler.rs:1293-1396). -/
def streamed (c : GenericCall) (deps : Externs) (s : Charged) (status : Nat) (body : List Chunk)
    (latencyMs now : Nat) : Charged × Response :=
  if isSuccess status then
    -- a task that panics on a read error charges nothing
    let s := match Generic.streamUsage deps body with
      | some usage => c.charge s usage.total now
      | none => s
    ({ s with app := c.noteRequest (Generic.classifyStream s.app c.epKey status latencyMs now) },
      .passedOn c.endpoint status body)
  else
    ({ s with app := Generic.classifyStream s.app c.epKey status latencyMs now },
      .passedOn c.endpoint status (textOrDefault body))

/-- The answer of the other branch (handler.rs:1412-1499). -/
def whole (c : GenericCall) (deps : Externs) (s : Charged) (status : Nat) (body : List Chunk)
    (latencyMs now : Nat) : Charged × Response :=
  let bytes := toBytes body
  let usage := bodyUsage (deps.fromSlice bytes)
  let s := c.charge s usage.total now
  let app := { s.app with
    stats := s.app.stats.recordRequest c.canonicalModel c.endpoint.url c.auth.team usage.prompt
      usage.completion latencyMs status none c.endpoint.costPrompt c.endpoint.costCompletion now }
  ({ s with app := c.noteRequest (Generic.classifyWhole app c.epKey status latencyMs now) },
    .passedOn c.endpoint status [.ok bytes])

/-- The upstream call and what follows it. -/
def answer (c : GenericCall) (deps : Externs) (isStream : Bool) (s : Charged) (reply : Reply)
    (startAt now : Nat) : Charged × Response :=
  let latencyMs := (now - startAt) / 1000000
  match reply with
  | .sendError e => ({ s with app := Generic.noteFailure s.app c.epKey 0 now }, badGateway e)
  | .response status body =>
    if isStream then c.streamed deps s status body latencyMs now
    else c.whole deps s status body latencyMs now

end GenericCall

def proxyGeneric (deps : Externs) (env : GenericEnv) (app : AppState) (req : GenericRequest) : Run :=
  let early (s : Charged) (e : Ending) : Run :=
    { app := s.app, ledger := s.ledger, trace := [], ending := some e }
  let s : Charged := { app := app, ledger := [] }
  if ¬ "/v1/".toList <+: req.path.toList then
    early s (.responded (.jsonError 404 "Not found" "not_found" "not_found"))
  else
    let cfg := app.config
    let limited := checkAllRateLimits cfg req.auth.team req.auth.tokenKey req.auth.rpm req.auth.tpm
      env.limitsAt s
    match limited.2 with
    | some rej =>
      early { limited.1 with
        app := { limited.1.app with
          liveStats := limited.1.app.liveStats.recordError req.auth.tokenKey req.auth.team "rate_limited" } }
        (.responded rej.response)
    | none =>
      let s : Charged := { limited.1 with app := limited.1.app.disturb env.beforePick }
      match Generic.resolveBody cfg req.path req.body with
      | .error response => early s (.responded response)
      | .ok (modelName, isStream) =>
        let canonicalModel := cfg.canonicalModelName modelName
        if ¬ cfg.tokenHasModelAccess req.auth.tokenKey canonicalModel then
          early s (.responded (.jsonError 403
            ("Model '" ++ canonicalModel ++ "' not allowed for this token") "access_denied" "model_not_allowed"))
        else
          let pick := Balancer.selectEndpoint s.app.config s.app.roundRobin canonicalModel
          let s : Charged := { s with app := { s.app with roundRobin := pick.1 } }
          match pick.2 with
          | .error p => early s (.panicked p)
          | .ok none =>
            early s (.responded (.jsonError 503 ("No endpoint for model: " ++ canonicalModel)
              "service_unavailable" "no_available_endpoint"))
          | .ok (some endpoint) =>
            match Handler.epKey endpoint.url endpoint.apiKey with
            | .error p =>
              { app := s.app, ledger := s.ledger, trace := [{ endpoint := endpoint, step := .panicked }]
                ending := some (.panicked p) }
            | .ok epKey =>
              let c : GenericCall :=
                { auth := req.auth, canonicalModel := canonicalModel, endpoint := endpoint, epKey := epKey
                  teamTpm := teamTpm s.app.config req.auth.team }
              let r := c.answer deps isStream { s with app := s.app.disturb env.during } env.reply
                env.callAt env.doneAt
              { app := r.1.app, ledger := r.1.ledger
                trace := [{ endpoint := endpoint, step := .sent env.reply }]
                ending := some (.responded r.2) }

/-- **What a run visits**: an endpoint of the model that the canonical name resolves to, after the
access check on that name. -/
theorem proxyGeneric_visits {deps : Externs} {env : GenericEnv} {app : AppState} {req : GenericRequest}
    {v : Visit} (hpick : env.beforePick.KeepsConfig) (hv : v ∈ (proxyGeneric deps env app req).trace) :
    ∃ modelName isStream m, Generic.resolveBody app.config req.path req.body = .ok (modelName, isStream) ∧
      app.config.tokenHasModelAccess req.auth.tokenKey (app.config.canonicalModelName modelName) = true ∧
      app.config.findModel (app.config.canonicalModelName modelName) = some m ∧
      Balancer.PickOf m v.endpoint := by
  unfold proxyGeneric at hv
  dsimp only at hv
  split at hv
  · cases hv
  split at hv
  · cases hv
  split at hv
  · cases hv
  rename_i modelName isStream hbody
  split at hv
  · cases hv
  rename_i haccess
  have hconfig := (checkAllRateLimits_budgets app.config req.auth.team req.auth.tokenKey req.auth.rpm
    req.auth.tpm env.limitsAt { app := app, ledger := [] }).config
  rw [disturb_config hpick, hconfig] at hv
  have hfound : ∀ sel, (Balancer.selectEndpoint app.config (AppState.disturb (checkAllRateLimits app.config
      req.auth.team req.auth.tokenKey req.auth.rpm req.auth.tpm env.limitsAt
      { app := app, ledger := [] }).1.app env.beforePick).roundRobin
      (app.config.canonicalModelName modelName)).2 = .ok (some sel) → v.endpoint = sel →
      ∃ m, app.config.findModel (app.config.canonicalModelName modelName) = some m ∧
        Balancer.PickOf m v.endpoint := by
    rintro sel hsel rfl
    exact Balancer.selectEndpoint_found hsel
  have haccess' : app.config.tokenHasModelAccess req.auth.tokenKey
      (app.config.canonicalModelName modelName) = true := by simpa using haccess
  split at hv
  · cases hv
  · cases hv
  rename_i endpoint hsel
  split at hv
  · obtain ⟨m, hm, hp⟩ := hfound endpoint hsel (by rw [List.mem_singleton.1 hv])
    exact ⟨modelName, isStream, m, hbody, haccess', hm, hp⟩
  · obtain ⟨m, hm, hp⟩ := hfound endpoint hsel (by rw [List.mem_singleton.1 hv])
    exact ⟨modelName, isStream, m, hbody, haccess', hm, hp⟩

/-- What a request has when its call is made, and what any answer comes to. -/
structure Generic.Called (deps : Externs) (env : GenericEnv) (app : AppState) (req : GenericRequest) (c : GenericCall)
    (s : Charged) (modelName : String) (isStream : Bool) : Prop where
  body : Generic.resolveBody app.config req.path req.body = .ok (modelName, isStream)
  access : app.config.tokenHasModelAccess req.auth.tokenKey (app.config.canonicalModelName modelName) = true
  key : Handler.epKey c.endpoint.url c.endpoint.apiKey = .ok c.epKey
  auth : c.auth = req.auth
  model : c.canonicalModel = app.config.canonicalModelName modelName
  teamTpm : c.teamTpm = AiRouter.teamTpm (env.beforePick.config app.config) req.auth.team
  picked :
    let picked := (checkAllRateLimits app.config req.auth.team req.auth.tokenKey req.auth.rpm req.auth.tpm
      env.limitsAt { app := app, ledger := [] }).1.app.disturb env.beforePick
    (Balancer.selectEndpoint picked.config picked.roundRobin c.canonicalModel).2 = .ok (some c.endpoint)
  limits : (checkAllRateLimits app.config req.auth.team req.auth.tokenKey req.auth.rpm req.auth.tpm
    env.limitsAt { app := app, ledger := [] }).2 = none
  ledger : s.ledger = (checkAllRateLimits app.config req.auth.team req.auth.tokenKey req.auth.rpm req.auth.tpm
    env.limitsAt { app := app, ledger := [] }).1.ledger
  state : ∃ rr, s.app = ({ (checkAllRateLimits app.config req.auth.team req.auth.tokenKey req.auth.rpm req.auth.tpm
    env.limitsAt { app := app, ledger := [] }).1.app.disturb env.beforePick with
      roundRobin := rr } : AppState).disturb env.during
  answered : ∀ reply, proxyGeneric deps { env with reply := reply } app req =
    { app := (c.answer deps isStream s reply env.callAt env.doneAt).1.app
      ledger := (c.answer deps isStream s reply env.callAt env.doneAt).1.ledger
      trace := [{ endpoint := c.endpoint, step := .sent reply }]
      ending := some (.responded (c.answer deps isStream s reply env.callAt env.doneAt).2) }

/-- **A run that has sent its request.** -/
theorem proxyGeneric_called {deps : Externs} {env : GenericEnv} {app : AppState} {req : GenericRequest}
    {ep : SelectedEndpoint} {reply : Reply}
    (hv : { endpoint := ep, step := .sent reply } ∈ (proxyGeneric deps env app req).trace) :
    ∃ (c : GenericCall) (s : Charged) (modelName : String) (isStream : Bool),
      c.endpoint = ep ∧ reply = env.reply ∧ Generic.Called deps env app req c s modelName isStream := by
  have hconfig := (checkAllRateLimits_budgets app.config req.auth.team req.auth.tokenKey req.auth.rpm
    req.auth.tpm env.limitsAt { app := app, ledger := [] }).config
  unfold proxyGeneric at hv
  dsimp only at hv
  split at hv
  · cases hv
  rename_i hpath
  split at hv
  · cases hv
  rename_i hlimited
  split at hv
  · cases hv
  rename_i modelName isStream hbody
  split at hv
  · cases hv
  rename_i haccess
  split at hv
  · cases hv
  · cases hv
  rename_i endpoint hsel
  split at hv
  · cases List.mem_singleton.1 hv
  rename_i epKey hkey
  cases List.mem_singleton.1 hv
  let limited := checkAllRateLimits app.config req.auth.team req.auth.tokenKey req.auth.rpm req.auth.tpm env.limitsAt
    { app := app, ledger := [] }
  let picked := limited.1.app.disturb env.beforePick
  let pick := Balancer.selectEndpoint picked.config picked.roundRobin (app.config.canonicalModelName modelName)
  refine ⟨{ auth := req.auth, canonicalModel := app.config.canonicalModelName modelName, endpoint := ep, epKey := epKey
            teamTpm := AiRouter.teamTpm picked.config req.auth.team },
    { app := ({ picked with roundRobin := pick.1 } : AppState).disturb env.during, ledger := limited.1.ledger },
    modelName, isStream, rfl, rfl, ?_⟩
  constructor
  case body => exact hbody
  case access => simpa using haccess
  case key => exact hkey
  case auth => rfl
  case model => rfl
  case teamTpm =>
    show AiRouter.teamTpm (env.beforePick.config _) _ = _
    rw [hconfig]
  case picked => exact hsel
  case limits => exact hlimited
  case ledger => rfl
  case state => exact ⟨_, rfl⟩
  case answered =>
    intro reply'
    unfold proxyGeneric
    simp only [if_neg hpath, hlimited, hbody, if_neg haccess, hsel, hkey]
    rfl

/-- The same, where the configuration has not been reloaded. -/
theorem proxyGeneric_sent {deps : Externs} {env : GenericEnv} {app : AppState} {req : GenericRequest}
    {ep : SelectedEndpoint} {reply : Reply} (hpick : env.beforePick.KeepsConfig)
    (hv : { endpoint := ep, step := .sent reply } ∈ (proxyGeneric deps env app req).trace) :
    ∃ (c : GenericCall) (s : Charged) (modelName : String) (isStream : Bool),
      Generic.resolveBody app.config req.path req.body = .ok (modelName, isStream) ∧
      Handler.epKey ep.url ep.apiKey = .ok c.epKey ∧ c.endpoint = ep ∧ c.auth = req.auth ∧
      c.teamTpm = teamTpm app.config req.auth.team ∧
      (checkAllRateLimits app.config req.auth.team req.auth.tokenKey req.auth.rpm req.auth.tpm
        env.limitsAt { app := app, ledger := [] }).2 = none ∧
      s.ledger = (checkAllRateLimits app.config req.auth.team req.auth.tokenKey req.auth.rpm req.auth.tpm
        env.limitsAt { app := app, ledger := [] }).1.ledger ∧
      (proxyGeneric deps env app req).app
        = (c.answer deps isStream s env.reply env.callAt env.doneAt).1.app ∧
      (proxyGeneric deps env app req).ledger
        = (c.answer deps isStream s env.reply env.callAt env.doneAt).1.ledger := by
  obtain ⟨c, s, modelName, isStream, rfl, rfl, hc⟩ := proxyGeneric_called hv
  have hteam := hc.teamTpm
  rw [hpick app.config] at hteam
  have hrun : proxyGeneric deps env app req = _ := hc.answered env.reply
  exact ⟨c, s, modelName, isStream, hc.body, hc.key, rfl, hc.auth, hteam, hc.limits, hc.ledger, by rw [hrun],
    by rw [hrun]⟩

end AiRouter
