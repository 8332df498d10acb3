import AiRouter.Mediation
import AiRouter.Rekey

/-
# What clients see of the upstream API keys

Requests come one after another, to any route, with or without a valid token, and other tasks run in between. If the
upstream keys are replaced by others under the same masks, every client sees the same replies: beyond its mask no
reply of the server, and nothing that it keeps, depends on a key.
-/
namespace AiRouter

/-! ## What a client sees -/

/-- A reply without what stays in the server: of a proxied answer the status and the body. -/
inductive ClientSees where
  | own (reply : ServerReply)
  | upstream (status : Nat) (body : List Chunk)

def Response.sees : Response → Option ClientSees
  | .passedOn _ status body => some (.upstream status body)
  | .lastFailure _ status body => some (.upstream status body)
  | _ => none

def ServerReply.sees : ServerReply → ClientSees
  | .refused response => response.sees.getD (.own (.refused response))
  | .proxied (some (.responded response)) => response.sees.getD (.own (.refused response))
  | reply => .own reply

/-! ## The pages -/

section
variable (f : String → String)

def EndpointItem.rekey (item : EndpointItem) : EndpointItem := { item with endpoint := item.endpoint.rekey f }

def ServerReply.rekey : ServerReply → ServerReply
  | .refused response => .refused (response.rekey f)
  | .proxied ending => .proxied (ending.map (·.rekey f))
  | reply => reply

def Served.rekey (s : Served) : Served where
  app := s.app.rekey f
  ledger := s.ledger
  trace := s.trace.map (·.rekey f)
  reply := s.reply.rekey f

structure Outside.Rekeyed (out out' : Outside) : Prop where
  chat : out.chat.Rekeyed f out'.chat
  generic : out.generic.Rekeyed f out'.generic
  now : out'.now = out.now
  fuel : out'.fuel = out.fuel

structure Arrival.Rekeyed (a a' : Arrival) : Prop where
  before : a.before.Rekeyed f a'.before
  outside : a.outside.Rekeyed f a'.outside
  request : a'.request = a.request

end

variable {f : String → String}

theorem response_sees_rekey (response : Response) :
    (response.rekey f).sees.getD (.own (.refused (response.rekey f)))
      = response.sees.getD (.own (.refused response)) := by
  cases response <;> rfl

theorem sees_rekey (reply : ServerReply) : (reply.rekey f).sees = reply.sees := by
  cases reply with
  | refused response => exact response_sees_rekey response
  | proxied ending =>
    rcases ending with _ | response | p
    · rfl
    · exact response_sees_rekey response
    · rfl
  | _ => rfl

theorem items_rekey (models : List ModelConfig) :
    (models.map (·.rekey f)).flatMap (·.items) = (models.flatMap (·.items)).map (·.rekey f) := by
  have hitems : ∀ m : ModelConfig, (m.rekey f).items = m.items.map (·.rekey f) := by
    intro m
    unfold ModelConfig.items ModelConfig.rekey
    dsimp only
    rw [List.zipIdx_map, List.map_map, List.map_map]
    rfl
  rw [List.flatMap_map, List.map_flatMap]
  exact congrArg (List.flatMap · models) (funext hitems)

/-- A row that is the same under the replaced keys, and leaves the same state. -/
def RowRekeys {β : Type} (f : String → String) (row : AppState → EndpointItem → AppState × Except Panic β) : Prop :=
  ∀ app item, row (app.rekey f) (item.rekey f) = ((row app item).1.rekey f, (row app item).2)

theorem walkRows_rekey {β : Type} {row : AppState → EndpointItem → AppState × Except Panic β} (h : RowRekeys f row) :
    ∀ (items : List EndpointItem) (app : AppState), walkRows row (items.map (·.rekey f)) (app.rekey f)
      = ((walkRows row items app).1.rekey f, (walkRows row items app).2) := by
  intro items
  induction items with
  | nil => exact fun _ => rfl
  | cons item rest ih =>
    intro app
    rw [List.map_cons]
    unfold walkRows
    rw [h]
    dsimp only
    cases (row app item).2 with
    | error p => rfl
    | ok b =>
      dsimp only
      rw [ih]

section
variable (hf : KeepsMasks f)
include hf

theorem itemKey_rekey (item : EndpointItem) : (item.rekey f).key = item.key := by
  unfold EndpointItem.key Dashboard.maskKey
  exact congrArg (Except.map (joinKey item.endpoint.url)) (hf.handler item.endpoint.key)

theorem healthRow_rekeys (parse : String → Option ParsedUrl) (now : Nat) : RowRekeys f (healthRow parse now) := by
  intro app item
  unfold healthRow
  rw [itemKey_rekey hf]
  cases item.key <;> rfl

theorem dashboardRow_rekeys (parse : String → Option ParsedUrl) (now : Nat) : RowRekeys f (dashboardRow parse now) := by
  intro app item
  unfold dashboardRow
  rw [itemKey_rekey hf]
  cases item.key <;> rfl

omit hf in
theorem tpmRemaining_rekey (app : AppState) (key : String) (limit now : Nat) :
    (app.rekey f).tpmRemaining key limit now
      = ((app.tpmRemaining key limit now).1.rekey f, (app.tpmRemaining key limit now).2) := by
  unfold AppState.tpmRemaining
  split <;> rfl

theorem statsRow_rekeys (parse : String → Option ParsedUrl) (now : Nat) : RowRekeys f (statsRow parse now) := by
  intro app item
  unfold statsRow
  rw [itemKey_rekey hf]
  cases item.key with
  | error p => rfl
  | ok epKey =>
    have hlook : (app.rekey f).lookBan epKey now = ((app.lookBan epKey now).1.rekey f, (app.lookBan epKey now).2) := rfl
    dsimp only
    rw [hlook, tpmRemaining_rekey]
    rfl

theorem healthJson_rekey (parse : String → Option ParsedUrl) (now : Nat) (app : AppState) :
    healthJson parse now (app.rekey f) = ((healthJson parse now app).1.rekey f, (healthJson parse now app).2) := by
  have hrows := walkRows_rekey (healthRow_rekeys hf parse now) (app.config.models.flatMap (·.items)) app
  unfold healthJson
  dsimp only
  have hmodels : (app.rekey f).config.models = app.config.models.map (·.rekey f) := rfl
  rw [hmodels, items_rekey, hrows, List.length_map]
  rfl

theorem healthDashboard_rekey (parse : String → Option ParsedUrl) (now : Nat) (app : AppState) :
    healthDashboard parse now (app.rekey f)
      = ((healthDashboard parse now app).1.rekey f, (healthDashboard parse now app).2) := by
  have hrows := walkRows_rekey (dashboardRow_rekeys hf parse now) (app.config.models.flatMap (·.items)) app
  unfold healthDashboard
  dsimp only
  have hmodels : (app.rekey f).config.models = app.config.models.map (·.rekey f) := rfl
  have hcounts : (app.config.models.map (·.rekey f)).map (·.endpoints.length)
      = app.config.models.map (·.endpoints.length) := by
    simp [Function.comp_def, ModelConfig.rekey]
  rw [hmodels, items_rekey, hrows, List.length_map, hcounts]
  rfl

theorem statsJson_rekey (parse : String → Option ParsedUrl) (now : Nat) (auth : AuthContext) (app : AppState) :
    statsJson parse now auth (app.rekey f)
      = ((statsJson parse now auth app).1.rekey f, (statsJson parse now auth app).2) := by
  unfold statsJson
  dsimp only
  have hconfig : (app.rekey f).config = app.config.rekey f := rfl
  have hshown : (if auth.models.any (· == "*") then (app.config.rekey f).models
        else (app.config.rekey f).models.filter ((app.config.rekey f).tokenHasModelAccess auth.tokenKey ·.name))
      = (if auth.models.any (· == "*") then app.config.models
        else app.config.models.filter (app.config.tokenHasModelAccess auth.tokenKey ·.name)).map (·.rekey f) := by
    split
    · rfl
    · change (app.config.models.map (·.rekey f)).filter _ = _
      rw [List.filter_map]
      rfl
  rw [hconfig, hshown, items_rekey, tpmRemaining_rekey]
  dsimp only
  have hteam : teamTpm (app.config.rekey f) auth.team = teamTpm app.config auth.team := rfl
  rw [hteam, tpmRemaining_rekey]
  dsimp only
  rw [walkRows_rekey (statsRow_rekeys hf parse now)]
  rfl

omit hf in
theorem page_rekey {α : Type} {shown shown' : AppState × Except Panic α} (h : shown' = (shown.1.rekey f, shown.2))
    {reply : α → ServerReply} (hreply : ∀ a, (reply a).rekey f = reply a) :
    Served.page shown' reply = (Served.page shown reply).rekey f := by
  obtain ⟨app, result⟩ := shown
  rw [h]
  cases result with
  | error p => rfl
  | ok a =>
    unfold Served.page Served.quick Served.rekey
    dsimp only
    rw [hreply]
    rfl

omit hf in
theorem listed_rekey (now : Nat) (app : AppState) (auth : AuthContext) {reply : List String → ServerReply}
    (hreply : ∀ names, (reply names).rekey f = reply names) :
    listed now (app.rekey f) auth reply = (listed now app auth reply).rekey f := by
  have hconfig : (app.rekey f).config = app.config.rekey f := rfl
  have hnames : (app.config.rekey f).accessibleModels auth.tokenKey = app.config.accessibleModels auth.tokenKey := by
    unfold AppConfig.accessibleModels
    change ((app.config.models.map (·.rekey f)).filter _).map _ = _
    rw [List.filter_map, List.map_map]
    rfl
  unfold listed
  rw [hconfig, firstLimits_rekey, hnames]
  dsimp only
  cases (checkAllRateLimits app.config auth.team auth.tokenKey auth.rpm auth.tpm now
      { app := app, ledger := [] }).2 with
  | some rej => rfl
  | none =>
    unfold Served.rekey
    dsimp only
    rw [hreply]
    rfl

omit hf in
/-- What a generic request's body is refused with has no endpoint. -/
theorem read_refused {raw : RawRequest} {deps : Externs} {parseError : List UInt8 → String} {response : Response}
    (h : (raw.read deps parseError).body = .refused response) : response.rekey f = response := by
  unfold RawRequest.read Generic.readBody at h
  dsimp only at h
  split at h
  · split at h
    · rename_i refused hread
      cases h
      unfold readBodyAndParse at hread
      split at hread
      · cases hread
        rfl
      · split at hread <;> cases hread
        rfl
    · cases h
  · split at h
    · cases h
      rfl
    · cases h

omit hf in
theorem ofRun_rekey (run : Run) : Served.ofRun (run.rekey f) = (Served.ofRun run).rekey f := rfl

/-- **One request.** -/
theorem site_serve_rekey (site : Site) {out out' : Outside} (hout : out.Rekeyed f out') (app : AppState)
    (r : HttpRequest) : site.serve out' (app.rekey f) r = (site.serve out app r).rekey f := by
  have hauth : authMiddleware (app.rekey f).config r = authMiddleware app.config r := rfl
  unfold Site.serve
  rw [hauth]
  cases authMiddleware app.config r with
  | none =>
    unfold Site.serveUnknown
    rw [hout.now]
    cases site.route r with
    | health => exact page_rekey (healthJson_rekey hf site.parseUrl out.now app) fun _ => rfl
    | vhealth => exact page_rekey (healthDashboard_rekey hf site.parseUrl out.now app) fun _ => rfl
    | _ => rfl
  | some auth =>
    unfold Site.serveKnown
    rw [hout.now]
    cases site.route r with
    | chat =>
      dsimp only
      rw [hout.fuel, serve_rekey hf site hout.chat, ofRun_rekey]
    | generic =>
      dsimp only
      rw [proxyGeneric_rekey hf site.deps hout.generic app fun _ => read_refused, ofRun_rekey]
    | models => exact listed_rekey out.now app auth fun _ => rfl
    | tags => exact listed_rekey out.now app auth fun _ => rfl
    | health => exact page_rekey (healthJson_rekey hf site.parseUrl out.now app) fun _ => rfl
    | vhealth => exact page_rekey (healthDashboard_rekey hf site.parseUrl out.now app) fun _ => rfl
    | stats => exact page_rekey (statsJson_rekey hf site.parseUrl out.now auth app) fun _ => rfl
    | _ => rfl

/-- **Requests one after another.** -/
theorem site_run_rekey (site : Site) {arrivals arrivals' : List Arrival}
    (h : List.Forall₂ (Arrival.Rekeyed f) arrivals arrivals') :
    ∀ app, site.run (app.rekey f) arrivals' = (site.run app arrivals).map (·.rekey f) := by
  induction h with
  | nil => exact fun _ => rfl
  | @cons a a' rest rest' ha _ ih =>
    intro app
    have hmeet : site.meet (app.rekey f) a' = (site.meet app a).rekey f := by
      unfold Site.meet
      rw [ha.request, disturb_rekey ha.before]
      exact site_serve_rekey hf site ha.outside (app.disturb a.before) a.request
    change site.meet (app.rekey f) a' :: site.run (site.meet (app.rekey f) a').app rest' = _
    rw [hmeet]
    exact congrArg _ (ih (site.meet app a).app)

end

/-- **The upstream keys stay hidden.** With other upstream keys under the same masks, and the same requests, times and
answers of the upstreams, every client sees the same replies. -/
theorem upstream_keys_hidden (hf : KeepsMasks f) (site : Site) (app : AppState) {arrivals arrivals' : List Arrival}
    (h : List.Forall₂ (Arrival.Rekeyed f) arrivals arrivals') :
    (site.run (app.rekey f) arrivals').map (·.reply.sees) = (site.run app arrivals).map (·.reply.sees) := by
  rw [site_run_rekey hf site h, List.map_map]
  exact List.map_congr_left fun served _ => sees_rekey served.reply

/-- Another key under the masks of the key of `providerConfig`. -/
def swapKey (key : String) : String := if key = "sk-upstream-1" then "sk-u-other-am-1" else key

theorem swapKey_keepsMasks : KeepsMasks swapKey where
  handler key := by
    unfold swapKey
    split
    · rename_i h
      rw [h]
      decide
    · rfl
  balancer key := by
    unfold swapKey
    split
    · rename_i h
      rw [h]
      decide
    · rfl

theorem quiet_rekeyed : Others.quiet.Rekeyed f .quiet := ⟨fun _ => rfl, rfl⟩

theorem refusedOutside_rekeyed : refusedOutside.Rekeyed f refusedOutside where
  chat := ⟨quiet_rekeyed, quiet_rekeyed, fun _ => ⟨quiet_rekeyed, quiet_rekeyed, rfl, rfl, rfl⟩, rfl, rfl⟩
  generic := ⟨quiet_rekeyed, quiet_rekeyed, rfl, rfl, rfl, rfl⟩
  now := rfl
  fuel := rfl

/-- A client's call, which the upstream refuses, and a look at `/health`. -/
def callThenLook : List Arrival :=
  [{ before := .quiet, outside := refusedOutside, request := smallChat },
   { before := .quiet, outside := refusedOutside, request := lookAtHealth }]

/-- One upstream call is made, and neither reply tells the two keys apart. -/
theorem swapped_key_hidden :
    swapKey "sk-upstream-1" ≠ "sk-upstream-1" ∧ (plainSite.run providerApp callThenLook).map (·.trace.length) = [1, 0] ∧
      (plainSite.run (providerApp.rekey swapKey) callThenLook).map (·.reply.sees)
        = (plainSite.run providerApp callThenLook).map (·.reply.sees) :=
  ⟨by decide, rfl, upstream_keys_hidden swapKey_keepsMasks plainSite providerApp
    (.cons ⟨quiet_rekeyed, refusedOutside_rekeyed, rfl⟩ (.cons ⟨quiet_rekeyed, refusedOutside_rekeyed, rfl⟩ .nil))⟩

end AiRouter
