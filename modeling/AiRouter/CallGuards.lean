import AiRouter.BanRespect
import AiRouter.Generic

/-
# What stands before an upstream call

The two handlers call the same endpoints. `proxy_handler` collects the bans when the request starts
and asks each endpoint's own limits before its call; `proxy_generic` does neither. A call is taken with
the state in which its endpoint was selected and the state in which its limits were asked, if they were.
-/
namespace AiRouter

structure UpstreamCall where
  endpoint : SelectedEndpoint
  selectedIn : AppState
  selectedAt : Nat
  /-- where the endpoint's own limits were asked, and when -/
  asked : Option (Charged × Nat)

def SelectedEndpoint.Limited (ep : SelectedEndpoint) : Prop :=
  0 < ep.endpointLimitsRpm ∨ 0 < ep.endpointLimitsTpm

instance (ep : SelectedEndpoint) : Decidable ep.Limited :=
  inferInstanceAs (Decidable (0 < ep.endpointLimitsRpm ∨ 0 < ep.endpointLimitsTpm))

/-- The endpoint under key `k` is not banned when it is selected, and its limits, if it has any, have
let the call through. -/
structure UpstreamCall.Respects (c : UpstreamCall) (k : String) : Prop where
  free : (c.selectedIn.isBanned k c.selectedAt).2 = false
  admitted : c.endpoint.Limited →
    ∃ s now, c.asked = some (s, now) ∧ (Gate.runAll (endpointChecks c.endpoint k now) s).2 = none

/-! ## The calls of a request -/

/-- When a round that goes on has the next endpoint picked. -/
def Turn.pickAt (ctx : LoopCtx) (t : Turn) (s : LoopState) : Nat :=
  match visitStep ctx t s with
  | .limited => t.checkAt
  | _ => t.doneAt

/-- Where the round asks the limits of its endpoint. -/
def LoopState.asking (s : LoopState) (t : Turn) : Charged × Nat :=
  ({ app := s.app.disturb t.before, ledger := s.ledger }, t.checkAt)

/-- The calls of a `proxy_handler` request with the banned keys `bannedKeys`: in the first round, and in
a round after one that went on. -/
inductive Handler.Calls (deps : Externs) (env : Env) (app : AppState) (req : ChatRequest) :
    LoopCtx → UpstreamCall → Prop where
  | first {ctx : LoopCtx} {s : LoopState} {reply : Reply} :
      prepare env app req = .ok (ctx, s) → visitStep ctx (env.turn 0) s = .sent reply →
      Calls deps env app req ctx
        { endpoint := s.current, selectedIn := pickState env app req, selectedAt := env.startAt
          asked := some (s.asking (env.turn 0)) }
  | again {ctx : LoopCtx} {start before s : LoopState} {j : Nat} {reply : Reply} :
      prepare env app req = .ok (ctx, start) → retryLoop deps env ctx j start = .next before →
      turn deps ctx (env.turn j) before = .next s → visitStep ctx (env.turn (j + 1)) s = .sent reply →
      Calls deps env app req ctx
        { endpoint := s.current, selectedIn := s.app, selectedAt := (env.turn j).pickAt ctx before
          asked := some (s.asking (env.turn (j + 1))) }

/-- The state in which `proxy_generic` picks its endpoint. -/
def Generic.pickState (env : GenericEnv) (app : AppState) (req : GenericRequest) : AppState :=
  (checkAllRateLimits app.config req.auth.team req.auth.tokenKey req.auth.rpm req.auth.tpm env.limitsAt
    { app := app, ledger := [] }).1.app.disturb env.beforePick

/-- The call of a `proxy_generic` request. -/
inductive Generic.Calls (deps : Externs) (env : GenericEnv) (app : AppState) (req : GenericRequest) :
    UpstreamCall → Prop where
  | only {ep : SelectedEndpoint} {reply : Reply} :
      { endpoint := ep, step := .sent reply } ∈ (proxyGeneric deps env app req).trace →
      Calls deps env app req
        { endpoint := ep, selectedIn := pickState env app req, selectedAt := env.callAt, asked := none }

/-! ## When they respect the guards -/

/-- Every endpoint of the request's model that is banned when `c` selects is among the keys collected at
the start, under the handler's key and under the balancer's. -/
def BansKnown (cfg : AppConfig) (ctx : LoopCtx) (c : UpstreamCall) : Prop :=
  ∀ m, cfg.findModel ctx.canonicalModel = some m → ∀ ep ∈ m.endpoints, ∀ k,
    Handler.epKey ep.url ep.key = .ok k → (c.selectedIn.isBanned k c.selectedAt).2 = true →
    k ∈ ctx.bannedKeys ∧ ∀ b, Balancer.epKey ep.url ep.key = .ok b → b ∈ ctx.bannedKeys

/-- The endpoint that the counter stands at is not banned and has no limits. -/
def CounterClear (env : GenericEnv) (app : AppState) (req : GenericRequest) : Prop :=
  ∀ modelName isStream ep k,
    Generic.resolveBody app.config req.path req.body = .ok (modelName, isStream) →
    (Balancer.selectEndpoint (Generic.pickState env app req).config (Generic.pickState env app req).roundRobin
      (app.config.canonicalModelName modelName)).2 = .ok (some ep) →
    Handler.epKey ep.url ep.apiKey = .ok k →
    ((Generic.pickState env app req).isBanned k env.callAt).2 = false ∧ ¬ ep.Limited

section
variable {deps : Externs} {ctx : LoopCtx} {t : Turn} {s : LoopState} {k : String} {reply : Reply}

/-- A request is sent only past the limits of its endpoint. -/
theorem asked_of_sent (h : visitStep ctx t s = .sent reply)
    (hk : Handler.epKey s.current.url s.current.apiKey = .ok k) :
    (Gate.runAll (endpointChecks s.current k (s.asking t).2) (s.asking t).1).2 = none := by
  unfold visitStep at h
  rw [hk] at h
  unfold LoopState.asking
  dsimp only at h ⊢
  cases hchecks : (Gate.runAll (endpointChecks s.current k t.checkAt)
      { app := s.app.disturb t.before, ledger := s.ledger }).2 with
  | none => rfl
  | some rej =>
    rw [hchecks] at h
    cases h

/-- A pick respects the bans that are known. -/
theorem free_of_known {cfg : AppConfig} {m : ModelConfig} {c : UpstreamCall} (hknown : BansKnown cfg ctx c)
    (hm : cfg.findModel ctx.canonicalModel = some m) (hpicked : PickedBy ctx m c.endpoint)
    (hk : Handler.epKey c.endpoint.url c.endpoint.apiKey = .ok k) :
    (c.selectedIn.isBanned k c.selectedAt).2 = false := by
  obtain ⟨hpick, hkeys⟩ := hpicked
  obtain ⟨ep, hep, _, hsel⟩ := hpick.mem
  rw [Bool.eq_false_iff]
  intro hbanned
  have hk' : Handler.epKey ep.url ep.key = .ok k := by rw [hsel] at hk; exact hk
  obtain ⟨hin, hbin⟩ := hknown m hm ep hep k hk' hbanned
  rcases hkeys with ⟨key, hkey, hnot⟩ | ⟨b, hb, hnot⟩
  · rw [hk] at hkey
    cases hkey
    exact hnot hin
  · rw [hsel] at hb
    exact hnot (hbin b hb)

/-- **Run**: what the loop goes on with, the balancer has picked. -/
theorem retryLoop_picks (deps : Externs) {env : Env} (henv : env.KeepsConfig) {cfg : AppConfig} {m : ModelConfig}
    (hm : cfg.findModel ctx.canonicalModel = some m) (hcfg : s.app.config = cfg)
    (hcur : PickedBy ctx m s.current) {n : Nat} {s' : LoopState} (hrun : retryLoop deps env ctx n s = .next s') :
    s'.app.config = cfg ∧ PickedBy ctx m s'.current := by
  have hround : ∀ j s, (s.app.config = cfg ∧ PickedBy ctx m s.current) →
      (turn deps ctx (env.turn j) s).Sat (fun s => s.app.config = cfg ∧ PickedBy ctx m s.current)
        (fun _ _ => True) := by
    rintro j s ⟨hcfg, _⟩
    refine (turn_sat (henv.2.2 j).1 (henv.2.2 j).2).mono (fun s' hr => ?_) (fun _ _ _ => trivial)
    obtain ⟨epKey, _, _, rr, hpick⟩ := hr.picked
    rw [hcfg] at hpick
    obtain ⟨m', b, hm', hp, hb, hnot, _⟩ := Balancer.selectAvailable_found hpick
    rw [hm] at hm'
    obtain rfl := Option.some.inj hm'
    exact ⟨hr.config.trans hcfg, hp, Or.inr ⟨b, hb, hnot⟩⟩
  have hsat := Loop.run_sat hround n 0 s ⟨hcfg, hcur⟩
  unfold retryLoop at hrun
  rw [hrun] at hsat
  exact hsat

end

/-- **The calls of `proxy_handler`** have passed the limits of their endpoint, whatever is known of bans. -/
theorem Handler.Calls.admitted {deps : Externs} {env : Env} {app : AppState} {req : ChatRequest} {ctx : LoopCtx}
    {c : UpstreamCall} {k : String} (hcall : Handler.Calls deps env app req ctx c)
    (hk : Handler.epKey c.endpoint.url c.endpoint.apiKey = .ok k) :
    ∃ s now, c.asked = some (s, now) ∧ (Gate.runAll (endpointChecks c.endpoint k now) s).2 = none := by
  cases hcall with
  | first _ hsent => exact ⟨_, _, rfl, asked_of_sent hsent hk⟩
  | again _ _ _ hsent => exact ⟨_, _, rfl, asked_of_sent hsent hk⟩

/-- **The calls of `proxy_handler`** respect the guards while the bans at each selection are known. -/
theorem Handler.respects_of_known {deps : Externs} {env : Env} (henv : env.KeepsConfig) {app : AppState}
    {req : ChatRequest} {ctx : LoopCtx} {c : UpstreamCall} {k : String} (hcall : Handler.Calls deps env app req ctx c)
    (hk : Handler.epKey c.endpoint.url c.endpoint.apiKey = .ok k) (hknown : BansKnown app.config ctx c) :
    c.Respects k := by
  refine ⟨?_, fun _ => hcall.admitted hk⟩
  cases hcall with
  | first hprep hsent =>
    obtain ⟨m, hm, hpicked⟩ := (prepare_ok henv.1 henv.2.1 hprep).picked
    exact free_of_known hknown hm hpicked hk
  | again hprep hbefore hturn hsent =>
    rename_i start before s j reply
    have hp := prepare_ok henv.1 henv.2.1 hprep
    obtain ⟨m, hm, hpicked⟩ := hp.picked
    have hrun : retryLoop deps env ctx (j + 1) start = .next s := by
      have hlast := Loop.run_next hbefore
      rw [Nat.zero_add] at hlast
      exact hlast.trans hturn
    exact free_of_known hknown hm (retryLoop_picks deps henv hm hp.config hpicked hrun).2 hk

/-- **The call of `proxy_generic`** respects them exactly where there is nothing to guard. -/
theorem Generic.respects_iff {deps : Externs} {env : GenericEnv} {app : AppState} {req : GenericRequest}
    {c : UpstreamCall} {k : String} (hcall : Generic.Calls deps env app req c)
    (hk : Handler.epKey c.endpoint.url c.endpoint.apiKey = .ok k) : c.Respects k ↔ CounterClear env app req := by
  cases hcall with
  | only hv =>
    obtain ⟨call, _, modelName, isStream, rfl, _, hc⟩ := proxyGeneric_called hv
    have hbody := hc.body
    have hsel := hc.picked
    rw [hc.model] at hsel
    constructor
    · rintro ⟨hfree, hadmitted⟩ modelName' isStream' ep' k' hbody' hsel' hk'
      rw [hbody] at hbody'
      cases hbody'
      obtain rfl := Option.some.inj (Except.ok.inj (hsel.symm.trans hsel'))
      rw [hk] at hk'
      cases hk'
      refine ⟨hfree, fun hlimited => ?_⟩
      -- nothing was asked
      obtain ⟨s, now, hasked, _⟩ := hadmitted hlimited
      cases hasked
    · intro hclear
      obtain ⟨hfree, hnot⟩ := hclear modelName isStream _ k hbody hsel hk
      exact ⟨hfree, fun hlimited => absurd hlimited hnot⟩

/-- **Whichever route a client uses**: through `proxy_handler` every call has passed the limits of its endpoint, and
respects the guards while the bans are known; through `proxy_generic` exactly those to an endpoint that needs none. -/
theorem calls_respect_guards (deps : Externs) :
    (∀ (env : Env) (app : AppState) (req : ChatRequest) (ctx : LoopCtx) (c : UpstreamCall) (k : String),
      Handler.Calls deps env app req ctx c → Handler.epKey c.endpoint.url c.endpoint.apiKey = .ok k →
      (∃ s now, c.asked = some (s, now) ∧ (Gate.runAll (endpointChecks c.endpoint k now) s).2 = none) ∧
        (env.KeepsConfig → BansKnown app.config ctx c → c.Respects k)) ∧
    (∀ (env : GenericEnv) (app : AppState) (req : GenericRequest) (c : UpstreamCall) (k : String),
      Generic.Calls deps env app req c → Handler.epKey c.endpoint.url c.endpoint.apiKey = .ok k →
      (c.Respects k ↔ CounterClear env app req)) :=
  ⟨fun _ _ _ _ _ _ hcall hk =>
      ⟨hcall.admitted hk, fun henv hknown => Handler.respects_of_known henv hcall hk hknown⟩,
    fun _ _ _ _ _ hcall hk => Generic.respects_iff hcall hk⟩

/-! ## A banned endpoint and an exhausted one -/

def embeddingsRequest : GenericRequest where
  auth := singleRequest.auth
  path := "/v1/embeddings"
  body := .json (some "gpt-4") none

def calmApp : AppState := startApp singleConfig { counters := ∅ } [] { limiters := ∅ }

/-- Two endpoints with keys that every mask hides: the first is banned, the second may be called once a minute. -/
def guardedConfig : AppConfig :=
  { singleConfig with
    models :=
      [{ name := "gpt-4", aliases := [], modelType := "chat"
         endpoints :=
          [{ url := "https://a.example.com", key := "key-a", limits := none, cost := none, weight := 1 },
           { url := "https://b.example.com", key := "key-b", limits := some { rpm := 1, tpm := 0 }, cost := none
             weight := 1 }] }] }

def guardedApp : AppState := startApp guardedConfig { counters := ∅ } ["https://a.example.com:***"] { limiters := ∅ }

/-- The bans of the two endpoints are those that a request there knows. -/
theorem guardedApp_known {ctx : LoopCtx} {c : UpstreamCall} (hname : ctx.canonicalModel = "gpt-4")
    (hkeys : ctx.bannedKeys = {"https://a.example.com:***"}) (hin : c.selectedIn = guardedApp) (hat : c.selectedAt = 0) :
    BansKnown guardedConfig ctx c := by
  intro m hm ep hep k hk hbanned
  rw [hname] at hm
  cases hm
  rw [hin, hat, guardedApp, startApp_isBanned] at hbanned
  rcases List.mem_cons.1 hep with rfl | hep
  · cases hk
    refine ⟨by rw [hkeys]; decide, fun b hb => ?_⟩
    cases hb
    rw [hkeys]
    decide
  · rw [List.mem_singleton.1 hep] at hk
    cases hk
    exact absurd hbanned (by decide)

/-- `proxy_handler` passes over the banned endpoint and asks the limits of the other; `proxy_generic` calls an endpoint
that is not banned and has none. -/
theorem free_endpoint_is_called :
    (∃ ctx c, Handler.Calls .mute (.quiet fun _ => answeringTurn) guardedApp singleRequest ctx c ∧
      c.endpoint.url = "https://b.example.com" ∧ c.endpoint.Limited ∧ c.Respects "https://b.example.com:***") ∧
    ∃ c, Generic.Calls .mute .answering calmApp embeddingsRequest c ∧
      c.Respects "https://api.openai.com:sk-u...am-1" := by
  constructor
  · obtain ⟨ctx, s, hprep, hsent, hurl, hlimited, hkey, hname, hkeys⟩ : ∃ ctx s,
        prepare (.quiet fun _ => answeringTurn) guardedApp singleRequest = .ok (ctx, s) ∧
        visitStep ctx answeringTurn s = .sent answeringTurn.reply ∧ s.current.url = "https://b.example.com" ∧
        s.current.endpointLimitsRpm = 1 ∧
        Handler.epKey s.current.url s.current.apiKey = .ok "https://b.example.com:***" ∧
        ctx.canonicalModel = "gpt-4" ∧ ctx.bannedKeys = {"https://a.example.com:***"} :=
      ⟨_, _, rfl, rfl, rfl, rfl, rfl, rfl, rfl⟩
    have hcall : Handler.Calls .mute (.quiet fun _ => answeringTurn) guardedApp singleRequest ctx _ :=
      .first hprep hsent
    exact ⟨ctx, _, hcall, hurl, Or.inl (by rw [hlimited]; exact Nat.one_pos),
      ((calls_respect_guards .mute).1 _ _ _ _ _ _ hcall hkey).2
        ⟨fun _ => rfl, fun _ => rfl, fun _ => ⟨fun _ => rfl, fun _ => rfl⟩⟩
        (guardedApp_known hname hkeys rfl rfl)⟩
  · have hcall : Generic.Calls .mute .answering calmApp embeddingsRequest _ := .only (List.mem_singleton_self _)
    refine ⟨_, hcall, ((calls_respect_guards .mute).2 _ _ _ _ _ hcall rfl).2 ?_⟩
    intro modelName isStream ep k hbody hsel hk
    have hname : Generic.resolveBody calmApp.config embeddingsRequest.path embeddingsRequest.body
        = .ok ("gpt-4", false) := rfl
    rw [hname] at hbody
    cases hbody
    have hpick : (Balancer.selectEndpoint (Generic.pickState .answering calmApp embeddingsRequest).config
        (Generic.pickState .answering calmApp embeddingsRequest).roundRobin
        (calmApp.config.canonicalModelName "gpt-4")).2
        = .ok (some (EndpointConfig.selected ⟨"https://api.openai.com", "sk-upstream-1", none, none, 1⟩ 0 1)) := rfl
    rw [hpick] at hsel
    cases hsel
    have hkey : Handler.epKey "https://api.openai.com" "sk-upstream-1"
        = .ok "https://api.openai.com:sk-u...am-1" := rfl
    rw [show k = "https://api.openai.com:sk-u...am-1" from Except.ok.inj (hk.symm.trans hkey)]
    exact ⟨rfl, by decide⟩

/-- The single model with a limit of one request per minute on its endpoint. -/
def rpmConfig : AppConfig :=
  { singleConfig with
    models :=
      [{ name := "gpt-4", aliases := [], modelType := "chat"
         endpoints :=
          [{ url := "https://api.openai.com", key := "sk-upstream-1", limits := some { rpm := 1, tpm := 0 }
             cost := none, weight := 1 }] }] }

def exhaustedApp : AppState :=
  startApp rpmConfig { counters := ∅ } [] (drained "ep:https://api.openai.com:sk-u...am-1")

/-- `proxy_generic` calls an endpoint that is banned, and one whose limit of requests is used up. -/
theorem generic_calls_unguarded :
    (∃ c, Generic.Calls .mute .answering (startApp pairConfig { counters := ∅ } pairBans { limiters := ∅ })
        embeddingsRequest c ∧ c.endpoint.url = "https://a.example.com" ∧
      (c.selectedIn.isBanned "https://a.example.com:sk-u...am-1" c.selectedAt).2 = true ∧
      ¬ c.Respects "https://a.example.com:sk-u...am-1") ∧
    ∃ c, Generic.Calls .mute .answering exhaustedApp embeddingsRequest c ∧ c.endpoint.endpointLimitsRpm = 1 ∧
      (exhaustedApp.limiters.check "ep:https://api.openai.com:sk-u...am-1" 1 0 1 .endpoint 0).2.allowed = false ∧
      ¬ c.Respects "https://api.openai.com:sk-u...am-1" := by
  constructor
  · refine ⟨_, .only (List.mem_singleton_self _), rfl, rfl, fun h => ?_⟩
    have hfree := h.free
    revert hfree
    decide
  · refine ⟨_, .only (List.mem_singleton_self _), rfl, rfl, fun h => ?_⟩
    obtain ⟨_, _, hasked, _⟩ := h.admitted (by decide)
    cases hasked

end AiRouter
