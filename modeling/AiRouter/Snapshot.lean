import AiRouter.CallGuards
import AiRouter.ModelAccess

/-
# Which configuration an endpoint is from

`proxy_handler` loads the configuration once, and checks access, collects the bans and looks the session's
index up in that. `ModelRouter` loads it anew at each selection (balancer.rs:73).
-/
namespace AiRouter

/-! ## The configuration that supplies an endpoint -/

/-- The endpoint of round `n`, and the configuration that it has been taken from. -/
inductive Handler.Supplies (deps : Externs) (env : Env) (app : AppState) (req : ChatRequest) (ctx : LoopCtx) :
    Nat → AppConfig → SelectedEndpoint → Prop where
  | session {s : LoopState} {ep : SelectedEndpoint} :
      prepare env app req = .ok (ctx, s) → sticky env app req ctx = .ok (some ep) →
      Supplies deps env app req ctx 0 app.config s.current
  | first {s : LoopState} :
      prepare env app req = .ok (ctx, s) → sticky env app req ctx = .ok none →
      Supplies deps env app req ctx 0 (pickState env app req).config s.current
  | next {start s : LoopState} {n : Nat} :
      prepare env app req = .ok (ctx, start) → retryLoop deps env ctx (n + 1) start = .next s →
      Supplies deps env app req ctx (n + 1) s.app.config s.current

/-- The access decision, the canonical name, the banned keys and the endpoint are all from `cfg`, and the
token may use the endpoint's model there. -/
structure Handler.OneConfig (env : Env) (app : AppState) (req : ChatRequest) (ctx : LoopCtx) (cfg : AppConfig)
    (ep : SelectedEndpoint) : Prop where
  access : cfg.tokenHasModelAccess req.auth.tokenKey ctx.canonicalModel = true
  canonical : ctx.canonicalModel = cfg.canonicalModelName req.modelName
  banned : (app.collectBanned env.startAt
    (((cfg.findModel ctx.canonicalModel).map (·.endpoints)).getD []) ∅).2 = .ok ctx.bannedKeys
  endpoint : ∃ m, cfg.findModel ctx.canonicalModel = some m ∧ Balancer.PickOf m ep ∧
    cfg.tokenHasModelAccess req.auth.tokenKey m.name = true

/-- Nothing is published between the start of the request and the selection of the endpoint of round `n`. -/
def Env.NoReloadBefore (env : Env) : Nat → Prop
  | 0 => env.beforePick.KeepsConfig
  | n + 1 => env.beforePick.KeepsConfig ∧ env.beforeLimits.KeepsConfig ∧
      ∀ k ≤ n, (env.turn k).before.KeepsConfig ∧ (env.turn k).during.KeepsConfig

section
variable {deps : Externs} {env : Env} {app : AppState} {req : ChatRequest} {ctx : LoopCtx} {s s' : LoopState}
  {t : Turn} {epKey : String} {n : Nat} {cfg : AppConfig} {ep : SelectedEndpoint}

/-- `ModelRouter` has picked the current endpoint in the configuration as it is. -/
def LoopState.PickedNow (ctx : LoopCtx) (s : LoopState) : Prop :=
  ∃ rr, (Balancer.selectAvailable s.app.config rr ctx.canonicalModel ctx.bannedKeys s.triedKeys).2 = .ok (some s.current)

theorem LoopState.GoesOn.pickedNow (h : GoesOn ctx s epKey s') : s'.PickedNow ctx := by
  obtain ⟨rr, hrr⟩ := h.picked
  refine ⟨rr, ?_⟩
  rw [h.config]
  exact hrr

/-- **Step**: whatever else runs, a round goes on with a pick from the configuration as it is then. -/
theorem turn_picks : (turn deps ctx t s).Sat (LoopState.PickedNow ctx) (fun _ _ => True) := by
  unfold turn
  dsimp only
  split
  · trivial
  · split
    · exact (LoopState.tryNext_sat _ ctx _ _).mono (fun _ h => h.pickedNow) (fun _ _ _ => trivial)
    · unfold attempt
      dsimp only
      split
      · trivial
      · exact (settle_sat _ _).mono (fun _ h => h.2.pickedNow) (fun _ _ _ => trivial)
      · exact (callFailed_sat _).mono (fun _ h => h.2.pickedNow) (fun _ _ _ => trivial)

/-- **An endpoint is one of the model** that the configuration it comes from serves the name with. -/
theorem Handler.Supplies.serves (h : Supplies deps env app req ctx n cfg ep) :
    ∃ m, cfg.findModel ctx.canonicalModel = some m ∧ Balancer.PickOf m ep := by
  cases h with
  | session hprep hsession =>
    rcases (prepare_entered hprep).picked with hsticky | ⟨hnone, _⟩
    · obtain ⟨m, _, hm, hpick, _⟩ := stickyPick_found hsticky
      exact ⟨m, hm, hpick⟩
    · rw [hsession] at hnone
      cases hnone
  | first hprep hnone =>
    rcases (prepare_entered hprep).picked with hsticky | ⟨_, hpick⟩
    · rw [hnone] at hsticky
      cases hsticky
    · obtain ⟨m, _, hm, hpick, _⟩ := Balancer.selectAvailable_found hpick
      exact ⟨m, hm, hpick⟩
  | next hprep hrun =>
    rename_i start s n
    -- the last of the rounds has picked it
    obtain ⟨before, _, hturn⟩ := Loop.run_succ_next hrun
    rw [Nat.zero_add] at hturn
    have hpicked : (turn deps ctx (env.turn n) before).Sat (LoopState.PickedNow ctx) (fun _ _ => True) := turn_picks
    rw [hturn] at hpicked
    obtain ⟨rr, hpick⟩ := hpicked
    obtain ⟨m, _, hm, hpick, _⟩ := Balancer.selectAvailable_found hpick
    exact ⟨m, hm, hpick⟩

/-- **Run**: without a reload the rounds keep the configuration. -/
theorem retryLoop_config (deps : Externs) (hquiet : ∀ k < n, (env.turn k).before.KeepsConfig ∧
    (env.turn k).during.KeepsConfig) (h : retryLoop deps env ctx n s = .next s') : s'.app.config = s.app.config := by
  induction n generalizing s' with
  | zero =>
    cases h
    rfl
  | succ n ih =>
    obtain ⟨before, hbefore, hturn⟩ := Loop.run_succ_next h
    rw [Nat.zero_add] at hturn
    have hlast := hquiet n (Nat.lt_succ_self n)
    have hround : (turn deps ctx (env.turn n) before).Sat (RoundOn ctx before) (fun s' _ => RoundLast before s') :=
      turn_sat hlast.1 hlast.2
    rw [hturn] at hround
    exact hround.config.trans (ih (fun k hk => hquiet k (Nat.lt_succ_of_lt hk)) hbefore)

/-- Without a reload an endpoint comes from the handler's own configuration. -/
theorem Handler.Supplies.config_eq (h : Supplies deps env app req ctx n cfg ep) (hquiet : env.NoReloadBefore n) :
    cfg = app.config := by
  cases h with
  | session hprep _ => rfl
  | first hprep _ =>
    unfold Handler.pickState
    rw [disturb_config hquiet, AppState.collectBanned_config]
  | next hprep hrun =>
    obtain ⟨hpick, hlimits, hturns⟩ := hquiet
    rw [retryLoop_config deps (fun k hk => hturns k (Nat.lt_succ_iff.1 hk)) hrun]
    exact (prepare_ok hpick hlimits hprep).config

theorem Handler.Supplies.prepared (h : Supplies deps env app req ctx n cfg ep) :
    ∃ s, prepare env app req = .ok (ctx, s) := by
  cases h with
  | session hprep _ => exact ⟨_, hprep⟩
  | first hprep _ => exact ⟨_, hprep⟩
  | next hprep _ => exact ⟨_, hprep⟩

/-- Whatever the loop comes to, some round has supplied. -/
theorem retryLoop_supplied (hprep : prepare env app req = .ok (ctx, s)) (fuel : Nat) :
    ∀ v ∈ (retryLoop deps env ctx fuel s).state.trace, ∃ n cfg, Handler.Supplies deps env app req ctx n cfg v.endpoint := by
  have hcurrent : ∀ {n s'}, retryLoop deps env ctx n s = .next s' →
      ∃ n cfg, Handler.Supplies deps env app req ctx n cfg s'.current := by
    intro n s' hrun
    cases n with
    | zero =>
      cases hrun
      rcases (prepare_entered hprep).picked with hsticky | ⟨hnone, _⟩
      · exact ⟨0, _, .session hprep hsticky⟩
      · exact ⟨0, _, .first hprep hnone⟩
    | succ n => exact ⟨n + 1, _, .next hprep hrun⟩
  induction fuel with
  | zero =>
    intro v hv
    rw [show (retryLoop deps env ctx 0 s).state.trace = [] from (prepare_entered hprep).trace] at hv
    cases hv
  | succ fuel ih =>
    cases hrun : retryLoop deps env ctx fuel s with
    | next s' =>
      rw [hrun] at ih
      have hturn := Loop.run_next hrun
      rw [Nat.zero_add] at hturn
      have htrace : (turn deps ctx (env.turn fuel) s').state.trace = s'.trace ++ _ := turn_trace deps ctx _ s'
      intro v hv
      unfold retryLoop at hv
      rw [hturn, htrace] at hv
      rcases List.mem_append.1 hv with hv | hv
      · exact ih v hv
      · rw [List.mem_singleton.1 hv]
        exact hcurrent hrun
    | exit s' e =>
      rw [hrun] at ih
      have hstays := Loop.run_exit hrun
      unfold retryLoop
      rw [hstays]
      exact ih

end

/-- **One configuration**: every endpoint that a request comes to has been supplied in some round, and
if nothing was published before that round picked it and the requested name is not shadowed, everything is
from one configuration. -/
theorem one_configuration (deps : Externs) (env : Env) (app : AppState) (req : ChatRequest) (fuel : Nat) :
    (∀ v ∈ (proxyHandler deps env fuel app req).trace,
      ∃ ctx n cfg, Handler.Supplies deps env app req ctx n cfg v.endpoint) ∧
    ∀ ctx n cfg ep, Handler.Supplies deps env app req ctx n cfg ep → env.NoReloadBefore n →
      ¬ Shadowed app.config req.auth.tokenKey req.modelName → Handler.OneConfig env app req ctx cfg ep := by
  constructor
  · intro v hv
    obtain ⟨ctx, s, hprep⟩ := proxyHandler_prepared (List.ne_nil_of_mem hv)
    unfold proxyHandler at hv
    rw [hprep] at hv
    obtain ⟨n, cfg, hsupplied⟩ := retryLoop_supplied hprep fuel v hv
    exact ⟨ctx, n, cfg, hsupplied⟩
  · intro ctx n cfg ep hsupplied hquiet hplain
    obtain rfl := hsupplied.config_eq hquiet
    obtain ⟨s, hprep⟩ := hsupplied.prepared
    have hentered := prepare_entered hprep
    obtain ⟨m, hm, hpick⟩ := hsupplied.serves
    have hm' := hm
    have haccess' := hentered.access
    rw [hentered.canonical] at hm' haccess'
    have hname := (checked_visit hplain haccess' hm' hpick).1
    exact ⟨hentered.access, hentered.canonical, hentered.banned, m, hm, hpick, by rw [hname]; exact haccess'⟩

/-! ## A reload between the bans and the pick -/

/-- The team may no longer use `gpt-4`, whose endpoint is another one. -/
def revokedConfig : AppConfig :=
  { singleConfig with
    teams := [{ name := "dev", models := ["gpt-3.5"], limits := none, costMultiplier := none }]
    models :=
      [{ name := "gpt-4", aliases := [], modelType := "chat"
         endpoints :=
          [{ url := "https://internal.example.com", key := "sk-upstream-9", limits := none, cost := none, weight := 1 }] }] }

def revokingEnv : Env :=
  { Env.quiet fun _ => answeringTurn with beforePick := { config := fun _ => revokedConfig } }

def singleApp : AppState := startApp singleConfig { counters := ∅ } [] { limiters := ∅ }

/-- With one model there is no other one to shadow it. -/
theorem not_shadowed_of_single {cfg : AppConfig} {m : ModelConfig} (hmodels : cfg.models = [m])
    (tokenKey modelName : String) : ¬ Shadowed cfg tokenKey modelName := by
  rintro ⟨before, m', after, other, hsplit, _, _, _, hother, _⟩
  rw [hmodels] at hsplit
  cases before with
  | nil => cases hother
  | cons m'' before =>
    have hlen := congrArg List.length hsplit
    simp at hlen

/-- The first endpoint refuses the connection, and the reload comes when the second has been picked. -/
def retryingEnv : Env :=
  .quiet fun n =>
    match n with
    | 0 => refusingTurn
    | _ + 1 => { answeringTurn with before := { config := fun _ => revokedConfig } }

/-- The two endpoints with nothing banned. -/
def freeApp : AppState := startApp guardedConfig { counters := ∅ } [] { limiters := ∅ }

/-- The reload comes before the retry is sent, not before its endpoint is picked: all is from one configuration. -/
theorem quiet_request_has_one_configuration : ∃ ctx ep,
    Handler.Supplies .mute retryingEnv freeApp singleRequest ctx 1 guardedConfig ep ∧
      ep.url = "https://b.example.com" ∧ ¬ (retryingEnv.turn 1).before.KeepsConfig ∧
      (proxyHandler .mute retryingEnv 2 freeApp singleRequest).trace.map (·.endpoint.url)
        = ["https://a.example.com", "https://b.example.com"] ∧
      Handler.OneConfig retryingEnv freeApp singleRequest ctx guardedConfig ep := by
  obtain ⟨ctx, start, s, hprep, hrun, hconfig, hurl⟩ : ∃ ctx start s,
      prepare retryingEnv freeApp singleRequest = .ok (ctx, start) ∧
      retryLoop .mute retryingEnv ctx 1 start = .next s ∧ s.app.config = guardedConfig ∧
      s.current.url = "https://b.example.com" := ⟨_, _, _, rfl, rfl, rfl, rfl⟩
  have hsupplied : Handler.Supplies .mute retryingEnv freeApp singleRequest ctx 1 guardedConfig s.current :=
    hconfig ▸ .next hprep hrun
  have hreload : ¬ (retryingEnv.turn 1).before.KeepsConfig := by
    intro hkeeps
    have hsame : revokedConfig = guardedConfig := hkeeps guardedConfig
    have hsizes := congrArg (fun cfg : AppConfig => cfg.models.map fun m => m.endpoints.length) hsame
    exact absurd hsizes (by decide)
  have hquiet : retryingEnv.NoReloadBefore 1 :=
    ⟨fun _ => rfl, fun _ => rfl, fun k hk => by
      obtain rfl := Nat.le_zero.1 hk
      exact ⟨fun _ => rfl, fun _ => rfl⟩⟩
  exact ⟨ctx, s.current, hsupplied, hurl, hreload, rfl,
    (one_configuration .mute _ freeApp singleRequest 2).2 ctx 1 guardedConfig s.current hsupplied hquiet
      (not_shadowed_of_single rfl _ _)⟩

/-- A request that was let in for `gpt-4` is sent to an endpoint of a configuration in which its token may
not use `gpt-4`. -/
theorem reload_mixes_configurations :
    singleConfig.Accepted ∧ revokedConfig.Accepted ∧ RequestOf singleConfig "sk-client" "gpt-4" singleRequest ∧
      revokedConfig.tokenHasModelAccess "sk-client" "gpt-4" = false ∧
      (proxyHandler .mute revokingEnv 1 singleApp singleRequest).trace.map (·.endpoint.url)
        = ["https://internal.example.com"] ∧
      ∃ ctx ep, Handler.Supplies .mute revokingEnv singleApp singleRequest ctx 0 revokedConfig ep ∧
        ¬ Handler.OneConfig revokingEnv singleApp singleRequest ctx revokedConfig ep := by
  obtain ⟨ctx, s, hprep, hnone, hname⟩ : ∃ ctx s, prepare revokingEnv singleApp singleRequest = .ok (ctx, s) ∧
      Handler.sticky revokingEnv singleApp singleRequest ctx = .ok none ∧ ctx.canonicalModel = "gpt-4" :=
    ⟨_, _, rfl, rfl, rfl⟩
  refine ⟨rfl, rfl, ⟨rfl, rfl⟩, rfl, rfl, ctx, s.current, .first hprep hnone, fun h => ?_⟩
  have haccess := h.access
  rw [hname] at haccess
  cases haccess

end AiRouter
