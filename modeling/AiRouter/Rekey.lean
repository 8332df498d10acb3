import AiRouter.Server

/-
# Other API keys under the same masks

`rekey f` replaces every upstream API key by its image under `f`. Where `f` keeps both masks, each function of the
proxies does with the replaced keys what it did before: all state is kept under masked keys, and the keys themselves
go nowhere but to the upstream.
-/
namespace AiRouter

/-- Both masks of a key and of its replacement are the same. -/
structure KeepsMasks (f : String → String) : Prop where
  handler : ∀ key, maskWith 8 4 (f key) = maskWith 8 4 key
  balancer : ∀ key, maskWith 6 3 (f key) = maskWith 6 3 key

section
variable (f : String → String)

def EndpointConfig.rekey (ep : EndpointConfig) : EndpointConfig := { ep with key := f ep.key }

def ModelConfig.rekey (m : ModelConfig) : ModelConfig := { m with endpoints := m.endpoints.map (·.rekey f) }

def AppConfig.rekey (cfg : AppConfig) : AppConfig := { cfg with models := cfg.models.map (·.rekey f) }

def AppState.rekey (app : AppState) : AppState := { app with config := app.config.rekey f }

def Charged.rekey (s : Charged) : Charged := { s with app := s.app.rekey f }

def SelectedEndpoint.rekey (ep : SelectedEndpoint) : SelectedEndpoint := { ep with apiKey := f ep.apiKey }

def Response.rekey : Response → Response
  | .passedOn ep status body => .passedOn (ep.rekey f) status body
  | .lastFailure ep status body => .lastFailure (ep.rekey f) status body
  | r => r

def Ending.rekey : Ending → Ending
  | .responded r => .responded (r.rekey f)
  | .panicked p => .panicked p

def Visit.rekey (v : Visit) : Visit := { v with endpoint := v.endpoint.rekey f }

def LoopState.rekey (s : LoopState) : LoopState where
  app := s.app.rekey f
  ledger := s.ledger
  current := s.current.rekey f
  triedKeys := s.triedKeys
  lastError := s.lastError.map (·.rekey f)
  trace := s.trace.map (·.rekey f)

def Run.rekey (run : Run) : Run where
  app := run.app.rekey f
  ledger := run.ledger
  trace := run.trace.map (·.rekey f)
  ending := run.ending.map (·.rekey f)

/-! ## The same outside -/

/-- Others do the same, and publish the same configurations up to the keys. -/
structure Others.Rekeyed (o o' : Others) : Prop where
  config : ∀ cfg, o'.config (cfg.rekey f) = (o.config cfg).rekey f
  rest : o' = { o with config := o'.config }

structure Turn.Rekeyed (t t' : Turn) : Prop where
  before : t.before.Rekeyed f t'.before
  during : t.during.Rekeyed f t'.during
  checkAt : t'.checkAt = t.checkAt
  reply : t'.reply = t.reply
  doneAt : t'.doneAt = t.doneAt

structure Env.Rekeyed (env env' : Env) : Prop where
  beforePick : env.beforePick.Rekeyed f env'.beforePick
  beforeLimits : env.beforeLimits.Rekeyed f env'.beforeLimits
  turn : ∀ k, (env.turn k).Rekeyed f (env'.turn k)
  startAt : env'.startAt = env.startAt
  limitsAt : env'.limitsAt = env.limitsAt

structure GenericEnv.Rekeyed (env env' : GenericEnv) : Prop where
  beforePick : env.beforePick.Rekeyed f env'.beforePick
  during : env.during.Rekeyed f env'.during
  limitsAt : env'.limitsAt = env.limitsAt
  callAt : env'.callAt = env.callAt
  reply : env'.reply = env.reply
  doneAt : env'.doneAt = env.doneAt

end

variable {f : String → String}

theorem disturb_rekey {o o' : Others} (h : o.Rekeyed f o') (app : AppState) :
    (app.rekey f).disturb o' = (app.disturb o).rekey f := by
  have hconfig := h.config app.config
  rw [h.rest]
  unfold AppState.disturb AppState.rekey
  dsimp only
  rw [hconfig]

/-! ## Configuration -/

theorem findModel_rekey (cfg : AppConfig) (name : String) :
    (cfg.rekey f).findModel name = (cfg.findModel name).map (·.rekey f) := by
  unfold AppConfig.findModel AppConfig.rekey
  rw [List.find?_map]
  rfl

@[simp] theorem canonicalModelName_rekey (cfg : AppConfig) (name : String) :
    (cfg.rekey f).canonicalModelName name = cfg.canonicalModelName name := by
  unfold AppConfig.canonicalModelName
  rw [findModel_rekey, Option.map_map]
  rfl

theorem tokenHasModelAccess_rekey (cfg : AppConfig) (tokenKey model : String) :
    (cfg.rekey f).tokenHasModelAccess tokenKey model = cfg.tokenHasModelAccess tokenKey model := rfl

/-! ## Selection -/

section
variable (hf : KeepsMasks f)
include hf

theorem Handler.epKey_rekey (url key : String) : Handler.epKey url (f key) = Handler.epKey url key := by
  unfold Handler.epKey Handler.maskKey
  rw [hf.handler]

theorem Balancer.epKey_rekey (url key : String) : Balancer.epKey url (f key) = Balancer.epKey url key := by
  unfold Balancer.epKey Balancer.maskKey
  rw [hf.balancer]

theorem scan_rekey (endpoints : List EndpointConfig) (bannedKeys triedKeys : Finset String) (start : Nat) :
    ∀ offsets, Balancer.scan (endpoints.map (·.rekey f)) bannedKeys triedKeys start offsets
      = (Balancer.scan endpoints bannedKeys triedKeys start offsets).map (·.map (·.rekey f)) := by
  intro offsets
  induction offsets with
  | nil => rfl
  | cons offset rest ih =>
    simp only [Balancer.scan, List.length_map, List.getElem?_map]
    cases endpoints[(start + offset) % endpoints.length]? with
    | none => rfl
    | some ep =>
      dsimp only [Option.map_some]
      have hkey : Balancer.epKey (ep.rekey f).url (ep.rekey f).key = Balancer.epKey ep.url ep.key :=
        Balancer.epKey_rekey hf ep.url ep.key
      rw [hkey]
      cases Balancer.epKey ep.url ep.key with
      | error p => rfl
      | ok key =>
        dsimp only
        split
        · exact ih
        · rfl

theorem Balancer.selectAvailable_rekey (cfg : AppConfig) (rr : RoundRobinCounters) (name : String)
    (bannedKeys triedKeys : Finset String) :
    Balancer.selectAvailable (cfg.rekey f) rr name bannedKeys triedKeys
      = ((Balancer.selectAvailable cfg rr name bannedKeys triedKeys).1,
          (Balancer.selectAvailable cfg rr name bannedKeys triedKeys).2.map (·.map (·.rekey f))) := by
  unfold Balancer.selectAvailable
  rw [findModel_rekey]
  cases cfg.findModel name with
  | none => rfl
  | some m =>
    have hlen : (m.rekey f).endpoints.length = m.endpoints.length := List.length_map _
    have hname : (m.rekey f).name = m.name := rfl
    simp only [Option.map_some, hlen, hname]
    split
    · rfl
    · exact Prod.ext rfl (scan_rekey hf m.endpoints bannedKeys triedKeys _ _)

theorem AppState.selectAvailable_rekey (app : AppState) (name : String) (bannedKeys triedKeys : Finset String) :
    (app.rekey f).selectAvailable name bannedKeys triedKeys
      = ((app.selectAvailable name bannedKeys triedKeys).1.rekey f,
          (app.selectAvailable name bannedKeys triedKeys).2.map (·.map (·.rekey f))) := by
  have hselect := Balancer.selectAvailable_rekey hf app.config app.roundRobin name bannedKeys triedKeys
  have hfst := congrArg Prod.fst hselect
  have hsnd := congrArg Prod.snd hselect
  refine Prod.ext ?_ hsnd
  change ({ app.rekey f with roundRobin := _ } : AppState) = _
  unfold AppState.selectAvailable AppState.rekey
  dsimp only
  rw [← hfst]

omit hf in
theorem selectEndpoint_rekey (cfg : AppConfig) (rr : RoundRobinCounters) (name : String) :
    Balancer.selectEndpoint (cfg.rekey f) rr name
      = ((Balancer.selectEndpoint cfg rr name).1,
          (Balancer.selectEndpoint cfg rr name).2.map (·.map (·.rekey f))) := by
  unfold Balancer.selectEndpoint
  rw [findModel_rekey]
  cases cfg.findModel name with
  | none => rfl
  | some m =>
    have hempty : (m.rekey f).endpoints.isEmpty = m.endpoints.isEmpty := List.isEmpty_map
    have hlen : (m.rekey f).endpoints.length = m.endpoints.length := List.length_map _
    have hname : (m.rekey f).name = m.name := rfl
    simp only [Option.map_some, hempty, hname]
    split
    · rfl
    · unfold Balancer.pickWeighted Balancer.buildSelected
      simp only [hlen]
      split
      · rfl
      · refine Prod.ext rfl (congrArg Except.ok ?_)
        change ((m.endpoints.map (·.rekey f))[_]?).map _ = _
        rw [List.getElem?_map]
        cases m.endpoints[(rr.next m.name m.endpoints.length).2]? <;> rfl

theorem collectBanned_rekey (now : Nat) : ∀ (eps : List EndpointConfig) (app : AppState) (bannedKeys : Finset String),
    (app.rekey f).collectBanned now (eps.map (·.rekey f)) bannedKeys
      = ((app.collectBanned now eps bannedKeys).1.rekey f, (app.collectBanned now eps bannedKeys).2)
  | [], _, _ => rfl
  | ep :: rest, app, bannedKeys => by
    have hkey : Handler.epKey (ep.rekey f).url (ep.rekey f).key = Handler.epKey ep.url ep.key :=
      Handler.epKey_rekey hf ep.url ep.key
    rw [List.map_cons]
    unfold AppState.collectBanned
    rw [hkey]
    cases Handler.epKey ep.url ep.key with
    | error p => rfl
    | ok k => exact collectBanned_rekey now rest (app.isBanned k now).1 _

theorem stickyPick_rekey (app : AppState) (model : Option ModelConfig) (bannedKeys : Finset String)
    (sessionId : Option String) (now : Nat) :
    stickyPick (app.rekey f) (model.map (·.rekey f)) bannedKeys sessionId now
      = ((stickyPick app model bannedKeys sessionId now).1.rekey f,
          (stickyPick app model bannedKeys sessionId now).2.map (·.map (·.rekey f))) := by
  cases sessionId with
  | none => rfl
  | some sid =>
    unfold stickyPick
    dsimp only [AppState.rekey]
    cases (app.sticky.get sid now).2.orElse fun _ => (app.sync.getSticky sid now).2 with
    | none => rfl
    | some idx =>
      cases model with
      | none => rfl
      | some m =>
        simp only [Option.map_some]
        have hget : (m.rekey f).endpoints[idx]? = m.endpoints[idx]?.map (·.rekey f) := List.getElem?_map
        have hlen : (m.rekey f).endpoints.length = m.endpoints.length := List.length_map _
        rw [hget, hlen]
        cases m.endpoints[idx]? with
        | none => rfl
        | some ep =>
          have hkey : Handler.epKey (ep.rekey f).url (ep.rekey f).key = Handler.epKey ep.url ep.key :=
            Handler.epKey_rekey hf ep.url ep.key
          simp only [Option.map_some, hkey]
          cases Handler.epKey ep.url ep.key with
          | error p => rfl
          | ok key =>
            dsimp only
            split <;> rfl

end

/-! ## Limits and charges -/

/-- A check that does the same with the replaced keys. -/
def Rekeys (f : String → String) (g : Gate.Check Charged Rejection) : Prop :=
  ∀ s : Charged, g (s.rekey f) = ((g s).1.rekey f, (g s).2)

theorem sharedCheck_rekeys (scope key : String) (limit now : Nat) (label : String) :
    Rekeys f (sharedCheck scope key limit now label) := fun _ => rfl

theorem localCheck_rekeys (key : String) (rpm tpm : Nat) (scope : RateLimitScope) (now : Nat) (label : String) :
    Rekeys f (localCheck key rpm tpm scope now label) := fun _ => rfl

theorem rateChecks_rekeys {cfg : AppConfig} {team tokenKey : String} {tokenRpm tokenTpm now : Nat} :
    ∀ g ∈ rateChecks cfg team tokenKey tokenRpm tokenTpm now, Rekeys f g := by
  intro g hg
  rcases mem_rateChecks hg with ⟨scope, key, limit, label, rfl⟩ | ⟨key, rpm, tpm, scope, label, rfl⟩
  · exact sharedCheck_rekeys scope key limit now label
  · exact localCheck_rekeys key rpm tpm scope now label

theorem checkAllRateLimits_rekey (cfg : AppConfig) (team tokenKey : String) (tokenRpm tokenTpm now : Nat)
    (s : Charged) :
    checkAllRateLimits (cfg.rekey f) team tokenKey tokenRpm tokenTpm now (s.rekey f)
      = ((checkAllRateLimits cfg team tokenKey tokenRpm tokenTpm now s).1.rekey f,
          (checkAllRateLimits cfg team tokenKey tokenRpm tokenTpm now s).2) :=
  Gate.runAll_map rateChecks_rekeys

/-- The checks of a request that has charged nothing yet. -/
theorem firstLimits_rekey (cfg : AppConfig) (team tokenKey : String) (tokenRpm tokenTpm now : Nat) (app : AppState) :
    checkAllRateLimits (cfg.rekey f) team tokenKey tokenRpm tokenTpm now { app := app.rekey f, ledger := [] }
      = ((checkAllRateLimits cfg team tokenKey tokenRpm tokenTpm now { app := app, ledger := [] }).1.rekey f,
          (checkAllRateLimits cfg team tokenKey tokenRpm tokenTpm now { app := app, ledger := [] }).2) :=
  checkAllRateLimits_rekey cfg team tokenKey tokenRpm tokenTpm now { app := app, ledger := [] }

theorem endpointChecks_rekeys {ep : SelectedEndpoint} {epKey : String} {now : Nat} :
    ∀ g ∈ endpointChecks ep epKey now, Rekeys f g := by
  intro g hg
  unfold endpointChecks at hg
  simp only [List.mem_append, List.mem_ite_nil_right, List.mem_singleton] at hg
  rcases hg with ⟨_, rfl⟩ | ⟨_, rfl⟩
  · exact sharedCheck_rekeys _ _ _ _ _
  · exact localCheck_rekeys _ _ _ _ _ _

theorem consume_rekey (s : Charged) (key : String) (tpm tokens now : Nat) :
    (s.rekey f).consume key tpm tokens now = (s.consume key tpm tokens now).rekey f := by
  unfold Charged.consume
  split <;> rfl

theorem chargeUsage_rekey (s : Charged) (team tokenKey epKey : String) (teamTpm tokenTpm endpointTpm total now : Nat) :
    chargeUsage (s.rekey f) team tokenKey epKey teamTpm tokenTpm endpointTpm total now
      = (chargeUsage s team tokenKey epKey teamTpm tokenTpm endpointTpm total now).rekey f := by
  unfold chargeUsage
  split
  · rw [consume_rekey, consume_rekey, consume_rekey]
  · rfl

/-! ## `proxy_handler` -/

/-- Up to the loop: a run that has ended, or the state that the loop starts with. -/
def rekeyStart (f : String → String) : Except Run (LoopCtx × LoopState) → Except Run (LoopCtx × LoopState)
  | .error run => .error (run.rekey f)
  | .ok (ctx, s) => .ok (ctx, s.rekey f)

section
variable (hf : KeepsMasks f)
include hf

theorem prepare_rekey {env env' : Env} (henv : env.Rekeyed f env') (app : AppState) (req : ChatRequest) :
    prepare env' (app.rekey f) req = rekeyStart f (prepare env app req) := by
  unfold prepare
  dsimp only
  have hconfig : (app.rekey f).config = app.config.rekey f := rfl
  rw [hconfig, canonicalModelName_rekey, tokenHasModelAccess_rekey, findModel_rekey]
  split
  · rfl
  · have hendpoints : (((app.config.findModel (app.config.canonicalModelName req.modelName)).map (·.rekey f)).map
        (·.endpoints)).getD []
        = (((app.config.findModel (app.config.canonicalModelName req.modelName)).map (·.endpoints)).getD []).map
          (·.rekey f) := by
      cases app.config.findModel (app.config.canonicalModelName req.modelName) <;> rfl
    rw [hendpoints, collectBanned_rekey hf, henv.startAt]
    cases hbanned : (app.collectBanned env.startAt
        (((app.config.findModel (app.config.canonicalModelName req.modelName)).map (·.endpoints)).getD []) ∅).2 with
    | error p => rfl
    | ok bannedKeys =>
      dsimp only
      have hany : ((app.config.findModel (app.config.canonicalModelName req.modelName)).map (·.rekey f)).any
            (fun m => m.endpoints.length = bannedKeys.card ∧ 0 < m.endpoints.length)
          = (app.config.findModel (app.config.canonicalModelName req.modelName)).any
            (fun m => m.endpoints.length = bannedKeys.card ∧ 0 < m.endpoints.length) := by
        cases app.config.findModel (app.config.canonicalModelName req.modelName) with
        | none => rfl
        | some m => simp [ModelConfig.rekey]
      rw [hany]
      split
      · rfl
      · rw [disturb_rekey henv.beforePick, stickyPick_rekey hf]
        generalize stickyPick _ _ bannedKeys req.sessionId env.startAt = sticky
        obtain ⟨app₁, pick⟩ := sticky
        cases pick with
        | error p => rfl
        | ok pick =>
          cases pick with
          | some ep =>
            dsimp only [Except.map, Option.map_some]
            rw [disturb_rekey henv.beforeLimits, henv.limitsAt, firstLimits_rekey]
            generalize checkAllRateLimits _ _ _ _ _ env.limitsAt _ = limited
            obtain ⟨c, rejection⟩ := limited
            cases rejection <;> rfl
          | none =>
            dsimp only [Except.map, Option.map_none]
            rw [AppState.selectAvailable_rekey hf]
            generalize AppState.selectAvailable app₁ _ bannedKeys ∅ = picked
            obtain ⟨app₂, ep⟩ := picked
            rcases ep with p | _ | ep
            · rfl
            · rfl
            · dsimp only [Except.map, Option.map_some]
              rw [disturb_rekey henv.beforeLimits, henv.limitsAt, firstLimits_rekey]
              generalize checkAllRateLimits _ _ _ _ _ env.limitsAt _ = limited
              obtain ⟨c, rejection⟩ := limited
              cases rejection <;> rfl

omit hf in
theorem visit_rekey (s : LoopState) (step : VisitStep) : (s.rekey f).visit step = (s.visit step).rekey f := by
  unfold LoopState.visit LoopState.rekey
  dsimp only
  rw [List.map_append]
  rfl

/-- The next endpoint is picked by the same keys. -/
theorem tryNext_rekey (s : LoopState) (ctx : LoopCtx) (epKey : String) (giveUp : Response) :
    (s.rekey f).tryNext ctx epKey (giveUp.rekey f)
      = (s.tryNext ctx epKey giveUp).map (·.rekey f) (·.rekey f) := by
  unfold LoopState.tryNext
  dsimp only [LoopState.rekey]
  rw [AppState.selectAvailable_rekey hf]
  generalize AppState.selectAvailable s.app _ _ _ = picked
  obtain ⟨app, ep⟩ := picked
  rcases ep with p | _ | ep <;> rfl

theorem retry_rekey (s : LoopState) (ctx : LoopCtx) (epKey : String) (response : Response) :
    (s.rekey f).retry ctx epKey (response.rekey f)
      = (s.retry ctx epKey response).map (·.rekey f) (·.rekey f) :=
  tryNext_rekey hf { s with lastError := some response } ctx epKey response

omit hf in
theorem chargeStream_rekey (s : LoopState) (deps : Externs) (ctx : LoopCtx) (epKey : String) (status : Nat)
    (body : List Chunk) (now : Nat) :
    (s.rekey f).chargeStream deps ctx epKey status body now
      = (s.chargeStream deps ctx epKey status body now).rekey f := by
  unfold LoopState.chargeStream
  split
  · have hcharge := chargeUsage_rekey (f := f) s.charged ctx.req.auth.team ctx.req.auth.tokenKey epKey ctx.teamTpm
      ctx.req.auth.tpm s.current.endpointLimitsTpm (Handler.streamUsage deps body).total now
    exact congrArg (s.rekey f).withCharged hcharge
  · rfl

omit hf in
theorem finish_rekey (s : LoopState) (deps : Externs) (ctx : LoopCtx) (epKey : String) (status : Nat)
    (body : List Chunk) (startAt now : Nat) :
    (s.rekey f).finish deps ctx epKey status body startAt now
      = (s.finish deps ctx epKey status body startAt now).rekey f := by
  unfold LoopState.finish
  dsimp only
  by_cases hstream : ctx.req.isStream = true
  · rw [if_pos hstream, if_pos hstream]
    rfl
  · have hcharge := chargeUsage_rekey (f := f)
      { app := (s.app.answered epKey ((now - startAt) / 1000000)).bindSession ctx.req.sessionId s.current.index now
        ledger := s.ledger }
      ctx.req.auth.team ctx.req.auth.tokenKey epKey (teamTpm s.app.config ctx.req.auth.team) ctx.req.auth.tpm
      s.current.endpointLimitsTpm (bodyUsage (deps.fromSlice (toBytes body))).total now
    rw [if_neg hstream, if_neg hstream]
    exact congrArg (fun c : Charged =>
      ({ s.rekey f with
        app := { c.app with
          liveStats := c.app.liveStats.recordRequest ctx.req.auth.tokenKey ctx.req.auth.team epKey
          stats :=
            if ctx.req.isAnthropic ∧ (deps.fromSlice (toBytes body)).isSome then c.app.stats
            else c.app.stats.recordRequest ctx.canonicalModel s.current.url ctx.req.auth.team
              (bodyUsage (deps.fromSlice (toBytes body))).prompt (bodyUsage (deps.fromSlice (toBytes body))).completion
              ((now - startAt) / 1000000) status (some (deps.hashToken ctx.req.auth.tokenKey)) s.current.costPrompt
              s.current.costCompletion now }
        ledger := c.ledger } : LoopState)) hcharge

theorem settle_rekey (deps : Externs) (ctx : LoopCtx) {t t' : Turn} (ht : t.Rekeyed f t') (epKey : String)
    (s : LoopState) (status : Nat) (body : List Chunk) :
    settle deps ctx t' epKey (s.rekey f) status body
      = (settle deps ctx t epKey s status body).map (·.rekey f) (·.rekey f) := by
  unfold settle
  dsimp only
  rw [ht.doneAt, ht.checkAt, chargeStream_rekey]
  generalize s.chargeStream deps ctx epKey status body t.doneAt = s₁
  have hclassify : (s₁.rekey f).app.classify epKey status t.doneAt
      = (s₁.app.classify epKey status t.doneAt).rekey f := by
    unfold AppState.classify
    change (if s₁.app.fail2ban.isFailStatus status then _ else _) = _
    split <;> rfl
  rw [hclassify]
  change (if status < 400 ∨ ¬ (ctx.retryOnFailure ∧ s₁.app.fail2ban.isFailStatus status) then _ else _) = _
  split
  · have hfinish := finish_rekey (f := f) { s₁ with app := s₁.app.classify epKey status t.doneAt } deps ctx epKey
      status body t.checkAt t.doneAt
    exact congrArg (fun s' : LoopState =>
      Loop.Flow.exit s' (Ending.responded (.passedOn (s₁.current.rekey f) status body))) hfinish
  · exact retry_rekey hf
      { s₁ with app := (s₁.app.classify epKey status t.doneAt).noteError ctx.req epKey } ctx epKey
      (.lastFailure s₁.current status body)

theorem callFailed_rekey (ctx : LoopCtx) {t t' : Turn} (ht : t.Rekeyed f t') (epKey : String) (s : LoopState)
    (message : String) :
    callFailed ctx t' epKey (s.rekey f) message
      = (callFailed ctx t epKey s message).map (·.rekey f) (·.rekey f) := by
  unfold callFailed
  dsimp only
  rw [ht.doneAt]
  split
  · exact retry_rekey hf { s with app := (s.app.failed epKey 0 t.doneAt).noteError ctx.req epKey } ctx epKey
      (badGateway message)
  · rfl

theorem attempt_rekey (deps : Externs) (ctx : LoopCtx) {t t' : Turn} (ht : t.Rekeyed f t') (epKey : String)
    (s : LoopState) :
    attempt deps ctx t' epKey (s.rekey f) = (attempt deps ctx t epKey s).map (·.rekey f) (·.rekey f) := by
  unfold attempt
  dsimp only
  rw [ht.reply, visit_rekey]
  generalize s.visit (if ctx.req.bodyError.isSome then .unsent else .sent t.reply) = s₁
  have hduring : { s₁.rekey f with app := (s₁.rekey f).app.disturb t'.during }
      = ({ s₁ with app := s₁.app.disturb t.during } : LoopState).rekey f := by
    unfold LoopState.rekey
    dsimp only
    rw [disturb_rekey ht.during]
  rw [hduring]
  cases hcall : call ctx.req.isStream ctx.req.bodyError t.reply with
  | returned r =>
    have hr : r.rekey f = r := by
      unfold call at hcall
      split at hcall
      · cases hcall
        rfl
      · cases hcall
        rfl
      · cases hcall
      · cases hcall
      · cases hcall
      · split at hcall <;> cases hcall
    dsimp only [Loop.Flow.map, Ending.rekey]
    rw [hr]
  | ok status body => exact settle_rekey hf deps ctx ht epKey _ status body
  | err message => exact callFailed_rekey hf ctx ht epKey _ message

/-- **A round** does the same. -/
theorem turn_rekey (deps : Externs) (ctx : LoopCtx) {t t' : Turn} (ht : t.Rekeyed f t') (s : LoopState) :
    turn deps ctx t' (s.rekey f) = (turn deps ctx t s).map (·.rekey f) (·.rekey f) := by
  unfold turn
  dsimp only
  have hbefore : { s.rekey f with app := (s.rekey f).app.disturb t'.before }
      = ({ s with app := s.app.disturb t.before } : LoopState).rekey f := by
    unfold LoopState.rekey
    dsimp only
    rw [disturb_rekey ht.before]
  have hkey : Handler.epKey (s.rekey f).current.url (s.rekey f).current.apiKey
      = Handler.epKey s.current.url s.current.apiKey := Handler.epKey_rekey hf s.current.url s.current.apiKey
  rw [hbefore, hkey, ht.checkAt]
  cases Handler.epKey s.current.url s.current.apiKey with
  | error p => exact congrArg (fun s' : LoopState => Loop.Flow.exit s' (Ending.panicked p)) (visit_rekey _ _)
  | ok epKey =>
    dsimp only
    generalize hs₁ : ({ s with app := s.app.disturb t.before } : LoopState) = s₁
    have hchecks : Gate.runAll (endpointChecks (s.rekey f).current epKey t.checkAt) (s₁.rekey f).charged
        = ((Gate.runAll (endpointChecks s.current epKey t.checkAt) s₁.charged).1.rekey f,
            (Gate.runAll (endpointChecks s.current epKey t.checkAt) s₁.charged).2) := by
      change Gate.runAll (endpointChecks s.current epKey t.checkAt) (s₁.charged.rekey f) = _
      exact Gate.runAll_map endpointChecks_rekeys
    rw [hchecks]
    generalize Gate.runAll (endpointChecks s.current epKey t.checkAt) s₁.charged = checked
    obtain ⟨c, rejection⟩ := checked
    cases rejection with
    | some rej =>
      have hvisit := visit_rekey (f := f) (s₁.withCharged c) .limited
      dsimp only
      rw [← tryNext_rekey hf ((s₁.withCharged c).visit .limited) ctx epKey rej.response, ← hvisit]
      rfl
    | none => exact attempt_rekey hf deps ctx ht epKey (s₁.withCharged c)

omit hf in
/-- What a body is refused with has no endpoint. -/
theorem readBody_refused {deps : Externs} {parseError : List UInt8 → String} {body : List Chunk} {response : Response}
    (h : Handler.readBody deps parseError body = .error response) : response.rekey f = response := by
  unfold Handler.readBody at h
  split at h
  · cases h
    rfl
  · split at h <;> cases h
    rfl

theorem upToSelection_rekey (site : Site) {env env' : Env} (henv : env.Rekeyed f env') (app : AppState)
    (raw : RawRequest) :
    Handler.upToSelection site.deps site.toVec site.parseError env' (app.rekey f) raw
      = rekeyStart f (Handler.upToSelection site.deps site.toVec site.parseError env app raw) := by
  have hconfig : (app.rekey f).config = app.config.rekey f := rfl
  unfold Handler.upToSelection
  rcases hread : Handler.readBody site.deps site.parseError raw.body with response | ⟨bytes, json⟩
  · have hsame : response.rekey f = response := readBody_refused hread
    dsimp only [earlyRun, rekeyStart, Run.rekey, Option.map_some, Ending.rekey, List.map_nil]
    rw [hsame]
    rfl
  · have hforwarded : Handler.forwardedBody site.toVec (app.config.rekey f) raw.path bytes json
        = Handler.forwardedBody site.toVec app.config raw.path bytes json := by
      unfold Handler.forwardedBody
      simp only [canonicalModelName_rekey]
    dsimp only
    rw [hconfig, hforwarded]
    cases Handler.forwardedBody site.toVec app.config raw.path bytes json with
    | error p => rfl
    | ok fwd =>
      dsimp only
      have hlog : Handler.logForbidden (app.config.rekey f) (raw.chat site.deps site.parseError json fwd)
          = Handler.logForbidden app.config (raw.chat site.deps site.parseError json fwd) := by
        unfold Handler.logForbidden
        rw [canonicalModelName_rekey, tokenHasModelAccess_rekey]
      rw [hlog]
      cases Handler.logForbidden app.config (raw.chat site.deps site.parseError json fwd) with
      | error p => rfl
      | ok _ => exact prepare_rekey hf henv app _

/-- **The whole of `proxy_handler`.** -/
theorem serve_rekey (site : Site) {env env' : Env} (henv : env.Rekeyed f env') (fuel : Nat) (app : AppState)
    (raw : RawRequest) :
    Handler.serve site env' fuel (app.rekey f) raw = (Handler.serve site env fuel app raw).rekey f := by
  unfold Handler.serve
  rw [upToSelection_rekey hf site henv]
  rcases Handler.upToSelection site.deps site.toVec site.parseError env app raw with run | ⟨ctx, s⟩
  · rfl
  · have hloop : retryLoop site.deps env' ctx fuel (s.rekey f)
        = (retryLoop site.deps env ctx fuel s).map (·.rekey f) (·.rekey f) :=
      Loop.run_map (fun k s => turn_rekey hf site.deps ctx (henv.turn k) s) fuel 0 s
    dsimp only [rekeyStart]
    rw [hloop]
    cases retryLoop site.deps env ctx fuel s <;> rfl

/-! ## `proxy_generic` -/

omit hf in
theorem classifyStream_rekey (app : AppState) (epKey : String) (status latencyMs now : Nat) :
    Generic.classifyStream (app.rekey f) epKey status latencyMs now
      = (Generic.classifyStream app epKey status latencyMs now).rekey f := by
  unfold Generic.classifyStream
  split <;> rfl

omit hf in
theorem classifyWhole_rekey (app : AppState) (epKey : String) (status latencyMs now : Nat) :
    Generic.classifyWhole (app.rekey f) epKey status latencyMs now
      = (Generic.classifyWhole app epKey status latencyMs now).rekey f := by
  unfold Generic.classifyWhole
  change (if 400 ≤ status ∧ app.fail2ban.isFailStatus status then _ else _) = _
  split <;> rfl

def GenericCall.rekey (f : String → String) (c : GenericCall) : GenericCall :=
  { c with endpoint := c.endpoint.rekey f }

omit hf in
theorem charge_rekey (c : GenericCall) (s : Charged) (total now : Nat) :
    (c.rekey f).charge (s.rekey f) total now = (c.charge s total now).rekey f :=
  chargeUsage_rekey s _ _ _ _ _ _ total now

omit hf in
theorem streamed_rekey (c : GenericCall) (deps : Externs) (s : Charged) (status : Nat) (body : List Chunk)
    (latencyMs now : Nat) :
    (c.rekey f).streamed deps (s.rekey f) status body latencyMs now
      = ((c.streamed deps s status body latencyMs now).1.rekey f,
          (c.streamed deps s status body latencyMs now).2.rekey f) := by
  unfold GenericCall.streamed
  split
  · dsimp only
    cases Generic.streamUsage deps body with
    | none => 
      dsimp only [Charged.rekey]
      rw [classifyStream_rekey]
      rfl
    | some usage =>
      dsimp only
      rw [charge_rekey]
      dsimp only [Charged.rekey]
      rw [classifyStream_rekey]
      rfl
  · dsimp only [Charged.rekey]
    rw [classifyStream_rekey]
    rfl

omit hf in
theorem whole_rekey (c : GenericCall) (deps : Externs) (s : Charged) (status : Nat) (body : List Chunk)
    (latencyMs now : Nat) :
    (c.rekey f).whole deps (s.rekey f) status body latencyMs now
      = ((c.whole deps s status body latencyMs now).1.rekey f,
          (c.whole deps s status body latencyMs now).2.rekey f) := by
  unfold GenericCall.whole
  dsimp only
  rw [charge_rekey]
  generalize c.charge s (bodyUsage (deps.fromSlice (toBytes body))).total now = s₁
  have hclassify := classifyWhole_rekey (f := f) { s₁.app with
    stats := s₁.app.stats.recordRequest c.canonicalModel c.endpoint.url c.auth.team
      (bodyUsage (deps.fromSlice (toBytes body))).prompt (bodyUsage (deps.fromSlice (toBytes body))).completion
      latencyMs status none c.endpoint.costPrompt c.endpoint.costCompletion now } c.epKey status latencyMs now
  exact congrArg (fun app : AppState => (({ app := c.noteRequest app, ledger := s₁.ledger } : Charged),
    Response.passedOn (c.endpoint.rekey f) status [.ok (toBytes body)])) hclassify

omit hf in
theorem answer_rekey (c : GenericCall) (deps : Externs) (isStream : Bool) (s : Charged) (reply : Reply)
    (startAt now : Nat) :
    (c.rekey f).answer deps isStream (s.rekey f) reply startAt now
      = ((c.answer deps isStream s reply startAt now).1.rekey f,
          (c.answer deps isStream s reply startAt now).2.rekey f) := by
  unfold GenericCall.answer
  cases reply with
  | sendError e => rfl
  | response status body =>
    dsimp only
    split
    · exact streamed_rekey c deps s status body _ now
    · exact whole_rekey c deps s status body _ now

omit hf in
theorem resolveBody_rekey (cfg : AppConfig) (path : String) (body : ParsedBody) :
    Generic.resolveBody (cfg.rekey f) path body = Generic.resolveBody cfg path body := by
  have hmodel : ∀ multipartModel, Generic.modelOf (cfg.rekey f) path multipartModel
      = Generic.modelOf cfg path multipartModel := by
    intro multipartModel
    unfold Generic.modelOf AppConfig.rekey
    dsimp only
    rw [List.find?_map, List.head?_map, Option.map_map, Option.map_map]
    rfl
  cases body with
  | refused response => rfl
  | json model stream => rfl
  | other multipartModel =>
    unfold Generic.resolveBody
    dsimp only
    rw [hmodel]

/-- **`proxy_generic`**, for a body that is not refused with an endpoint. -/
theorem proxyGeneric_rekey (deps : Externs) {env env' : GenericEnv} (henv : env.Rekeyed f env') (app : AppState)
    {req : GenericRequest} (hbody : ∀ response, req.body = .refused response → response.rekey f = response) :
    proxyGeneric deps env' (app.rekey f) req = (proxyGeneric deps env app req).rekey f := by
  have hconfig : ∀ app : AppState, (app.rekey f).config = app.config.rekey f := fun _ => rfl
  unfold proxyGeneric
  dsimp only
  split
  · rfl
  · rw [hconfig, firstLimits_rekey, henv.limitsAt, resolveBody_rekey]
    generalize checkAllRateLimits app.config _ _ _ _ env.limitsAt _ = limited
    obtain ⟨c, rejection⟩ := limited
    cases rejection with
    | some rej => rfl
    | none =>
      dsimp only [Charged.rekey]
      rw [disturb_rekey henv.beforePick]
      cases hresolve : Generic.resolveBody app.config req.path req.body with
      | error response =>
        have hsame : response.rekey f = response := by
          unfold Generic.resolveBody at hresolve
          split at hresolve
          · rename_i hrefused
            cases hresolve
            exact hbody _ hrefused
          · cases hresolve
          · split at hresolve <;> cases hresolve
            rfl
        dsimp only [Run.rekey, Option.map_some, Ending.rekey, List.map_nil]
        rw [hsame]
        rfl
      | ok resolved =>
        obtain ⟨modelName, isStream⟩ := resolved
        dsimp only
        rw [canonicalModelName_rekey, tokenHasModelAccess_rekey]
        split
        · rfl
        · generalize c.app.disturb env.beforePick = app₁
          have hselect : Balancer.selectEndpoint (app₁.rekey f).config (app₁.rekey f).roundRobin
                (app.config.canonicalModelName modelName) = _ :=
            selectEndpoint_rekey app₁.config app₁.roundRobin (app.config.canonicalModelName modelName)
          rw [hselect]
          generalize Balancer.selectEndpoint app₁.config app₁.roundRobin _ = pick
          obtain ⟨rr, endpoint⟩ := pick
          rcases endpoint with p | _ | endpoint
          · rfl
          · rfl
          · dsimp only [Except.map, Option.map_some]
            have hkey : Handler.epKey (endpoint.rekey f).url (endpoint.rekey f).apiKey
                = Handler.epKey endpoint.url endpoint.apiKey := Handler.epKey_rekey hf endpoint.url endpoint.apiKey
            rw [hkey]
            cases Handler.epKey endpoint.url endpoint.apiKey with
            | error p => rfl
            | ok epKey =>
              dsimp only
              rw [henv.reply, henv.callAt, henv.doneAt]
              have hduring : ({ app₁.rekey f with roundRobin := rr } : AppState).disturb env'.during
                  = (({ app₁ with roundRobin := rr } : AppState).disturb env.during).rekey f :=
                disturb_rekey henv.during { app₁ with roundRobin := rr }
              have hanswer := answer_rekey (f := f)
                { auth := req.auth, canonicalModel := app.config.canonicalModelName modelName, endpoint := endpoint
                  epKey := epKey, teamTpm := teamTpm app₁.config req.auth.team }
                deps isStream
                { app := ({ app₁ with roundRobin := rr } : AppState).disturb env.during, ledger := c.ledger }
                env.reply env.callAt env.doneAt
              dsimp only [Charged.rekey] at hanswer
              rw [← hduring] at hanswer
              exact congrArg (fun r : Charged × Response =>
                ({ app := r.1.app, ledger := r.1.ledger
                   trace := [{ endpoint := endpoint.rekey f, step := .sent env.reply }]
                   ending := some (.responded r.2) } : Run)) hanswer

end

end AiRouter
