import AiRouter.Checker
import AiRouter.Generic
import AiRouter.HandlerSpec
import AiRouter.Reach

/-
# What one endpoint's outcomes do to another's records

Everything about an endpoint is kept under its handler key, and the balancer looks for its own key
among the banned and the tried ones. An outcome writes under the handler key of the endpoint it
happened on, and under the team and the token that asked.
-/
namespace AiRouter

/-- What is kept about the endpoint with this key. -/
structure EndpointRecords where
  breaker : Option EndpointState
  sharedBan : Option RedisEntry
  sharedCount : Option RedisEntry
  budget : Option RateLimitPair
  health : Option EndpointHealth

def AppState.records (app : AppState) (epKey : String) : EndpointRecords where
  breaker := app.fail2ban.states.lookup epKey
  sharedBan := app.sync.redis.entries.lookup (app.sync.banKey epKey)
  sharedCount := app.sync.redis.entries.lookup (app.sync.rateKey "ep" epKey)
  budget := app.limiters.limiters.lookup (epRlKey epKey)
  health := app.healthStore.states.lookup epKey

/-- The shared state and the two sets of keys a request fills. -/
structure World where
  app : AppState
  ledger : List Charge
  bannedKeys : Finset String
  triedKeys : Finset String

/-- What can happen on an endpoint. -/
inductive Outcome where
  /-- a round of `proxy_handler`: turned away by its limits, failed or answered -/
  | round (deps : Externs) (ctx : LoopCtx) (checkAt : Nat) (reply : Reply) (doneAt : Nat)
  /-- a call of `proxy_generic` -/
  | generic (deps : Externs) (auth : AuthContext) (canonicalModel : String) (teamTpm : Nat)
      (isStream : Bool) (reply : Reply) (startAt doneAt : Nat)
  /-- a probe of the health checker -/
  | probe (reply : ProbeReply) (now : Nat)
  /-- the look at its bans when a request starts -/
  | lookup (now : Nat)

/-- The caller, if there is one, is a token of the configuration. -/
def Outcome.For (cfg : AppConfig) : Outcome → Prop
  | .round _ ctx _ _ _ => ∃ tokenKey, authenticate cfg tokenKey = some ctx.req.auth
  | .generic _ auth _ _ _ _ _ _ => ∃ tokenKey, authenticate cfg tokenKey = some auth
  | .probe _ _ => True
  | .lookup _ => True

namespace World

/-- The loop at an endpoint. -/
def entry (w : World) (sel : SelectedEndpoint) : LoopState where
  app := w.app
  ledger := w.ledger
  current := sel
  triedKeys := w.triedKeys
  lastError := none
  trace := []

/-- The loop after its round, with nothing else going on. -/
def roundOn (w : World) (sel : SelectedEndpoint) (deps : Externs) (ctx : LoopCtx) (checkAt : Nat)
    (reply : Reply) (doneAt : Nat) : LoopState :=
  (turn deps { ctx with bannedKeys := w.bannedKeys }
    { before := .quiet, checkAt := checkAt, during := .quiet, reply := reply, doneAt := doneAt }
    (w.entry sel)).state

def step (ep : EndpointConfig) (i total : Nat) (w : World) : Outcome → World
  | .round deps ctx checkAt reply doneAt =>
    let s := w.roundOn (ep.selected i total) deps ctx checkAt reply doneAt
    { w with app := s.app, ledger := s.ledger, triedKeys := s.triedKeys }
  | .generic deps auth canonicalModel teamTpm isStream reply startAt doneAt =>
    match Handler.epKey ep.url ep.key with
    | .error _ => w
    | .ok epKey =>
      let c : GenericCall :=
        { auth := auth, canonicalModel := canonicalModel, endpoint := ep.selected i total
          epKey := epKey, teamTpm := teamTpm }
      let r := (c.answer deps isStream { app := w.app, ledger := w.ledger } reply startAt doneAt).1
      { w with app := r.app, ledger := r.ledger }
  | .probe reply now =>
    { w with app := (w.app.probeEndpoint ep { before := .quiet, reply := reply, doneAt := now }).1 }
  | .lookup now =>
    let r := w.app.collectBanned now [ep] w.bannedKeys
    match r.2 with
    | .error _ => { w with app := r.1 }
    | .ok bannedKeys => { w with app := r.1, bannedKeys := bannedKeys }

def run (ep : EndpointConfig) (i total : Nat) (w : World) (os : List Outcome) : World :=
  os.foldl (step ep i total) w

/-- Nothing about `second` has changed: its records, and whether a selector may take it. -/
structure SameFor (second : EndpointConfig) (w w' : World) : Prop where
  records : ∀ k, Handler.epKey second.url second.key = .ok k → w'.app.records k = w.app.records k
  eligible : ∀ k, Handler.epKey second.url second.key = .ok k ∨ Balancer.epKey second.url second.key = .ok k →
    (k ∈ w'.bannedKeys ↔ k ∈ w.bannedKeys) ∧ (k ∈ w'.triedKeys ↔ k ∈ w.triedKeys)

theorem SameFor.refl (second : EndpointConfig) (w : World) : SameFor second w w :=
  ⟨fun _ _ => rfl, fun _ _ => ⟨Iff.rfl, Iff.rfl⟩⟩

theorem SameFor.trans {second : EndpointConfig} {w w' w'' : World} (h : SameFor second w w')
    (h' : SameFor second w' w'') : SameFor second w w'' := by
  refine ⟨fun k hk => (h'.records k hk).trans (h.records k hk), fun k hk => ?_⟩
  obtain ⟨hb, ht⟩ := h.eligible k hk
  obtain ⟨hb', ht'⟩ := h'.eligible k hk
  exact ⟨hb'.trans hb, ht'.trans ht⟩

end World

/-- No sequence of outcomes on `first` changes anything about `second`. -/
def Isolated (cfg : AppConfig) (first second : EndpointConfig) : Prop :=
  ∀ (i total : Nat) (w : World) (os : List Outcome), w.app.config = cfg → (∀ o ∈ os, o.For cfg) →
    w.SameFor second (w.run first i total os)

/-- The records of the endpoint kept under `k'` are out of reach of outcomes kept under `k`, asked
for by `auth`. -/
def Apart (k k' : String) (auth : AuthContext) : Prop :=
  k' ≠ k ∧ (0 < auth.tpm → auth.tokenKey ≠ epRlKey k')

/-- `first` is kept under no key of `second`, and no token with a TPM limit has the name under
which the budget of `second` is kept. -/
def KeptApart (cfg : AppConfig) (first second : EndpointConfig) : Prop :=
  ∀ k, Handler.epKey first.url first.key = .ok k →
    (∀ k', Handler.epKey second.url second.key = .ok k' →
      k' ≠ k ∧ ∀ tokenKey auth, authenticate cfg tokenKey = some auth → 0 < auth.tpm →
        tokenKey ≠ epRlKey k') ∧
    (∀ k', Balancer.epKey second.url second.key = .ok k' → k' ≠ k)

/-! ## Frame -/

section
variable {k k' : String} {auth : AuthContext}

theorem records_of_sync (app : AppState) {sync : SyncStore} {key : String}
    (h : SyncStore.OnlyAt key app.sync sync) (hban : app.sync.banKey k' ≠ key)
    (hrate : app.sync.rateKey "ep" k' ≠ key) : { app with sync := sync }.records k' = app.records k' := by
  have hb : sync.redis.entries.lookup (sync.banKey k')
      = app.sync.redis.entries.lookup (app.sync.banKey k') := by
    rw [show sync.banKey k' = app.sync.banKey k' by unfold SyncStore.banKey; rw [h.keyPrefix]]
    exact h.others _ hban
  have hr : sync.redis.entries.lookup (sync.rateKey "ep" k')
      = app.sync.redis.entries.lookup (app.sync.rateKey "ep" k') := by
    rw [show sync.rateKey "ep" k' = app.sync.rateKey "ep" k' by
      unfold SyncStore.rateKey; rw [h.keyPrefix]]
    exact h.others _ hrate
  unfold AppState.records
  simp only [hb, hr]

/-- The breaker and the health records of other endpoints may change. -/
theorem records_of_stores (app : AppState) {fb : Fail2ban} {health : HealthStore}
    (hf : fb.states.lookup k' = app.fail2ban.states.lookup k')
    (hh : health.states.lookup k' = app.healthStore.states.lookup k') :
    { app with fail2ban := fb, healthStore := health }.records k' = app.records k' := by
  unfold AppState.records
  simp only [hf, hh]

theorem records_of_limiters {app : AppState} {limiters : RateLimiterStore}
    (h : limiters.limiters.lookup (epRlKey k') = app.limiters.limiters.lookup (epRlKey k')) :
    { app with limiters := limiters }.records k' = app.records k' := by
  unfold AppState.records
  simp only [h]

theorem records_consume (s : Charged) {key : String} {tpm tokens now : Nat}
    (h : 0 < tpm → key ≠ epRlKey k') : (s.consume key tpm tokens now).app.records k' = s.app.records k' := by
  unfold Charged.consume
  split
  · rename_i htpm
    exact records_of_limiters (s.app.limiters.consumeTpm_lookup_ne tpm tokens now (h htpm).symm)
  · rfl

/-- **A charge** touches the team's, the token's and the endpoint's own bucket. -/
theorem records_chargeUsage (s : Charged) (h : Apart k k' auth)
    (team : String) (teamTpm endpointTpm total now : Nat) :
    (chargeUsage s team auth.tokenKey k teamTpm auth.tpm endpointTpm total now).app.records k'
      = s.app.records k' := by
  obtain ⟨hk, htoken⟩ := h
  unfold chargeUsage
  split
  · rw [records_consume _ fun _ he => hk (epRlKey_inj.1 he).symm, records_consume _ htoken,
      records_consume _ fun _ => teamKey_ne_epRlKey team k']
  · rfl

/-- **The limits of an endpoint** are checked against its own budgets. -/
theorem records_endpointChecks (ep : SelectedEndpoint) (hk : k' ≠ k) (now : Nat) (c : Charged) :
    (Gate.runAll (endpointChecks ep k now) c).1.app.records k' = c.app.records k' := by
  refine Gate.runAll_keeps (fun s : Charged => s.app.records k' = c.app.records k') (fun g hg s hs => ?_) rfl
  simp only [endpointChecks, List.mem_append, List.mem_ite_nil_right, List.mem_singleton] at hg
  rcases hg with ⟨_, rfl⟩ | ⟨_, rfl⟩
  · rw [← hs]
    exact records_of_sync s.app (s.app.sync.checkRateLimit_onlyAt "ep" k ep.endpointLimitsRpm now)
      (SyncStore.rateKey_ne_banKey _ _ _ _).symm fun he => hk (SyncStore.rateKey_inj.1 he)
  · rw [← hs]
    exact records_of_limiters (s.app.limiters.check_lookup_ne _ _ _ now .endpoint
      fun he => hk (epRlKey_inj.1 he))

theorem records_failed (app : AppState) (hk : k' ≠ k) (statusCode now : Nat) :
    (app.failed k statusCode now).records k' = app.records k' := by
  have hstores := records_of_stores app (app.fail2ban.recordFailureWithCode_lookup_ne statusCode now hk)
    (app.healthStore.recordError_lookup_ne hk)
  rw [← hstores]
  unfold AppState.failed
  dsimp only
  split
  · exact records_of_sync { app with
      fail2ban := (app.fail2ban.recordFailureWithCode k statusCode now).1
      healthStore := app.healthStore.recordError k } (app.sync.setBan_onlyAt k 60 now)
      (fun he => hk (SyncStore.banKey_inj.1 he)) (SyncStore.rateKey_ne_banKey _ _ _ _)
  · rfl

theorem records_classify (app : AppState) (hk : k' ≠ k) (status now : Nat) :
    (app.classify k status now).records k' = app.records k' := by
  unfold AppState.classify
  split
  · exact records_failed app hk status now
  · exact records_of_stores app (app.fail2ban.recordSuccess_lookup_ne hk) rfl

theorem recordRequest_recordLatency_lookup_ne (health : HealthStore) (hk : k' ≠ k) (latencyMs : Nat) :
    ((health.recordRequest k).recordLatency k latencyMs).states.lookup k' = health.states.lookup k' := by
  rw [HealthStore.recordLatency_lookup_ne _ _ hk, HealthStore.recordRequest_lookup_ne _ hk]

theorem records_answered (app : AppState) (hk : k' ≠ k) (latencyMs : Nat) :
    (app.answered k latencyMs).records k' = app.records k' :=
  records_of_stores app rfl (recordRequest_recordLatency_lookup_ne app.healthStore hk latencyMs)

/-- A session is bound under its own name. -/
theorem records_bindSession (app : AppState) (k' : String) (sessionId : Option String) (index now : Nat) :
    (app.bindSession sessionId index now).records k' = app.records k' := by
  cases sessionId with
  | none => rfl
  | some sid =>
    exact records_of_sync app (app.sync.setSticky_onlyAt sid index app.stickyTtlSecs now)
      (SyncStore.banKey_ne_stickyKey _ _ _) (SyncStore.rateKey_ne_stickyKey _ _ _ _)

/-! ### A round of `proxy_handler` -/

/-- Records apart from `k` are as they were, and no key but `k` has been tried. -/
structure Spares (k : String) (auth : AuthContext) (s s' : LoopState) : Prop where
  records : ∀ k', Apart k k' auth → s'.app.records k' = s.app.records k'
  tried : s'.triedKeys = s.triedKeys ∨ s'.triedKeys = insert k s.triedKeys

theorem Spares.of_eq {s s₁ s' : LoopState} (h : Spares k auth s₁ s')
    (hr : ∀ k', Apart k k' auth → s₁.app.records k' = s.app.records k') (ht : s₁.triedKeys = s.triedKeys) :
    Spares k auth s s' :=
  ⟨fun k' hk => (h.records k' hk).trans (hr k' hk), by rw [← ht]; exact h.tried⟩

variable {ctx : LoopCtx} {t : Turn} {deps : Externs}

theorem spares_tryNext (s : LoopState) (ctx : LoopCtx) (k : String) (giveUp : Response) :
    Spares k ctx.req.auth s (s.tryNext ctx k giveUp).state := by
  unfold LoopState.tryNext
  dsimp only
  split
  · exact ⟨fun _ _ => rfl, Or.inr rfl⟩
  · exact ⟨fun _ _ => rfl, Or.inr rfl⟩
  · exact ⟨fun _ _ => rfl, Or.inr rfl⟩

theorem spares_retry (s : LoopState) (ctx : LoopCtx) (k : String) (response : Response) :
    Spares k ctx.req.auth s (s.retry ctx k response).state :=
  (spares_tryNext { s with lastError := some response } ctx k _).of_eq (fun _ _ => rfl) rfl

theorem records_chargeStream (s : LoopState) (h : Apart k k' ctx.req.auth) (status : Nat)
    (body : List Chunk) (now : Nat) :
    (s.chargeStream deps ctx k status body now).app.records k' = s.app.records k' := by
  unfold LoopState.chargeStream
  split
  · exact records_chargeUsage s.charged h _ _ _ _ _
  · rfl

theorem records_finish (s : LoopState) (h : Apart k k' ctx.req.auth) (status : Nat)
    (body : List Chunk) (startAt now : Nat) :
    (s.finish deps ctx k status body startAt now).app.records k' = s.app.records k' := by
  have hbound := (records_bindSession (s.app.answered k ((now - startAt) / 1000000)) k' ctx.req.sessionId
    s.current.index now).trans (records_answered s.app h.1 ((now - startAt) / 1000000))
  unfold LoopState.finish
  dsimp only
  split
  · exact hbound
  · exact (records_chargeUsage _ h _ _ _ _ _).trans hbound

theorem finish_triedKeys (s : LoopState) (deps : Externs) (ctx : LoopCtx) (k : String) (status : Nat)
    (body : List Chunk) (startAt now : Nat) :
    (s.finish deps ctx k status body startAt now).triedKeys = s.triedKeys := by
  unfold LoopState.finish
  dsimp only
  split <;> rfl

theorem spares_settle (s : LoopState) (status : Nat) (body : List Chunk) :
    Spares k ctx.req.auth s (settle deps ctx t k s status body).state := by
  have hclass : ∀ k', Apart k k' ctx.req.auth →
      (s.classified deps ctx t k status body).app.records k' = s.app.records k' := fun k' h =>
    (records_classify _ h.1 status t.doneAt).trans (records_chargeStream s h status body t.doneAt)
  have htried : (s.classified deps ctx t k status body).triedKeys = s.triedKeys :=
    (chargeStream_frame deps ctx k s status body t.doneAt).2.2
  rw [settle_eq]
  split
  · exact ⟨fun k' h => (records_finish _ h _ _ _ _).trans (hclass k' h),
      Or.inl ((finish_triedKeys _ _ _ _ _ _ _ _).trans htried)⟩
  · exact (spares_retry _ ctx k _).of_eq hclass htried

theorem spares_callFailed (s : LoopState) (message : String) :
    Spares k ctx.req.auth s (callFailed ctx t k s message).state := by
  have hfailed : ∀ k', Apart k k' ctx.req.auth →
      (s.app.failed k 0 t.doneAt).records k' = s.app.records k' :=
    fun k' h => records_failed s.app h.1 0 t.doneAt
  unfold callFailed
  dsimp only
  split
  · exact (spares_retry _ ctx k _).of_eq hfailed rfl
  · exact ⟨hfailed, Or.inl rfl⟩

/-- **A round** spares every key that is apart from its endpoint's. -/
theorem spares_turn (s : LoopState) (hb : t.before = .quiet) (hd : t.during = .quiet)
    (hkey : Handler.epKey s.current.url s.current.apiKey = .ok k) :
    Spares k ctx.req.auth s (turn deps ctx t s).state := by
  have hchecks : ∀ k', Apart k k' ctx.req.auth →
      (Gate.runAll (endpointChecks s.current k t.checkAt) s.charged).1.app.records k' = s.app.records k' :=
    fun k' h => records_endpointChecks s.current h.1 t.checkAt s.charged
  unfold turn
  simp only [hb, disturb_quiet, hkey]
  split
  · exact (spares_tryNext _ ctx k _).of_eq hchecks rfl
  · unfold attempt
    simp only [hd, disturb_quiet]
    split
    · exact ⟨hchecks, Or.inl rfl⟩
    · exact (spares_settle _ _ _).of_eq hchecks rfl
    · exact (spares_callFailed _ _).of_eq hchecks rfl

/-! ### A call of `proxy_generic` -/

theorem records_noteFailure (app : AppState) (hk : k' ≠ k) (statusCode now : Nat) :
    (Generic.noteFailure app k statusCode now).records k' = app.records k' :=
  records_of_stores app (app.fail2ban.recordFailureWithCode_lookup_ne statusCode now hk)
    (app.healthStore.recordError_lookup_ne hk)

theorem records_noteSuccess (app : AppState) (hk : k' ≠ k) (latencyMs : Nat) :
    (Generic.noteSuccess app k latencyMs).records k' = app.records k' :=
  records_of_stores app (app.fail2ban.recordSuccess_lookup_ne hk)
    (recordRequest_recordLatency_lookup_ne app.healthStore hk latencyMs)

theorem records_answer (c : GenericCall) (h : Apart c.epKey k' c.auth) (isStream : Bool) (s : Charged)
    (reply : Reply) (startAt now : Nat) :
    (c.answer deps isStream s reply startAt now).1.app.records k' = s.app.records k' := by
  have hstream : ∀ (app : AppState) (status latencyMs : Nat),
      (Generic.classifyStream app c.epKey status latencyMs now).records k' = app.records k' := by
    intro app status latencyMs
    unfold Generic.classifyStream
    split
    · exact records_noteSuccess app h.1 latencyMs
    · exact records_noteFailure app h.1 status now
  have hwhole : ∀ (app : AppState) (status latencyMs : Nat),
      (Generic.classifyWhole app c.epKey status latencyMs now).records k' = app.records k' := by
    intro app status latencyMs
    unfold Generic.classifyWhole
    split
    · exact records_noteFailure app h.1 status now
    · exact records_noteSuccess app h.1 latencyMs
  unfold GenericCall.answer
  dsimp only
  split
  · exact records_noteFailure s.app h.1 0 now
  · split
    · unfold GenericCall.streamed
      split
      · refine (hstream _ _ _).trans ?_
        split
        · exact records_chargeUsage s h _ _ _ _ _
        · rfl
      · exact hstream _ _ _
    · exact (hwhole _ _ _).trans (records_chargeUsage s h _ _ _ _ _)

/-! ### A probe -/

theorem records_probed (app : AppState) (hk : k' ≠ k) (reply : ProbeReply) (now : Nat) :
    (app.probed k reply now).records k' = app.records k' := by
  have hbanned := app.fail2ban.isBanned_lookup_ne now hk
  have hfailed : ∀ code, (if (app.fail2ban.isBanned k now).2 then (app.fail2ban.isBanned k now).1
      else ((app.fail2ban.isBanned k now).1.recordFailureWithCode k code now).1).states.lookup k'
        = app.fail2ban.states.lookup k' := by
    intro code
    split
    · exact hbanned
    · exact (Fail2ban.recordFailureWithCode_lookup_ne _ code now hk).trans hbanned
  unfold AppState.probed
  cases reply with
  | error reason =>
    exact records_of_stores app (hfailed 0) (app.healthStore.setUnhealthy_lookup_ne reason now hk)
  | status code =>
    dsimp only
    split
    · refine records_of_stores app ?_ (app.healthStore.setHealthy_lookup_ne now hk)
      split
      · exact (Fail2ban.reset_lookup_ne _ hk).trans hbanned
      · exact hbanned
    · exact records_of_stores app (hfailed code) (app.healthStore.setUnhealthy_lookup_ne _ now hk)

/-! ### A look at the bans -/

theorem records_isBanned (app : AppState) (hk : k' ≠ k) (now : Nat) :
    (app.isBanned k now).1.records k' = app.records k' :=
  records_of_stores app (app.fail2ban.isBanned_lookup_ne now hk) rfl

end

/-! ## Steps and runs -/

section
variable {cfg : AppConfig} {first second : EndpointConfig}

theorem KeptApart.apart (h : KeptApart cfg first second) {k k' tokenKey : String} {auth : AuthContext}
    (hk : Handler.epKey first.url first.key = .ok k) (hk' : Handler.epKey second.url second.key = .ok k')
    (hauth : authenticate cfg tokenKey = some auth) : Apart k k' auth := by
  obtain ⟨hne, htoken⟩ := (h k hk).1 k' hk'
  refine ⟨hne, fun htpm => ?_⟩
  rw [tokenKey_of_authenticate hauth]
  exact htoken tokenKey auth hauth htpm

/-- Neither key of `second` is the key of `first`. -/
theorem KeptApart.key_ne (h : KeptApart cfg first second) {k k' : String}
    (hk : Handler.epKey first.url first.key = .ok k)
    (hk' : Handler.epKey second.url second.key = .ok k' ∨ Balancer.epKey second.url second.key = .ok k') :
    k' ≠ k := by
  rcases hk' with hk' | hk'
  · exact ((h k hk).1 k' hk').1
  · exact (h k hk).2 k' hk'

/-- An endpoint whose key cannot be masked has no outcome. -/
theorem step_of_panic {p : Panic} (hk : Handler.epKey first.url first.key = .error p) (i total : Nat)
    (w : World) (o : Outcome) : w.step first i total o = w := by
  cases o with
  | round deps ctx checkAt reply doneAt =>
    simp only [World.step, World.roundOn, World.entry, turn, disturb_quiet, selected_url, selected_apiKey, hk]
    rfl
  | generic deps auth canonicalModel teamTpm isStream reply startAt doneAt => simp only [World.step, hk]
  | probe reply now => simp only [World.step, AppState.probeEndpoint, probeKey_eq, hk]
  | lookup now => simp only [World.step, AppState.collectBanned, hk]

/-- **Step.** -/
theorem sameFor_step (h : KeptApart cfg first second) (i total : Nat) (w : World) {o : Outcome}
    (ho : o.For cfg) : w.SameFor second (w.step first i total o) := by
  cases hk : Handler.epKey first.url first.key with
  | error p =>
    rw [step_of_panic hk]
    exact .refl second w
  | ok k =>
    cases o with
    | round deps ctx checkAt reply doneAt =>
      obtain ⟨tokenKey, hauth⟩ := ho
      have hspares : Spares k ({ ctx with bannedKeys := w.bannedKeys } : LoopCtx).req.auth
          (w.entry (first.selected i total))
          (w.roundOn (first.selected i total) deps ctx checkAt reply doneAt) :=
        spares_turn _ rfl rfl hk
      refine ⟨fun k' hk' => hspares.records k' (h.apart hk hk' hauth), fun k' hk' => ⟨Iff.rfl, ?_⟩⟩
      have hne := h.key_ne hk hk'
      rcases hspares.tried with ht | ht
      · simp only [World.step, ht, World.entry]
      · simp only [World.step, ht, World.entry, Finset.mem_insert, hne, false_or]
    | generic deps auth canonicalModel teamTpm isStream reply startAt doneAt =>
      obtain ⟨tokenKey, hauth⟩ := ho
      simp only [World.step, hk]
      exact ⟨fun k' hk' => records_answer _ (h.apart hk hk' hauth) _ _ _ _ _, fun _ _ => ⟨Iff.rfl, Iff.rfl⟩⟩
    | probe reply now =>
      simp only [World.step, AppState.probeEndpoint, probeKey_eq, hk, disturb_quiet]
      exact ⟨fun k' hk' => records_probed w.app (h.key_ne hk (Or.inl hk')) _ _,
        fun _ _ => ⟨Iff.rfl, Iff.rfl⟩⟩
    | lookup now =>
      simp only [World.step, AppState.collectBanned, hk]
      refine ⟨fun k' hk' => records_isBanned w.app (h.key_ne hk (Or.inl hk')) now,
        fun k' hk' => ⟨?_, Iff.rfl⟩⟩
      have hne := h.key_ne hk hk'
      split
      · simp only [Finset.mem_insert, hne, false_or]
      · exact Iff.rfl

/-- **Run.** -/
theorem sameFor_run (h : KeptApart cfg first second) (i total : Nat) :
    ∀ (os : List Outcome) (w : World), (∀ o ∈ os, o.For cfg) → w.SameFor second (w.run first i total os)
  | [], w, _ => .refl second w
  | o :: os, w, hos =>
    (sameFor_step h i total w (hos o List.mem_cons_self)).trans
      (sameFor_run h i total os (w.step first i total o) fun o' ho' => hos o' (List.mem_cons_of_mem _ ho'))

/-! ## Outcomes that reach the other endpoint -/

/-- A look at a ban that is there puts the key among the banned ones. -/
theorem lookup_bans {k : String} (hk : Handler.epKey first.url first.key = .ok k) (cfg : AppConfig) :
    ({ app := startApp cfg { counters := ∅ } [k] { limiters := ∅ }, ledger := [], bannedKeys := ∅
       triedKeys := ∅ } : World).step first 0 1 (.lookup 0)
      = { app := startApp cfg { counters := ∅ } [k] { limiters := ∅ }, ledger := [], bannedKeys := {k}
          triedKeys := ∅ } := by
  have hban := startApp_isBanned cfg { counters := ∅ } [k] { limiters := ∅ } k
  rw [decide_eq_true (List.mem_singleton_self k)] at hban
  simp only [World.step, AppState.collectBanned, hk, hban]
  rfl

/-- Two endpoints with a key in common: what is looked up for one bans the other. -/
theorem not_isolated_of_shared {k : String} (hk : Handler.epKey first.url first.key = .ok k)
    (hk' : Handler.epKey second.url second.key = .ok k ∨ Balancer.epKey second.url second.key = .ok k) :
    ¬ Isolated cfg first second := by
  intro hiso
  have hsame := hiso 0 1
    { app := startApp cfg { counters := ∅ } [k] { limiters := ∅ }, ledger := [], bannedKeys := ∅
      triedKeys := ∅ } [.lookup 0] rfl (fun o ho => by rw [List.mem_singleton.1 ho]; trivial)
  unfold World.run at hsame
  rw [List.foldl_cons, List.foldl_nil, lookup_bans hk cfg] at hsame
  have hmem := (hsame.eligible k hk').1.1 (Finset.mem_singleton_self k)
  exact Finset.notMem_empty k hmem

theorem consume_opens (s : Charged) (key : String) {tpm n : Nat} (now : Nat) (htpm : 0 < tpm) (hn : 0 < n) :
    (s.consume key tpm n now).app.limiters.limiters.lookup key ≠ none := by
  intro h
  have htakes : (s.consume key tpm n now).app.limiters.tokens key = some _ := (consume_takes s htpm hn).2
  unfold RateLimiterStore.tokens at htakes
  rw [h] at htakes
  cases htakes

theorem consume_lookup_ne (s : Charged) {key key' : String} (tpm n now : Nat) (h : key' ≠ key) :
    (s.consume key tpm n now).app.limiters.limiters.lookup key' = s.app.limiters.limiters.lookup key' := by
  unfold Charged.consume
  split
  · exact s.app.limiters.consumeTpm_lookup_ne tpm n now h
  · rfl

/-- A whole answer of `proxy_generic` with more than one token of usage leaves the token a bucket. -/
theorem answer_opens_token_bucket (c : GenericCall) (s : Charged) (hlimited : 0 < c.auth.tpm)
    (hne : c.auth.tokenKey ≠ epRlKey c.epKey) :
    (c.answer .reading false s usageReply 0 0).1.app.limiters.limiters.lookup c.auth.tokenKey
      ≠ none := by
  have hclass : ∀ app : AppState, (Generic.classifyWhole app c.epKey 200 0 0).limiters = app.limiters := by
    intro app
    unfold Generic.classifyWhole
    split <;> rfl
  have hstate : (c.answer .reading false s usageReply 0 0).1.app.limiters
      = (c.charge s 12 0).app.limiters := hclass _
  rw [hstate]
  unfold GenericCall.charge chargeUsage
  rw [if_pos (by omega), consume_lookup_ne _ _ _ _ hne]
  exact consume_opens _ _ 0 hlimited (by decide)

/-- A limited token that has the name of the other endpoint's bucket: its usage is charged there. -/
theorem not_isolated_of_token {k k' tokenKey : String} {auth : AuthContext}
    (hk : Handler.epKey first.url first.key = .ok k) (hk' : Handler.epKey second.url second.key = .ok k')
    (hne : k' ≠ k) (hauth : authenticate cfg tokenKey = some auth) (hlimited : 0 < auth.tpm)
    (htoken : tokenKey = epRlKey k') : ¬ Isolated cfg first second := by
  intro hiso
  have hsame := hiso 0 1
    { app := startApp cfg { counters := ∅ } [] { limiters := ∅ }, ledger := [], bannedKeys := ∅
      triedKeys := ∅ } [.generic .reading auth "" 0 false usageReply 0 0] rfl
    (fun o ho => by rw [List.mem_singleton.1 ho]; exact ⟨tokenKey, hauth⟩)
  have hbudget := congrArg (·.budget) (hsame.records k' hk')
  have hkey : auth.tokenKey = epRlKey k' := (tokenKey_of_authenticate hauth).trans htoken
  unfold World.run at hbudget
  rw [List.foldl_cons, List.foldl_nil] at hbudget
  simp only [World.step, hk, AppState.records] at hbudget
  rw [← hkey] at hbudget
  have hother : auth.tokenKey ≠ epRlKey k := by
    rw [hkey]
    exact fun he => hne (epRlKey_inj.1 he)
  exact answer_opens_token_bucket { auth := auth, canonicalModel := "", endpoint := first.selected 0 1
                                    epKey := k, teamTpm := 0 } _ hlimited hother hbudget

end

/-- **Endpoints are isolated exactly when they are kept apart.** -/
theorem isolated_iff (cfg : AppConfig) (first second : EndpointConfig) :
    Isolated cfg first second ↔ KeptApart cfg first second := by
  constructor
  · intro hiso k hk
    refine ⟨fun k' hk' => ?_, fun k' hk' heq => ?_⟩
    · have hne : k' ≠ k := by
        rintro rfl
        exact not_isolated_of_shared hk (Or.inl hk') hiso
      exact ⟨hne, fun tokenKey auth hauth hlimited htoken =>
        not_isolated_of_token hk hk' hne hauth hlimited htoken hiso⟩
    · subst heq
      exact not_isolated_of_shared hk (Or.inr hk') hiso
  · intro h i total w os _ hos
    exact sameFor_run h i total os w hos

/-! ## The two endpoints of the shipped example -/

/-- An endpoint of `gpt-4o` in config.example.yaml. -/
def exampleEndpoint (key : String) : EndpointConfig where
  url := "https://api.openai.com"
  key := key
  limits := some { rpm := 500, tpm := 200000 }
  cost := some { prompt := 5 / 2, completion := 10 }
  weight := 1

def exampleConfig : AppConfig where
  teams := [{ name := "dev", models := ["*"], limits := none, costMultiplier := none }]
  tokens := [{ key := "sk-client", team := "dev", models := none, limits := none }]
  models :=
    [{ name := "gpt-4o", aliases := ["gpt-4"], modelType := "chat"
       endpoints :=
        [exampleEndpoint "sk-your-actual-openai-key-1-here",
         exampleEndpoint "sk-your-actual-openai-key-2-here"] }]
  fail2ban := .default

/-- Five refused probes of the first endpoint ban the second. -/
theorem example_endpoints_not_isolated :
    exampleConfig.Accepted ∧
      (exampleEndpoint "sk-your-actual-openai-key-1-here").key
        ≠ (exampleEndpoint "sk-your-actual-openai-key-2-here").key ∧
      Handler.epKey "https://api.openai.com" "sk-your-actual-openai-key-2-here"
        = .ok "https://api.openai.com:sk-y...here" ∧
      let w : World :=
        { app := startApp exampleConfig { counters := ∅ } [] { limiters := ∅ }, ledger := []
          bannedKeys := ∅, triedKeys := ∅ }
      let refused : Outcome := .probe (.error "connection refused") 0
      (w.app.fail2ban.isBanned "https://api.openai.com:sk-y...here" 0).2 = false ∧
        ((w.run (exampleEndpoint "sk-your-actual-openai-key-1-here") 0 2
          (List.replicate 5 refused)).app.fail2ban.isBanned "https://api.openai.com:sk-y...here" 0).2
          = true :=
  ⟨rfl, by decide, rfl, rfl, rfl⟩

end AiRouter
