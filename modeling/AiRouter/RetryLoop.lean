import AiRouter.Reach

/-
# The retry loop and the number of endpoints

The loop has no counter. What stops it is that the key the handler adds to `tried_keys` is the
key the balancer tests, which the two masks give for keys of at most six bytes only.
-/
namespace AiRouter

/-- An endpoint the loop can come back to for ever: it can send the loop round, and the balancer
knows it under a key that the handler never enters. -/
def ComesBack (cfg : AppConfig) (ep : EndpointConfig) : Prop :=
  Retriable cfg.fail2ban.retryOnFailure (ep.selected 0 0) ∧
    (∃ b, Balancer.epKey ep.url ep.key = .ok b) ∧ 6 < ep.key.utf8ByteSize

/-- A request by this token for this model name reaches the loop of a model with such an
endpoint. -/
def LoopHazard (cfg : AppConfig) (tokenKey modelName : String) : Prop :=
  cfg.tokenHasModelAccess tokenKey (cfg.canonicalModelName modelName) = true ∧
    ∃ m, cfg.findModel (cfg.canonicalModelName modelName) = some m ∧
      (∀ ep ∈ m.endpoints, ∃ h, Handler.epKey ep.url ep.key = .ok h) ∧ ∃ ep ∈ m.endpoints, ComesBack cfg ep

/-- The number of endpoints of the model that serves the name. -/
def endpointCount (cfg : AppConfig) (modelName : String) : Nat :=
  ((cfg.findModel (cfg.canonicalModelName modelName)).map (·.endpoints.length)).getD 0

/-- Every run of the handler is over after as many rounds as the model has endpoints, and visits
no endpoint twice. -/
def RetryLoopBounded (cfg : AppConfig) (tokenKey modelName : String) : Prop :=
  ∀ (deps : Externs) (env : Env) (app : AppState) (req : ChatRequest) (fuel : Nat),
    app.config = cfg → env.KeepsConfig → RequestOf cfg tokenKey modelName req →
    endpointCount cfg modelName ≤ fuel →
    (proxyHandler deps env fuel app req).ending.isSome ∧
      ((proxyHandler deps env fuel app req).trace.map (·.endpoint.index)).Nodup ∧
      (proxyHandler deps env fuel app req).trace.length ≤ endpointCount cfg modelName

/-! ## Without the hazard -/

/-- What holds before every round. -/
structure LoopInv (cfg : AppConfig) (m : ModelConfig) (s : LoopState) : Prop where
  config : s.app.config = cfg
  current : Balancer.PickOf m s.current
  picks : ∀ v ∈ s.trace, Balancer.PickOf m v.endpoint
  nodup : ((s.trace.map (·.endpoint.index)) ++ [s.current.index]).Nodup
  /-- every visited endpoint is among the tried ones under the balancer's key -/
  tried : ∀ v ∈ s.trace, ∀ b, Balancer.epKey v.endpoint.url v.endpoint.apiKey = .ok b → b ∈ s.triedKeys

section
variable {cfg : AppConfig} {m : ModelConfig} {ctx : LoopCtx} {s s' : LoopState}

/-- Distinct indices below `n` are at most `n` many. -/
theorem length_le_of_nodup {l : List Nat} {n : Nat} (hn : l.Nodup) (hlt : ∀ i ∈ l, i < n) :
    l.length ≤ n := by
  have hsub : l ⊆ List.range n := fun i hi => List.mem_range.2 (hlt i hi)
  have := (List.subperm_of_subset hn hsub).length_le
  rwa [List.length_range] at this

theorem LoopInv.length_lt (h : LoopInv cfg m s) : s.trace.length < m.endpoints.length := by
  have hle := length_le_of_nodup h.nodup (n := m.endpoints.length) (by
    intro i hi
    rcases List.mem_append.1 hi with hi | hi
    · obtain ⟨v, hv, rfl⟩ := List.mem_map.1 hi
      exact (h.picks v hv).index_lt
    · rw [List.mem_singleton.1 hi]
      exact h.current.index_lt)
  simp only [List.length_append, List.length_map, List.length_singleton] at hle
  omega

/-- The balancer's key of the endpoint that was just visited is the handler's, which was entered. -/
theorem LoopInv.visited_tried (hretry : ctx.retryOnFailure = cfg.fail2ban.retryOnFailure)
    (hno : ∀ ep ∈ m.endpoints, ¬ ComesBack cfg ep) (h : LoopInv cfg m s) (hr : RoundOn ctx s s') {b : String}
    (hb : Balancer.epKey s.current.url s.current.apiKey = .ok b) : b ∈ s'.triedKeys := by
  obtain ⟨epKey, hkey, htried, -⟩ := hr.picked
  obtain ⟨ep, hmem, _, hsel⟩ := h.current.mem
  have hurl : s.current.url = ep.url := by rw [hsel]; rfl
  have hapi : s.current.apiKey = ep.key := by rw [hsel]; rfl
  have hretr : Retriable cfg.fail2ban.retryOnFailure (ep.selected 0 0) := by
    have := hr.retriable
    rw [hretry, hsel] at this
    exact this
  rw [hurl, hapi] at hb hkey
  have hsize : ep.key.utf8ByteSize ≤ 6 := by
    by_contra hlong
    exact hno ep hmem ⟨hretr, ⟨b, hb⟩, by omega⟩
  rw [htried, ← (epKey_agree_iff hkey hb).2 hsize]
  exact Finset.mem_insert_self _ _

/-- **Step**: where no endpoint comes back, a round that goes on keeps the invariant and has
visited one endpoint more. -/
theorem LoopInv.step (hcanon : cfg.findModel ctx.canonicalModel = some m)
    (hretry : ctx.retryOnFailure = cfg.fail2ban.retryOnFailure)
    (hno : ∀ ep ∈ m.endpoints, ¬ ComesBack cfg ep) (h : LoopInv cfg m s) (hr : RoundOn ctx s s') :
    LoopInv cfg m s' ∧ s'.trace.length = s.trace.length + 1 := by
  obtain ⟨epKey, hkey, htried, rr, hpick⟩ := hr.picked
  obtain ⟨step, htrace⟩ := hr.visited
  rw [h.config] at hpick
  obtain ⟨m', b', hm', hp', hb', _, hfresh⟩ := Balancer.selectAvailable_found hpick
  rw [hcanon] at hm'
  obtain rfl := Option.some.inj hm'
  have htried' : ∀ v ∈ s'.trace, ∀ b, Balancer.epKey v.endpoint.url v.endpoint.apiKey = .ok b →
      b ∈ s'.triedKeys := by
    intro v hv b hb
    rw [htrace] at hv
    rcases List.mem_append.1 hv with hv | hv
    · rw [htried]; exact Finset.mem_insert_of_mem (h.tried v hv b hb)
    · rw [List.mem_singleton] at hv
      subst hv
      exact h.visited_tried hretry hno hr hb
  have hpicks' : ∀ v ∈ s'.trace, Balancer.PickOf m v.endpoint := by
    intro v hv
    rw [htrace] at hv
    rcases List.mem_append.1 hv with hv | hv
    · exact h.picks v hv
    · rw [List.mem_singleton] at hv
      subst hv
      exact h.current
  refine ⟨⟨hr.config.trans h.config, hp', hpicks', ?_, htried'⟩, by rw [htrace]; simp⟩
  have hmap : s'.trace.map (·.endpoint.index) = s.trace.map (·.endpoint.index) ++ [s.current.index] := by
    rw [htrace]; simp
  rw [hmap]
  refine List.Nodup.append h.nodup (List.nodup_singleton _) ?_
  -- an index visited before would have put the picked key among the tried ones
  rintro i hi hi'
  rw [List.mem_singleton] at hi'
  subst hi'
  rw [← hmap] at hi
  obtain ⟨v, hv, hvi⟩ := List.mem_map.1 hi
  have hsame : v.endpoint = s'.current := (hpicks' v hv).eq_of_index hp' hvi
  exact hfresh (htried' v hv b' (by rw [hsame]; exact hb'))

/-- **Run**: from the invariant the loop is left within `n` rounds, with `n` distinct visits at
most. -/
theorem LoopInv.run (deps : Externs) {env : Env} (henv : env.KeepsConfig)
    (hcanon : cfg.findModel ctx.canonicalModel = some m)
    (hretry : ctx.retryOnFailure = cfg.fail2ban.retryOnFailure)
    (hno : ∀ ep ∈ m.endpoints, ¬ ComesBack cfg ep) (h : LoopInv cfg m s) {fuel : Nat}
    (hfuel : m.endpoints.length ≤ fuel) :
    ∃ s' e, retryLoop deps env ctx fuel s = .exit s' e ∧
      (s'.trace.map (·.endpoint.index)).Nodup ∧ s'.trace.length ≤ m.endpoints.length := by
  have hround : ∀ k s, LoopInv cfg m s → (turn deps ctx (env.turn k) s).Sat
      (fun s' => LoopInv cfg m s' ∧ s'.trace.length = s.trace.length + 1)
      (fun s' _ => (s'.trace.map (·.endpoint.index)).Nodup ∧ s'.trace.length ≤ m.endpoints.length) := by
    intro k s hs
    refine (turn_sat (henv.2.2 k).1 (henv.2.2 k).2).mono (fun s' hr => ?_) (fun s' _ hl => ?_)
    · exact hs.step hcanon hretry hno hr
    · obtain ⟨step, htrace⟩ := hl.visited
      have hlt := hs.length_lt
      rw [htrace]
      refine ⟨by simpa using hs.nodup, ?_⟩
      rw [List.length_append, List.length_singleton]
      omega
  obtain ⟨s', e, hexit⟩ := Loop.run_exits (LoopInv cfg m)
    (fun s => m.endpoints.length - s.trace.length) (fun s hs => by have := hs.length_lt; omega)
    (fun k s hs => (hround k s hs).mono
      (fun s' hs' => ⟨hs'.1, by have := hs.length_lt; have := hs'.2; omega⟩) (fun _ _ _ => trivial))
    fuel 0 s h (by omega)
  have hpost := Loop.run_sat (fun k s hs => (hround k s hs).mono (fun _ hs' => hs'.1) (fun _ _ hp => hp))
    fuel 0 s h
  rw [hexit] at hpost
  exact ⟨s', e, hexit, hpost⟩

end

theorem bounded_of_no_hazard {cfg : AppConfig} {tokenKey modelName : String}
    (hno : ¬ LoopHazard cfg tokenKey modelName) : RetryLoopBounded cfg tokenKey modelName := by
  rintro deps env app req fuel rfl henv ⟨hauth, rfl⟩ hfuel
  unfold proxyHandler
  cases hprep : prepare env app req with
  | error run =>
    obtain ⟨htrace, hend, _⟩ := prepare_error hprep
    simp [htrace, hend]
  | ok start =>
    obtain ⟨ctx, s⟩ := start
    have hp := prepare_ok henv.1 henv.2.1 hprep
    obtain ⟨m, hm, hpick, _⟩ := hp.picked
    have hcount : endpointCount app.config req.modelName = m.endpoints.length := by
      simp only [endpointCount, ← hp.canonical, hm, Option.map_some, Option.getD_some]
    have hkey : req.auth.tokenKey = tokenKey := tokenKey_of_authenticate hauth
    have hcalm : ∀ ep ∈ m.endpoints, ¬ ComesBack app.config ep := by
      intro ep hep hcb
      have hbanned := hp.banned
      rw [hm] at hbanned
      refine hno ⟨?_, m, ?_, fun e he => collectBanned_keys hbanned e he, ep, hep, hcb⟩
      · rw [← hkey, ← hp.canonical]; exact hp.access
      · rw [← hp.canonical]; exact hm
    have hinv : LoopInv app.config m s := by
      refine ⟨hp.config, hpick, ?_, ?_, ?_⟩
      · intro v hv; rw [hp.trace] at hv; cases hv
      · rw [hp.trace]; exact List.nodup_singleton _
      · intro v hv; rw [hp.trace] at hv; cases hv
    rw [hcount] at hfuel ⊢
    obtain ⟨s', e, hexit, hnodup, hlen⟩ := hinv.run deps henv hm hp.retry hcalm hfuel
    simp only [hexit, Loop.Flow.result_exit, Loop.Flow.state_exit, Option.isSome_some, true_and]
    exact ⟨hnodup, hlen⟩

/-! ## With the hazard -/

/-- A pair with nothing left at time 0. -/
def drainedPair : RateLimitPair where
  rpm := 1
  tat := some 1
  tpm := { capacity := 1, state := { tokens := 0, lastUpdate := 0, windowStart := 0, windowConsumed := 0 } }
  lastUsed := 0

def drained (key : String) : RateLimiterStore := { limiters := AList.singleton key drainedPair }

theorem drained_rejects (key : String) {rpm tpm : Nat} (h : 0 < rpm ∨ 0 < tpm) (scope : RateLimitScope) :
    ((drained key).check key rpm tpm 1 scope 0).2.allowed = false := by
  have hlookup : (drained key).limiters.lookup key = some drainedPair := by
    rw [drained, KeyMap.lookup_singleton]
  rw [← Bool.not_eq_true, RateLimiterStore.check_allowed]
  rintro ⟨hrpm, htpm⟩
  by_cases hr : 0 < rpm
  · simp only [RateLimiterStore.checkRpm, if_pos hr, RateLimiterStore.getOrCreate, hlookup,
      Option.getD_some] at hrpm
    exact absurd hrpm (by decide)
  · have ht : 0 < tpm := h.resolve_left hr
    have hsame : ((drained key).checkRpm key rpm tpm 0).1 = drained key := by
      rw [RateLimiterStore.checkRpm, if_neg hr]
    rw [hsame] at htpm
    simp only [RateLimiterStore.checkTpm, ht, Nat.zero_lt_one, and_self, if_true,
      RateLimiterStore.getOrCreate, hlookup, Option.getD_some] at htpm
    exact absurd htpm (by decide)

theorem drained_endpoint (ep : SelectedEndpoint) (epKey : String) {c : Charged}
    (hc : c.app.limiters = drained (epRlKey epKey))
    (hnone : (Gate.runAll (endpointChecks ep epKey 0) c).2 = none) :
    ¬ (0 < ep.endpointLimitsRpm ∨ 0 < ep.endpointLimitsTpm) := by
  intro hlim
  have hlocal : ∀ c : Charged, c.app.limiters = drained (epRlKey epKey) →
      (localCheck (epRlKey epKey) ep.endpointLimitsRpm ep.endpointLimitsTpm .endpoint 0 "Endpoint" c).2.isSome := by
    intro c hc
    unfold localCheck Charged.checkLocal
    dsimp only
    rw [hc, drained_rejects (epRlKey epKey) hlim .endpoint]
    rfl
  unfold endpointChecks at hnone
  rw [if_pos hlim] at hnone
  split at hnone
  · rw [List.singleton_append, Gate.runAll_cons] at hnone
    split at hnone
    · cases hnone
    · have := hlocal (sharedCheck "ep" epKey ep.endpointLimitsRpm 0 "Endpoint (shared)" c).1 hc
      rw [Gate.runAll_cons] at hnone
      split at hnone
      · cases hnone
      · rename_i hl; rw [hl] at this; cases this
  · have := hlocal c hc
    rw [List.nil_append, Gate.runAll_cons] at hnone
    split at hnone
    · cases hnone
    · rename_i hl; rw [hl] at this; cases this

/-- A round that cannot use the endpoint at `i`: the upstream does not answer, and where failures
are not retried there is no budget. The counter comes to stand at `i` again. -/
structure Hopeless (retryOnFailure : Bool) (m : ModelConfig) (i : Nat) (epKey : String) (t : Turn) : Prop where
  checkAt : t.checkAt = 0
  reply : ∃ e, t.reply = .sendError e
  config : t.before.KeepsConfig ∧ t.during.KeepsConfig
  counter : ∀ rr, (t.before.roundRobin rr).At m i ∧ (t.during.roundRobin rr).At m i
  budget : retryOnFailure = true ∨ ∀ l, t.before.limiters l = drained (epRlKey epKey)

/-- Back at the endpoint, with nothing but its handler key tried. -/
structure Back (cfg : AppConfig) (sel : SelectedEndpoint) (h : String) (s : LoopState) : Prop where
  config : s.app.config = cfg
  current : s.current = sel
  tried : s.triedKeys ⊆ {h}

section
variable {cfg : AppConfig} {m : ModelConfig} {ctx : LoopCtx} {s : LoopState}
  {ep : EndpointConfig} {i : Nat} {h b : String} {t : Turn}

/-- The balancer picks the endpoint again: the handler's key is not the one it looks for. -/
theorem back_tryNext (hm : cfg.findModel ctx.canonicalModel = some m)
    (hi : m.endpoints[i]? = some ep) (hb : Balancer.epKey ep.url ep.key = .ok b) (hne : h ≠ b)
    (hfree : b ∉ ctx.bannedKeys) (giveUp : Response)
    (hs : Back cfg (ep.selected i m.endpoints.length) h s) (hrr : s.app.roundRobin.At m i) :
    ∃ s', s.tryNext ctx h giveUp = .next s' ∧ Back cfg (ep.selected i m.endpoints.length) h s' := by
  have hsub : insert h s.triedKeys ⊆ {h} := Finset.insert_subset (Finset.mem_singleton_self h) hs.tried
  have hpick : (Balancer.selectAvailable s.app.config s.app.roundRobin ctx.canonicalModel ctx.bannedKeys
      (insert h s.triedKeys)).2 = .ok (some (ep.selected i m.endpoints.length)) := by
    rw [hs.config]
    refine Balancer.selectAvailable_at hm hi hrr hb hfree ?_
    intro hmem
    exact hne (Finset.mem_singleton.1 (hsub hmem)).symm
  obtain ⟨s', hnext, hcur, htried, rr, happ⟩ := LoopState.tryNext_of_found giveUp hpick
  refine ⟨s', hnext, ?_, hcur, by rw [htried]; exact hsub⟩
  rw [happ]
  exact hs.config

/-- **The loop comes back** after every hopeless round. -/
theorem back_turn (deps : Externs) (hm : cfg.findModel ctx.canonicalModel = some m)
    (hi : m.endpoints[i]? = some ep) (hh : Handler.epKey ep.url ep.key = .ok h)
    (hb : Balancer.epKey ep.url ep.key = .ok b) (hne : h ≠ b) (hfree : b ∉ ctx.bannedKeys)
    (hretr : Retriable ctx.retryOnFailure (ep.selected i m.endpoints.length))
    (hstream : ctx.req.isStream = false) (ht : Hopeless ctx.retryOnFailure m i h t)
    (hs : Back cfg (ep.selected i m.endpoints.length) h s) :
    ∃ s', turn deps ctx t s = .next s' ∧ Back cfg (ep.selected i m.endpoints.length) h s' := by
  obtain ⟨hcheckAt, ⟨e, hreply⟩, ⟨hbefore, hduring⟩, hcounter, hbudget⟩ := ht
  have hkey : Handler.epKey s.current.url s.current.apiKey = .ok h := by rw [hs.current]; exact hh
  have hchecks := endpointChecks_budgets s.current h t.checkAt
    { app := s.app.disturb t.before, ledger := s.ledger }
  have hconfig := (hchecks.config.trans (disturb_config hbefore)).trans hs.config
  unfold turn
  dsimp only
  simp only [hkey]
  split
  · refine back_tryNext hm hi hb hne hfree _ ⟨hconfig, hs.current, hs.tried⟩ ?_
    have hpoint := (hcounter s.app.roundRobin).1
    rw [← show _ = t.before.roundRobin s.app.roundRobin from hchecks.roundRobin] at hpoint
    exact hpoint
  · rename_i hnone
    -- let through, so without limits unless failures are retried
    have hretry : ctx.retryOnFailure = true := by
      rcases hbudget with hr | hdry
      · exact hr
      · rw [hcheckAt] at hnone
        have hnolim := drained_endpoint s.current h (hdry s.app.limiters) hnone
        rw [hs.current] at hnolim
        exact hretr.resolve_right hnolim
    have hcall : ∃ message, call ctx.req.isStream ctx.req.bodyError t.reply = .err message := by
      rw [hstream, hreply]
      cases ctx.req.bodyError with
      | none => exact ⟨_, rfl⟩
      | some e => exact ⟨_, rfl⟩
    obtain ⟨message, hcall⟩ := hcall
    unfold attempt callFailed
    simp only [hcall, hretry, if_true]
    unfold LoopState.retry
    refine back_tryNext hm hi hb hne hfree _ ⟨?_, hs.current, hs.tried⟩ (hcounter _).2
    exact (disturb_config hduring).trans hconfig

/-- **Run**: a loop that starts at the endpoint and meets only hopeless rounds is never left. -/
theorem back_forever (deps : Externs) (env : Env) (hm : cfg.findModel ctx.canonicalModel = some m)
    (hi : m.endpoints[i]? = some ep) (hh : Handler.epKey ep.url ep.key = .ok h)
    (hb : Balancer.epKey ep.url ep.key = .ok b) (hne : h ≠ b) (hfree : b ∉ ctx.bannedKeys)
    (hretr : Retriable ctx.retryOnFailure (ep.selected i m.endpoints.length))
    (hstream : ctx.req.isStream = false) (ht : ∀ k, Hopeless ctx.retryOnFailure m i h (env.turn k))
    (hs : Back cfg (ep.selected i m.endpoints.length) h s) (fuel : Nat) :
    (retryLoop deps env ctx fuel s).result = none := by
  obtain ⟨s', hs', _⟩ := Loop.run_goes_round
    (fun k _ hback => back_turn deps hm hi hh hb hne hfree hretr hstream (ht k) hback)
    fuel 0 s hs
  unfold retryLoop
  rw [hs']
  rfl

end

/-- A request that starts at such an endpoint and meets only hopeless rounds is never answered. -/
theorem never_returns (deps : Externs) (req : ChatRequest) (turns : Nat → Turn) {cfg : AppConfig}
    {m : ModelConfig} {i : Nat} {ep : EndpointConfig} {h b : String} {rr : RoundRobinCounters}
    (haccess : cfg.tokenHasModelAccess req.auth.tokenKey (cfg.canonicalModelName req.modelName) = true)
    (hm : cfg.findModel (cfg.canonicalModelName req.modelName) = some m)
    (hkeys : ∀ ep ∈ m.endpoints, ∃ h, Handler.epKey ep.url ep.key = .ok h)
    (hi : m.endpoints[i]? = some ep) (hrr : rr.At m i) (hh : Handler.epKey ep.url ep.key = .ok h)
    (hb : Balancer.epKey ep.url ep.key = .ok b) (hlong : 6 < ep.key.utf8ByteSize)
    (hretr : Retriable cfg.fail2ban.retryOnFailure (ep.selected 0 0)) (hsession : req.sessionId = none)
    (hstream : req.isStream = false) (hopeless : ∀ k, Hopeless cfg.fail2ban.retryOnFailure m i h (turns k))
    (fuel : Nat) :
    (proxyHandler deps (.quiet turns) fuel
      (startApp cfg rr [] (roomyStore [teamKey req.auth.team, req.auth.tokenKey])) req).ending = none := by
  have hne : h ≠ b := by
    intro heq
    have := (epKey_agree_iff hh hb).1 heq
    omega
  have hlt : i < m.endpoints.length := (List.getElem?_eq_some_iff.1 hi).1
  obtain ⟨ctx, s, hprep, hreq, hcanon, hretry, hbanned, hcur, htried, hconfig, _⟩ :=
    exists_start req turns [] haccess hm hkeys (fun x hx => by cases hx)
      (by rw [List.toFinset_nil, Finset.card_empty]; omega) hi hrr hb List.not_mem_nil hsession
      (RateLimiterStore.roomyStore_roomy _) List.mem_cons_self (List.mem_cons_of_mem _ List.mem_cons_self)
  unfold proxyHandler
  rw [hprep]
  refine back_forever deps (.quiet turns) (by rw [hcanon]; exact hm) hi hh hb hne (by rw [hbanned]; simp)
    (by rw [hretry]; exact hretr) (by rw [hreq]; exact hstream) (fun k => by rw [hretry]; exact hopeless k)
    ⟨hconfig, hcur, by rw [htried]; simp⟩ fuel

/-- A `serde_json` that refuses everything and a hash that is the identity. -/
def Externs.mute : Externs where
  fromSlice := fun _ => none
  fromLossy := fun _ => none
  hashToken := id

theorem unbounded_of_hazard {cfg : AppConfig} {tokenKey modelName : String}
    (hz : LoopHazard cfg tokenKey modelName) : ¬ RetryLoopBounded cfg tokenKey modelName := by
  obtain ⟨haccess, m, hm, hkeys, ep, hmem, hretr, ⟨b, hb⟩, hlong⟩ := hz
  obtain ⟨h, hh⟩ := hkeys ep hmem
  obtain ⟨i, hi⟩ := List.getElem?_of_mem hmem
  have hpoint := RoundRobinCounters.pointing_at (List.getElem?_eq_some_iff.1 hi).1
  obtain ⟨auth, hauth, rfl⟩ := authenticate_of_access haccess
  let req : ChatRequest :=
    { auth := auth, modelName := modelName, isStream := false, isAnthropic := false, sessionId := none, bodyError := none }
  let others : Others := { roundRobin := fun _ => .pointing m i, limiters := fun _ => drained (epRlKey h) }
  let t : Turn := { before := others, checkAt := 0, during := others, reply := .sendError "", doneAt := 0 }
  have hopeless : Hopeless cfg.fail2ban.retryOnFailure m i h t :=
    ⟨rfl, ⟨_, rfl⟩, ⟨fun _ => rfl, fun _ => rfl⟩, fun _ => ⟨hpoint, hpoint⟩, Or.inr fun _ => rfl⟩
  intro hbounded
  have hend := (hbounded .mute (.quiet fun _ => t)
    (startApp cfg (.pointing m i) [] (roomyStore [teamKey auth.team, auth.tokenKey])) req _ rfl
    ⟨fun _ => rfl, fun _ => rfl, fun _ => ⟨fun _ => rfl, fun _ => rfl⟩⟩ ⟨hauth, rfl⟩ (Nat.le_refl _)).1
  rw [never_returns .mute req (fun _ => t) haccess hm hkeys hi hpoint hh hb hlong hretr rfl rfl
    (fun _ => hopeless)] at hend
  cases hend

/-- **The retry loop is bounded by the endpoint count exactly without the hazard**: every endpoint
that can send the loop round has an API key of at most six bytes (or one the balancer cannot mask). -/
theorem retry_loop_bounded_iff (cfg : AppConfig) (tokenKey modelName : String) :
    RetryLoopBounded cfg tokenKey modelName ↔ ¬ LoopHazard cfg tokenKey modelName := by
  constructor
  · intro hbounded hz
    exact unbounded_of_hazard hz hbounded
  · exact bounded_of_no_hazard

/-! ## One endpoint with an ordinary key -/

/-- A router with one model and one endpoint, everything else at its default. -/
def singleConfig : AppConfig where
  teams := [{ name := "dev", models := ["*"], limits := none, costMultiplier := none }]
  tokens := [{ key := "sk-client", team := "dev", models := none, limits := none }]
  models :=
    [{ name := "gpt-4", aliases := [], modelType := "chat"
       endpoints :=
        [{ url := "https://api.openai.com", key := "sk-upstream-1", limits := none, cost := none, weight := 1 }] }]
  fail2ban := .default

def singleRequest : ChatRequest where
  auth := { tokenKey := "sk-client", team := "dev", models := ["*"], rpm := 0, tpm := 0, costMultiplier := 1 }
  modelName := "gpt-4"
  isStream := false
  isAnthropic := false
  sessionId := none
  bodyError := none

/-- Nothing else runs and the upstream refuses every connection. -/
def refusingTurn : Turn where
  before := .quiet
  checkAt := 0
  during := .quiet
  reply := .sendError "connection refused"
  doneAt := 0

/-- One endpoint that refuses connections keeps the handler in its loop for ever. -/
theorem single_endpoint_never_returns :
    singleConfig.Accepted ∧ RequestOf singleConfig "sk-client" "gpt-4" singleRequest ∧
      endpointCount singleConfig "gpt-4" = 1 ∧
      ∀ fuel, (proxyHandler .mute (.quiet fun _ => refusingTurn) fuel
        (startApp singleConfig { counters := ∅ } [] (roomyStore ["team:dev", "sk-client"]))
        singleRequest).ending = none := by
  -- with one endpoint every counter stands at it
  have hpoint : ∀ rr : RoundRobinCounters, ∀ m : ModelConfig, m.endpoints.length = 1 → rr.At m 0 := by
    intro rr m hm
    unfold RoundRobinCounters.At
    rw [hm, Nat.mod_one]
  refine ⟨rfl, ⟨rfl, rfl⟩, rfl, fun fuel => ?_⟩
  refine never_returns .mute singleRequest (fun _ => refusingTurn) rfl rfl ?_ rfl (hpoint _ _ rfl) rfl rfl
    (by decide) (Or.inl rfl) rfl rfl (fun _ => ?_) fuel
  · intro ep hep
    rw [List.mem_singleton.1 hep]
    exact ⟨_, rfl⟩
  · exact ⟨rfl, ⟨_, rfl⟩, ⟨fun _ => rfl, fun _ => rfl⟩, fun rr => ⟨hpoint rr _ rfl, hpoint rr _ rfl⟩, Or.inl rfl⟩

end AiRouter
