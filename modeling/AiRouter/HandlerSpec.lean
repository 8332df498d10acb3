import AiRouter.Handler

/-
# What one step of `proxy_handler` can do

One lemma per function of `Handler.lean`. A round of the loop visits its current endpoint and
then either leaves the loop or has the balancer pick the next endpoint, with the handler's key
of the visited one among the tried keys (`turn_trace`, `turn_sat`).
-/
namespace AiRouter

/-! ## Configuration -/

namespace AppState

variable (app : AppState)

/-- Collecting the bans writes the breaker only. -/
theorem collectBanned_only (now : Nat) : ∀ (eps : List EndpointConfig) (app : AppState)
    (bannedKeys : Finset String), ∃ fb, (app.collectBanned now eps bannedKeys).1 = { app with fail2ban := fb }
  | [], app, _ => ⟨app.fail2ban, rfl⟩
  | ep :: rest, app, bannedKeys => by
    simp only [collectBanned]
    split
    · exact ⟨app.fail2ban, rfl⟩
    · rename_i k _
      obtain ⟨fb, hfb⟩ := collectBanned_only now rest (app.isBanned k now).1 _
      exact ⟨fb, hfb⟩

theorem collectBanned_config (now : Nat) (eps : List EndpointConfig) (app : AppState) (bannedKeys : Finset String) :
    (app.collectBanned now eps bannedKeys).1.config = app.config := by
  obtain ⟨fb, hfb⟩ := collectBanned_only now eps app bannedKeys
  rw [hfb]

theorem classify_config (epKey : String) (status now : Nat) :
    (app.classify epKey status now).config = app.config := by
  unfold classify
  split <;> rfl

end AppState

/-- Looking the session up writes its binding, here and in Redis. -/
theorem stickyPick_only (app : AppState) (model : Option ModelConfig) (bannedKeys : Finset String)
    (sessionId : Option String) (now : Nat) :
    ∃ sticky sync, (stickyPick app model bannedKeys sessionId now).1 = { app with sticky := sticky, sync := sync } := by
  unfold stickyPick
  cases sessionId with
  | none => exact ⟨app.sticky, app.sync, rfl⟩
  | some sid =>
    dsimp only
    split
    · split
      · exact ⟨_, _, rfl⟩
      · split
        · exact ⟨_, _, rfl⟩
        · split <;> exact ⟨_, _, rfl⟩
    · exact ⟨_, _, rfl⟩

namespace LoopState

variable (s : LoopState)

theorem finish_config (deps : Externs) (ctx : LoopCtx) (epKey : String) (status : Nat)
    (body : List Chunk) (startAt now : Nat) :
    (s.finish deps ctx epKey status body startAt now).app.config = s.app.config := by
  unfold LoopState.finish
  dsimp only
  split
  · rfl
  · exact (chargeUsage_budgets _ _ _ _ _ _ _ _ _).config

theorem finish_trace (deps : Externs) (ctx : LoopCtx) (epKey : String) (status : Nat)
    (body : List Chunk) (startAt now : Nat) :
    (s.finish deps ctx epKey status body startAt now).trace = s.trace := by
  unfold LoopState.finish
  dsimp only
  split <;> rfl

variable {s} {s' : LoopState} {ctx : LoopCtx} {epKey : String} {giveUp : Response}

/-! ## Trying the next endpoint -/

/-- What holds after going round: the balancer picked the current endpoint, with `epKey` tried. -/
structure GoesOn (ctx : LoopCtx) (s : LoopState) (epKey : String) (s' : LoopState) : Prop where
  trace : s'.trace = s.trace
  config : s'.app.config = s.app.config
  tried : s'.triedKeys = insert epKey s.triedKeys
  picked : ∃ rr, (Balancer.selectAvailable s.app.config rr ctx.canonicalModel ctx.bannedKeys
    s'.triedKeys).2 = .ok (some s'.current)

/-- What holds after leaving the loop. -/
structure Stops (s s' : LoopState) : Prop where
  trace : s'.trace = s.trace
  config : s'.app.config = s.app.config

theorem GoesOn.of_eq {s₁ : LoopState} (h : GoesOn ctx s₁ epKey s') (ht : s₁.trace = s.trace)
    (hc : s₁.app.config = s.app.config) (hk : s₁.triedKeys = s.triedKeys) : GoesOn ctx s epKey s' := by
  obtain ⟨htr, hcf, hkt, hp⟩ := h
  refine ⟨htr.trans ht, hcf.trans hc, hkt.trans (by rw [hk]), ?_⟩
  rw [← hc]
  exact hp

theorem Stops.of_eq {s₁ : LoopState} (h : Stops s₁ s') (ht : s₁.trace = s.trace)
    (hc : s₁.app.config = s.app.config) : Stops s s' := ⟨h.trace.trans ht, h.config.trans hc⟩

/-- All that is left behind of a pick is a counter of the balancer. -/
theorem tryNext_only (s : LoopState) (ctx : LoopCtx) (epKey : String) (giveUp : Response) :
    ∃ rr, (s.tryNext ctx epKey giveUp).state.app = { s.app with roundRobin := rr } := by
  unfold LoopState.tryNext
  dsimp only
  split <;> exact ⟨_, rfl⟩

theorem retry_only (s : LoopState) (ctx : LoopCtx) (epKey : String) (response : Response) :
    ∃ rr, (s.retry ctx epKey response).state.app = { s.app with roundRobin := rr } :=
  tryNext_only { s with lastError := some response } ctx epKey _

theorem tryNext_sat (s : LoopState) (ctx : LoopCtx) (epKey : String) (giveUp : Response) :
    (s.tryNext ctx epKey giveUp).Sat (GoesOn ctx s epKey) (fun s' _ => Stops s s') := by
  unfold LoopState.tryNext
  dsimp only
  split
  · exact ⟨rfl, rfl⟩
  · rename_i ep hep
    exact ⟨rfl, rfl, rfl, _, hep⟩
  · exact ⟨rfl, rfl⟩

theorem retry_sat (s : LoopState) (ctx : LoopCtx) (epKey : String) (response : Response) :
    (s.retry ctx epKey response).Sat (GoesOn ctx s epKey) (fun s' _ => Stops s s') :=
  (tryNext_sat { s with lastError := some response } ctx epKey _).mono
    (fun _ h => h.of_eq rfl rfl rfl) (fun _ _ h => h.of_eq rfl rfl)

theorem tryNext_of_found {ep : SelectedEndpoint} (giveUp : Response)
    (h : (Balancer.selectAvailable s.app.config s.app.roundRobin ctx.canonicalModel ctx.bannedKeys
      (insert epKey s.triedKeys)).2 = .ok (some ep)) :
    ∃ s', s.tryNext ctx epKey giveUp = .next s' ∧ s'.current = ep ∧
      s'.triedKeys = insert epKey s.triedKeys ∧
      ∃ rr, s'.app = { s.app with roundRobin := rr } := by
  unfold LoopState.tryNext AppState.selectAvailable
  simp only [h]
  exact ⟨_, rfl, rfl, rfl, _, rfl⟩

end LoopState

/-! ## One round -/

/-- `s'` has visited one endpoint more than `s`: the current one. -/
def VisitedAs (step : VisitStep) (s s' : LoopState) : Prop :=
  s'.trace = s.trace ++ [{ endpoint := s.current, step := step }]

def Visited (s s' : LoopState) : Prop := ∃ step, VisitedAs step s s'

/-- What becomes of an endpoint that its limits let through. -/
def sendStep (ctx : LoopCtx) (t : Turn) : VisitStep :=
  if ctx.req.bodyError.isSome then .unsent else .sent t.reply

/-- An endpoint that can send the loop round: failures are retried, or it has a limit to hit. -/
def Retriable (retryOnFailure : Bool) (ep : SelectedEndpoint) : Prop :=
  retryOnFailure = true ∨ 0 < ep.endpointLimitsRpm ∨ 0 < ep.endpointLimitsTpm

section
variable {deps : Externs} {ctx : LoopCtx} {t : Turn} {s s' : LoopState} {epKey : String}

theorem chargeStream_budgets (deps : Externs) (ctx : LoopCtx) (epKey : String) (s : LoopState)
    (status : Nat) (body : List Chunk) (now : Nat) :
    OnlyBudgets s.app (s.chargeStream deps ctx epKey status body now).app := by
  unfold LoopState.chargeStream
  split
  · exact chargeUsage_budgets _ _ _ _ _ _ _ _ _
  · exact .refl _

theorem chargeStream_frame (deps : Externs) (ctx : LoopCtx) (epKey : String) (s : LoopState)
    (status : Nat) (body : List Chunk) (now : Nat) :
    (s.chargeStream deps ctx epKey status body now).trace = s.trace ∧
      (s.chargeStream deps ctx epKey status body now).current = s.current ∧
      (s.chargeStream deps ctx epKey status body now).triedKeys = s.triedKeys := by
  unfold LoopState.chargeStream
  split <;> exact ⟨rfl, rfl, rfl⟩

/-- The state in which a status has been classified. -/
def LoopState.classified (s : LoopState) (deps : Externs) (ctx : LoopCtx) (t : Turn) (epKey : String)
    (status : Nat) (body : List Chunk) : LoopState :=
  let s := s.chargeStream deps ctx epKey status body t.doneAt
  { s with app := s.app.classify epKey status t.doneAt }

theorem classified_config (deps : Externs) (ctx : LoopCtx) (t : Turn) (epKey : String) (s : LoopState)
    (status : Nat) (body : List Chunk) :
    (s.classified deps ctx t epKey status body).app.config = s.app.config := by
  unfold LoopState.classified
  rw [AppState.classify_config, (chargeStream_budgets deps ctx epKey s status body t.doneAt).config]

/-- Does the answer end the loop? (handler.rs:543) -/
def Settles (ctx : LoopCtx) (fb : Fail2ban) (status : Nat) : Prop :=
  status < 400 ∨ ¬ (ctx.retryOnFailure ∧ fb.isFailStatus status)

instance (ctx : LoopCtx) (fb : Fail2ban) (status : Nat) : Decidable (Settles ctx fb status) :=
  inferInstanceAs (Decidable (status < 400 ∨ ¬ (ctx.retryOnFailure = true ∧ fb.isFailStatus status = true)))

/-- **An answer** either ends the loop or sends it on with a failed endpoint. -/
theorem settle_eq (status : Nat) (body : List Chunk) :
    settle deps ctx t epKey s status body =
      if Settles ctx s.app.fail2ban status then
        .exit ((s.classified deps ctx t epKey status body).finish deps ctx epKey status body t.checkAt t.doneAt)
          (.responded (.passedOn s.current status body))
      else
        LoopState.retry { s.classified deps ctx t epKey status body with
          app := (s.classified deps ctx t epKey status body).app.noteError ctx.req epKey }
          ctx epKey (.lastFailure s.current status body) := by
  have hfb := (chargeStream_budgets deps ctx epKey s status body t.doneAt).fail2ban
  have hcur := (chargeStream_frame deps ctx epKey s status body t.doneAt).2.1
  unfold settle Settles LoopState.classified
  dsimp only
  rw [hfb, hcur]
  rfl

theorem settle_sat (status : Nat) (body : List Chunk) :
    (settle deps ctx t epKey s status body).Sat
      (fun s' => ctx.retryOnFailure = true ∧ LoopState.GoesOn ctx s epKey s')
      (fun s' _ => LoopState.Stops s s') := by
  have hframe := chargeStream_frame deps ctx epKey s status body t.doneAt
  have hconfig := classified_config deps ctx t epKey s status body
  rw [settle_eq]
  split
  · refine ⟨?_, ?_⟩
    · rw [LoopState.finish_trace]; exact hframe.1
    · rw [LoopState.finish_config, hconfig]
  · rename_i hset
    have hretry : ctx.retryOnFailure = true := by
      by_contra hr
      exact hset (Or.inr fun hand => hr hand.1)
    refine (LoopState.retry_sat _ ctx epKey _).mono (fun s' h => ⟨hretry, ?_⟩) (fun s' _ h => ?_)
    · exact h.of_eq hframe.1 hconfig hframe.2.2
    · exact h.of_eq hframe.1 hconfig

theorem callFailed_sat (message : String) :
    (callFailed ctx t epKey s message).Sat
      (fun s' => ctx.retryOnFailure = true ∧ LoopState.GoesOn ctx s epKey s')
      (fun s' _ => LoopState.Stops s s') := by
  unfold callFailed
  dsimp only
  split
  · rename_i hretry
    exact (LoopState.retry_sat _ ctx epKey _).mono (fun s' h => ⟨hretry, h.of_eq rfl rfl rfl⟩)
      (fun s' _ h => h.of_eq rfl rfl)
  · exact ⟨rfl, rfl⟩

/-- What holds after a round that goes on. -/
structure RoundOn (ctx : LoopCtx) (s s' : LoopState) : Prop where
  visited : Visited s s'
  config : s'.app.config = s.app.config
  retriable : Retriable ctx.retryOnFailure s.current
  picked : ∃ epKey, Handler.epKey s.current.url s.current.apiKey = .ok epKey ∧
    s'.triedKeys = insert epKey s.triedKeys ∧
    ∃ rr, (Balancer.selectAvailable s.app.config rr ctx.canonicalModel ctx.bannedKeys
      s'.triedKeys).2 = .ok (some s'.current)

/-- What holds after the last round. -/
structure RoundLast (s s' : LoopState) : Prop where
  visited : Visited s s'
  config : s'.app.config = s.app.config

theorem attempt_sat (hd : t.during.KeepsConfig) :
    (attempt deps ctx t epKey s).Sat
      (fun s' => ctx.retryOnFailure = true ∧ VisitedAs (sendStep ctx t) s s' ∧ s'.app.config = s.app.config ∧
        s'.triedKeys = insert epKey s.triedKeys ∧
        ∃ rr, (Balancer.selectAvailable s.app.config rr ctx.canonicalModel ctx.bannedKeys
          s'.triedKeys).2 = .ok (some s'.current))
      (fun s' _ => VisitedAs (sendStep ctx t) s s' ∧ s'.app.config = s.app.config) := by
  unfold attempt
  dsimp only
  have hconfig : (s.app.disturb t.during).config = s.app.config := disturb_config hd
  split
  · exact ⟨rfl, hconfig⟩
  · rename_i status body _
    refine (settle_sat status body).mono (fun s' h => ?_) (fun s' _ h => ?_)
    · obtain ⟨hretry, hon⟩ := h
      refine ⟨hretry, hon.trace, hon.config.trans hconfig, hon.tried, ?_⟩
      rw [← hconfig]; exact hon.picked
    · exact ⟨h.trace, h.config.trans hconfig⟩
  · rename_i message _
    refine (callFailed_sat message).mono (fun s' h => ?_) (fun s' _ h => ?_)
    · obtain ⟨hretry, hon⟩ := h
      refine ⟨hretry, hon.trace, hon.config.trans hconfig, hon.tried, ?_⟩
      rw [← hconfig]; exact hon.picked
    · exact ⟨h.trace, h.config.trans hconfig⟩

/-- Only an endpoint with a limit is turned away by it. -/
theorem endpointChecks_none {ep : SelectedEndpoint} (epKey : String) (now : Nat)
    (h : ¬ (0 < ep.endpointLimitsRpm ∨ 0 < ep.endpointLimitsTpm)) : endpointChecks ep epKey now = [] := by
  unfold endpointChecks
  rw [if_neg h, if_neg (fun hr => h (Or.inl hr))]
  rfl

theorem endpointChecks_budgets (ep : SelectedEndpoint) (epKey : String) (now : Nat) (c : Charged) :
    OnlyBudgets c.app (Gate.runAll (endpointChecks ep epKey now) c).1.app := by
  refine runAll_budgets (fun g hg s' => ?_) c
  simp only [endpointChecks, List.mem_append, List.mem_ite_nil_right, List.mem_singleton] at hg
  rcases hg with ⟨_, rfl⟩ | ⟨_, rfl⟩
  · exact sharedCheck_budgets _ _ _ _ _ s'
  · exact localCheck_budgets _ _ _ _ _ _ s'

/-- **One round**: its endpoint is visited, and the loop goes on only from a retriable endpoint,
to one the balancer picks with the visited endpoint's handler key among the tried ones. -/
theorem turn_sat (hb : t.before.KeepsConfig) (hd : t.during.KeepsConfig) :
    (turn deps ctx t s).Sat (RoundOn ctx s) (fun s' _ => RoundLast s s') := by
  unfold turn
  dsimp only
  have hconfig : (s.app.disturb t.before).config = s.app.config := disturb_config hb
  split
  · exact ⟨⟨_, rfl⟩, hconfig⟩
  · rename_i epKey hkey
    have hchecks := endpointChecks_budgets s.current epKey t.checkAt
      { app := s.app.disturb t.before, ledger := s.ledger }
    have hconfig' := hchecks.config.trans hconfig
    split
    · rename_i rej hrej
      refine (LoopState.tryNext_sat _ ctx epKey _).mono (fun s' h => ?_) (fun s' _ h => ?_)
      · refine ⟨⟨_, h.trace⟩, h.config.trans hconfig', ?_, epKey, hkey, h.tried, ?_⟩
        · by_contra hnot
          have hlim : ¬ (0 < s.current.endpointLimitsRpm ∨ 0 < s.current.endpointLimitsTpm) :=
            fun hl => hnot (Or.inr hl)
          rw [endpointChecks_none epKey t.checkAt hlim] at hrej
          cases hrej
        · rw [← hconfig']; exact h.picked
      · exact ⟨⟨_, h.trace⟩, h.config.trans hconfig'⟩
    · refine (attempt_sat hd).mono (fun s' h => ?_) (fun s' _ h => ?_)
      · obtain ⟨hretry, hvis, hcfg, htried, hpick⟩ := h
        refine ⟨⟨_, hvis⟩, hcfg.trans hconfig', Or.inl hretry, epKey, hkey, htried, ?_⟩
        rw [← hconfig']; exact hpick
      · exact ⟨⟨_, h.1⟩, h.2.trans hconfig'⟩

end

/-- Let through by its limits, the endpoint is sent the request. -/
theorem turn_sends (deps : Externs) (ctx : LoopCtx) (hb : t.before = .quiet) (hd : t.during.KeepsConfig)
    (hkey : Handler.epKey s.current.url s.current.apiKey = .ok epKey)
    (hnone : (Gate.runAll (endpointChecks s.current epKey t.checkAt) s.charged).2 = none) :
    VisitedAs (sendStep ctx t) s (turn deps ctx t s).state := by
  unfold turn
  simp only [hb, disturb_quiet, hkey, hnone]
  exact ((attempt_sat hd).mono (fun _ h => h.2.1) (fun _ _ h => h.1)).state

/-- What the round makes of the current endpoint. -/
def visitStep (ctx : LoopCtx) (t : Turn) (s : LoopState) : VisitStep :=
  match Handler.epKey s.current.url s.current.apiKey with
  | .error _ => .panicked
  | .ok k =>
    match (Gate.runAll (endpointChecks s.current k t.checkAt)
        { app := s.app.disturb t.before, ledger := s.ledger }).2 with
    | some _ => .limited
    | none => sendStep ctx t

theorem attempt_trace (deps : Externs) (ctx : LoopCtx) (t : Turn) (k : String) (s : LoopState) :
    VisitedAs (sendStep ctx t) s (attempt deps ctx t k s).state := by
  unfold attempt
  dsimp only
  split
  · rfl
  · exact ((settle_sat _ _).mono (fun _ h => h.2.trace) (fun _ _ h => h.trace)).state
  · exact ((callFailed_sat _).mono (fun _ h => h.2.trace) (fun _ _ h => h.trace)).state

/-- **A round** visits its endpoint once. -/
theorem turn_trace (deps : Externs) (ctx : LoopCtx) (t : Turn) (s : LoopState) :
    VisitedAs (visitStep ctx t s) s (turn deps ctx t s).state := by
  unfold turn visitStep
  dsimp only [LoopState.charged]
  cases Handler.epKey s.current.url s.current.apiKey with
  | error p => rfl
  | ok k =>
    dsimp only
    cases (Gate.runAll (endpointChecks s.current k t.checkAt)
        { app := s.app.disturb t.before, ledger := s.ledger }).2 with
    | some rej => exact ((LoopState.tryNext_sat _ _ _ _).mono (fun _ h => h.trace) (fun _ _ h => h.trace)).state
    | none => exact attempt_trace deps ctx t _ _

/-- An endpoint as the loop may visit it: picked as the sticky one, under a handler key that is
not banned, or by the balancer, under a balancer key that is not. -/
def PickedBy (ctx : LoopCtx) (m : ModelConfig) (sel : SelectedEndpoint) : Prop :=
  Balancer.PickOf m sel ∧
    ((∃ key, Handler.epKey sel.url sel.apiKey = .ok key ∧ key ∉ ctx.bannedKeys) ∨
      (∃ key, Balancer.epKey sel.url sel.apiKey = .ok key ∧ key ∉ ctx.bannedKeys))

/-- **Run**: whatever the outcomes, the loop visits only endpoints so picked. -/
theorem retryLoop_visits (deps : Externs) {env : Env} (henv : env.KeepsConfig) {cfg : AppConfig} {m : ModelConfig}
    (hm : cfg.findModel ctx.canonicalModel = some m) (hcfg : s.app.config = cfg)
    (hcur : PickedBy ctx m s.current) (htrace : ∀ v ∈ s.trace, PickedBy ctx m v.endpoint) (fuel : Nat) :
    ∀ v ∈ (retryLoop deps env ctx fuel s).state.trace, PickedBy ctx m v.endpoint := by
  have hvisit : ∀ {s s' : LoopState}, PickedBy ctx m s.current →
      (∀ v ∈ s.trace, PickedBy ctx m v.endpoint) → Visited s s' →
      ∀ v ∈ s'.trace, PickedBy ctx m v.endpoint := by
    rintro s s' hcur htrace ⟨step, hstep⟩ v hv
    rw [hstep] at hv
    rcases List.mem_append.1 hv with hv | hv
    · exact htrace v hv
    · rw [List.mem_singleton.1 hv]
      exact hcur
  have hround : ∀ k s,
      (s.app.config = cfg ∧ PickedBy ctx m s.current ∧ ∀ v ∈ s.trace, PickedBy ctx m v.endpoint) →
      (turn deps ctx (env.turn k) s).Sat
        (fun s => s.app.config = cfg ∧ PickedBy ctx m s.current ∧ ∀ v ∈ s.trace, PickedBy ctx m v.endpoint)
        (fun s _ => ∀ v ∈ s.trace, PickedBy ctx m v.endpoint) := by
    rintro k s ⟨hcfg, hcur, htrace⟩
    refine (turn_sat (henv.2.2 k).1 (henv.2.2 k).2).mono (fun s' hr => ?_) (fun s' _ hl => ?_)
    · obtain ⟨epKey, _, _, rr, hpick⟩ := hr.picked
      rw [hcfg] at hpick
      obtain ⟨m', b, hm', hp, hb, hnot, _⟩ := Balancer.selectAvailable_found hpick
      rw [hm] at hm'
      obtain rfl := Option.some.inj hm'
      exact ⟨hr.config.trans hcfg, ⟨hp, Or.inr ⟨b, hb, hnot⟩⟩, hvisit hcur htrace hr.visited⟩
    · exact hvisit hcur htrace hl.visited
  have hrun := Loop.run_sat hround fuel 0 s ⟨hcfg, hcur, htrace⟩
  exact (hrun.mono (fun _ h => h.2.2) (fun _ _ h => h)).state

/-! ## Before the loop -/

/-- Collecting the bans masks every key of the model. -/
theorem collectBanned_keys {now : Nat} : ∀ {eps : List EndpointConfig} {app : AppState}
    {acc bannedKeys : Finset String}, (app.collectBanned now eps acc).2 = .ok bannedKeys →
      ∀ ep ∈ eps, ∃ h, Handler.epKey ep.url ep.key = .ok h
  | [], _, _, _, _, ep, hep => by cases hep
  | e :: rest, app, acc, bannedKeys, h, ep, hep => by
    simp only [AppState.collectBanned] at h
    split at h
    · cases h
    · rename_i k hk
      rcases List.mem_cons.1 hep with rfl | hep
      · exact ⟨k, hk⟩
      · exact collectBanned_keys h ep hep

/-- The banned keys are handler keys of the model. -/
theorem collectBanned_subset {now : Nat} : ∀ {eps : List EndpointConfig} {app : AppState}
    {acc bannedKeys : Finset String}, (app.collectBanned now eps acc).2 = .ok bannedKeys →
      ∀ k ∈ bannedKeys, k ∈ acc ∨ ∃ ep ∈ eps, Handler.epKey ep.url ep.key = .ok k
  | [], app, acc, bannedKeys, h, k, hk => by
    cases h
    exact Or.inl hk
  | e :: rest, app, acc, bannedKeys, h, k, hk => by
    simp only [AppState.collectBanned] at h
    split at h
    · cases h
    · rename_i key hkey
      rcases collectBanned_subset h k hk with hacc | ⟨ep, hep, hepk⟩
      · split at hacc
        · rcases Finset.mem_insert.1 hacc with rfl | hacc
          · exact Or.inr ⟨e, List.mem_cons_self, hkey⟩
          · exact Or.inl hacc
        · exact Or.inl hacc
      · exact Or.inr ⟨ep, List.mem_cons_of_mem _ hep, hepk⟩

/-- A sticky pick is an entry of the model under a handler key that is not banned. -/
theorem stickyPick_found {app : AppState} {model : Option ModelConfig} {bannedKeys : Finset String}
    {sessionId : Option String} {now : Nat} {sel : SelectedEndpoint}
    (h : (stickyPick app model bannedKeys sessionId now).2 = .ok (some sel)) :
    ∃ m key, model = some m ∧ Balancer.PickOf m sel ∧
      Handler.epKey sel.url sel.apiKey = .ok key ∧ key ∉ bannedKeys := by
  unfold stickyPick at h
  cases sessionId with
  | none => cases h
  | some sid =>
    dsimp only at h
    split at h
    · rename_i idx m _
      split at h
      · cases h
      · rename_i ep hep
        split at h
        · cases h
        · rename_i key hkey
          split at h
          · rename_i hnot
            obtain rfl := Option.some.inj (Except.ok.inj h)
            exact ⟨m, key, rfl, Balancer.pickOf_selected hep, hkey, hnot⟩
          · cases h
    · cases h

/-- The state in which the first endpoint is picked. -/
def Handler.pickState (env : Env) (app : AppState) (req : ChatRequest) : AppState :=
  (app.collectBanned env.startAt (((app.config.findModel (app.config.canonicalModelName req.modelName)).map
    (·.endpoints)).getD []) ∅).1.disturb env.beforePick

/-- The session's endpoint, as `prepare` looks it up. -/
def Handler.sticky (env : Env) (app : AppState) (req : ChatRequest) (ctx : LoopCtx) :
    Except Panic (Option SelectedEndpoint) :=
  (stickyPick (pickState env app req) (app.config.findModel ctx.canonicalModel) ctx.bannedKeys req.sessionId
    env.startAt).2

/-- The endpoints of the model that the request is for. -/
def Handler.candidates (app : AppState) (req : ChatRequest) : List EndpointConfig :=
  ((app.config.findModel (app.config.canonicalModelName req.modelName)).map (·.endpoints)).getD []

/-- The look-up of the session, with these bans. -/
def Handler.stickyLookup (env : Env) (app : AppState) (req : ChatRequest) (bannedKeys : Finset String) :
    AppState × Except Panic (Option SelectedEndpoint) :=
  stickyPick (Handler.pickState env app req) (app.config.findModel (app.config.canonicalModelName req.modelName))
    bannedKeys req.sessionId env.startAt

/-- A request that does not reach the loop: one exit each. -/
inductive Handler.Stops (env : Env) (app : AppState) (req : ChatRequest) : Run → Prop
  | forbidden (message errType code : String) : Stops env app req
      ⟨app.noteError req "forbidden", [], [], some (.responded (.jsonError 403 message errType code))⟩
  | unmasked {p : Panic}
      (access : app.config.tokenHasModelAccess req.auth.tokenKey (app.config.canonicalModelName req.modelName) = true)
      (collect : (app.collectBanned env.startAt (candidates app req) ∅).2 = .error p) :
      Stops env app req ⟨(app.collectBanned env.startAt (candidates app req) ∅).1, [], [], some (.panicked p)⟩
  | allBanned (message errType code : String) : Stops env app req
      ⟨(app.collectBanned env.startAt (candidates app req) ∅).1.noteError req "all_banned", [], [],
        some (.responded (.jsonError 503 message errType code))⟩
  | stickyUnmasked {p : Panic} {bannedKeys : Finset String}
      (access : app.config.tokenHasModelAccess req.auth.tokenKey (app.config.canonicalModelName req.modelName) = true)
      (sticky : (stickyLookup env app req bannedKeys).2 = .error p) :
      Stops env app req ⟨(stickyLookup env app req bannedKeys).1, [], [], some (.panicked p)⟩
  | pickUnmasked {p : Panic} {bannedKeys : Finset String}
      (access : app.config.tokenHasModelAccess req.auth.tokenKey (app.config.canonicalModelName req.modelName) = true)
      (pick : ((stickyLookup env app req bannedKeys).1.selectAvailable
        (app.config.canonicalModelName req.modelName) bannedKeys ∅).2 = .error p) :
      Stops env app req ⟨((stickyLookup env app req bannedKeys).1.selectAvailable
        (app.config.canonicalModelName req.modelName) bannedKeys ∅).1, [], [], some (.panicked p)⟩
  | noEndpoint (message errType code : String) (bannedKeys : Finset String) :
      Stops env app req ⟨((stickyLookup env app req bannedKeys).1.selectAvailable
        (app.config.canonicalModelName req.modelName) bannedKeys ∅).1.noteError req "no_endpoint", [], [],
        some (.responded (.jsonError 503 message errType code))⟩
  | limited (rej : Rejection) {bannedKeys : Finset String} {picked : AppState} {charged : Charged}
      (pick : picked = (stickyLookup env app req bannedKeys).1 ∨ picked =
        ((stickyLookup env app req bannedKeys).1.selectAvailable (app.config.canonicalModelName req.modelName)
          bannedKeys ∅).1)
      (check : charged = (checkAllRateLimits app.config req.auth.team req.auth.tokenKey req.auth.rpm req.auth.tpm
        env.limitsAt { app := picked.disturb env.beforeLimits, ledger := [] }).1) :
      Stops env app req ⟨charged.app.noteError req "rate_limited", charged.ledger, [],
        some (.responded rej.response)⟩

theorem prepare_stops {env : Env} {app : AppState} {req : ChatRequest} {run : Run}
    (h : prepare env app req = .error run) : Handler.Stops env app req run := by
  unfold prepare earlyRun at h
  dsimp only at h
  split at h
  · cases h
    exact .forbidden _ _ _
  rename_i haccess
  rw [Bool.not_eq_true, Bool.not_eq_false] at haccess
  split at h
  · rename_i hcollect
    cases h
    exact .unmasked haccess hcollect
  rename_i bannedKeys _
  split at h
  · cases h
    exact .allBanned _ _ _
  split at h
  · rename_i hsticky
    cases h
    exact .stickyUnmasked haccess hsticky
  rename_i endpoint hsticky
  cases endpoint with
  | some ep =>
    dsimp only at h
    split at h
    · cases h
      exact .limited _ (Or.inl rfl) rfl
    · cases h
  | none =>
    dsimp only at h
    split at h
    · rename_i hpick
      cases h
      exact .pickUnmasked haccess hpick
    · cases h
      exact .noEndpoint _ _ _ bannedKeys
    · split at h
      · cases h
        exact .limited _ (Or.inr rfl) rfl
      · cases h

/-- A request that does not reach the loop ends there, without an upstream's answer. -/
theorem prepare_error {env : Env} {app : AppState} {req : ChatRequest} {run : Run}
    (h : prepare env app req = .error run) :
    run.trace = [] ∧ run.ending.isSome ∧ run.ending.bind (·.answer) = none := by
  cases prepare_stops h <;> exact ⟨rfl, rfl, rfl⟩

/-- What a request has gone through when it enters the loop, whatever is reloaded meanwhile. -/
structure Entered (env : Env) (app : AppState) (req : ChatRequest) (ctx : LoopCtx) (s : LoopState) : Prop where
  req_eq : ctx.req = req
  canonical : ctx.canonicalModel = app.config.canonicalModelName req.modelName
  retry : ctx.retryOnFailure = app.config.fail2ban.retryOnFailure
  teamTpm_eq : ctx.teamTpm = teamTpm app.config req.auth.team
  access : app.config.tokenHasModelAccess req.auth.tokenKey ctx.canonicalModel = true
  banned : (app.collectBanned env.startAt
    (((app.config.findModel ctx.canonicalModel).map (·.endpoints)).getD []) ∅).2 = .ok ctx.bannedKeys
  notAll : ∀ m, app.config.findModel ctx.canonicalModel = some m →
    ¬ (m.endpoints.length = ctx.bannedKeys.card ∧ 0 < m.endpoints.length)
  picked : Handler.sticky env app req ctx = .ok (some s.current) ∨ Handler.sticky env app req ctx = .ok none ∧
    (Balancer.selectAvailable (Handler.pickState env app req).config (Handler.pickState env app req).roundRobin
      ctx.canonicalModel ctx.bannedKeys ∅).2 = .ok (some s.current)
  tried : s.triedKeys = ∅
  trace : s.trace = []
  /-- the limits are checked in the state after the pick -/
  admitted : ∃ start : AppState,
    (∃ sticky sync rr, start = AppState.disturb { Handler.pickState env app req with
      sticky := sticky, sync := sync, roundRobin := rr } env.beforeLimits) ∧
    checkAllRateLimits app.config req.auth.team req.auth.tokenKey req.auth.rpm req.auth.tpm env.limitsAt
      { app := start, ledger := [] } = (s.charged, none)

theorem prepare_entered {env : Env} {app : AppState} {req : ChatRequest} {ctx : LoopCtx} {s : LoopState}
    (h : prepare env app req = .ok (ctx, s)) : Entered env app req ctx s := by
  unfold prepare earlyRun at h
  dsimp only at h
  split at h
  · cases h
  rename_i haccess
  split at h
  · cases h
  rename_i bannedKeys hbanned
  split at h
  · cases h
  rename_i hall
  split at h
  · cases h
  rename_i endpoint hsticky
  split at h
  · cases h
  · cases h
  rename_i current hcurrent
  split at h
  · cases h
  rename_i hlimited
  cases h
  obtain ⟨sticky, sync, hstate⟩ := stickyPick_only (Handler.pickState env app req)
    (app.config.findModel (app.config.canonicalModelName req.modelName)) bannedKeys req.sessionId env.startAt
  unfold Handler.pickState at hstate
  constructor
  case req_eq => rfl
  case canonical => rfl
  case retry => rfl
  case teamTpm_eq => rfl
  case access => simpa using haccess
  case banned => exact hbanned
  case notAll =>
    intro m hm
    simpa [hm] using hall
  case picked =>
    cases endpoint with
    | some ep =>
      cases hcurrent
      exact Or.inl hsticky
    | none =>
      dsimp only [AppState.selectAvailable] at hcurrent
      rw [hstate] at hcurrent
      exact Or.inr ⟨hsticky, hcurrent⟩
  case tried => rfl
  case trace => rfl
  case admitted =>
    cases endpoint with
    | some ep =>
      dsimp only at hlimited ⊢
      rw [hstate] at hlimited ⊢
      exact ⟨_, ⟨sticky, sync, _, rfl⟩, Prod.ext rfl hlimited⟩
    | none =>
      dsimp only [AppState.selectAvailable] at hlimited ⊢
      rw [hstate] at hlimited ⊢
      exact ⟨_, ⟨sticky, sync, _, rfl⟩, Prod.ext rfl hlimited⟩

/-- What a request has when it enters the loop. -/
structure Prepared (env : Env) (app : AppState) (req : ChatRequest) (ctx : LoopCtx) (s : LoopState) : Prop where
  req_eq : ctx.req = req
  canonical : ctx.canonicalModel = app.config.canonicalModelName req.modelName
  retry : ctx.retryOnFailure = app.config.fail2ban.retryOnFailure
  teamTpm_eq : ctx.teamTpm = teamTpm app.config req.auth.team
  access : app.config.tokenHasModelAccess req.auth.tokenKey ctx.canonicalModel = true
  banned : (app.collectBanned env.startAt
    (((app.config.findModel ctx.canonicalModel).map (·.endpoints)).getD []) ∅).2 = .ok ctx.bannedKeys
  notAll : ∀ m, app.config.findModel ctx.canonicalModel = some m →
    ¬ (m.endpoints.length = ctx.bannedKeys.card ∧ 0 < m.endpoints.length)
  picked : ∃ m, app.config.findModel ctx.canonicalModel = some m ∧ PickedBy ctx m s.current
  tried : s.triedKeys = ∅
  trace : s.trace = []
  config : s.app.config = app.config
  admitted : ∃ app', checkAllRateLimits app.config req.auth.team req.auth.tokenKey req.auth.rpm
    req.auth.tpm env.limitsAt { app := app', ledger := [] } = (s.charged, none)

/-- A run that has visited an endpoint has entered the loop. -/
theorem proxyHandler_prepared {deps : Externs} {env : Env} {fuel : Nat} {app : AppState} {req : ChatRequest}
    (h : (proxyHandler deps env fuel app req).trace ≠ []) : ∃ ctx s, prepare env app req = .ok (ctx, s) := by
  unfold proxyHandler at h
  cases hprep : prepare env app req with
  | error run =>
    rw [hprep] at h
    exact absurd (prepare_error hprep).1 h
  | ok start => exact ⟨start.1, start.2, rfl⟩

theorem prepare_ok {env : Env} {app : AppState} {req : ChatRequest} {ctx : LoopCtx} {s : LoopState}
    (hpick : env.beforePick.KeepsConfig) (hlimits : env.beforeLimits.KeepsConfig)
    (h : prepare env app req = .ok (ctx, s)) : Prepared env app req ctx s := by
  have he := prepare_entered h
  have hconfig : (Handler.pickState env app req).config = app.config := by
    unfold Handler.pickState
    rw [disturb_config hpick, AppState.collectBanned_config]
  obtain ⟨start, ⟨sticky, sync, rr, hstart⟩, hadmitted⟩ := he.admitted
  refine ⟨he.req_eq, he.canonical, he.retry, he.teamTpm_eq, he.access, he.banned, he.notAll, ?_, he.tried, he.trace,
    ?_, _, hadmitted⟩
  · rcases he.picked with hsticky | ⟨_, hpicked⟩
    · obtain ⟨m, key, hm, hp, hkey, hnot⟩ := stickyPick_found hsticky
      exact ⟨m, hm, hp, Or.inl ⟨key, hkey, hnot⟩⟩
    · rw [hconfig] at hpicked
      obtain ⟨m, key, hm, hp, hkey, hnot, _⟩ := Balancer.selectAvailable_found hpicked
      exact ⟨m, hm, hp, Or.inr ⟨key, hkey, hnot⟩⟩
  · have hchecks := (checkAllRateLimits_budgets app.config req.auth.team req.auth.tokenKey req.auth.rpm req.auth.tpm
      env.limitsAt { app := start, ledger := [] }).config
    rw [hadmitted, hstart] at hchecks
    exact hchecks.trans ((disturb_config hlimits).trans hconfig)

end AiRouter
