import AiRouter.RetryLoop

/-
# Banned endpoints and the requests they get

The set of banned keys is collected under the handler's mask. A sticky pick tests the handler's
key of the endpoint, the round-robin picks test the balancer's.
-/
namespace AiRouter

/-- With `bans` collected at its start, no request by this token for this model name is ever sent
to an endpoint whose key is in `bans`. -/
def BansRespected (cfg : AppConfig) (tokenKey modelName : String) (bans : Finset String) : Prop :=
  ∀ (deps : Externs) (env : Env) (app : AppState) (req : ChatRequest) (fuel : Nat) (ctx : LoopCtx)
    (s : LoopState), app.config = cfg → env.KeepsConfig → RequestOf cfg tokenKey modelName req →
    prepare env app req = .ok (ctx, s) → ctx.bannedKeys = bans →
    ∀ v ∈ (proxyHandler deps env fuel app req).trace, ∀ reply, v.step = .sent reply →
      ∀ h, Handler.epKey v.endpoint.url v.endpoint.apiKey = .ok h → h ∉ bans

/-- `bans` can be collected for this model by a request that enters the loop. -/
def Collectable (m : ModelConfig) (bans : Finset String) : Prop :=
  (∀ ep ∈ m.endpoints, ∃ h, Handler.epKey ep.url ep.key = .ok h) ∧
    (∀ k ∈ bans, ∃ ep ∈ m.endpoints, Handler.epKey ep.url ep.key = .ok k) ∧
    m.endpoints.length ≠ bans.card

/-- A request gets past the access check and the collection of `bans`, and some banned endpoint
has a balancer key that is not among the banned ones. -/
def BanHole (cfg : AppConfig) (tokenKey modelName : String) (bans : Finset String) : Prop :=
  cfg.tokenHasModelAccess tokenKey (cfg.canonicalModelName modelName) = true ∧
    ∃ m, cfg.findModel (cfg.canonicalModelName modelName) = some m ∧ Collectable m bans ∧
      ∃ ep ∈ m.endpoints, ∃ h b, Handler.epKey ep.url ep.key = .ok h ∧
        Balancer.epKey ep.url ep.key = .ok b ∧ h ∈ bans ∧ b ∉ bans

/-- What a request collects before it enters the loop is collectable. -/
theorem Prepared.collectable {env : Env} {app : AppState} {req : ChatRequest} {ctx : LoopCtx}
    {s : LoopState} (hp : Prepared env app req ctx s) {m : ModelConfig}
    (hm : app.config.findModel ctx.canonicalModel = some m) : Collectable m ctx.bannedKeys := by
  have hbanned := hp.banned
  rw [hm] at hbanned
  obtain ⟨m', hm', hpick⟩ := hp.picked
  rw [hm] at hm'
  obtain rfl := Option.some.inj hm'
  refine ⟨fun ep hep => collectBanned_keys hbanned ep hep, fun k hk => ?_, fun hlen => ?_⟩
  · rcases collectBanned_subset hbanned k hk with hk | hk
    · cases hk
    · exact hk
  · exact hp.notAll m hm ⟨hlen, by have := hpick.1.index_lt; omega⟩

/-- **Without the hole the bans are respected**: a pick the balancer makes is outside the bans
under both keys. -/
theorem respected_of_no_hole {cfg : AppConfig} {tokenKey modelName : String} {bans : Finset String}
    (hno : ¬ BanHole cfg tokenKey modelName bans) : BansRespected cfg tokenKey modelName bans := by
  rintro deps env app req fuel ctx s rfl henv hreq hprep rfl v hv reply - h hh
  have hp := prepare_ok henv.1 henv.2.1 hprep
  obtain ⟨m, hm, hcur⟩ := hp.picked
  have htrace : ∀ v ∈ s.trace, PickedBy ctx m v.endpoint := by
    intro v hv
    rw [hp.trace] at hv
    cases hv
  have hvisits := retryLoop_visits deps henv hm hp.config hcur htrace fuel
  have hv' : v ∈ (retryLoop deps env ctx fuel s).state.trace := by
    unfold proxyHandler at hv
    rw [hprep] at hv
    exact hv
  obtain ⟨hpick, ⟨h', hh', hnot⟩ | ⟨b, hb, hnot⟩⟩ := hvisits v hv'
  · rw [hh] at hh'
    obtain rfl := Except.ok.inj hh'
    exact hnot
  · intro hmem
    obtain ⟨ep, hep, _, hsel⟩ := hpick.mem
    rw [hsel] at hh hb
    refine hno ⟨?_, m, ?_, hp.collectable hm, ep, hep, h, b, hh, hb, hmem, hnot⟩
    · rw [← hreq.tokenKey, ← hreq.2, ← hp.canonical]; exact hp.access
    · rw [← hreq.2, ← hp.canonical]; exact hm

/-! ## Through the hole -/

/-- A round in which nothing else runs and the upstream answers 200. -/
def answeringTurn : Turn where
  before := .quiet
  checkAt := 0
  during := .quiet
  reply := .response 200 []
  doneAt := 0

/-- A request let in with room in the budgets is sent to the endpoint the loop starts at. -/
theorem first_sent (deps : Externs) (ctx : LoopCtx) {s : LoopState} {ks : List String} {t : Turn} {h : String}
    (hb : t.before = .quiet) (hd : t.during.KeepsConfig) (hat : t.checkAt = 0)
    (hbody : ctx.req.bodyError = none) (hh : Handler.epKey s.current.url s.current.apiKey = .ok h)
    (hks : epRlKey h ∈ ks) (hopen : Open ks 1 s.charged) :
    VisitedAs (.sent t.reply) s (turn deps ctx t s).state := by
  have hnone : (Gate.runAll (endpointChecks s.current h t.checkAt) s.charged).2 = none := by
    unfold endpointChecks
    rw [hat, hopen.runAll_shared, ← List.append_nil (ite _ _ _)]
    obtain ⟨c', hrun, _⟩ := hopen.runAll_local
      (0 < s.current.endpointLimitsRpm ∨ 0 < s.current.endpointLimitsTpm) (fun _ => hks)
      s.current.endpointLimitsRpm s.current.endpointLimitsTpm .endpoint "Endpoint" []
    rw [hrun]
    rfl
  have hsend : sendStep ctx t = .sent t.reply := by
    unfold sendStep
    rw [hbody]
    rfl
  have hturn := turn_sends deps ctx hb hd hh hnone
  rw [hsend] at hturn
  exact hturn

theorem not_respected_of_hole {cfg : AppConfig} {tokenKey modelName : String} {bans : Finset String}
    (hz : BanHole cfg tokenKey modelName bans) : ¬ BansRespected cfg tokenKey modelName bans := by
  obtain ⟨haccess, m, hm, ⟨hkeys, hbans, hlen⟩, ep, hmem, h, b, hh, hb, hban, hfree⟩ := hz
  obtain ⟨i, hi⟩ := List.getElem?_of_mem hmem
  have hpoint := RoundRobinCounters.pointing_at (List.getElem?_eq_some_iff.1 hi).1
  obtain ⟨auth, hauth, rfl⟩ := authenticate_of_access haccess
  let req : ChatRequest :=
    { auth := auth, modelName := modelName, isStream := false, isAnthropic := false, sessionId := none, bodyError := none }
  let ks := [teamKey auth.team, auth.tokenKey, epRlKey h]
  obtain ⟨ctx, s, hprep, hreq, _, _, hbanned, hcur, _, _, hopen⟩ :=
    exists_start req (fun _ => answeringTurn) bans.toList haccess hm hkeys
      (fun x hx => hbans x (Finset.mem_toList.1 hx)) (by rw [Finset.toList_toFinset]; exact hlen) hi hpoint hb
      (fun hx => hfree (Finset.mem_toList.1 hx)) rfl (RateLimiterStore.roomyStore_roomy ks)
      List.mem_cons_self (List.mem_cons_of_mem _ List.mem_cons_self)
  rw [Finset.toList_toFinset] at hbanned
  have hsent := first_sent .mute ctx (t := answeringTurn) rfl (fun _ => rfl) rfl (by rw [hreq])
    (by rw [hcur]; exact hh) (by simp [ks]) hopen
  intro hrespected
  refine hrespected .mute (.quiet fun _ => answeringTurn) _ req 1 ctx s rfl
    ⟨fun _ => rfl, fun _ => rfl, fun _ => ⟨fun _ => rfl, fun _ => rfl⟩⟩ ⟨hauth, rfl⟩ hprep hbanned
    { endpoint := s.current, step := .sent answeringTurn.reply } ?_ _ rfl h (by rw [hcur]; exact hh) hban
  unfold proxyHandler retryLoop
  rw [hprep]
  dsimp only
  rw [Loop.run_one_state]
  have htrace : (turn .mute ctx answeringTurn s).state.trace = s.trace ++ _ := hsent
  simp only [Env.quiet, htrace]
  exact List.mem_append_right _ (List.mem_singleton_self _)

/-- **Bans are respected exactly without the hole**: the balancer's key of every banned endpoint
must be banned too. -/
theorem bans_respected_iff (cfg : AppConfig) (tokenKey modelName : String) (bans : Finset String) :
    BansRespected cfg tokenKey modelName bans ↔ ¬ BanHole cfg tokenKey modelName bans := by
  constructor
  · intro hrespected hz
    exact not_respected_of_hole hz hrespected
  · exact respected_of_no_hole

/-! ## Two endpoints, one of them banned -/

def pairConfig : AppConfig :=
  { singleConfig with
    models :=
      [{ name := "gpt-4", aliases := [], modelType := "chat"
         endpoints :=
          [{ url := "https://a.example.com", key := "sk-upstream-1", limits := none, cost := none, weight := 1 },
           { url := "https://b.example.com", key := "sk-upstream-2", limits := none, cost := none, weight := 1 }] }] }

def pairBans : List String := ["https://a.example.com:sk-u...am-1"]

/-- The first endpoint is banned when the request starts, and is the one the request is sent to. -/
theorem banned_endpoint_is_sent :
    pairConfig.Accepted ∧ RequestOf pairConfig "sk-client" "gpt-4" singleRequest ∧
      Handler.epKey "https://a.example.com" "sk-upstream-1" = .ok "https://a.example.com:sk-u...am-1" ∧
      ∃ ctx s, prepare (.quiet fun _ => answeringTurn)
          (startApp pairConfig { counters := ∅ } pairBans { limiters := ∅ }) singleRequest = .ok (ctx, s) ∧
        ctx.bannedKeys = pairBans.toFinset ∧
        (proxyHandler .mute (.quiet fun _ => answeringTurn) 1
          (startApp pairConfig { counters := ∅ } pairBans { limiters := ∅ }) singleRequest).trace
            = [{ endpoint :=
                  { url := "https://a.example.com", apiKey := "sk-upstream-1", index := 0, totalEndpoints := 2
                    costPrompt := 0, costCompletion := 0, endpointLimitsRpm := 0, endpointLimitsTpm := 0 }
                 step := .sent answeringTurn.reply }] :=
  ⟨rfl, ⟨rfl, rfl⟩, rfl, _, _, rfl, rfl, rfl⟩

end AiRouter
