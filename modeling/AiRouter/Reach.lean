import AiRouter.HandlerSpec

/-
# Every endpoint can come first

What a request meets is decided by the state it finds: the counter of its model, the bans, the
budgets. `exists_start` sets them so that the loop starts at a given endpoint with a given set
of banned keys, provided the balancer's key of that endpoint is not in the set. Everything
happens at time 0 and nothing else runs.
-/
namespace AiRouter

/-! ## Budgets with room -/

/-- Room for `k` more cells and `n` more tokens at time 0. -/
structure RateLimitPair.Roomy (k n : Nat) (p : RateLimitPair) : Prop where
  rpm : p.rpm = 3
  tat : p.tat.getD 0 + k * perMinute ≤ 3 * perMinute
  enough : (n : Int) ≤ p.tpm.state.tokens
  few : p.tpm.state.tokens ≤ 3

def roomyPair : RateLimitPair where
  rpm := 3
  tat := none
  tpm := { capacity := 3, state := { tokens := 3, lastUpdate := 0, windowStart := 0, windowConsumed := 0 } }
  lastUsed := 0

theorem roomyPair_roomy : roomyPair.Roomy 3 3 := ⟨rfl, Nat.le_of_eq (Nat.zero_add _), by decide, by decide⟩

def roomyStore (ks : List String) : RateLimiterStore := { limiters := KeyMap.ofKeys ks roomyPair }

theorem refill_zero (s : TpmState) (capacity : Nat) : TpmLimiter.refill s capacity 0 = s := by
  simp [TpmLimiter.refill]

namespace RateLimitPair

variable {k n : Nat} {p : RateLimitPair}

theorem Roomy.touch (h : p.Roomy k n) (now : Nat) : (p.touch now).Roomy k n :=
  ⟨h.rpm, h.tat, h.enough, h.few⟩

theorem Roomy.weaken {k' n' : Nat} (hk : k' ≤ k) (hn : n' ≤ n) (h : p.Roomy k n) : p.Roomy k' n' := by
  have hmul := Nat.mul_le_mul_right perMinute hk
  obtain ⟨hrpm, htat, henough, hfew⟩ := h
  exact ⟨hrpm, by omega, by omega, hfew⟩

theorem Roomy.checkRpm (h : p.Roomy (k + 1) n) :
    (p.checkRpm 0).2 = .ok () ∧ (p.checkRpm 0).1.Roomy k n := by
  obtain ⟨hrpm, htat, henough, hfew⟩ := h
  have hmul : (k + 1) * perMinute = k * perMinute + perMinute := Nat.succ_mul k perMinute
  have hc : (quotaPerMinute p.rpm).conforms p.tat (p.rpm * 0) = true := by
    rw [Gcra.conforms_iff, hrpm]
    show p.tat.getD (3 * 0) ≤ 3 * 0 + (3 - 1) * perMinute
    rw [Nat.mul_zero]
    omega
  have hchk : (quotaPerMinute p.rpm).check p.tat (p.rpm * 0)
      = (some (p.tat.getD 0 + perMinute), true) := by
    rw [Gcra.Quota.check, if_pos hc, Nat.mul_zero, Nat.max_zero]
    rfl
  have hrun : p.checkRpm 0 = ({ p with tat := some (p.tat.getD 0 + perMinute) }, .ok ()) := by
    unfold RateLimitPair.checkRpm
    rw [hchk]
    rfl
  rw [hrun]
  refine ⟨rfl, hrpm, ?_, henough, hfew⟩
  rw [Option.getD_some]
  omega

theorem Roomy.checkN (h : p.Roomy k (n + 1)) :
    (p.tpm.checkN 1 0).2 = .ok () ∧ ({ p with tpm := (p.tpm.checkN 1 0).1 } : RateLimitPair).Roomy k n := by
  obtain ⟨hrpm, htat, henough, hfew⟩ := h
  have hone : asI64 1 = 1 := rfl
  have hle : asI64 1 ≤ p.tpm.state.tokens := by rw [hone]; omega
  have hsub : asI64 (p.tpm.state.tokens - 1) = p.tpm.state.tokens - 1 :=
    asI64_of_fits (by omega) (by omega)
  unfold TpmLimiter.checkN
  simp only [refill_zero, Nat.cast_one, if_pos hle]
  refine ⟨trivial, hrpm, htat, ?_, ?_⟩
  · simp only [TpmLimiter.track_tokens, hone, hsub]; omega
  · simp only [TpmLimiter.track_tokens, hone, hsub]; omega

end RateLimitPair

namespace RateLimiterStore

/-- Every key of `ks` has an entry with that room. -/
def Roomy (s : RateLimiterStore) (ks : List String) (k n : Nat) : Prop :=
  ∀ key ∈ ks, ∃ p, s.limiters.lookup key = some p ∧ p.Roomy k n

theorem roomyStore_roomy (ks : List String) : (roomyStore ks).Roomy ks 3 3 :=
  fun _ hkey => ⟨roomyPair, KeyMap.lookup_ofKeys roomyPair hkey, roomyPair_roomy⟩

variable {s : RateLimiterStore} {ks : List String} {k n k' n' : Nat} {key : String}

theorem Roomy.weaken (h : s.Roomy ks k n) (hk : k' ≤ k) (hn : n' ≤ n) : s.Roomy ks k' n' := by
  intro key hkey
  obtain ⟨p, hp, hroomy⟩ := h key hkey
  exact ⟨p, hp, hroomy.weaken hk hn⟩

theorem Roomy.put {p : RateLimitPair} (h : s.Roomy ks k n) (hp : p.Roomy k n) :
    (s.put key p).Roomy ks k n := by
  intro key' hkey'
  by_cases hk : key' = key
  · subst hk
    exact ⟨p, s.put_lookup_self p, hp⟩
  · obtain ⟨q, hq, hroomy⟩ := h key' hkey'
    exact ⟨q, by rw [s.put_lookup_ne p hk, hq], hroomy⟩

theorem Roomy.checkRpm (h : s.Roomy ks (k + 1) n) (hkey : key ∈ ks) (rpm tpm : Nat) :
    (s.checkRpm key rpm tpm 0).2 = .ok () ∧ (s.checkRpm key rpm tpm 0).1.Roomy ks k n := by
  obtain ⟨p, hp, hroomy⟩ := h key hkey
  have hc := (hroomy.touch 0).checkRpm
  unfold RateLimiterStore.checkRpm getOrCreate
  split
  · simp only [hp, Option.getD_some]
    exact ⟨hc.1, (h.weaken (Nat.le_succ k) (Nat.le_refl n)).put hc.2⟩
  · exact ⟨rfl, h.weaken (Nat.le_succ k) (Nat.le_refl n)⟩

theorem Roomy.checkTpm (h : s.Roomy ks k (n + 1)) (hkey : key ∈ ks) (rpm tpm : Nat) :
    (s.checkTpm key rpm tpm 1 0).2 = .ok () ∧ (s.checkTpm key rpm tpm 1 0).1.Roomy ks k n := by
  obtain ⟨p, hp, hroomy⟩ := h key hkey
  have hc := (hroomy.touch 0).checkN
  unfold RateLimiterStore.checkTpm getOrCreate
  split
  · simp only [hp, Option.getD_some]
    exact ⟨hc.1, (h.weaken (Nat.le_refl k) (Nat.le_succ n)).put hc.2⟩
  · exact ⟨rfl, h.weaken (Nat.le_refl k) (Nat.le_succ n)⟩

/-- **A store with room admits**, whatever limits the caller passes. -/
theorem Roomy.check (h : s.Roomy ks (k + 1) (n + 1)) (hkey : key ∈ ks) (rpm tpm : Nat)
    (scope : RateLimitScope) :
    (s.check key rpm tpm 1 scope 0).2.allowed = true ∧
      (s.check key rpm tpm 1 scope 0).1.Roomy ks k n := by
  obtain ⟨hrpm, hroomy⟩ := h.checkRpm hkey rpm tpm
  obtain ⟨htpm, hroomy'⟩ := hroomy.checkTpm hkey rpm tpm
  refine ⟨(check_allowed s rpm tpm 1 0 scope).2 ⟨hrpm, htpm⟩, ?_⟩
  rw [check_fst, hrpm]
  exact hroomy'

end RateLimiterStore

/-! ## Admission -/

/-- Redis is off and the budgets of `ks` have room. -/
structure Open (ks : List String) (k : Nat) (c : Charged) : Prop where
  offline : c.app.sync.connected = false
  roomy : c.app.limiters.Roomy ks k k

section
variable {ks : List String} {k : Nat} {c : Charged}

theorem Open.weaken {k' : Nat} (h : Open ks k c) (hk : k' ≤ k) : Open ks k' c :=
  ⟨h.offline, h.roomy.weaken hk hk⟩

theorem Open.sharedCheck (h : Open ks k c) (scope key : String) (limit : Nat) (label : String) :
    sharedCheck scope key limit 0 label c = (c, none) := by
  unfold AiRouter.sharedCheck
  rw [SyncStore.checkRateLimit_offline h.offline]
  rfl

theorem Open.localCheck (h : Open ks (k + 1) c) {key : String} (hkey : key ∈ ks) (rpm tpm : Nat)
    (scope : RateLimitScope) (label : String) :
    (localCheck key rpm tpm scope 0 label c).2 = none ∧
      Open ks k (localCheck key rpm tpm scope 0 label c).1 := by
  obtain ⟨hallowed, hroomy⟩ := h.roomy.check hkey rpm tpm scope
  unfold AiRouter.localCheck Charged.checkLocal
  dsimp only
  rw [if_pos hallowed]
  exact ⟨rfl, h.offline, hroomy⟩

/-- A shared check in front of other checks, made or not, is passed without a mark. -/
theorem Open.runAll_shared (h : Open ks k c) (b : Prop) [Decidable b] (scope key : String)
    (limit : Nat) (label : String) (gs : List (Gate.Check Charged Rejection)) :
    Gate.runAll ((if b then [AiRouter.sharedCheck scope key limit 0 label] else []) ++ gs) c
      = Gate.runAll gs c := by
  split
  · rw [List.singleton_append, Gate.runAll_cons, h.sharedCheck]
  · rfl

/-- A local check in front of other checks, made or not, is passed and takes at most one. -/
theorem Open.runAll_local (h : Open ks (k + 1) c) (b : Prop) [Decidable b] {key : String}
    (hkey : b → key ∈ ks) (rpm tpm : Nat) (scope : RateLimitScope) (label : String)
    (gs : List (Gate.Check Charged Rejection)) :
    ∃ c', Gate.runAll ((if b then [AiRouter.localCheck key rpm tpm scope 0 label] else []) ++ gs) c
      = Gate.runAll gs c' ∧ Open ks k c' := by
  split
  · rename_i hb
    obtain ⟨hnone, hopen⟩ := h.localCheck (hkey hb) rpm tpm scope label
    refine ⟨_, ?_, hopen⟩
    rw [List.singleton_append, Gate.runAll_cons, hnone]
  · exact ⟨c, rfl, h.weaken (Nat.le_succ k)⟩

/-- **Team and token admit** where their budgets have room for two checks. -/
theorem Open.checkAllRateLimits (h : Open ks (k + 2) c) (cfg : AppConfig) {team tokenKey : String}
    (hteam : teamKey team ∈ ks) (htoken : tokenKey ∈ ks) (tokenRpm tokenTpm : Nat) :
    (checkAllRateLimits cfg team tokenKey tokenRpm tokenTpm 0 c).2 = none ∧
      Open ks k (checkAllRateLimits cfg team tokenKey tokenRpm tokenTpm 0 c).1 := by
  unfold AiRouter.checkAllRateLimits rateChecks
  rw [List.append_assoc, List.append_assoc, h.runAll_shared]
  obtain ⟨c', hrun, hopen⟩ := h.runAll_local (0 < teamRpm cfg team ∨ 0 < teamTpm cfg team)
    (fun _ => hteam) (teamRpm cfg team) (teamTpm cfg team) .token ("Team '" ++ team ++ "'")
    ((if 0 < tokenRpm then [AiRouter.sharedCheck "token" tokenKey tokenRpm 0 "Token (shared)"] else []) ++
      [AiRouter.localCheck tokenKey tokenRpm tokenTpm .token 0 "Token"])
  rw [hrun, hopen.runAll_shared]
  obtain ⟨hnone, hopen'⟩ := hopen.localCheck htoken tokenRpm tokenTpm .token "Token"
  rw [Gate.runAll_cons, hnone]
  exact ⟨rfl, hopen'⟩

end

/-! ## Bans and the first pick -/

/-- A breaker that bans exactly `ks` at time 0. -/
def breakerBanning (cfg : AppConfig) (ks : List String) : Fail2ban :=
  { Fail2ban.new cfg.fail2ban.maxFailures cfg.fail2ban.banDurationSecs cfg.fail2ban.errorThresholdPct
      cfg.fail2ban.failStatusCodes with
    states := KeyMap.ofKeys ks (EndpointState.fresh.bannedFor 1) }

theorem breakerBanning_isBanned (cfg : AppConfig) (ks : List String) (k : String) :
    (breakerBanning cfg ks).isBanned k 0 = (breakerBanning cfg ks, decide (k ∈ ks)) := by
  by_cases hk : k ∈ ks
  · rw [decide_eq_true hk]
    exact Fail2ban.isBanned_of_until _ 0 (KeyMap.lookup_ofKeys _ hk) rfl Nat.zero_lt_one
  · rw [decide_eq_false hk]
    exact Fail2ban.isBanned_unknown _ 0 (KeyMap.lookup_ofKeys_not_mem _ hk)

def SyncStore.offline : SyncStore where
  connected := false
  keyPrefix := ""
  redis := { up := false, entries := ∅ }

/-- The state of a router without Redis. -/
def startApp (cfg : AppConfig) (rr : RoundRobinCounters) (bans : List String)
    (limiters : RateLimiterStore) : AppState where
  config := cfg
  roundRobin := rr
  limiters := limiters
  fail2ban := breakerBanning cfg bans
  sync := .offline
  sticky := { sessions := ∅, ttlSecs := 0 }
  stickyTtlSecs := 0
  stats := { pool := none }
  healthStore := { states := ∅, totalRequests := 0, totalErrors := 0 }
  liveStats :=
    { requestsTotal := 0, requestsByToken := ∅, requestsByTeam := ∅, requestsByEndpoint := ∅
      errorsByToken := ∅, errorsByTeam := ∅, errorsByEndpoint := ∅ }

/-- Nothing else runs before the loop, and all of that takes no time. -/
def Env.quiet (turn : Nat → Turn) : Env where
  startAt := 0
  beforePick := .quiet
  beforeLimits := .quiet
  limitsAt := 0
  turn := turn

theorem startApp_isBanned (cfg : AppConfig) (rr : RoundRobinCounters) (bans : List String)
    (limiters : RateLimiterStore) (k : String) :
    (startApp cfg rr bans limiters).isBanned k 0
      = (startApp cfg rr bans limiters, decide (k ∈ bans)) := by
  have hb := breakerBanning_isBanned cfg bans k
  have hs := SyncStore.isBanned_offline (s := .offline) rfl k 0
  simp only [AppState.isBanned, startApp, hb, hs, Bool.or_false]

/-- Collecting the bans there finds the model's keys among `bans`. -/
theorem collectBanned_startApp (cfg : AppConfig) (rr : RoundRobinCounters) (bans : List String)
    (limiters : RateLimiterStore) : ∀ (eps : List EndpointConfig) (acc : Finset String),
    (∀ ep ∈ eps, ∃ h, Handler.epKey ep.url ep.key = .ok h) →
    ∃ b, (startApp cfg rr bans limiters).collectBanned 0 eps acc
        = (startApp cfg rr bans limiters, .ok b) ∧
      ∀ k, k ∈ b ↔ k ∈ acc ∨ (k ∈ bans ∧ ∃ ep ∈ eps, Handler.epKey ep.url ep.key = .ok k)
  | [], acc, _ => ⟨acc, rfl, by simp⟩
  | ep :: rest, acc, hkeys => by
    obtain ⟨h, hh⟩ := hkeys ep List.mem_cons_self
    simp only [AppState.collectBanned, hh, startApp_isBanned]
    obtain ⟨b, hb, hmem⟩ := collectBanned_startApp cfg rr bans limiters rest
      (if decide (h ∈ bans) = true then insert h acc else acc)
      (fun e he => hkeys e (List.mem_cons_of_mem _ he))
    refine ⟨b, hb, fun k => ?_⟩
    rw [hmem k]
    by_cases hban : h ∈ bans
    · simp only [hban, decide_true, if_true, Finset.mem_insert, List.mem_cons, exists_eq_or_imp, hh,
        Except.ok.injEq]
      constructor
      · rintro ((rfl | hk) | hk)
        · exact Or.inr ⟨hban, Or.inl rfl⟩
        · exact Or.inl hk
        · exact Or.inr ⟨hk.1, Or.inr hk.2⟩
      · rintro (hk | ⟨hk, rfl | hk'⟩)
        · exact Or.inl (Or.inr hk)
        · exact Or.inl (Or.inl rfl)
        · exact Or.inr ⟨hk, hk'⟩
    · simp only [hban, decide_false, Bool.false_eq_true, if_false, List.mem_cons, exists_eq_or_imp, hh,
        Except.ok.injEq]
      constructor
      · rintro (hk | hk)
        · exact Or.inl hk
        · exact Or.inr ⟨hk.1, Or.inr hk.2⟩
      · rintro (hk | ⟨hk, rfl | hk'⟩)
        · exact Or.inl hk
        · exact absurd hk hban
        · exact Or.inr ⟨hk, hk'⟩

/-- **Any endpoint can come first**: with the bans in `bans` and room in the budgets, a request
without a session enters the loop at the endpoint the counter stands at. -/
theorem exists_start (req : ChatRequest) (turn : Nat → Turn) (bans : List String) {cfg : AppConfig}
    {m : ModelConfig} {i : Nat} {ep : EndpointConfig} {b : String} {limiters : RateLimiterStore}
    {ks : List String} {k : Nat} {rr : RoundRobinCounters}
    (haccess : cfg.tokenHasModelAccess req.auth.tokenKey (cfg.canonicalModelName req.modelName) = true)
    (hm : cfg.findModel (cfg.canonicalModelName req.modelName) = some m)
    (hkeys : ∀ ep ∈ m.endpoints, ∃ h, Handler.epKey ep.url ep.key = .ok h)
    (hbans : ∀ h ∈ bans, ∃ ep ∈ m.endpoints, Handler.epKey ep.url ep.key = .ok h)
    (hnotAll : m.endpoints.length ≠ bans.toFinset.card)
    (hi : m.endpoints[i]? = some ep) (hrr : rr.At m i) (hb : Balancer.epKey ep.url ep.key = .ok b)
    (hfree : b ∉ bans)
    (hsession : req.sessionId = none) (hroomy : limiters.Roomy ks (k + 2) (k + 2))
    (hteam : teamKey req.auth.team ∈ ks) (htoken : req.auth.tokenKey ∈ ks) :
    ∃ ctx s, prepare (.quiet turn) (startApp cfg rr bans limiters) req = .ok (ctx, s) ∧
      ctx.req = req ∧ ctx.canonicalModel = cfg.canonicalModelName req.modelName ∧
      ctx.retryOnFailure = cfg.fail2ban.retryOnFailure ∧ ctx.bannedKeys = bans.toFinset ∧
      s.current = ep.selected i m.endpoints.length ∧ s.triedKeys = ∅ ∧ s.app.config = cfg ∧
      Open ks k s.charged := by
  obtain ⟨bs, hcollect, hmem⟩ := collectBanned_startApp cfg rr bans limiters m.endpoints ∅ hkeys
  have hbs : bs = bans.toFinset := by
    ext x
    rw [hmem, List.mem_toFinset]
    constructor
    · rintro (hx | ⟨hx, _⟩)
      · cases hx
      · exact hx
    · exact fun hx => Or.inr ⟨hx, hbans x hx⟩
  have hpick : (Balancer.selectAvailable cfg (startApp cfg rr bans limiters).roundRobin
      (cfg.canonicalModelName req.modelName) bs ∅).2 = .ok (some (ep.selected i m.endpoints.length)) := by
    refine Balancer.selectAvailable_at hm hi ?_ hb ?_ (Finset.notMem_empty _)
    · exact hrr
    · rw [hbs, List.mem_toFinset]; exact hfree
  have hsome : (some m).any (fun m => m.endpoints.length = bs.card ∧ 0 < m.endpoints.length) = false := by
    simp [hbs, hnotAll]
  -- the state in which the limits are checked
  obtain ⟨app, happ, hlim, hoff, hconfig⟩ : ∃ app, (startApp cfg rr bans limiters).selectAvailable
      (cfg.canonicalModelName req.modelName) bs ∅ = (app, .ok (some (ep.selected i m.endpoints.length))) ∧
      app.limiters = limiters ∧ app.sync.connected = false ∧ app.config = cfg :=
    ⟨_, Prod.ext rfl hpick, rfl, rfl, rfl⟩
  have hopen : Open ks (k + 2) { app := app, ledger := [] } := ⟨hoff, by rw [hlim]; exact hroomy⟩
  obtain ⟨hnone, hopen'⟩ := hopen.checkAllRateLimits cfg hteam htoken req.auth.rpm req.auth.tpm
  have hcfg : (startApp cfg rr bans limiters).config = cfg := rfl
  unfold prepare
  dsimp only [Env.quiet]
  simp only [hcfg, haccess, not_true_eq_false, if_false, hm, Option.map_some, Option.getD_some, hcollect, hsome,
    Bool.false_eq_true, disturb_quiet, hsession, stickyPick, happ, hnone]
  refine ⟨_, _, rfl, rfl, rfl, rfl, hbs, rfl, rfl, ?_, hopen'⟩
  exact (checkAllRateLimits_budgets _ _ _ _ _ _ _).config.trans hconfig

end AiRouter
