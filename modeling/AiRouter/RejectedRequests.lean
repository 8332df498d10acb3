import AiRouter.RetryLoop

/-
# What a rejected request leaves in the budgets

The checks of a request are made one after another and each charges at once. Nothing is given
back when a later one rejects.
-/
namespace AiRouter

/-- What a key has left at one moment. -/
structure Budget where
  rpm : Nat
  tat : Option Nat
  tokens : Int
  windowLeft : Int
deriving DecidableEq, Repr

/-- The budget an operation with these limits finds. -/
def RateLimiterStore.budget (s : RateLimiterStore) (key : String) (rpm tpm now : Nat) : Budget :=
  let pair := s.getOrCreate key rpm tpm now
  { rpm := pair.rpm
    tat := pair.tat
    tokens := pair.tpm.remaining now
    windowLeft := (pair.tpm.windowRemaining now).2 }

/-- One request less. -/
def Budget.spend (b : Budget) (now : Nat) : Budget :=
  { b with tat := ((quotaPerMinute b.rpm).check b.tat (b.rpm * now)).1 }

/-- What a check of a pair of limiters leaves when it rejects: the budget as it would have been,
but for the request that an RPM limit has admitted before the TPM limit rejects. -/
structure RejectedAt (key : String) (rpm tpm now : Nat) (s s' : RateLimiterStore) : Prop where
  others : ∀ key', key' ≠ key → s'.limiters.lookup key' = s.limiters.lookup key'
  own : s'.budget key rpm tpm now =
    if 0 < rpm ∧ (s.checkRpm key rpm tpm now).2.isOk then (s.budget key rpm tpm now).spend now
    else s.budget key rpm tpm now

/-- What the rejecting check `g` of a request leaves. -/
inductive LeftBy (now : Nat) : Gate.Check Charged Rejection → Charged → Charged → Prop where
  /-- a shared counter has counted the request it rejects -/
  | shared (scope key : String) (limit : Nat) (label : String) (c : Charged) (sync : SyncStore)
      (only : SyncStore.OnlyAt (c.app.sync.rateKey scope key) c.app.sync sync)
      (counted : sync.count scope key now = c.app.sync.count scope key now + 1) :
      LeftBy now (sharedCheck scope key limit now label) c { c with app := { c.app with sync := sync } }
  | own (key : String) (rpm tpm : Nat) (scope : RateLimitScope) (label : String) (c : Charged)
      (limiters : RateLimiterStore) (rejected : RejectedAt key rpm tpm now c.app.limiters limiters) :
      LeftBy now (localCheck key rpm tpm scope now label) c
        { c with app := { c.app with limiters := limiters } }

/-! ## The token bucket -/

namespace TpmLimiter

theorem refill_refill (s : TpmState) (capacity now : Nat) :
    refill (refill s capacity now) capacity now = refill s capacity now := by
  by_cases h : 0 < (now - s.lastUpdate) / 1000000 % 2 ^ 64 ∧
      0 < asI64 ((((now - s.lastUpdate) / 1000000 % 2 ^ 64) * capacity / 60000 : Nat) : Int)
  · have hat : (refill s capacity now).lastUpdate = now := by
      unfold refill
      dsimp only
      rw [if_pos h]
    -- no time has passed since
    generalize refill s capacity now = s' at hat
    unfold refill
    dsimp only
    rw [hat, Nat.sub_self]
    exact if_neg fun hpos => absurd hpos.1 (by decide)
  · have hsame : refill s capacity now = s := by
      unfold refill
      dsimp only
      rw [if_neg h]
    rw [hsame, hsame]

/-- A refill moves neither the window nor what it has consumed. -/
theorem windowRemaining_refill (l : TpmLimiter) (now : Nat) :
    (windowRemaining { l with state := refill l.state l.capacity now } now).2 = (l.windowRemaining now).2 := by
  have hwindow : (refill l.state l.capacity now).windowStart = l.state.windowStart ∧
      (refill l.state l.capacity now).windowConsumed = l.state.windowConsumed := by
    unfold refill
    dsimp only
    split <;> exact ⟨rfl, rfl⟩
  unfold windowRemaining
  dsimp only
  rw [hwindow.1]
  split
  · rfl
  · rw [hwindow.2]

/-- A refusal leaves what was there. -/
theorem checkN_refused {l : TpmLimiter} {n now : Nat} (h : (l.checkN n now).2.isOk = false) :
    (l.checkN n now).1.remaining now = l.remaining now ∧
      ((l.checkN n now).1.windowRemaining now).2 = (l.windowRemaining now).2 := by
  unfold checkN at h ⊢
  dsimp only at h ⊢
  split at h
  · cases h
  · rename_i hle
    rw [if_neg hle]
    constructor
    · unfold remaining
      dsimp only
      rw [refill_refill]
    · exact windowRemaining_refill l now

end TpmLimiter

/-! ## One check of a pair of limiters -/

namespace RateLimiterStore

variable (s : RateLimiterStore) {k : String}

theorem budget_put (p : RateLimitPair) (rpm tpm now : Nat) : (s.put k p).budget k rpm tpm now =
    { rpm := p.rpm, tat := p.tat, tokens := p.tpm.remaining now
      windowLeft := (p.tpm.windowRemaining now).2 } := by
  simp only [budget, getOrCreate, put_lookup_self, Option.getD_some]

theorem checkRpm_budget (rpm tpm now : Nat) : (s.checkRpm k rpm tpm now).1.budget k rpm tpm now =
    if 0 < rpm ∧ (s.checkRpm k rpm tpm now).2.isOk then (s.budget k rpm tpm now).spend now
    else s.budget k rpm tpm now := by
  by_cases hrpm : 0 < rpm
  · obtain ⟨hpair, hok⟩ := ((s.getOrCreate k rpm tpm now).touch now).checkRpm_spec now
    have hrun : s.checkRpm k rpm tpm now = (s.put k (((s.getOrCreate k rpm tpm now).touch now).checkRpm now).1,
        (((s.getOrCreate k rpm tpm now).touch now).checkRpm now).2) := if_pos hrpm
    rw [hrun]
    dsimp only
    rw [budget_put, hpair, hok]
    split
    · rfl
    · rename_i hcell
      rw [Gcra.check_rejected (by simpa [hrpm] using hcell)]
      rfl
  · rw [if_neg fun h => hrpm h.1, checkRpm, if_neg hrpm]

theorem checkTpm_budget {rpm tpm n now : Nat} (h : (s.checkTpm k rpm tpm n now).2.isOk = false) :
    (s.checkTpm k rpm tpm n now).1.budget k rpm tpm now = s.budget k rpm tpm now := by
  unfold checkTpm at h ⊢
  split at h
  · rename_i hasked
    obtain ⟨htokens, hwindow⟩ := TpmLimiter.checkN_refused h
    simp only [if_pos hasked, budget_put, htokens, hwindow]
    rfl
  · cases h

/-- **A check that rejects.** -/
theorem check_rejected {rpm tpm n now : Nat} {scope : RateLimitScope}
    (h : (s.check k rpm tpm n scope now).2.allowed = false) :
    RejectedAt k rpm tpm now s (s.check k rpm tpm n scope now).1 := by
  refine ⟨fun k' hk => s.check_lookup_ne rpm tpm n now scope hk, ?_⟩
  rw [check_fst, ← checkRpm_budget]
  split
  · rfl
  · rename_i hrpm
    refine checkTpm_budget _ ?_
    by_contra hok
    have hallowed : (s.check k rpm tpm n scope now).2.allowed = true := by
      refine (s.check_allowed rpm tpm n now scope).2 ⟨hrpm, ?_⟩
      cases htpm : ((s.checkRpm k rpm tpm now).1.checkTpm k rpm tpm n now).2 with
      | ok u => rfl
      | error w => rw [htpm] at hok; exact absurd rfl hok
    rw [h] at hallowed
    cases hallowed

end RateLimiterStore

/-! ## A request -/

theorem localCheck_rejected {key : String} {rpm tpm now : Nat} {scope : RateLimitScope} {label : String}
    {c : Charged} {rej : Rejection} (h : (localCheck key rpm tpm scope now label c).2 = some rej) :
    LeftBy now (localCheck key rpm tpm scope now label) c (localCheck key rpm tpm scope now label c).1 := by
  have hrej : (c.app.limiters.check key rpm tpm 1 scope now).2.allowed = false := by
    unfold localCheck Charged.checkLocal at h
    dsimp only at h
    split at h
    · cases h
    · rename_i hallowed
      simpa using hallowed
  have hstate : (localCheck key rpm tpm scope now label c).1
      = { c with app := { c.app with limiters := (c.app.limiters.check key rpm tpm 1 scope now).1 } } := by
    unfold localCheck Charged.checkLocal
    simp only [hrej, Bool.false_eq_true, false_and, if_false]
  rw [hstate]
  exact .own key rpm tpm scope label c _ (c.app.limiters.check_rejected hrej)

theorem sharedCheck_rejected {scope key : String} {limit now : Nat} {label : String} {c : Charged}
    {rej : Rejection} (h : (sharedCheck scope key limit now label c).2 = some rej) :
    LeftBy now (sharedCheck scope key limit now label) c (sharedCheck scope key limit now label c).1 := by
  have hrej : (c.app.sync.checkRateLimit scope key limit now).2.allowed = false := by
    unfold sharedCheck at h
    dsimp only at h
    split at h
    · cases h
    · rename_i hallowed
      simpa using hallowed
  exact .shared scope key limit label c _ (c.app.sync.checkRateLimit_onlyAt scope key limit now)
    (SyncStore.checkRateLimit_rejected hrej)

/-- **What rejections leave.** A check of a pair leaves what `RejectedAt` says. When a request is
rejected, the checks before the rejecting one have been passed, with the marks they leave on an
admitted request, the rejecting one leaves what `LeftBy` says, and the later ones are not made. -/
theorem rejections_leave :
    (∀ (s : RateLimiterStore) (key : String) (rpm tpm n : Nat) (scope : RateLimitScope) (now : Nat),
      (s.check key rpm tpm n scope now).2.allowed = false →
      RejectedAt key rpm tpm now s (s.check key rpm tpm n scope now).1) ∧
    (∀ (cfg : AppConfig) (team tokenKey : String) (tokenRpm tokenTpm now : Nat) (c : Charged)
      (rej : Rejection), (checkAllRateLimits cfg team tokenKey tokenRpm tokenTpm now c).2 = some rej →
      ∃ before g after, rateChecks cfg team tokenKey tokenRpm tokenTpm now = before ++ g :: after ∧
        (Gate.runAll before c).2 = none ∧ (Gate.runAll before c).1 = Gate.marks before c ∧
        (g (Gate.marks before c)).2 = some rej ∧
        LeftBy now g (Gate.marks before c)
          (checkAllRateLimits cfg team tokenKey tokenRpm tokenTpm now c).1) := by
  constructor
  · intro s key rpm tpm n scope now h
    exact s.check_rejected h
  · intro cfg team tokenKey tokenRpm tokenTpm now c rej h
    obtain ⟨before, g, after, hsplit, hbefore, hrej, hstate⟩ := Gate.runAll_rejected h
    refine ⟨before, g, after, hsplit, hbefore, Gate.runAll_admitted hbefore, hrej, ?_⟩
    have hmem : g ∈ rateChecks cfg team tokenKey tokenRpm tokenTpm now := by
      rw [hsplit]
      exact List.mem_append_right _ List.mem_cons_self
    unfold checkAllRateLimits
    rw [hstate]
    rcases mem_rateChecks hmem with ⟨scope, key, limit, label, rfl⟩ | ⟨key, rpm, tpm, scope, label, rfl⟩
    · exact sharedCheck_rejected hrej
    · exact localCheck_rejected hrej

/-! ## A token that drains its team -/

/-- A team of two requests per minute with two tokens. -/
def teamConfig : AppConfig where
  teams := [{ name := "dev", models := ["*"], limits := some { rpm := 2, tpm := 0 }, costMultiplier := none }]
  tokens :=
    [{ key := "sk-a", team := "dev", models := none, limits := some { rpm := 1, tpm := 0 } },
     { key := "sk-b", team := "dev", models := none, limits := some { rpm := 1, tpm := 0 } }]
  models := singleConfig.models
  fail2ban := .default

/-- The limits checked for one request of a token with one request per minute. -/
def askTeam (tokenKey : String) (c : Charged) : Charged × Option Rejection :=
  checkAllRateLimits teamConfig "dev" tokenKey 1 0 0 c

/-- No request yet. -/
def freshCharged : Charged where
  app := startApp teamConfig { counters := ∅ } [] { limiters := ∅ }
  ledger := []

/-- The second request of `sk-a` is rejected by its own limit; the first one of `sk-b` would have
been admitted without it, and is rejected by the team's. -/
theorem rejected_request_drains_team :
    let first := (askTeam "sk-a" freshCharged).1
    let second := askTeam "sk-a" first
    (askTeam "sk-a" freshCharged).2 = none ∧ second.2.map (·.scope) = some "Token" ∧
      (askTeam "sk-b" first).2 = none ∧ (askTeam "sk-b" second.1).2.map (·.scope) = some "Team 'dev'" :=
  ⟨rfl, rfl, rfl, rfl⟩

/-- The rejection of that second request is one of the theorem's. -/
theorem second_request_leaves :
    ∃ before g after, rateChecks teamConfig "dev" "sk-a" 1 0 0 = before ++ g :: after ∧
      (Gate.runAll before (askTeam "sk-a" freshCharged).1).2 = none ∧
      LeftBy 0 g (Gate.marks before (askTeam "sk-a" freshCharged).1)
        (askTeam "sk-a" (askTeam "sk-a" freshCharged).1).1 := by
  obtain ⟨before, g, after, hsplit, hbefore, _, _, hleft⟩ := rejections_leave.2 teamConfig "dev" "sk-a"
    1 0 0 (askTeam "sk-a" freshCharged).1 _ rfl
  exact ⟨before, g, after, hsplit, hbefore, hleft⟩

end AiRouter
