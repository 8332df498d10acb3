import AiRouter.Lib.Steps
import AiRouter.RetryLoop
import AiRouter.Subjects

/-
# A reload of the configuration

The watcher swaps the published configuration and nothing else. A pair of limiters goes on with the
quota and the capacity it was made with, the breaker with the section it was built from, and a request
in progress with the limits it has read.

| here | there |
| --- | --- |
| `Fail2ban.configured`       | `Fail2ban::new(cfg.fail2ban..)` (main.rs:97-102) |
| `RateLimiterStore.cleanup`  | one round of `start_cleanup` (limiter.rs:443-450) |
| `Event.publish`             | `config_clone.store` (watcher.rs:64) |
| `Event.read`                | limits taken from `config.load()`, by the middleware, a handler, `ModelRouter` or the dashboard |
-/
namespace AiRouter

/-! ## What a pair keeps -/

namespace RateLimitPair

/-- The quota and the capacity. -/
def settings (p : RateLimitPair) : LimitsConfig := ⟨p.rpm, p.tpm.capacity⟩

@[simp] theorem touch_settings (p : RateLimitPair) (now : Nat) : (p.touch now).settings = p.settings := rfl

@[simp] theorem checkRpm_settings (p : RateLimitPair) (now : Nat) : (p.checkRpm now).1.settings = p.settings := by
  rw [(p.checkRpm_spec now).1]
  rfl

theorem settings_of_tpm (p : RateLimitPair) {l : TpmLimiter} (h : l.capacity = p.tpm.capacity) :
    ({ p with tpm := l } : RateLimitPair).settings = p.settings := by
  simp [settings, h]

end RateLimitPair

namespace RateLimiterStore

variable (s : RateLimiterStore) {k : String}

/-- Entries idle for ten minutes are dropped. -/
def cleanup (s : RateLimiterStore) (now : Nat) : RateLimiterStore where
  limiters := s.limiters.retain fun p => now / 10 ^ 9 - p.lastUsed < 600

def settingsOf (s : RateLimiterStore) (key : String) : Option LimitsConfig :=
  (s.limiters.lookup key).map (·.settings)

theorem settingsOf_put (p : RateLimitPair) : (s.put k p).settingsOf k = some p.settings := by
  simp [settingsOf]

/-- A pair has the settings it is found with, or those it is made with. -/
theorem getOrCreate_settings (rpm tpm now : Nat) :
    (s.getOrCreate k rpm tpm now).settings = (s.settingsOf k).getD ⟨max rpm 1, tpm⟩ := by
  unfold getOrCreate settingsOf
  cases s.limiters.lookup k with
  | some p => rfl
  | none =>
    simp only [Option.getD_none, Option.map_none, RateLimitPair.settings, RateLimitPair.new, TpmLimiter.new,
      LimitsConfig.mk.injEq, and_true]
    split <;> omega

theorem checkRpm_settingsOf (rpm tpm now : Nat) :
    (s.checkRpm k rpm tpm now).1.settingsOf k =
      if 0 < rpm then some ((s.settingsOf k).getD ⟨max rpm 1, tpm⟩) else s.settingsOf k := by
  unfold checkRpm
  split
  · simp only [settingsOf_put, RateLimitPair.checkRpm_settings, RateLimitPair.touch_settings, getOrCreate_settings]
  · rfl

theorem checkTpm_settingsOf (rpm tpm n now : Nat) :
    (s.checkTpm k rpm tpm n now).1.settingsOf k =
      if 0 < tpm ∧ 0 < n then some ((s.settingsOf k).getD ⟨max rpm 1, tpm⟩) else s.settingsOf k := by
  unfold checkTpm
  split
  · dsimp only
    rw [settingsOf_put, RateLimitPair.settings_of_tpm _ (TpmLimiter.checkN_capacity _ _ _),
      RateLimitPair.touch_settings, getOrCreate_settings]
  · rfl

/-- Whichever half of the check comes first makes the pair; the other finds it. -/
theorem check_settingsOf (rpm tpm n now : Nat) (scope : RateLimitScope) :
    (s.check k rpm tpm n scope now).1.settingsOf k =
      if 0 < rpm ∨ (0 < tpm ∧ 0 < n) then some ((s.settingsOf k).getD ⟨max rpm 1, tpm⟩) else s.settingsOf k := by
  have hrpm := s.checkRpm_settingsOf (k := k) rpm tpm now
  rw [check_fst]
  by_cases h : 0 < rpm
  · rw [if_pos h] at hrpm
    rw [if_pos (Or.inl h)]
    split
    · exact hrpm
    · rw [checkTpm_settingsOf, hrpm, Option.getD_some, ite_self]
  · rw [checkRpm, if_neg h]
    dsimp only
    rw [checkTpm_settingsOf]
    simp only [h, false_or]

theorem consumeTpm_settingsOf (tpm n now : Nat) :
    (s.consumeTpm k tpm n now).settingsOf k =
      if 0 < tpm ∧ 0 < n then some ((s.settingsOf k).getD ⟨1, tpm⟩) else s.settingsOf k := by
  unfold consumeTpm
  by_cases h : 0 < tpm ∧ 0 < n
  · rw [if_neg (by omega), if_pos h]
    dsimp only
    rw [settingsOf_put, RateLimitPair.settings_of_tpm _ (TpmLimiter.consumeN_capacity _ _ _),
      RateLimitPair.touch_settings, getOrCreate_settings]
    rfl
  · rw [if_pos (by omega), if_neg h]

theorem getTpmState_settingsOf (tpm now : Nat) :
    (s.getTpmState k tpm now).1.settingsOf k =
      if 0 < tpm then some ((s.settingsOf k).getD ⟨1, tpm⟩) else s.settingsOf k := by
  unfold getTpmState
  by_cases h : 0 < tpm
  · rw [if_neg (by omega), if_pos h]
    dsimp only
    rw [settingsOf_put, RateLimitPair.settings_of_tpm _ (TpmLimiter.windowRemaining_capacity _ _),
      getOrCreate_settings]
    rfl
  · rw [if_pos (by omega), if_neg h]

/-- What a cleanup leaves is as it was. -/
theorem settingsOf_of_cleanup {now : Nat} {l : LimitsConfig} (h : (s.cleanup now).settingsOf k = some l) :
    s.settingsOf k = some l := by
  obtain ⟨p, hp, rfl⟩ := Option.map_eq_some_iff.1 h
  unfold settingsOf
  rw [KeyMap.lookup_of_retain hp]
  rfl

end RateLimiterStore

namespace LimiterOp

variable (limits : String → LimitsConfig)

/-- The pair that the operation works on. -/
def pair (s : RateLimiterStore) : LimiterOp → RateLimitPair
  | check key _ _ now => s.getOrCreate key (limits key).rpm (limits key).tpm now
  | consumeTpm key _ now => s.getOrCreate key 0 (limits key).tpm now
  | getTpmState key now => s.getOrCreate key 0 (limits key).tpm now

/-- The settings of the pair it makes, where there is none. -/
def makes : LimiterOp → LimitsConfig
  | check key _ _ _ => ⟨max (limits key).rpm 1, (limits key).tpm⟩
  | consumeTpm key _ _ => ⟨1, (limits key).tpm⟩
  | getTpmState key _ => ⟨1, (limits key).tpm⟩

variable (s : RateLimiterStore) (op : LimiterOp)

theorem pair_settings : (op.pair limits s).settings = (s.settingsOf op.key).getD (op.makes limits) := by
  cases op with
  | check k n scope now => exact s.getOrCreate_settings _ _ now
  | consumeTpm k n now => exact s.getOrCreate_settings 0 _ now
  | getTpmState k now => exact s.getOrCreate_settings 0 _ now

theorem apply_settingsOf :
    (op.apply limits s).settingsOf op.key =
      if op.opens limits then some ((s.settingsOf op.key).getD (op.makes limits)) else s.settingsOf op.key := by
  cases op with
  | check k n scope now =>
    simp only [apply, opens, key, makes, RateLimiterStore.check_settingsOf, decide_eq_true_eq]
  | consumeTpm k n now =>
    simp only [apply, opens, key, makes, RateLimiterStore.consumeTpm_settingsOf, decide_eq_true_eq]
  | getTpmState k now =>
    simp only [apply, opens, key, makes, RateLimiterStore.getTpmState_settingsOf, decide_eq_true_eq]

end LimiterOp

/-! ## What the breaker keeps -/

/-- The breaker as `main` builds it from a section. -/
def Fail2ban.configured (c : Fail2banConfig) : Fail2ban :=
  .new c.maxFailures c.banDurationSecs c.errorThresholdPct c.failStatusCodes

/-- The breaker goes by this section. -/
def Fail2ban.GoesBy (fb : Fail2ban) (c : Fail2banConfig) : Prop :=
  fb = { Fail2ban.configured c with states := fb.states }

inductive BreakerOp where
  | isBanned (key : String) (now : Nat)
  | isFailStatus (status : Nat)
  | recordFailure (key : String) (status now : Nat)
  | recordSuccess (key : String)
  | reset (key : String)
deriving DecidableEq, Repr

def BreakerOp.apply (fb : Fail2ban) : BreakerOp → Fail2ban
  | isBanned key now => (fb.isBanned key now).1
  | isFailStatus _ => fb
  | recordFailure key status now => (fb.recordFailureWithCode key status now).1
  | recordSuccess key => fb.recordSuccess key
  | reset key => fb.reset key

/-- An operation writes the states of endpoints only. -/
theorem BreakerOp.apply_states (fb : Fail2ban) (op : BreakerOp) :
    ∃ states, op.apply fb = { fb with states := states } := by
  cases op with
  | isBanned key now =>
    show ∃ states, (fb.isBanned key now).1 = { fb with states := states }
    unfold Fail2ban.isBanned
    split
    · exact ⟨_, rfl⟩
    · split
      · exact ⟨_, rfl⟩
      · split <;> exact ⟨_, rfl⟩
  | isFailStatus status => exact ⟨_, rfl⟩
  | recordFailure key status now =>
    show ∃ states, (fb.recordFailureWithCode key status now).1 = { fb with states := states }
    unfold Fail2ban.recordFailureWithCode
    dsimp only
    split <;> exact ⟨_, rfl⟩
  | recordSuccess key => exact ⟨_, rfl⟩
  | reset key => exact ⟨_, rfl⟩

theorem Fail2ban.GoesBy.apply {fb : Fail2ban} {c : Fail2banConfig} (h : fb.GoesBy c) (op : BreakerOp) :
    (op.apply fb).GoesBy c := by
  obtain ⟨states, hop⟩ := op.apply_states fb
  unfold GoesBy at h ⊢
  rw [hop, h]

/-! ## The service -/

namespace Reload

/-- The state, and the limits that requests in progress have read. -/
structure Service where
  app : AppState
  held : List (Subject × LimitsConfig)

inductive Event where
  | publish (new : AppConfig)
  /-- a request reads the limits of a subject -/
  | read (subject : Subject) (l : LimitsConfig)
  /-- and ends -/
  | release (subject : Subject) (l : LimitsConfig)
  | limiter (subject : Subject) (l : LimitsConfig) (op : LimiterOp)
  | shared (subject : Subject) (l : LimitsConfig) (now : Nat)
  | breaker (op : BreakerOp)
  | cleanup (now : Nat)

/-- A request asks the limiters of a subject whose limits it has read. -/
def Service.Uses (s : Service) (subject : Subject) (l : LimitsConfig) (op : LimiterOp) : Prop :=
  (subject, l) ∈ s.held ∧ subject.key = .ok op.key

instance (s : Service) (subject : Subject) (l : LimitsConfig) (op : LimiterOp) :
    Decidable (s.Uses subject l op) :=
  match h : subject.key with
  | .ok k => decidable_of_iff ((subject, l) ∈ s.held ∧ k = op.key) (by simp [Service.Uses, h])
  | .error _ => isFalse (by simp [Service.Uses, h])

namespace Service

variable (s : Service) (subject : Subject) (l : LimitsConfig)

def publish (new : AppConfig) : Service := { s with app := { s.app with config := new } }

def read : Service :=
  if l ∈ subject.limits s.app.config then { s with held := (subject, l) :: s.held } else s

def limiter (op : LimiterOp) : Service :=
  if s.Uses subject l op then { s with app := { s.app with limiters := op.apply (fun _ => l) s.app.limiters } }
  else s

def shared (now : Nat) : Service :=
  match subject.sharedKey with
  | .error _ => s
  | .ok k =>
    if (subject, l) ∈ s.held then
      { s with app := { s.app with sync := (s.app.sync.checkRateLimit subject.scope k l.rpm now).1 } }
    else s

end Service

def Event.apply (s : Service) : Event → Service
  | publish new => s.publish new
  | read subject l => s.read subject l
  | release subject l => { s with held := s.held.erase (subject, l) }
  | limiter subject l op => s.limiter subject l op
  | shared subject l now => s.shared subject l now
  | breaker op => { s with app := { s.app with fail2ban := op.apply s.app.fail2ban } }
  | cleanup now => { s with app := { s.app with limiters := s.app.limiters.cleanup now } }

/-- `settings` apply these limits, as far as they are set. -/
structure Apply (settings l : LimitsConfig) : Prop where
  rpm : 0 < l.rpm → settings.rpm = l.rpm
  tpm : 0 < l.tpm → settings.tpm = l.tpm

/-- The decision is made with the published values: the limits handed over are those of the subject,
a pair that is asked for a request has its quota, one that is asked for tokens its capacity, and the
breaker goes by the published section. -/
def Event.ByPublished (s : Service) : Event → Prop
  | limiter subject l op => s.Uses subject l op →
      l ∈ subject.limits s.app.config ∧
      (op.opens (fun _ => l) = true →
        (op.isCheck = true → 0 < l.rpm → (op.pair (fun _ => l) s.app.limiters).rpm = l.rpm) ∧
        (0 < l.tpm → (op.pair (fun _ => l) s.app.limiters).tpm.capacity = l.tpm))
  | shared subject l _ => (subject, l) ∈ s.held → l ∈ subject.limits s.app.config
  | breaker _ => s.app.fail2ban.GoesBy s.app.config.fail2ban
  | publish _ => True
  | read _ _ => True
  | release _ _ => True
  | cleanup _ => True

/-- What has to hold of a step. A publication: each pair in the store applies the new limits of every
subject under its key, the new configuration confirms the limits that requests in progress hold, and its
breaker would be the running one. An operation that makes a pair: its settings apply the limits of every
subject under the key. -/
def Event.Harmless (s : Service) : Event → Prop
  | publish new =>
      (∀ subject : Subject, ∀ l ∈ subject.limits new, ∀ k settings, subject.key = .ok k →
        s.app.limiters.settingsOf k = some settings → Apply settings l) ∧
      (∀ x ∈ s.held, x.2 ∈ x.1.limits new) ∧
      Fail2ban.configured s.app.config.fail2ban = Fail2ban.configured new.fail2ban
  | limiter subject l op => s.Uses subject l op → op.opens (fun _ => l) = true →
      s.app.limiters.settingsOf op.key = none →
        ∀ other : Subject, ∀ l' ∈ other.limits s.app.config, other.key = .ok op.key → Apply (op.makes fun _ => l) l'
  | read _ _ => True
  | release _ _ => True
  | shared _ _ _ => True
  | breaker _ => True
  | cleanup _ => True

/-! ## The checks and charges of a request are steps of the service -/

/-- A step in which a request uses limits that it has read. -/
inductive Event.OfHeld (s : Service) : Event → Prop where
  | limiter {subject : Subject} {l : LimitsConfig} {op : LimiterOp} :
      s.Uses subject l op → OfHeld s (.limiter subject l op)
  | shared {subject : Subject} {l : LimitsConfig} {now : Nat} :
      (subject, l) ∈ s.held → OfHeld s (.shared subject l now)

/-- The requests of `s` take it to the state `app'`. -/
def Service.Reaches (s : Service) (app' : AppState) : Prop :=
  ∃ es : List Event, (∀ e ∈ es, e.OfHeld s) ∧ Steps.run Event.apply s es = { s with app := app' }

section
variable {held : List (Subject × LimitsConfig)} {subject : Subject} {l : LimitsConfig}

theorem Service.reaches_refl (s : Service) : s.Reaches s.app :=
  ⟨[], fun _ he => absurd he List.not_mem_nil, rfl⟩

theorem Service.Reaches.trans {app app' app'' : AppState} (h : Reaches ⟨app, held⟩ app')
    (h' : Reaches ⟨app', held⟩ app'') : Reaches ⟨app, held⟩ app'' := by
  obtain ⟨es, hes, hrun⟩ := h
  obtain ⟨fs, hfs, hrun'⟩ := h'
  refine ⟨es ++ fs, fun e he => ?_, ?_⟩
  · rcases List.mem_append.1 he with he | he
    · exact hes e he
    · cases hfs e he with
      | limiter huses => exact .limiter huses
      | shared hheld => exact .shared hheld
  · rw [Steps.run_append, hrun, hrun']

theorem reaches_check {g : Gate.Check Charged Rejection} {now : Nat} (hheld : (subject, l) ∈ held)
    (hg : subject.Asks l now g) (c : Charged) : Service.Reaches ⟨c.app, held⟩ (g c).1.app := by
  cases hg with
  | @shared k label hkey =>
    refine ⟨[.shared subject l now], fun e he => ?_, ?_⟩
    · obtain rfl := List.mem_singleton.1 he
      exact .shared hheld
    · show Service.shared ⟨c.app, held⟩ subject l now = _
      simp only [Service.shared, hkey, if_pos hheld]
      rfl
  | @own k label scope hkey =>
    have huses : Service.Uses ⟨c.app, held⟩ subject l (.check k 1 scope now) := ⟨hheld, hkey⟩
    refine ⟨[.limiter subject l (.check k 1 scope now)], fun e he => ?_, if_pos huses⟩
    obtain rfl := List.mem_singleton.1 he
    exact .limiter huses

/-- A row of checks of subjects whose limits are held. -/
theorem reaches_runAll (now : Nat) : ∀ {gs : List (Gate.Check Charged Rejection)} (c : Charged),
    (∀ g ∈ gs, ∃ x ∈ held, x.1.Asks x.2 now g) → Service.Reaches ⟨c.app, held⟩ (Gate.runAll gs c).1.app
  | [], c, _ => Service.reaches_refl ⟨c.app, held⟩
  | g :: gs, c, hgs => by
    obtain ⟨x, hx, hasks⟩ := hgs g List.mem_cons_self
    have hfirst := reaches_check hx hasks c
    rw [Gate.runAll_cons]
    split
    · exact hfirst
    · exact hfirst.trans (reaches_runAll now _ fun g' hg' => hgs g' (List.mem_cons_of_mem _ hg'))

theorem reaches_consume {k : String} (hheld : (subject, l) ∈ held) (hkey : subject.key = .ok k) (tokens now : Nat)
    (c : Charged) : Service.Reaches ⟨c.app, held⟩ (c.consume k l.tpm tokens now).app := by
  have huses : Service.Uses ⟨c.app, held⟩ subject l (.consumeTpm k tokens now) := ⟨hheld, hkey⟩
  unfold Charged.consume
  split
  · refine ⟨[.limiter subject l (.consumeTpm k tokens now)], fun e he => ?_, if_pos huses⟩
    obtain rfl := List.mem_singleton.1 he
    exact .limiter huses
  · exact Service.reaches_refl ⟨c.app, held⟩

/-- **The limits of team and token**, as `check_all_rate_limits` asks them. -/
theorem reaches_checkAllRateLimits {cfg : AppConfig} {team tokenKey : String} {rpm tpm : Nat}
    (hteam : (.team team, ⟨teamRpm cfg team, teamTpm cfg team⟩) ∈ held)
    (htoken : (.token tokenKey, ⟨rpm, tpm⟩) ∈ held) (now : Nat) (c : Charged) :
    Service.Reaches ⟨c.app, held⟩ (checkAllRateLimits cfg team tokenKey rpm tpm now c).1.app := by
  refine reaches_runAll now c fun g hg => ?_
  rcases Subject.rateChecks_asks hg with hasks | hasks
  · exact ⟨_, hteam, hasks⟩
  · exact ⟨_, htoken, hasks⟩

/-- **The limits of an endpoint**, as the retry loop asks them. -/
theorem reaches_endpointChecks {ep : SelectedEndpoint} {epKey : String}
    (hkey : Handler.epKey ep.url ep.apiKey = .ok epKey)
    (hheld : (.endpoint ep.url ep.apiKey, ⟨ep.endpointLimitsRpm, ep.endpointLimitsTpm⟩) ∈ held) (now : Nat)
    (c : Charged) : Service.Reaches ⟨c.app, held⟩ (Gate.runAll (endpointChecks ep epKey now) c).1.app :=
  reaches_runAll now c fun _ hg => ⟨_, hheld, Subject.endpointChecks_asks hkey hg⟩

/-- **The post-fact charges**. -/
theorem reaches_chargeUsage {team tokenKey url key epKey : String} {lteam ltoken lep : LimitsConfig}
    (hteam : (.team team, lteam) ∈ held) (htoken : (.token tokenKey, ltoken) ∈ held)
    (hep : (.endpoint url key, lep) ∈ held) (hkey : Handler.epKey url key = .ok epKey) (total now : Nat)
    (c : Charged) : Service.Reaches ⟨c.app, held⟩
      (chargeUsage c team tokenKey epKey lteam.tpm ltoken.tpm lep.tpm total now).app := by
  unfold chargeUsage
  split
  · exact ((reaches_consume hteam rfl _ now c).trans (reaches_consume htoken rfl _ now _)).trans
      (reaches_consume hep (Subject.endpoint_key hkey) _ now _)
  · exact Service.reaches_refl ⟨c.app, held⟩

end

/-! ## The invariant -/

/-- Everything made from a configuration applies the published one. -/
structure Sound (s : Service) : Prop where
  held : ∀ x ∈ s.held, x.2 ∈ x.1.limits s.app.config
  pairs : ∀ subject : Subject, ∀ l ∈ subject.limits s.app.config, ∀ k settings, subject.key = .ok k →
    s.app.limiters.settingsOf k = some settings → Apply settings l
  breaker : s.app.fail2ban.GoesBy s.app.config.fail2ban

section
variable {s : Service} {e : Event}

/-- The pair that an operation works on applies the limits of its subjects. -/
theorem Sound.pair (h : Sound s) {subject other : Subject} {l l' : LimitsConfig} {op : LimiterOp}
    (hharmless : (Event.limiter subject l op).Harmless s) (huses : s.Uses subject l op)
    (hopens : op.opens (fun _ => l) = true) (hl' : l' ∈ other.limits s.app.config)
    (hkey : other.key = .ok op.key) : Apply (op.pair (fun _ => l) s.app.limiters).settings l' := by
  rw [op.pair_settings]
  cases hs : s.app.limiters.settingsOf op.key with
  | some settings => exact h.pairs other l' hl' _ _ hkey hs
  | none => exact hharmless huses hopens hs other l' hl' hkey

/-- **Step**: the decision is made with the published values. -/
theorem Sound.byPublished (h : Sound s) (hharmless : e.Harmless s) : e.ByPublished s := by
  cases e with
  | limiter subject l op =>
    intro huses
    have hl := h.held _ huses.1
    refine ⟨hl, fun hopens => ?_⟩
    have hpair := h.pair hharmless huses hopens hl huses.2
    exact ⟨fun _ => hpair.rpm, hpair.tpm⟩
  | shared subject l now => exact fun hheld => h.held _ hheld
  | breaker op => exact h.breaker
  | publish new => trivial
  | read subject l => trivial
  | release subject l => trivial
  | cleanup now => trivial

theorem Sound.publish (h : Sound s) {new : AppConfig} (hharmless : (Event.publish new).Harmless s) :
    Sound (s.publish new) := by
  obtain ⟨hpairs, hheld, hbreaker⟩ := hharmless
  refine ⟨hheld, hpairs, ?_⟩
  show s.app.fail2ban.GoesBy new.fail2ban
  unfold Fail2ban.GoesBy
  rw [← hbreaker]
  exact h.breaker

theorem Sound.read (h : Sound s) (subject : Subject) (l : LimitsConfig) : Sound (s.read subject l) := by
  unfold Service.read
  split
  · rename_i hl
    refine ⟨fun x hx => ?_, h.pairs, h.breaker⟩
    rcases List.mem_cons.1 hx with rfl | hx
    · exact hl
    · exact h.held x hx
  · exact h

/-- An operation leaves the settings of every pair alone but makes its own. -/
theorem Sound.limiter (h : Sound s) {subject : Subject} {l : LimitsConfig} {op : LimiterOp}
    (hharmless : (Event.limiter subject l op).Harmless s) : Sound (s.limiter subject l op) := by
  unfold Service.limiter
  split
  · rename_i huses
    refine ⟨h.held, fun other l' hl' k settings hkey hs => ?_, h.breaker⟩
    change (op.apply (fun _ => l) s.app.limiters).settingsOf k = some settings at hs
    by_cases hk : k = op.key
    · subst hk
      rw [op.apply_settingsOf] at hs
      split at hs
      · rename_i hopens
        have hpair := h.pair hharmless huses hopens hl' hkey
        rw [op.pair_settings] at hpair
        cases hs
        exact hpair
      · exact h.pairs other l' hl' _ _ hkey hs
    · unfold RateLimiterStore.settingsOf at hs
      rw [LimiterOp.apply_lookup_ne hk] at hs
      exact h.pairs other l' hl' k _ hkey hs
  · exact h

theorem Sound.shared (h : Sound s) (subject : Subject) (l : LimitsConfig) (now : Nat) :
    Sound (s.shared subject l now) := by
  unfold Service.shared
  split
  · exact h
  · split
    · exact ⟨h.held, h.pairs, h.breaker⟩
    · exact h

/-- **Step**: a harmless step keeps the invariant. -/
theorem Sound.apply (h : Sound s) (hharmless : e.Harmless s) : Sound (e.apply s) := by
  cases e with
  | publish new => exact h.publish hharmless
  | read subject l => exact h.read subject l
  | release subject l => exact ⟨fun x hx => h.held x (List.mem_of_mem_erase hx), h.pairs, h.breaker⟩
  | limiter subject l op => exact h.limiter hharmless
  | shared subject l now => exact h.shared subject l now
  | breaker op => exact ⟨h.held, h.pairs, h.breaker.apply op⟩
  | cleanup now =>
    refine ⟨h.held, fun other l' hl' k settings hkey hs => ?_, h.breaker⟩
    exact h.pairs other l' hl' k settings hkey (s.app.limiters.settingsOf_of_cleanup hs)

end

/-- The service as `main` starts it. -/
structure Started (s : Service) : Prop where
  limiters : s.app.limiters = { limiters := ∅ }
  breaker : s.app.fail2ban = .configured s.app.config.fail2ban
  held : s.held = []

theorem Started.sound {s : Service} (h : Started s) : Sound s := by
  refine ⟨?_, ?_, ?_⟩
  · rw [h.held]
    exact fun x hx => absurd hx List.not_mem_nil
  · intro subject l _ k settings _ hs
    rw [h.limiters] at hs
    cases hs
  · unfold Fail2ban.GoesBy
    rw [h.breaker]

/-- **Reloads**: in a run of harmless steps every decision is made with the values published when it is
made. -/
theorem decided_by_published {s : Service} (hstart : Started s) (es : List Event)
    (hharmless : Steps.Every Event.apply Event.Harmless s es) :
    Steps.Every Event.apply Event.ByPublished s es :=
  Steps.every_keeps (fun _ _ hh h => Sound.apply h hh) (fun _ _ hh h => Sound.byPublished h hh) es s hharmless
    hstart.sound

/-! ## A limit that is raised and a threshold that is lowered -/

/-- One token with a limit of `rpm` requests per minute. -/
def meteredConfig (rpm : Nat) : AppConfig :=
  { singleConfig with
    tokens := [{ key := "sk-client", team := "dev", models := none, limits := some ⟨rpm, 0⟩ }] }

/-- And a second one with a limit of its own. -/
def twoTokensConfig : AppConfig :=
  { meteredConfig 1 with
    tokens := (meteredConfig 1).tokens ++
      [{ key := "sk-second", team := "dev", models := none, limits := some ⟨7, 0⟩ }] }

/-- Any failure bans. -/
def strictConfig : AppConfig :=
  { singleConfig with fail2ban := { Fail2banConfig.default with maxFailures := 1 } }

def serviceOf (cfg : AppConfig) : Service where
  app := startApp cfg { counters := ∅ } [] { limiters := ∅ }
  held := []

theorem serviceOf_started (cfg : AppConfig) : Started (serviceOf cfg) := ⟨rfl, rfl, rfl⟩

/-- A request of the token, under a limit of `rpm`. -/
def requestUnder (rpm : Nat) : List Event :=
  [.read (.token "sk-client") ⟨rpm, 0⟩, .limiter (.token "sk-client") ⟨rpm, 0⟩ (.check "sk-client" 1 .token 0),
    .release (.token "sk-client") ⟨rpm, 0⟩]

/-- The subject of the token's key is the token. -/
theorem client_limits {cfg : AppConfig} {other : Subject} {l : LimitsConfig} (hl : l ∈ other.limits cfg)
    (hkey : other.key = .ok "sk-client") : l ∈ (Subject.token "sk-client").limits cfg := by
  rwa [Subject.eq_token_of_key hkey (fun name => by simp [teamKey, ← String.toList_inj])
    (fun e => by simp [epRlKey, ← String.toList_inj])] at hl

/-- A reload that adds a token: everything is decided by the published values. -/
theorem unrelated_reload_is_harmless :
    Steps.Every Event.apply Event.ByPublished (serviceOf (meteredConfig 1))
      (requestUnder 1 ++ .publish twoTokensConfig :: requestUnder 1) := by
  refine decided_by_published (serviceOf_started _) _ ⟨trivial, ?_, trivial, ?_, trivial, ?_, trivial, trivial⟩
  · intro _ _ _ other l hl hkey
    obtain rfl := List.mem_singleton.1 (client_limits hl hkey)
    exact ⟨fun _ => rfl, fun h => absurd h (Nat.lt_irrefl 0)⟩
  · refine ⟨fun other l hl k settings hkey hs => ?_, fun x hx => absurd hx List.not_mem_nil, rfl⟩
    by_cases hk : k = "sk-client"
    · subst hk
      obtain rfl := List.mem_singleton.1 (client_limits hl hkey)
      cases hs
      exact ⟨fun _ => rfl, fun h => absurd h (Nat.lt_irrefl 0)⟩
    · change ((serviceOf (meteredConfig 1)).app.limiters.check "sk-client" 1 0 1 .token 0).1.settingsOf k = _ at hs
      unfold RateLimiterStore.settingsOf at hs
      rw [RateLimiterStore.check_lookup_ne _ _ _ _ _ _ hk] at hs
      cases hs
  · intro _ _ hnone
    cases hnone

/-- A token whose limit goes from 1 to 10 is still held to 1, and a breaker that is to ban on the first
failure still waits for the fifth. -/
theorem reload_leaves_old_limits :
    ((meteredConfig 1).Accepted ∧ (meteredConfig 10).Accepted ∧
      ¬ Steps.Every Event.apply Event.ByPublished (serviceOf (meteredConfig 1))
        (requestUnder 1 ++ .publish (meteredConfig 10) :: requestUnder 10) ∧
      ((Steps.run Event.apply (serviceOf (meteredConfig 1)) (requestUnder 1 ++ [.publish (meteredConfig 10)])).app
        |>.limiters.check "sk-client" 10 0 1 .token 0).2.allowed = false) ∧
    (singleConfig.Accepted ∧ strictConfig.Accepted ∧
      ¬ Steps.Every Event.apply Event.ByPublished (serviceOf singleConfig)
        [.publish strictConfig, .breaker (.recordFailure "https://api.openai.com:sk-u...am-1" 500 0)] ∧
      ((Steps.run Event.apply (serviceOf singleConfig) [.publish strictConfig]).app.fail2ban.recordFailureWithCode
        "https://api.openai.com:sk-u...am-1" 500 0).2 = false) := by
  refine ⟨⟨rfl, rfl, fun h => ?_, rfl⟩, rfl, rfl, fun h => ?_, rfl⟩
  · have hcheck := h.2.2.2.2.2.1
    have hquota := ((hcheck (by decide)).2 rfl).1 rfl (by decide)
    revert hquota
    decide
  · have hbreaker := congrArg Fail2ban.maxFailures h.2.1
    revert hbreaker
    decide

end Reload

end AiRouter
