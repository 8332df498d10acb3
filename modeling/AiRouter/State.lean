import AiRouter.Balancer
import AiRouter.Fail2ban
import AiRouter.Lib.Gate
import AiRouter.Stats
import AiRouter.Stores
import AiRouter.Sync
import AiRouter.Usage

/-
# The shared state and what both proxy handlers do to it

| here | there |
| --- | --- |
| `AppState`            | `AppState` and its parts (handler.rs:22-83) |
| `AuthContext`         | auth/middleware.rs:14 |
| `jsonError` responses | utils.rs `json_error` |
| `checkAllRateLimits`  | `check_all_rate_limits` (handler.rs:1581), as the row of checks it makes |
| `chargeUsage`         | the post-fact `consume_tpm` block (handler.rs:478-491, 629-646, 1347-1359, 1438-1450) |

Beside the state, a request carries a ledger: every token its checks and charges took from a
TPM bucket, by bucket. `checkLocal` and `consume` are the only two places that write either.
-/
namespace AiRouter

structure AppState where
  config : AppConfig
  roundRobin : RoundRobinCounters
  limiters : RateLimiterStore
  fail2ban : Fail2ban
  sync : SyncStore
  sticky : SessionStickyStore
  stickyTtlSecs : Nat
  stats : StatsWriter
  healthStore : HealthStore
  liveStats : LiveStats

structure AuthContext where
  tokenKey : String
  team : String
  models : List String
  rpm : Nat
  tpm : Nat
  costMultiplier : Rat
deriving DecidableEq, Repr

/-- The context `auth_middleware` (middleware.rs:26-79) puts on a request with this bearer token. -/
def authenticate (cfg : AppConfig) (tokenKey : String) : Option AuthContext :=
  (cfg.resolveToken tokenKey).map fun eff =>
    { tokenKey := tokenKey
      team := ((cfg.tokens.find? (·.key == tokenKey)).map (·.team)).getD ""
      models := eff.models
      rpm := eff.rpm
      tpm := eff.tpm
      costMultiplier := eff.costMultiplier }

theorem tokenKey_of_authenticate {cfg : AppConfig} {tokenKey : String} {auth : AuthContext}
    (h : authenticate cfg tokenKey = some auth) : auth.tokenKey = tokenKey := by
  obtain ⟨eff, _, heff⟩ := Option.map_eq_some_iff.1 h
  rw [← heff]

/-- A token with access to a model is a known token. -/
theorem authenticate_of_access {cfg : AppConfig} {tokenKey model : String}
    (h : cfg.tokenHasModelAccess tokenKey model = true) :
    ∃ auth, authenticate cfg tokenKey = some auth ∧ auth.tokenKey = tokenKey := by
  obtain ⟨eff, heff, _⟩ := tokenHasModelAccess_iff.1 h
  unfold authenticate
  rw [heff]
  exact ⟨_, rfl, rfl⟩

/-! ## Other tasks -/

/-- What everything else that runs (other requests, the health checker, other instances on the
shared Redis) does to the state while this request waits. -/
structure Others where
  config : AppConfig → AppConfig := id
  roundRobin : RoundRobinCounters → RoundRobinCounters := id
  limiters : RateLimiterStore → RateLimiterStore := id
  fail2ban : Fail2ban → Fail2ban := id
  sync : SyncStore → SyncStore := id
  sticky : SessionStickyStore → SessionStickyStore := id
  stats : StatsWriter → StatsWriter := id
  healthStore : HealthStore → HealthStore := id
  liveStats : LiveStats → LiveStats := id

def AppState.disturb (app : AppState) (o : Others) : AppState :=
  { app with
    config := o.config app.config
    roundRobin := o.roundRobin app.roundRobin
    limiters := o.limiters app.limiters
    fail2ban := o.fail2ban app.fail2ban
    sync := o.sync app.sync
    sticky := o.sticky app.sticky
    stats := o.stats app.stats
    healthStore := o.healthStore app.healthStore
    liveStats := o.liveStats app.liveStats }

/-- Nothing else runs. -/
def Others.quiet : Others := {}

@[simp] theorem disturb_quiet (app : AppState) : app.disturb .quiet = app := rfl

/-- No reload of the configuration. -/
def Others.KeepsConfig (o : Others) : Prop := ∀ c, o.config c = c

theorem disturb_config {app : AppState} {o : Others} (h : o.KeepsConfig) :
    (app.disturb o).config = app.config := h _

/-! ## Responses -/

inductive Response where
  | jsonError (status : Nat) (message errType code : String)
  /-- a status and a text -/
  | plainText (status : Nat) (message : String)
  /-- `rate_limit_response` -/
  | rateLimit (rl : RateLimitResult) (scope : String)
  /-- the answer of the endpoint that settled the request -/
  | passedOn (endpoint : SelectedEndpoint) (status : Nat) (body : List Chunk)
  /-- the answer of the last endpoint that failed, when none is left to try -/
  | lastFailure (endpoint : SelectedEndpoint) (status : Nat) (body : List Chunk)

/-- How the serving task ends. -/
inductive Ending where
  | responded (r : Response)
  | panicked (p : Panic)

/-- An answer of an upstream, and whether it settled the request or was the last failure. -/
structure Answer where
  endpoint : SelectedEndpoint
  status : Nat
  body : List Chunk
  settled : Bool

def Ending.answer : Ending → Option Answer
  | .responded (.passedOn ep status body) => some ⟨ep, status, body, true⟩
  | .responded (.lastFailure ep status body) => some ⟨ep, status, body, false⟩
  | _ => none

def badGateway (error : String) : Response :=
  .jsonError 502 ("Upstream error: " ++ error) "bad_gateway" "upstream_network_error"

def invalidBody (error : String) : Response :=
  .jsonError 400 ("Invalid JSON body: " ++ error) "invalid_request_error" "body_parse_failed"

/-! ## The ledger -/

inductive Phase where
  | reservation
  | postFact
deriving DecidableEq, Repr

structure Charge where
  key : String
  phase : Phase
  tokens : Nat
deriving DecidableEq, Repr

structure Charged where
  app : AppState
  ledger : List Charge

namespace Charged

/-- `limiters.check`, with the tokens it reserved. -/
def checkLocal (s : Charged) (key : String) (rpm tpm estimatedTokens : Nat) (scope : RateLimitScope)
    (now : Nat) : Charged × RateLimitResult :=
  let r := s.app.limiters.check key rpm tpm estimatedTokens scope now
  ({ app := { s.app with limiters := r.1 }
     ledger :=
      if r.2.allowed = true ∧ 0 < tpm ∧ 0 < estimatedTokens then
        s.ledger ++ [⟨key, .reservation, estimatedTokens⟩]
      else s.ledger }, r.2)

/-- `if tpm > 0 { limiters.consume_tpm(key, tpm, tokens) }`, with the tokens it took. -/
def consume (s : Charged) (key : String) (tpm tokens now : Nat) : Charged :=
  if 0 < tpm then
    { app := { s.app with limiters := s.app.limiters.consumeTpm key tpm tokens now }
      ledger := if tokens = 0 then s.ledger else s.ledger ++ [⟨key, .postFact, tokens⟩] }
  else s

end Charged

/-! ## Keys of the limiter store -/

def teamKey (team : String) : String := "team:" ++ team
def epRlKey (epKey : String) : String := "ep:" ++ epKey

theorem epRlKey_inj {k k' : String} : epRlKey k = epRlKey k' ↔ k = k' := by
  unfold epRlKey
  rw [← String.toList_inj, String.toList_append, String.toList_append, List.append_cancel_left_eq,
    String.toList_inj]

theorem teamKey_ne_epRlKey (team k : String) : teamKey team ≠ epRlKey k := by
  intro h
  simp [teamKey, epRlKey, ← String.toList_inj, String.toList_append] at h

/-! ## Rate limits -/

structure Rejection where
  result : RateLimitResult
  scope : String

def Rejection.response (r : Rejection) : Response := .rateLimit r.result r.scope

/-- A check of the shared per-minute counter. -/
def sharedCheck (scope key : String) (limit now : Nat) (label : String) :
    Gate.Check Charged Rejection := fun s =>
  let r := s.app.sync.checkRateLimit scope key limit now
  ({ s with app := { s.app with sync := r.1 } }, if r.2.allowed then none else some ⟨r.2, label⟩)

/-- A check of this process's own pair of limiters, with an estimate of 1 token. -/
def localCheck (key : String) (rpm tpm : Nat) (scope : RateLimitScope) (now : Nat) (label : String) :
    Gate.Check Charged Rejection := fun s =>
  let r := s.checkLocal key rpm tpm 1 scope now
  (r.1, if r.2.allowed then none else some ⟨r.2, label⟩)

def teamRpm (cfg : AppConfig) (team : String) : Nat :=
  (((cfg.findTeam team).bind (·.limits)).map (·.rpm)).getD 0

def teamTpm (cfg : AppConfig) (team : String) : Nat :=
  (((cfg.findTeam team).bind (·.limits)).map (·.tpm)).getD 0

/-- Team, shared then own; token, shared then own. -/
def rateChecks (cfg : AppConfig) (team tokenKey : String) (tokenRpm tokenTpm now : Nat) :
    List (Gate.Check Charged Rejection) :=
  (if 0 < teamRpm cfg team then
    [sharedCheck "team" (teamKey team) (teamRpm cfg team) now ("Team '" ++ team ++ "' (shared)")]
   else []) ++
  (if 0 < teamRpm cfg team ∨ 0 < teamTpm cfg team then
    [localCheck (teamKey team) (teamRpm cfg team) (teamTpm cfg team) .token now ("Team '" ++ team ++ "'")]
   else []) ++
  (if 0 < tokenRpm then [sharedCheck "token" tokenKey tokenRpm now "Token (shared)"] else []) ++
  [localCheck tokenKey tokenRpm tokenTpm .token now "Token"]

def checkAllRateLimits (cfg : AppConfig) (team tokenKey : String) (tokenRpm tokenTpm now : Nat) :
    Gate.Check Charged Rejection :=
  Gate.runAll (rateChecks cfg team tokenKey tokenRpm tokenTpm now)

/-- The charge for real usage: everything above the one token reserved. -/
def chargeUsage (s : Charged) (team tokenKey epKey : String) (teamTpm tokenTpm endpointTpm total now : Nat) :
    Charged :=
  if 1 < total then
    ((s.consume (teamKey team) teamTpm (total - 1) now).consume tokenKey tokenTpm (total - 1) now).consume
      (epRlKey epKey) endpointTpm (total - 1) now
  else s

/-! ## What checks and charges write -/

/-- `app'` is `app` but for the two stores of budgets. -/
def OnlyBudgets (app app' : AppState) : Prop :=
  ∃ limiters sync, app' = { app with limiters := limiters, sync := sync }

namespace OnlyBudgets

variable {app app' app'' : AppState}

theorem refl (app : AppState) : OnlyBudgets app app := ⟨_, _, rfl⟩

theorem trans (h : OnlyBudgets app app') (h' : OnlyBudgets app' app'') : OnlyBudgets app app'' := by
  obtain ⟨_, _, rfl⟩ := h
  obtain ⟨l, s, rfl⟩ := h'
  exact ⟨l, s, rfl⟩

theorem config (h : OnlyBudgets app app') : app'.config = app.config := by
  obtain ⟨_, _, rfl⟩ := h; rfl

theorem roundRobin (h : OnlyBudgets app app') : app'.roundRobin = app.roundRobin := by
  obtain ⟨_, _, rfl⟩ := h; rfl

theorem fail2ban (h : OnlyBudgets app app') : app'.fail2ban = app.fail2ban := by
  obtain ⟨_, _, rfl⟩ := h; rfl

theorem healthStore (h : OnlyBudgets app app') : app'.healthStore = app.healthStore := by
  obtain ⟨_, _, rfl⟩ := h; rfl

end OnlyBudgets

theorem sharedCheck_budgets (scope key : String) (limit now : Nat) (label : String) (s : Charged) :
    OnlyBudgets s.app (sharedCheck scope key limit now label s).1.app := ⟨_, _, rfl⟩

theorem localCheck_budgets (key : String) (rpm tpm : Nat) (scope : RateLimitScope) (now : Nat)
    (label : String) (s : Charged) :
    OnlyBudgets s.app (localCheck key rpm tpm scope now label s).1.app := ⟨_, _, rfl⟩

theorem consume_budgets (s : Charged) (key : String) (tpm tokens now : Nat) :
    OnlyBudgets s.app (s.consume key tpm tokens now).app := by
  unfold Charged.consume
  split
  · exact ⟨_, _, rfl⟩
  · exact .refl _

theorem chargeUsage_budgets (s : Charged) (team tokenKey epKey : String)
    (teamTpm tokenTpm endpointTpm total now : Nat) :
    OnlyBudgets s.app (chargeUsage s team tokenKey epKey teamTpm tokenTpm endpointTpm total now).app := by
  unfold chargeUsage
  split
  · exact ((consume_budgets s _ _ _ _).trans (consume_budgets _ _ _ _ _)).trans (consume_budgets _ _ _ _ _)
  · exact .refl _

theorem runAll_budgets {gs : List (Gate.Check Charged Rejection)}
    (hg : ∀ g ∈ gs, ∀ s : Charged, OnlyBudgets s.app (g s).1.app) (s : Charged) :
    OnlyBudgets s.app (Gate.runAll gs s).1.app :=
  Gate.runAll_keeps (fun s' => OnlyBudgets s.app s'.app)
    (fun g hmem s' h => h.trans (hg g hmem s')) (.refl _)

theorem mem_rateChecks {cfg : AppConfig} {team tokenKey : String} {tokenRpm tokenTpm now : Nat}
    {g : Gate.Check Charged Rejection} (hg : g ∈ rateChecks cfg team tokenKey tokenRpm tokenTpm now) :
    (∃ scope key limit label, g = sharedCheck scope key limit now label) ∨
      (∃ key rpm tpm scope label, g = localCheck key rpm tpm scope now label) := by
  simp only [rateChecks, List.mem_append, List.mem_ite_nil_right, List.mem_singleton] at hg
  rcases hg with ((⟨_, rfl⟩ | ⟨_, rfl⟩) | ⟨_, rfl⟩) | rfl
  · exact Or.inl ⟨_, _, _, _, rfl⟩
  · exact Or.inr ⟨_, _, _, _, _, rfl⟩
  · exact Or.inl ⟨_, _, _, _, rfl⟩
  · exact Or.inr ⟨_, _, _, _, _, rfl⟩

theorem checkAllRateLimits_budgets (cfg : AppConfig) (team tokenKey : String)
    (tokenRpm tokenTpm now : Nat) (s : Charged) :
    OnlyBudgets s.app (checkAllRateLimits cfg team tokenKey tokenRpm tokenTpm now s).1.app := by
  refine runAll_budgets (fun g hg s' => ?_) s
  rcases mem_rateChecks hg with ⟨scope, key, limit, label, rfl⟩ | ⟨key, rpm, tpm, scope, label, rfl⟩
  · exact sharedCheck_budgets scope key limit now label s'
  · exact localCheck_budgets key rpm tpm scope now label s'

/-! ## The ledger is what the buckets lose -/

/-- **A reservation** is entered exactly when the bucket has lost it. -/
theorem checkLocal_takes (s : Charged) {key : String} {rpm tpm n now : Nat} {scope : RateLimitScope}
    (htpm : 0 < tpm) (hn : 0 < n) (h : (s.checkLocal key rpm tpm n scope now).2.allowed = true) :
    (s.checkLocal key rpm tpm n scope now).1.ledger = s.ledger ++ [⟨key, .reservation, n⟩] ∧
      (s.checkLocal key rpm tpm n scope now).1.app.limiters.tokens key
        = some (asI64 (s.app.limiters.balance key rpm tpm now - asI64 n)) := by
  refine ⟨?_, RateLimiterStore.check_takes s.app.limiters htpm hn h⟩
  exact if_pos ⟨h, htpm, hn⟩

/-- **A charge** likewise. -/
theorem consume_takes (s : Charged) {key : String} {tpm n now : Nat} (htpm : 0 < tpm) (hn : 0 < n) :
    (s.consume key tpm n now).ledger = s.ledger ++ [⟨key, .postFact, n⟩] ∧
      (s.consume key tpm n now).app.limiters.tokens key
        = some (asI64 (s.app.limiters.balance key 0 tpm now - asI64 n)) := by
  unfold Charged.consume
  rw [if_pos htpm]
  exact ⟨if_neg (by omega), RateLimiterStore.consumeTpm_takes s.app.limiters htpm hn⟩

end AiRouter
