import AiRouter.Mediation
import AiRouter.Lib.Steps

/-
# What a request does to the shared state, move by move

Every request, on every route, is a run of moves. A move is an act for the caller, which is one operation on one store
under the caller's own keys, or it is made for no caller: it writes an entry of an endpoint or a session, or what all
share. The moves of requests that wait for each other come in any order, so that what every move keeps is kept by all
interleavings. The live counters are written one at a time, and by each request in whole calls.

| here | there |
| --- | --- |
| `CallerAct.count`, `.check` | a check of `check_all_rate_limits` (handler.rs:1581-1627) |
| `CallerAct.consume` | a `consume_tpm` of the post-fact block |
| `CallerAct.requests`, `.errors`, `.remaining` | a number that `stats_json` (dashboard.rs:228-360) shows |
| `LiveStats.Write`, `LiveStats.Call` | `record_request`, `record_error` (handler.rs:57-69), a write and whole |
| `Others.By`   | the other tasks: requests by these callers, the health checker, reloads |
| `serve_moves` | one request, from the middleware to its reply |
-/
namespace AiRouter

/-! ## The live counters, write by write -/

namespace LiveStats

/-- An entry of the maps by token, by team or by endpoint. -/
inductive Entry where
  | token (key : String)
  | team (name : String)
  | endpoint (key : String)
deriving DecidableEq, Repr

inductive Write where
  | total
  | request (entry : Entry)
  | error (entry : Entry)
deriving DecidableEq, Repr

def write (s : LiveStats) : Write → LiveStats
  | .total => { s with requestsTotal := (s.requestsTotal + 1) % 2 ^ 64 }
  | .request (.token key) => { s with requestsByToken := count s.requestsByToken key }
  | .request (.team name) => { s with requestsByTeam := count s.requestsByTeam name }
  | .request (.endpoint key) => { s with requestsByEndpoint := count s.requestsByEndpoint key }
  | .error (.token key) => { s with errorsByToken := count s.errorsByToken key }
  | .error (.team name) => { s with errorsByTeam := count s.errorsByTeam name }
  | .error (.endpoint key) => { s with errorsByEndpoint := count s.errorsByEndpoint key }

def requestsAt (s : LiveStats) : Entry → Nat
  | .token key => (s.requestsByToken.lookup key).getD 0
  | .team name => (s.requestsByTeam.lookup name).getD 0
  | .endpoint key => (s.requestsByEndpoint.lookup key).getD 0

def errorsAt (s : LiveStats) : Entry → Nat
  | .token key => (s.errorsByToken.lookup key).getD 0
  | .team name => (s.errorsByTeam.lookup name).getD 0
  | .endpoint key => (s.errorsByEndpoint.lookup key).getD 0

inductive Call where
  | request (token team endpoint : String)
  | error (token team endpoint : String)
deriving DecidableEq, Repr

/-- The writes of a call, in order. -/
def Call.writes : Call → List Write
  | .request token team endpoint =>
    [.total, .request (.token token), .request (.team team), .request (.endpoint endpoint)]
  | .error token team endpoint => [.error (.token token), .error (.team team), .error (.endpoint endpoint)]

theorem recordRequest_eq (s : LiveStats) (token team endpoint : String) :
    s.recordRequest token team endpoint = Steps.run write s (Call.request token team endpoint).writes := rfl

theorem recordError_eq (s : LiveStats) (token team endpoint : String) :
    s.recordError token team endpoint = Steps.run write s (Call.error token team endpoint).writes := rfl

end LiveStats

/-! ## Acts for a caller -/

/-- The caller's token, or its team. -/
inductive Whose where
  | token
  | team
deriving DecidableEq, Repr

/-- Its own entry of the live counters, or an endpoint's. -/
inductive Target where
  | own (whose : Whose)
  | endpoint (epKey : String)
deriving DecidableEq, Repr

inductive CallerAct where
  /-- against the shared counter -/
  | count (whose : Whose) (limit now : Nat)
  /-- against the limiters of this process -/
  | check (whose : Whose) (rpm tpm now : Nat)
  | consume (whose : Whose) (tpm tokens now : Nat)
  | requests (whose : Whose)
  | errors (whose : Whose)
  | remaining (whose : Whose) (limit now : Nat)
  | total
  | request (target : Target)
  | error (target : Target)
  | row (model endpoint : String) (prompt completion latencyMs status : Nat) (tokenHash : Option String)
      (costPrompt costCompletion : Rat) (now : Nat)

/-- What the caller is told. -/
inductive Told where
  | verdict (result : RateLimitResult)
  | number (n : Nat)
  | left (tokens : Int)
  | nothing

/-- The scope of the shared counter. -/
def Whose.scope : Whose → String
  | .token => "token"
  | .team => "team"

namespace AuthContext

def limiterKey (auth : AuthContext) : Whose → String
  | .token => auth.tokenKey
  | .team => teamKey auth.team

def entry (auth : AuthContext) : Target → LiveStats.Entry
  | .own .token => .token auth.tokenKey
  | .own .team => .team auth.team
  | .endpoint epKey => .endpoint epKey

def act (auth : AuthContext) : CallerAct → AppState → AppState × Told
  | .count whose limit now, app =>
    let r := app.sync.checkRateLimit whose.scope (auth.limiterKey whose) limit now
    ({ app with sync := r.1 }, .verdict r.2)
  | .check whose rpm tpm now, app =>
    let r := app.limiters.check (auth.limiterKey whose) rpm tpm 1 .token now
    ({ app with limiters := r.1 }, .verdict r.2)
  | .consume whose tpm tokens now, app =>
    ({ app with limiters := app.limiters.consumeTpm (auth.limiterKey whose) tpm tokens now }, .nothing)
  | .requests whose, app => (app, .number (app.liveStats.requestsAt (auth.entry (.own whose))))
  | .errors whose, app => (app, .number (app.liveStats.errorsAt (auth.entry (.own whose))))
  | .remaining whose limit now, app =>
    let r := app.tpmRemaining (auth.limiterKey whose) limit now
    (r.1, .left r.2)
  | .total, app => ({ app with liveStats := app.liveStats.write .total }, .nothing)
  | .request target, app =>
    ({ app with liveStats := app.liveStats.write (.request (auth.entry target)) }, .nothing)
  | .error target, app => ({ app with liveStats := app.liveStats.write (.error (auth.entry target)) }, .nothing)
  | .row model endpoint prompt completion latencyMs status tokenHash costPrompt costCompletion now, app =>
    ({ app with
        stats := app.stats.recordRequest model endpoint auth.team prompt completion latencyMs status tokenHash
          costPrompt costCompletion now }, .nothing)

/-- The live counter that an act writes. -/
def writes (auth : AuthContext) : CallerAct → Option LiveStats.Write
  | .total => some .total
  | .request target => some (.request (auth.entry target))
  | .error target => some (.error (auth.entry target))
  | _ => none

end AuthContext

/-! ## Moves -/

/-- `s'` is `s` but for what Redis holds at `key`; the connection is as it was. -/
structure SyncStore.Writes (key : String) (s s' : SyncStore) : Prop where
  onlyAt : SyncStore.OnlyAt key s s'
  connected : s'.connected = s.connected
  up : s'.redis.up = s.redis.up

/-- A key of Redis that belongs to no caller. -/
inductive FreeKey (s : SyncStore) : String → Prop where
  | endpoint (epKey : String) : FreeKey s (s.rateKey "ep" epKey)
  | ban (epKey : String) : FreeKey s (s.banKey epKey)
  | session (sessionId : String) : FreeKey s (s.stickyKey sessionId)

/-- A move by one of these callers or for none, with the live counter that it writes. -/
inductive Move (who : AuthContext → Prop) (app : AppState) : Option LiveStats.Write → AppState → Prop where
  /-- anything that is kept for no caller -/
  | aside (config : AppConfig) (roundRobin : RoundRobinCounters) (fail2ban : Fail2ban) (sticky : SessionStickyStore)
      (healthStore : HealthStore) :
      Move who app none
        { app with
          config := config, roundRobin := roundRobin, fail2ban := fail2ban, sticky := sticky
          healthStore := healthStore }
  | budget (epKey : String) {limiters : RateLimiterStore}
      (only : ∀ key, key ≠ epRlKey epKey → limiters.limiters.lookup key = app.limiters.limiters.lookup key) :
      Move who app none { app with limiters := limiters }
  | shared {key : String} (free : FreeKey app.sync key) {sync : SyncStore} (writes : app.sync.Writes key sync) :
      Move who app none { app with sync := sync }
  | act {auth : AuthContext} (caller : who auth) (a : CallerAct) : Move who app (auth.writes a) (auth.act a app).1

/-- A run of moves, with the live counters that they write. -/
inductive MoveTrace (who : AuthContext → Prop) (app : AppState) : List LiveStats.Write → AppState → Prop where
  | refl : MoveTrace who app [] app
  | tail {ws : List LiveStats.Write} {w : Option LiveStats.Write} {mid app' : AppState} (moves : MoveTrace who app ws mid)
      (move : Move who mid w app') : MoveTrace who app (ws ++ w.toList) app'

/-- Moves in any order. -/
def MovesBy (who : AuthContext → Prop) (app app' : AppState) : Prop := ∃ ws, MoveTrace who app ws app'

/-- Moves that write the live counters in whole calls, one after another. -/
def CallsBy (who : AuthContext → Prop) (app app' : AppState) : Prop :=
  ∃ calls : List LiveStats.Call, MoveTrace who app (calls.flatMap LiveStats.Call.writes) app'

/-- What a request needs of a relation for its steps to stay in it. -/
structure Carries (who : AuthContext → Prop) (R : AppState → AppState → Prop) : Prop where
  refl : ∀ app, R app app
  trans : ∀ {a b c}, R a b → R b c → R a c
  move : ∀ {app app'}, Move who app none app' → R app app'
  request : ∀ {auth}, who auth → ∀ app endpoint,
    R app { app with liveStats := app.liveStats.recordRequest auth.tokenKey auth.team endpoint }
  error : ∀ {auth}, who auth → ∀ app what,
    R app { app with liveStats := app.liveStats.recordError auth.tokenKey auth.team what }

section
variable {who : AuthContext → Prop} {app app' app'' : AppState} {ws ws' : List LiveStats.Write} {auth : AuthContext}

theorem MoveTrace.trans (h : MoveTrace who app ws app') (h' : MoveTrace who app' ws' app'') :
    MoveTrace who app (ws ++ ws') app'' := by
  induction h' with
  | refl =>
    rw [List.append_nil]
    exact h
  | tail _ move ih =>
    rw [← List.append_assoc]
    exact ih.tail move

/-- **The live counters** after a run of moves are those that its writes lead to. -/
theorem MoveTrace.liveStats (h : MoveTrace who app ws app') :
    app'.liveStats = Steps.run LiveStats.write app.liveStats ws := by
  induction h with
  | refl => rfl
  | @tail ws w mid app' _ move ih =>
    rw [Steps.run_append, ← ih]
    cases move with
    | aside => rfl
    | budget => rfl
    | shared => rfl
    | act _ a =>
      cases a with
      | remaining whose limit now =>
        unfold AuthContext.act AppState.tpmRemaining
        dsimp only
        split <;> rfl
      | _ => rfl

/-- **A call of `record_request`** is its writes, one after another. -/
theorem request_moves (h : who auth) (app : AppState) (endpoint : String) :
    MoveTrace who app (LiveStats.Call.request auth.tokenKey auth.team endpoint).writes
      { app with liveStats := app.liveStats.recordRequest auth.tokenKey auth.team endpoint } :=
  (((MoveTrace.refl.tail (.act h .total)).tail (.act h (.request (.own .token)))).tail
    (.act h (.request (.own .team)))).tail (.act h (.request (.endpoint endpoint)))

/-- **A call of `record_error`** is its writes, one after another. -/
theorem error_moves (h : who auth) (app : AppState) (what : String) :
    MoveTrace who app (LiveStats.Call.error auth.tokenKey auth.team what).writes
      { app with liveStats := app.liveStats.recordError auth.tokenKey auth.team what } :=
  ((MoveTrace.refl.tail (.act h (.error (.own .token)))).tail (.act h (.error (.own .team)))).tail
    (.act h (.error (.endpoint what)))

end

theorem movesBy_carries (who : AuthContext → Prop) : Carries who (MovesBy who) where
  refl _ := ⟨_, .refl⟩
  trans := fun ⟨_, h⟩ ⟨_, h'⟩ => ⟨_, h.trans h'⟩
  move h := ⟨_, MoveTrace.refl.tail h⟩
  request h app endpoint := ⟨_, request_moves h app endpoint⟩
  error h app what := ⟨_, error_moves h app what⟩

theorem callsBy_carries (who : AuthContext → Prop) : Carries who (CallsBy who) where
  refl _ := ⟨[], .refl⟩
  trans := by
    rintro a b c ⟨calls, h⟩ ⟨calls', h'⟩
    refine ⟨calls ++ calls', ?_⟩
    rw [List.flatMap_append]
    exact h.trans h'
  move h := ⟨[], MoveTrace.refl.tail h⟩
  request h app endpoint := ⟨[.request _ _ endpoint], request_moves h app endpoint⟩
  error h app what := ⟨[.error _ _ what], error_moves h app what⟩

/-- Others only do what stays in `R`. -/
def Others.By (R : AppState → AppState → Prop) (o : Others) : Prop := ∀ app, R app (app.disturb o)

structure Env.By (R : AppState → AppState → Prop) (env : Env) : Prop where
  beforePick : env.beforePick.By R
  beforeLimits : env.beforeLimits.By R
  turn : ∀ k, (env.turn k).before.By R ∧ (env.turn k).during.By R

structure GenericEnv.By (R : AppState → AppState → Prop) (env : GenericEnv) : Prop where
  beforePick : env.beforePick.By R
  during : env.during.By R

structure Outside.By (R : AppState → AppState → Prop) (out : Outside) : Prop where
  chat : out.chat.By R
  generic : out.generic.By R

theorem quiet_by {who : AuthContext → Prop} {R : AppState → AppState → Prop} (hR : Carries who R) :
    Others.quiet.By R := hR.refl

/-! ## Redis -/

namespace SyncStore

variable (s : SyncStore)

theorem Writes.refl (key : String) : s.Writes key s := ⟨.refl key s, rfl, rfl⟩

theorem checkRateLimit_writes (scope key : String) (limit now : Nat) :
    s.Writes (s.rateKey scope key) (s.checkRateLimit scope key limit now).1 := by
  have honly := s.checkRateLimit_onlyAt scope key limit now
  have hincr := s.redis.incr_up (s.rateKey scope key) now
  unfold checkRateLimit at *
  split
  · exact .refl s _
  · rename_i hon
    rw [if_neg hon] at honly
    split
    · rename_i r hr
      rw [hr] at honly hincr
      exact ⟨honly, rfl, hincr⟩
    · rename_i r count hr
      rw [hr] at honly hincr
      refine ⟨honly, rfl, ?_⟩
      dsimp only
      split
      · exact (r.expire_up _ now 60).trans hincr
      · exact hincr

theorem setBan_writes (epKey : String) (durationSecs now : Nat) :
    s.Writes (s.banKey epKey) (s.setBan epKey durationSecs now) := by
  refine ⟨s.setBan_onlyAt epKey durationSecs now, ?_, ?_⟩ <;> unfold setBan <;> split
  · rfl
  · rfl
  · exact s.redis.setEx_up _ now 1 durationSecs
  · rfl

theorem setSticky_writes (sessionId : String) (index ttlSecs now : Nat) :
    s.Writes (s.stickyKey sessionId) (s.setSticky sessionId index ttlSecs now) := by
  refine ⟨s.setSticky_onlyAt sessionId index ttlSecs now, ?_, ?_⟩ <;> unfold setSticky <;> split
  · rfl
  · rfl
  · exact s.redis.setEx_up _ now index ttlSecs
  · rfl

theorem getSticky_writes (sessionId : String) (now : Nat) :
    s.Writes (s.stickyKey sessionId) (s.getSticky sessionId now).1 := by
  unfold getSticky
  split
  · split
    · exact ⟨⟨rfl, fun _ h => s.redis.expire_lookup_ne 300 now h⟩, rfl, s.redis.expire_up _ now 300⟩
    · exact .refl s _
  · exact .refl s _

end SyncStore

/-! ## The stores -/

section
variable {who : AuthContext → Prop} {R : AppState → AppState → Prop} (hR : Carries who R) {app app' : AppState}
  {auth : AuthContext}
include hR

/-- What is kept for no caller may change at will. -/
theorem moves_aside (app : AppState) (config : AppConfig) (roundRobin : RoundRobinCounters) (fail2ban : Fail2ban)
    (sticky : SessionStickyStore) (healthStore : HealthStore) :
    R app
      { app with
        config := config, roundRobin := roundRobin, fail2ban := fail2ban, sticky := sticky
        healthStore := healthStore } :=
  hR.move (.aside config roundRobin fail2ban sticky healthStore)

theorem rotate_moves (app : AppState) (roundRobin : RoundRobinCounters) : R app { app with roundRobin := roundRobin } :=
  moves_aside hR app _ roundRobin _ _ _

theorem forget_moves (app : AppState) (fail2ban : Fail2ban) : R app { app with fail2ban := fail2ban } :=
  moves_aside hR app _ _ fail2ban _ _

theorem noteError_moves (app : AppState) (req : ChatRequest) (h : who req.auth) (what : String) :
    R app (app.noteError req what) := hR.error h app what

/-- A charge of the caller's own budget. -/
theorem consume_moves (h : who auth) (c : Charged) (whose : Whose) (tpm tokens now : Nat) :
    R c.app (c.consume (auth.limiterKey whose) tpm tokens now).app := by
  unfold Charged.consume
  split
  · exact hR.move (.act h (.consume whose tpm tokens now))
  · exact hR.refl c.app

theorem consumeEndpoint_moves (c : Charged) (epKey : String) (tpm tokens now : Nat) :
    R c.app (c.consume (epRlKey epKey) tpm tokens now).app := by
  unfold Charged.consume
  split
  · exact hR.move (.budget epKey fun _ hne => c.app.limiters.consumeTpm_lookup_ne tpm tokens now hne)
  · exact hR.refl c.app

theorem chargeUsage_moves (h : who auth) (c : Charged) (epKey : String) (teamTpm tokenTpm endpointTpm total now : Nat) :
    R c.app (chargeUsage c auth.team auth.tokenKey epKey teamTpm tokenTpm endpointTpm total now).app := by
  unfold chargeUsage
  split
  · have hteam := consume_moves hR h c .team teamTpm (total - 1) now
    have htoken := hR.trans hteam (consume_moves hR h _ .token tokenTpm (total - 1) now)
    exact hR.trans htoken (consumeEndpoint_moves hR _ epKey endpointTpm (total - 1) now)
  · exact hR.refl c.app

/-- **The limits**, check by check, up to the first that rejects. -/
theorem ask_moves (h : who auth) (app : AppState) (cfg : AppConfig) (rpm tpm now : Nat) :
    R app (checkAllRateLimits cfg auth.team auth.tokenKey rpm tpm now { app := app, ledger := [] }).1.app := by
  have hcount : ∀ whose limit label (c : Charged),
      R c.app (sharedCheck whose.scope (auth.limiterKey whose) limit now label c).1.app :=
    fun whose limit label c => hR.move (.act h (.count whose limit now))
  have hcheck : ∀ whose r t label (c : Charged),
      R c.app (localCheck (auth.limiterKey whose) r t .token now label c).1.app :=
    fun whose r t label c => hR.move (.act h (.check whose r t now))
  refine Gate.runAll_keeps (fun c : Charged => R app c.app) (fun g hg c hc => hR.trans hc ?_) (hR.refl app)
  simp only [rateChecks, List.mem_append, List.mem_ite_nil_right, List.mem_singleton] at hg
  rcases hg with ((⟨_, rfl⟩ | ⟨_, rfl⟩) | ⟨_, rfl⟩) | rfl
  · exact hcount .team _ _ c
  · exact hcheck .team _ _ _ c
  · exact hcount .token _ _ c
  · exact hcheck .token _ _ _ c

theorem tpmRemaining_moves (app : AppState) (epKey : String) (limit now : Nat) :
    R app (app.tpmRemaining (epRlKey epKey) limit now).1 := by
  unfold AppState.tpmRemaining
  split
  · exact hR.move (.budget epKey fun _ hne => app.limiters.getTpmState_lookup_ne limit now hne)
  · exact hR.refl app

theorem endpointChecks_moves (ep : SelectedEndpoint) (epKey : String) (now : Nat) (c : Charged) :
    R c.app (Gate.runAll (endpointChecks ep epKey now) c).1.app := by
  refine Gate.runAll_keeps (fun c' : Charged => R c.app c'.app) (fun g hg c' hmoves => hR.trans hmoves ?_)
    (hR.refl c.app)
  simp only [endpointChecks, List.mem_append, List.mem_ite_nil_right, List.mem_singleton] at hg
  rcases hg with ⟨_, rfl⟩ | ⟨_, rfl⟩
  · exact hR.move (.shared (.endpoint epKey) (c'.app.sync.checkRateLimit_writes "ep" epKey _ now))
  · exact hR.move (.budget epKey fun _ hne => c'.app.limiters.check_lookup_ne _ _ 1 now .endpoint hne)

theorem recordRequest_moves (h : who auth) (app : AppState) (model endpoint : String)
    (prompt completion latencyMs status : Nat) (tokenHash : Option String) (costPrompt costCompletion : Rat)
    (now : Nat) :
    R app
      { app with
        stats := app.stats.recordRequest model endpoint auth.team prompt completion latencyMs status tokenHash
          costPrompt costCompletion now } :=
  hR.move (.act h (.row model endpoint prompt completion latencyMs status tokenHash costPrompt costCompletion now))

/-! ## A round of the loop -/

theorem failed_moves (app : AppState) (epKey : String) (statusCode now : Nat) :
    R app (app.failed epKey statusCode now) := by
  refine hR.trans (moves_aside hR app app.config app.roundRobin
    (app.fail2ban.recordFailureWithCode epKey statusCode now).1 app.sticky (app.healthStore.recordError epKey)) ?_
  unfold AppState.failed
  dsimp only
  split
  · exact hR.move (.shared (.ban epKey) (app.sync.setBan_writes epKey 60 now))
  · exact hR.refl _

theorem classify_moves (app : AppState) (epKey : String) (status now : Nat) :
    R app (app.classify epKey status now) := by
  unfold AppState.classify
  split
  · exact failed_moves hR app epKey status now
  · exact forget_moves hR app (app.fail2ban.recordSuccess epKey)

theorem answered_moves (app : AppState) (epKey : String) (latencyMs : Nat) : R app (app.answered epKey latencyMs) :=
  moves_aside hR app _ _ _ _ ((app.healthStore.recordRequest epKey).recordLatency epKey latencyMs)

theorem bindSession_moves (app : AppState) (sessionId : Option String) (index now : Nat) :
    R app (app.bindSession sessionId index now) := by
  unfold AppState.bindSession
  cases sessionId with
  | none => exact hR.refl app
  | some sid =>
    exact hR.trans (moves_aside hR app _ _ _ (app.sticky.set sid index now) _)
      (hR.move (.shared (.session sid) (app.sync.setSticky_writes sid index app.stickyTtlSecs now)))

theorem collectBanned_moves (app : AppState) (now : Nat) (eps : List EndpointConfig) (bannedKeys : Finset String) :
    R app (app.collectBanned now eps bannedKeys).1 := by
  obtain ⟨fb, hfb⟩ := AppState.collectBanned_only now eps app bannedKeys
  rw [hfb]
  exact forget_moves hR app fb

theorem stickyPick_moves (app : AppState) (model : Option ModelConfig) (bannedKeys : Finset String)
    (sessionId : Option String) (now : Nat) : R app (stickyPick app model bannedKeys sessionId now).1 := by
  unfold stickyPick
  cases sessionId with
  | none => exact hR.refl app
  | some sid =>
    dsimp only
    have hlook : ∀ sticky, R app
        { app with
          sticky := sticky
          sync := if (app.sticky.get sid now).2.isNone then (app.sync.getSticky sid now).1 else app.sync } := by
      intro sticky
      refine hR.trans (moves_aside hR app app.config app.roundRobin app.fail2ban sticky app.healthStore) ?_
      split
      · exact hR.move (.shared (.session sid) (app.sync.getSticky_writes sid now))
      · exact hR.refl _
    split
    · split
      · exact hlook _
      · split
        · exact hlook _
        · split
          · exact hlook _
          · exact hlook _
    · exact hlook _

theorem selectAvailable_moves (app : AppState) (name : String) (bannedKeys triedKeys : Finset String) :
    R app (app.selectAvailable name bannedKeys triedKeys).1 := rotate_moves hR app _

variable {deps : Externs} {ctx : LoopCtx} {t : Turn} {s : LoopState} {epKey : String}

theorem tryNext_moves (hs : R app s.app) (giveUp : Response) : R app (s.tryNext ctx epKey giveUp).state.app := by
  obtain ⟨rr, hrr⟩ := LoopState.tryNext_only s ctx epKey giveUp
  rw [hrr]
  exact hR.trans hs (rotate_moves hR s.app rr)

theorem retry_moves (hs : R app s.app) (response : Response) : R app (s.retry ctx epKey response).state.app :=
  tryNext_moves hR (s := { s with lastError := some response }) hs _

theorem chargeStream_moves (h : who ctx.req.auth) (s : LoopState) (status : Nat) (body : List Chunk) (now : Nat) :
    R s.app (s.chargeStream deps ctx epKey status body now).app := by
  unfold LoopState.chargeStream
  split
  · exact chargeUsage_moves hR h s.charged _ _ _ _ _ now
  · exact hR.refl s.app

theorem finish_moves (h : who ctx.req.auth) (s : LoopState) (status : Nat) (body : List Chunk) (startAt now : Nat) :
    R s.app (s.finish deps ctx epKey status body startAt now).app := by
  let bound := (s.app.answered epKey ((now - startAt) / 1000000)).bindSession ctx.req.sessionId s.current.index now
  have hbound : R s.app bound := hR.trans (answered_moves hR s.app _ _) (bindSession_moves hR _ _ _ _)
  unfold LoopState.finish
  dsimp only
  split
  · exact hR.trans hbound (recordRequest_moves hR h _ _ _ _ _ _ _ _ _ _ now)
  · have hcharged := hR.trans hbound (chargeUsage_moves hR h { app := bound, ledger := s.ledger } epKey
      (teamTpm bound.config ctx.req.auth.team) ctx.req.auth.tpm s.current.endpointLimitsTpm
      (bodyUsage (deps.fromSlice (toBytes body))).total now)
    have hcounted := hR.trans hcharged (hR.request h _ epKey)
    split
    · exact hcounted
    · exact hR.trans hcounted (recordRequest_moves hR h _ _ _ _ _ _ _ _ _ _ now)

theorem settle_moves (h : who ctx.req.auth) (hs : R app s.app) (status : Nat) (body : List Chunk) :
    R app (settle deps ctx t epKey s status body).state.app := by
  have hclassified : R app (s.classified deps ctx t epKey status body).app :=
    hR.trans hs (hR.trans (chargeStream_moves hR h s status body t.doneAt) (classify_moves hR _ _ _ _))
  rw [settle_eq]
  split
  · exact hR.trans hclassified (finish_moves hR h _ _ _ _ _)
  · exact retry_moves hR (hR.trans hclassified (hR.error h _ epKey)) _

theorem callFailed_moves (h : who ctx.req.auth) (hs : R app s.app) (message : String) :
    R app (callFailed ctx t epKey s message).state.app := by
  have hnoted : R app ((s.app.failed epKey 0 t.doneAt).noteError ctx.req epKey) :=
    hR.trans (hR.trans hs (failed_moves hR s.app epKey 0 t.doneAt)) (hR.error h _ epKey)
  unfold callFailed
  dsimp only
  split
  · exact retry_moves hR hnoted _
  · exact hnoted

theorem attempt_moves (h : who ctx.req.auth) (ht : t.during.By R) (hs : R app s.app) :
    R app (attempt deps ctx t epKey s).state.app := by
  have hduring := hR.trans hs (ht s.app)
  unfold attempt
  dsimp only
  split
  · exact hduring
  · exact settle_moves hR h hduring _ _
  · exact callFailed_moves hR h hduring _

/-- **One round.** -/
theorem turn_moves (h : who ctx.req.auth) (ht : t.before.By R ∧ t.during.By R) (hs : R app s.app) :
    R app (turn deps ctx t s).state.app := by
  have hbefore := hR.trans hs (ht.1 s.app)
  unfold turn
  dsimp only
  split
  · exact hbefore
  · rename_i k _
    have hchecked := hR.trans hbefore
      (endpointChecks_moves hR s.current k t.checkAt { app := _, ledger := s.ledger })
    split
    · exact tryNext_moves hR hchecked _
    · exact attempt_moves hR h ht.2 hchecked

/-- **The loop.** -/
theorem retryLoop_moves (h : who ctx.req.auth) {env : Env} (henv : env.By R) (fuel : Nat) (s : LoopState) :
    R s.app (retryLoop deps env ctx fuel s).state.app := by
  have hround : ∀ k s', R s.app s'.app → (turn deps ctx (env.turn k) s').Sat
      (fun s'' => R s.app s''.app) (fun s'' _ => R s.app s''.app) :=
    fun k _ hs => Loop.Flow.sat_of_state (turn_moves hR h (henv.turn k) hs)
  exact (Loop.run_sat hround fuel 0 s (hR.refl s.app)).state

/-! ## Up to the loop -/

/-- What `prepare` comes to has been done along `R`. -/
def Started (R : AppState → AppState → Prop) (app : AppState) (req : ChatRequest) :
    Except Run (LoopCtx × LoopState) → Prop
  | .error run => R app run.app
  | .ok (ctx, s) => ctx.req = req ∧ R app s.app

variable {env : Env} {req : ChatRequest}

/-- **Up to the loop**, whether the request gets there or not. -/
theorem prepare_moves (h : who req.auth) (henv : env.By R) (app : AppState) :
    Started R app req (prepare env app req) := by
  unfold prepare earlyRun
  dsimp only
  split
  · exact noteError_moves hR app req h _
  have hcollected : R app _ := collectBanned_moves hR app env.startAt
    (((app.config.findModel (app.config.canonicalModelName req.modelName)).map (·.endpoints)).getD []) ∅
  split
  · exact hcollected
  split
  · exact hR.trans hcollected (noteError_moves hR _ req h _)
  rename_i bannedKeys _ _
  have hsticky := hR.trans (hR.trans hcollected (henv.beforePick _)) (stickyPick_moves hR _
    (app.config.findModel (app.config.canonicalModelName req.modelName)) bannedKeys req.sessionId env.startAt)
  revert hsticky
  generalize stickyPick _ _ bannedKeys req.sessionId env.startAt = sticky
  intro hsticky
  have hlimits : ∀ picked, R app picked → R app
      (checkAllRateLimits app.config req.auth.team req.auth.tokenKey req.auth.rpm req.auth.tpm env.limitsAt
        { app := picked.disturb env.beforeLimits, ledger := [] }).1.app := fun picked hpicked =>
    hR.trans (hR.trans hpicked (henv.beforeLimits picked))
      (ask_moves hR h _ app.config req.auth.rpm req.auth.tpm env.limitsAt)
  split
  · exact hsticky
  rename_i endpoint _
  cases endpoint with
  | some ep =>
    dsimp only
    split
    · exact hR.trans (hlimits _ hsticky) (noteError_moves hR _ req h _)
    · exact ⟨rfl, hlimits _ hsticky⟩
  | none =>
    have hpicked := hR.trans hsticky (selectAvailable_moves hR sticky.1
      (app.config.canonicalModelName req.modelName) bannedKeys ∅)
    dsimp only
    split
    · exact hpicked
    · exact hR.trans hpicked (noteError_moves hR _ req h _)
    split
    · exact hR.trans (hlimits _ hpicked) (noteError_moves hR _ req h _)
    · exact ⟨rfl, hlimits _ hpicked⟩

theorem chat_moves (site : Site) {raw : RawRequest} (h : who raw.auth) (henv : env.By R) (fuel : Nat)
    (app : AppState) : R app (Handler.serve site env fuel app raw).app := by
  unfold Handler.serve
  cases hstart : Handler.upToSelection site.deps site.toVec site.parseError env app raw with
  | error run =>
    rcases upToSelection_error hstart with ⟨happ, -⟩ | ⟨req, hreq, hprep⟩
    · dsimp only
      rw [happ]
      exact hR.refl app
    · have hmoves : Started R app req _ := prepare_moves hR (by rw [hreq]; exact h) henv app
      rw [hprep] at hmoves
      exact hmoves
  | ok start =>
    obtain ⟨ctx, s⟩ := start
    obtain ⟨_, json, fwd, _, hprep⟩ := upToSelection_ok hstart
    have hmoves : Started R app (raw.chat site.deps site.parseError json fwd) _ := prepare_moves hR h henv app
    rw [hprep] at hmoves
    have hloop : R s.app (retryLoop site.deps env ctx fuel s).state.app :=
      retryLoop_moves hR (by rw [hmoves.1]; exact h) henv fuel s
    exact hR.trans hmoves.2 hloop

/-! ## `proxy_generic` -/

theorem noteFailure_moves (app : AppState) (epKey : String) (statusCode now : Nat) :
    R app (Generic.noteFailure app epKey statusCode now) := moves_aside hR app _ _ _ _ _

theorem noteSuccess_moves (app : AppState) (epKey : String) (latencyMs : Nat) :
    R app (Generic.noteSuccess app epKey latencyMs) := moves_aside hR app _ _ _ _ _

theorem classifyStream_moves (app : AppState) (epKey : String) (status latencyMs now : Nat) :
    R app (Generic.classifyStream app epKey status latencyMs now) := by
  unfold Generic.classifyStream
  split
  · exact noteSuccess_moves hR app epKey latencyMs
  · exact noteFailure_moves hR app epKey status now

theorem classifyWhole_moves (app : AppState) (epKey : String) (status latencyMs now : Nat) :
    R app (Generic.classifyWhole app epKey status latencyMs now) := by
  unfold Generic.classifyWhole
  split
  · exact noteFailure_moves hR app epKey status now
  · exact noteSuccess_moves hR app epKey latencyMs

theorem answer_moves (g : GenericCall) (h : who g.auth) (isStream : Bool) (c : Charged) (reply : Reply)
    (startAt now : Nat) : R c.app (g.answer deps isStream c reply startAt now).1.app := by
  have hcharge : ∀ total, R c.app (g.charge c total now).app :=
    fun total => chargeUsage_moves hR h c g.epKey g.teamTpm g.auth.tpm g.endpoint.endpointLimitsTpm total now
  unfold GenericCall.answer
  dsimp only
  split
  · exact noteFailure_moves hR c.app g.epKey 0 now
  · rename_i status body
    split
    · unfold GenericCall.streamed
      split
      · refine hR.trans ?_ (hR.request h _ g.epKey)
        refine hR.trans ?_ (classifyStream_moves hR _ _ _ _ _)
        split
        · exact hcharge _
        · exact hR.refl c.app
      · exact classifyStream_moves hR c.app _ _ _ _
    · unfold GenericCall.whole
      have hrow := hR.trans (hcharge (bodyUsage (deps.fromSlice (toBytes body))).total)
        (recordRequest_moves hR h _ g.canonicalModel g.endpoint.url (bodyUsage (deps.fromSlice (toBytes body))).prompt
          (bodyUsage (deps.fromSlice (toBytes body))).completion ((now - startAt) / 1000000) status none
          g.endpoint.costPrompt g.endpoint.costCompletion now)
      exact hR.trans (hR.trans hrow (classifyWhole_moves hR _ _ _ _ _)) (hR.request h _ g.epKey)

theorem generic_moves {env : GenericEnv} {req : GenericRequest} (h : who req.auth) (henv : env.By R)
    (app : AppState) : R app (proxyGeneric deps env app req).app := by
  have hlimited := ask_moves hR h app app.config req.auth.rpm req.auth.tpm env.limitsAt
  have hbefore := hR.trans hlimited (henv.beforePick _)
  unfold proxyGeneric
  dsimp only
  split
  · exact hR.refl app
  split
  · exact hR.trans hlimited (hR.error h _ "rate_limited")
  split
  · exact hbefore
  split
  · exact hbefore
  have hpicked := fun rr => hR.trans hbefore (rotate_moves hR _ rr)
  split
  · exact hpicked _
  · exact hpicked _
  split
  · exact hpicked _
  · exact hR.trans (hR.trans (hpicked _) (henv.during _)) (answer_moves hR _ h _ { app := _, ledger := _ } _ _ _)

/-! ## Listings and pages -/

theorem listed_moves (h : who auth) (now : Nat) (app : AppState) (reply : List String → ServerReply) :
    R app (listed now app auth reply).app := by
  have hlimited := ask_moves hR h app app.config auth.rpm auth.tpm now
  unfold listed
  dsimp only
  split
  · exact hR.trans hlimited (hR.error h _ "rate_limited")
  · exact hlimited

theorem walkRows_moves {β : Type} {row : AppState → EndpointItem → AppState × Except Panic β}
    (hrow : ∀ app item, R app (row app item).1) (items : List EndpointItem) (app : AppState) :
    R app (walkRows row items app).1 := walkRows_rel hR.refl hR.trans hrow items app

theorem onlyLapsed_moves {now : Nat} (h : app.OnlyLapsed now app') : R app app' := by
  obtain ⟨fb, rfl, -⟩ := h
  exact forget_moves hR app fb

theorem statsRow_moves (parse : String → Option ParsedUrl) (now : Nat) (app : AppState) (item : EndpointItem) :
    R app (statsRow parse now app item).1 := by
  unfold statsRow
  split
  · exact hR.refl app
  · rename_i epKey _
    exact hR.trans (forget_moves hR app (app.fail2ban.isBanned epKey now).1) (tpmRemaining_moves hR _ epKey _ now)

theorem statsJson_moves (h : who auth) (parse : String → Option ParsedUrl) (now : Nat) (app : AppState) :
    R app (statsJson parse now auth app).1 := by
  have hread : ∀ whose, R app (auth.act (.errors whose) (auth.act (.requests whose) app).1).1 :=
    fun whose => hR.trans (hR.move (.act h (.requests whose))) (hR.move (.act h (.errors whose)))
  have htoken := hR.trans (hR.trans (hread .token) (hread .team)) (hR.move (.act h (.remaining .token auth.tpm now)))
  have hteam := hR.trans htoken (hR.move (.act h (.remaining .team (teamTpm app.config auth.team) now)))
  exact hR.trans hteam (walkRows_moves hR (statsRow_moves hR parse now) _ _)

/-! ## The server -/

/-- **One request**: its caller, if it has one, is among these, and so are those it waits for. -/
theorem serve_moves (site : Site) {out : Outside} (hout : out.By R) {r : HttpRequest}
    (hcaller : ∀ auth, authMiddleware app.config r = some auth → who auth) : R app (site.serve out app r).app := by
  cases hauth : authMiddleware app.config r with
  | none => exact onlyLapsed_moves hR (serve_stranger site out hauth).2.2
  | some auth =>
    have h := hcaller auth hauth
    rw [site.serve_known out hauth]
    cases site.route r with
    | chat =>
      rw [site.serveKnown_chat, Served.ofRun_app]
      exact chat_moves hR site h hout.chat out.fuel app
    | generic =>
      rw [site.serveKnown_generic, Served.ofRun_app]
      exact generic_moves hR h hout.generic app
    | models => exact listed_moves hR h out.now app .models
    | tags => exact listed_moves hR h out.now app .tags
    | stats => exact statsJson_moves hR h site.parseUrl out.now app
    | health =>
      exact walkRows_moves hR (fun app item => onlyLapsed_moves hR (healthRow_lapsed site.parseUrl out.now app item))
        _ app
    | vhealth =>
      exact walkRows_moves hR
        (fun app item => onlyLapsed_moves hR (dashboardRow_lapsed site.parseUrl out.now app item)) _ app
    | _ => exact hR.refl app

/-- A request by one of these callers, with only what stays in `R` before and beside it. -/
structure Arrival.By (who : AuthContext → Prop) (R : AppState → AppState → Prop) (app : AppState) (a : Arrival) :
    Prop where
  before : a.before.By R
  outside : a.outside.By R
  caller : ∀ auth, authMiddleware (app.disturb a.before).config a.request = some auth → who auth

/-- **Requests one after another.** -/
theorem run_moves (site : Site) {arrivals : List Arrival} (h : Steps.Every site.step (Arrival.By who R) app arrivals) :
    R app (Steps.run site.step app arrivals) :=
  Steps.run_keeps (I := R app)
    (fun s _ ha hs => hR.trans (hR.trans hs (ha.before s)) (serve_moves hR site ha.outside ha.caller)) arrivals app h
    (hR.refl app)

end

end AiRouter
