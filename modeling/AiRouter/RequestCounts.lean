import AiRouter.Answers
import Mathlib.Algebra.Group.Pi.Basic
import Mathlib.Algebra.Group.Prod
import Mathlib.Data.Nat.ModEq

/-
# Requests counted: the live counters and the `requests` table

What a stretch of a run does to both is an `Effect`: it adds to the counters, which wrap, so that they are compared
modulo 2^64, and it rewrites the table, if there is one (the retention cleanup of stats/pg.rs deletes rows).

| here | there |
| --- | --- |
| `RequestCounter`   | the four counters of `LiveStats::record_request` (handler.rs:57-62) |
| `Handler.entered`  | `proxy_handler`, once the request is settled (handler.rs:569-602, 661, 692-703) |
| `Generic.entered`  | `proxy_generic`, both branches (handler.rs:1293-1304, 1389, 1454-1473) |
-/
namespace AiRouter

inductive RequestCounter where
  | total
  | token (key : String)
  | team (name : String)
  | endpoint (key : String)
deriving DecidableEq, Repr

def LiveStats.requests (s : LiveStats) : RequestCounter → Nat
  | .total => s.requestsTotal
  | .token key => (s.requestsByToken.lookup key).getD 0
  | .team name => (s.requestsByTeam.lookup name).getD 0
  | .endpoint key => (s.requestsByEndpoint.lookup key).getD 0

/-- The number of rows, if there is a table. -/
def StatsWriter.rowCount (w : StatsWriter) : Option Nat := w.pool.map (·.length)

/-- What is done to the counters and to the table. -/
@[ext]
structure Effect where
  live : RequestCounter → Nat
  table : StatsWriter → StatsWriter
  /-- a pool is opened at the start or never -/
  pool : ∀ w, (table w).pool = none ↔ w.pool = none

namespace Effect

instance : Zero Effect := ⟨⟨0, id, fun _ => Iff.rfl⟩⟩

/-- First `a`, then `b`. -/
instance : Add Effect :=
  ⟨fun a b => ⟨a.live + b.live, fun w => b.table (a.table w), fun w => (b.pool _).trans (a.pool w)⟩⟩

instance : AddMonoid Effect where
  add_assoc a b c := Effect.ext (add_assoc a.live b.live c.live) rfl
  zero_add a := Effect.ext (zero_add a.live) rfl
  add_zero a := Effect.ext (add_zero a.live) rfl
  nsmul := nsmulRec

end Effect

/-- One request of this token and team, answered by this endpoint. -/
def once (token team endpoint : String) (c : RequestCounter) : Nat :=
  if c ∈ [.total, .token token, .team team, .endpoint endpoint] then 1 else 0

/-- The effect turns `app` into `app'`. -/
structure Grown (app app' : AppState) (a : Effect) : Prop where
  requests : ∀ c, app'.liveStats.requests c ≡ app.liveStats.requests c + a.live c [MOD 2 ^ 64]
  table : app'.stats = a.table app.stats

/-- Other tasks have this effect, whatever counts they find. -/
structure Others.Adds (o : Others) (a : Effect) : Prop where
  requests : ∀ s c, (o.liveStats s).requests c ≡ s.requests c + a.live c [MOD 2 ^ 64]
  table : ∀ w, o.stats w = a.table w

/-- What other tasks do, stretch by stretch. -/
structure EnvEffect where
  beforePick : Effect
  beforeLimits : Effect
  before : Nat → Effect
  during : Nat → Effect

structure Env.Adds (env : Env) (a : EnvEffect) : Prop where
  beforePick : env.beforePick.Adds a.beforePick
  beforeLimits : env.beforeLimits.Adds a.beforeLimits
  before : ∀ k, (env.turn k).before.Adds (a.before k)
  during : ∀ k, (env.turn k).during.Adds (a.during k)

def VisitStep.called : VisitStep → Bool
  | .unsent | .sent _ => true
  | _ => false

namespace EnvEffect

/-- What they do in one round. -/
def round (a : EnvEffect) (k : Nat) (step : VisitStep) : Effect := a.before k + if step.called then a.during k else 0

def rounds (a : EnvEffect) : Nat → List Visit → Effect
  | _, [] => 0
  | k, v :: rest => a.round k v.step + a.rounds (k + 1) rest

/-- What they do while a run visits these endpoints. -/
def total (a : EnvEffect) (trace : List Visit) : Effect := a.beforePick + a.beforeLimits + a.rounds 0 trace

end EnvEffect

/-- What `proxy_handler` enters for a request that it settles with this body: counts and rows. -/
def Handler.entered (deps : Externs) (req : ChatRequest) (epKey : String) (body : List Chunk) :
    (RequestCounter → Nat) × Nat :=
  (if req.isStream then 0 else once req.auth.tokenKey req.auth.team epKey,
    if ¬ req.isStream ∧ req.isAnthropic ∧ (deps.fromSlice (toBytes body)).isSome then 0 else 1)

/-- What `proxy_generic` enters for an answer. -/
def Generic.entered (auth : AuthContext) (epKey : String) (isStream : Bool) (status : Nat) :
    (RequestCounter → Nat) × Nat :=
  if isStream then (if isSuccess status then once auth.tokenKey auth.team epKey else 0, 0)
  else (once auth.tokenKey auth.team epKey, 1)

/-- The effect is that these counts and rows are entered. -/
structure Effect.Is (a : Effect) (entered : (RequestCounter → Nat) × Nat) : Prop where
  live : a.live = entered.1
  rows : ∀ w, (a.table w).rowCount = w.rowCount.map (· + entered.2)

/-- Between these states the counts and rows are entered and nothing else is done. -/
def Counted (app app' : AppState) (entered : (RequestCounter → Nat) × Nat) : Prop :=
  ∃ own : Effect, own.Is entered ∧ Grown app app' own

/-- What a run does by the way it ends. -/
def Ending.Enters (deps : Externs) (req : ChatRequest) (e : Ending) (own : Effect) : Prop :=
  match e with
  | .responded (.passedOn ep _ body) =>
    ∃ k, Handler.epKey ep.url ep.apiKey = .ok k ∧ own.Is (Handler.entered deps req k body)
  | _ => own = 0

/-- What holds after a round, where other tasks have done `a` since `app`. -/
def Grows (deps : Externs) (req : ChatRequest) (app : AppState) (a : Effect) (flow : Loop.Flow LoopState Ending) :
    Prop :=
  flow.Sat (fun s' => Grown app s'.app a) (fun s' e => ∃ own, e.Enters deps req own ∧ Grown app s'.app (a + own))

/-- The request is answered with the response to the run's last call. -/
structure AnsweredFrom (run : Run) (ep : SelectedEndpoint) (status : Nat) (body : List Chunk) : Prop where
  reply : run.trace.getLast? = some { endpoint := ep, step := .sent (.response status body) }
  ending : ∃ answer, run.ending.bind Ending.answer = some answer

/-- Beside what others have done, each counter of the request has grown by one, and the table by a row. -/
def CountedOnce (auth : AuthContext) (ep : SelectedEndpoint) (others : Effect) (app app' : AppState) : Prop :=
  ∃ k, Handler.epKey ep.url ep.apiKey = .ok k ∧
    (∀ c, app'.liveStats.requests c
      ≡ app.liveStats.requests c + others.live c + once auth.tokenKey auth.team k c [MOD 2 ^ 64]) ∧
    app'.stats.rowCount = (others.table app.stats).rowCount.map (· + 1)

/-- When `proxy_handler` does so: no stream, an answer that settles the request, and for the Anthropic path no JSON. -/
structure Handler.Accounted (deps : Externs) (app : AppState) (req : ChatRequest) (status : Nat) (body : List Chunk) :
    Prop where
  whole : req.isStream = false
  settles : SettlesRequest app status
  row : app.stats.pool = none ∨ req.isAnthropic = false ∨ deps.fromSlice (toBytes body) = none

/-- When `proxy_generic` does so: a stream is counted on success, and has no row. -/
def Generic.Accounted (app : AppState) (req : GenericRequest) (status : Nat) : Prop :=
  ∀ modelName, Generic.resolveBody app.config req.path req.body = .ok (modelName, true) →
    isSuccess status = true ∧ app.stats.pool = none

/-! ## Effects one after the other -/

section
variable {app app' app'' : AppState} {a b : Effect}

theorem Grown.refl (app : AppState) : Grown app app 0 := ⟨fun _ => rfl, rfl⟩

theorem Grown.trans (h : Grown app app' a) (h' : Grown app' app'' b) : Grown app app'' (a + b) := by
  refine ⟨fun c => ?_, ?_⟩
  · have hc := (h'.requests c).trans ((h.requests c).add_right (b.live c))
    rwa [Nat.add_assoc] at hc
  · rw [h'.table, h.table]
    rfl

/-- What writes neither does nothing. -/
theorem Grown.of_frame (hlive : ∀ c, app'.liveStats.requests c = app.liveStats.requests c)
    (hstats : app'.stats = app.stats) : Grown app app' 0 := by
  refine ⟨fun c => ?_, hstats⟩
  rw [hlive c]
  rfl

theorem Grown.silent_left (h : Grown app app' 0) (h' : Grown app' app'' a) : Grown app app'' a := by
  have h'' := h.trans h'
  rwa [zero_add] at h''

theorem Grown.silent_right (h : Grown app app' a) (h' : Grown app' app'' 0) : Grown app app'' a := by
  have h'' := h.trans h'
  rwa [add_zero] at h''

theorem OnlyBudgets.grown (h : OnlyBudgets app app') : Grown app app' 0 := by
  obtain ⟨_, _, rfl⟩ := h
  exact .of_frame (fun _ => rfl) rfl

theorem grown_disturb {o : Others} (h : o.Adds a) (app : AppState) : Grown app (app.disturb o) a :=
  ⟨fun c => h.requests app.liveStats c, h.table app.stats⟩

theorem grown_pick (app : AppState) (rr : RoundRobinCounters) : Grown app { app with roundRobin := rr } 0 :=
  .of_frame (fun _ => rfl) rfl

theorem grown_noteError (app : AppState) (req : ChatRequest) (what : String) : Grown app (app.noteError req what) 0 :=
  .of_frame (fun c => by cases c <;> rfl) rfl

/-! ## The two records -/

theorem count_lookup (m : KeyMap String Nat) (key k : String) :
    ((LiveStats.count m key).lookup k).getD 0 ≡ (m.lookup k).getD 0 + (if k = key then 1 else 0) [MOD 2 ^ 64] := by
  unfold LiveStats.count
  by_cases hk : k = key
  · subst hk
    rw [KeyMap.lookup_upsert_self, if_pos rfl]
    exact Nat.mod_modEq _ _
  · rw [KeyMap.lookup_upsert_ne _ _ _ hk, if_neg hk]
    rfl

section
variable (token team endpoint : String)

@[simp] theorem once_total : once token team endpoint .total = 1 := by simp [once]

@[simp] theorem once_token (key : String) : once token team endpoint (.token key) = if key = token then 1 else 0 := by
  simp [once]

@[simp] theorem once_team (name : String) : once token team endpoint (.team name) = if name = team then 1 else 0 := by
  simp [once]

@[simp] theorem once_endpoint (key : String) :
    once token team endpoint (.endpoint key) = if key = endpoint then 1 else 0 := by
  simp [once]

theorem recordRequest_requests (s : LiveStats) (c : RequestCounter) :
    (s.recordRequest token team endpoint).requests c ≡ s.requests c + once token team endpoint c [MOD 2 ^ 64] := by
  cases c with
  | total =>
    rw [once_total]
    exact Nat.mod_modEq _ _
  | token key =>
    rw [once_token]
    exact count_lookup s.requestsByToken token key
  | team name =>
    rw [once_team]
    exact count_lookup s.requestsByTeam team name
  | endpoint key =>
    rw [once_endpoint]
    exact count_lookup s.requestsByEndpoint endpoint key

end

theorem recordRequest_rowCount (w : StatsWriter) (model endpoint team : String)
    (tokensPrompt tokensCompletion latencyMs status : Nat) (tokenHash : Option String)
    (costPromptPer1m costCompletionPer1m : Rat) (now : Nat) :
    (w.recordRequest model endpoint team tokensPrompt tokensCompletion latencyMs status tokenHash
      costPromptPer1m costCompletionPer1m now).rowCount = w.rowCount.map (· + 1) := by
  unfold StatsWriter.rowCount StatsWriter.recordRequest
  cases w.pool <;> simp

/-- Rows are compared where there is a table. -/
theorem rowCount_map_iff (w : StatsWriter) (m n : Nat) :
    w.rowCount.map (· + m) = w.rowCount.map (· + n) ↔ w.pool = none ∨ m = n := by
  unfold StatsWriter.rowCount
  cases w.pool <;> simp

theorem pool_of_rowCount {w w' : StatsWriter} {n : Nat} (h : w'.rowCount = w.rowCount.map (· + n)) :
    w'.pool = none ↔ w.pool = none := by
  have hnone := congrArg Option.isNone h
  simpa [StatsWriter.rowCount, ← Option.isNone_iff_eq_none] using hnone

variable {e e' : (RequestCounter → Nat) × Nat}

/-- What writes the counters and the table so. -/
theorem Counted.of_write {table : StatsWriter → StatsWriter}
    (hlive : ∀ c, app'.liveStats.requests c ≡ app.liveStats.requests c + e.1 c [MOD 2 ^ 64])
    (hstats : app'.stats = table app.stats) (hrows : ∀ w, (table w).rowCount = w.rowCount.map (· + e.2)) :
    Counted app app' e :=
  ⟨⟨e.1, table, fun w => pool_of_rowCount (hrows w)⟩, ⟨rfl, hrows⟩, hlive, hstats⟩

/-- On top of what others have done. -/
theorem Counted.after (h : Grown app app' a) (h' : Counted app' app'' e) :
    ∃ own : Effect, own.Is e ∧ Grown app app'' (a + own) := by
  obtain ⟨own, hown, hgrown⟩ := h'
  exact ⟨own, hown, h.trans hgrown⟩

theorem Counted.after_silent (h : Grown app app' 0) (h' : Counted app' app'' e) : Counted app app'' e := by
  obtain ⟨own, hown, hgrown⟩ := h'
  exact ⟨own, hown, h.silent_left hgrown⟩

/-- A row before its request is noted in the counters. -/
theorem Counted.trans (h : Counted app app' e) (h' : Counted app' app'' e') : Counted app app'' (e + e') := by
  obtain ⟨own, hown, hgrown⟩ := h
  obtain ⟨own', hown', hgrown'⟩ := h'
  refine ⟨own + own', ⟨?_, fun w => ?_⟩, hgrown.trans hgrown'⟩
  · exact congrArg₂ (· + ·) hown.live hown'.live
  · refine (hown'.rows _).trans ?_
    rw [hown.rows, Option.map_map]
    congr 1
    funext n
    exact Nat.add_assoc n e.2 e'.2

end

/-! ## One round -/

section
variable {deps : Externs} {ctx : LoopCtx} {t : Turn} {s : LoopState} {k : String}

theorem grown_classify (app : AppState) (k : String) (status now : Nat) : Grown app (app.classify k status now) 0 := by
  unfold AppState.classify
  split <;> exact .of_frame (fun _ => rfl) rfl

theorem grown_classified (deps : Externs) (ctx : LoopCtx) (t : Turn) (k : String) (s : LoopState) (status : Nat)
    (body : List Chunk) : Grown s.app (s.classified deps ctx t k status body).app 0 :=
  (chargeStream_budgets deps ctx k s status body t.doneAt).grown.silent_left (grown_classify _ _ _ _)

/-- An answered request is entered once at most in either place. -/
theorem counted_finish (s : LoopState) (deps : Externs) (ctx : LoopCtx) (k : String) (status : Nat) (body : List Chunk)
    (startAt now : Nat) :
    Counted s.app (s.finish deps ctx k status body startAt now).app (Handler.entered deps ctx.req k body) := by
  have hrow := fun (usage : Usage) (w : StatsWriter) => recordRequest_rowCount w ctx.canonicalModel s.current.url
    ctx.req.auth.team usage.prompt usage.completion ((now - startAt) / 1000000) status
    (some (deps.hashToken ctx.req.auth.tokenKey)) s.current.costPrompt s.current.costCompletion now
  unfold LoopState.finish Handler.entered
  dsimp only
  by_cases hstream : ctx.req.isStream = true
  · simp only [hstream, if_true, not_true, false_and, if_false]
    exact .of_write (fun _ => rfl) rfl (hrow .zero)
  · rw [if_neg hstream, if_neg hstream]
    have hbudgets := (chargeUsage_budgets
      { app := (s.app.answered k ((now - startAt) / 1000000)).bindSession ctx.req.sessionId s.current.index now
        ledger := s.ledger } ctx.req.auth.team ctx.req.auth.tokenKey k
      (teamTpm ((s.app.answered k ((now - startAt) / 1000000)).bindSession ctx.req.sessionId s.current.index now).config
        ctx.req.auth.team) ctx.req.auth.tpm s.current.endpointLimitsTpm
      (bodyUsage (deps.fromSlice (toBytes body))).total now).grown
    have hframe : Grown s.app ((s.app.answered k ((now - startAt) / 1000000)).bindSession ctx.req.sessionId
        s.current.index now) 0 := .of_frame (fun _ => rfl) rfl
    refine .after_silent (hframe.silent_left hbudgets) ?_
    by_cases hkept : ctx.req.isAnthropic = true ∧ (deps.fromSlice (toBytes body)).isSome = true
    · simp only [hkept, hstream, and_self, if_true]
      have hnorow : ∀ w : StatsWriter, (id w).rowCount = w.rowCount.map (· + 0) := fun w => by simp
      exact .of_write (fun c => recordRequest_requests _ _ _ _ c) rfl hnorow
    · simp only [hkept, hstream, if_false, and_false]
      exact .of_write (fun c => recordRequest_requests _ _ _ _ c) rfl (hrow _)

theorem Grows.after {app app' : AppState} {a b : Effect} {req : ChatRequest} {flow : Loop.Flow LoopState Ending}
    (hgrown : Grown app app' a) (h : Grows deps req app' b flow) : Grows deps req app (a + b) flow := by
  refine h.mono (fun s' hs => hgrown.trans hs) (fun s' e he => ?_)
  obtain ⟨own, hown, hs⟩ := he
  refine ⟨own, hown, ?_⟩
  rw [add_assoc]
  exact hgrown.trans hs

theorem Grows.after_silent {app app' : AppState} {a : Effect} {req : ChatRequest}
    {flow : Loop.Flow LoopState Ending} (hgrown : Grown app app' 0) (h : Grows deps req app' a flow) :
    Grows deps req app a flow := by
  have hafter := h.after hgrown
  rwa [zero_add] at hafter

/-- Giving up counts nothing. -/
theorem tryNext_grows (s : LoopState) (ctx : LoopCtx) (k : String) {giveUp : Response}
    (h : (Ending.responded giveUp).Enters deps ctx.req 0) : Grows deps ctx.req s.app 0 (s.tryNext ctx k giveUp) := by
  unfold LoopState.tryNext
  dsimp only
  split
  · exact ⟨0, rfl, grown_pick _ _⟩
  · exact grown_pick _ _
  · exact ⟨0, h, grown_pick _ _⟩

theorem settle_grows (hkey : Handler.epKey s.current.url s.current.apiKey = .ok k) (status : Nat) (body : List Chunk) :
    Grows deps ctx.req s.app 0 (settle deps ctx t k s status body) := by
  refine .after_silent (grown_classified deps ctx t k s status body) ?_
  rw [settle_eq]
  split
  · obtain ⟨own, hown, hgrown⟩ :=
      counted_finish (s.classified deps ctx t k status body) deps ctx k status body t.checkAt t.doneAt
    refine ⟨own, ⟨k, hkey, hown⟩, ?_⟩
    rw [zero_add]
    exact hgrown
  · exact .after_silent (grown_noteError _ ctx.req k) (tryNext_grows _ ctx k rfl)

theorem callFailed_grows (message : String) : Grows deps ctx.req s.app 0 (callFailed ctx t k s message) := by
  have hfailed : Grown s.app ((s.app.failed k 0 t.doneAt).noteError ctx.req k) 0 :=
    .of_frame (fun c => by cases c <;> rfl) rfl
  unfold callFailed
  dsimp only
  refine .after_silent hfailed ?_
  split
  · exact tryNext_grows _ ctx k rfl
  · exact ⟨0, rfl, .refl _⟩

theorem enters_of_no_answer {req : ChatRequest} {e : Ending} (h : e.answer = none) : e.Enters deps req 0 := by
  rcases e with r | p
  · cases r with
    | passedOn ep status body => cases h
    | _ => rfl
  · rfl

theorem attempt_grows {b : Effect} (hd : t.during.Adds b)
    (hkey : Handler.epKey s.current.url s.current.apiKey = .ok k) :
    Grows deps ctx.req s.app b (attempt deps ctx t k s) := by
  have hduring : Grown s.app (s.sending ctx t).app b := grown_disturb hd s.app
  have hkey' : Handler.epKey (s.sending ctx t).current.url (s.sending ctx t).current.apiKey = .ok k := hkey
  rw [← add_zero b]
  cases hcall : call ctx.req.isStream ctx.req.bodyError t.reply with
  | returned r =>
    unfold attempt
    rw [hcall]
    exact .after hduring ⟨0, enters_of_no_answer (call_returned hcall), .refl _⟩
  | ok status body =>
    rw [attempt_of_ok s hcall]
    exact .after hduring (settle_grows hkey' status body)
  | err message =>
    rw [attempt_of_err s hcall]
    exact .after hduring (callFailed_grows message)

theorem sendStep_called (ctx : LoopCtx) (t : Turn) : (sendStep ctx t).called = true := by
  unfold sendStep
  split <;> rfl

/-- **One round**: nothing but what others count, and what a settled request enters. -/
theorem turn_grows {a b : Effect} (hb : t.before.Adds a) (hd : t.during.Adds b) (deps : Externs) (ctx : LoopCtx)
    (s : LoopState) :
    Grows deps ctx.req s.app (a + if (visitStep ctx t s).called then b else 0) (turn deps ctx t s) := by
  have hbefore := grown_disturb hb s.app
  cases hkey : Handler.epKey s.current.url s.current.apiKey with
  | error p =>
    have hstep : visitStep ctx t s = .panicked := by simp only [visitStep, hkey]
    unfold turn
    dsimp only
    rw [hkey, hstep]
    exact .after hbefore ⟨0, rfl, .refl _⟩
  | ok k =>
    have hchecks := (endpointChecks_budgets s.current k t.checkAt
      { app := s.app.disturb t.before, ledger := s.ledger }).grown
    refine .after hbefore (.after_silent hchecks ?_)
    unfold turn
    dsimp only [LoopState.charged]
    rw [hkey]
    dsimp only
    cases hrej : (Gate.runAll (endpointChecks s.current k t.checkAt)
        { app := s.app.disturb t.before, ledger := s.ledger }).2 with
    | some rej =>
      have hstep : visitStep ctx t s = .limited := by simp only [visitStep, hkey, hrej]
      rw [hstep]
      exact tryNext_grows _ ctx k rfl
    | none =>
      have hstep : visitStep ctx t s = sendStep ctx t := by simp only [visitStep, hkey, hrej]
      rw [hstep, sendStep_called, if_pos rfl]
      exact attempt_grows hd hkey

end

/-! ## A run of `proxy_handler` -/

theorem rounds_concat (a : EnvEffect) (v : Visit) : ∀ (k : Nat) (trace : List Visit),
    a.rounds k (trace ++ [v]) = a.rounds k trace + a.round (k + trace.length) v.step
  | k, [] => (add_zero _).trans (zero_add _).symm
  | k, w :: rest => by
    rw [List.cons_append, EnvEffect.rounds, EnvEffect.rounds, rounds_concat a v (k + 1) rest, ← add_assoc, List.length_cons,
      show k + 1 + rest.length = k + (rest.length + 1) by omega]

theorem total_concat (a : EnvEffect) (trace : List Visit) (v : Visit) :
    a.total (trace ++ [v]) = a.total trace + a.round trace.length v.step := by
  unfold EnvEffect.total
  rw [rounds_concat, Nat.zero_add, ← add_assoc]

/-- **Run**: what others count, round by round, and what the last round enters. -/
theorem retryLoop_grows (deps : Externs) {env : Env} {a : EnvEffect} (ha : env.Adds a) (ctx : LoopCtx) {app : AppState}
    {s : LoopState} (htrace : s.trace = []) (hstart : Grown app s.app (a.total [])) (fuel : Nat) :
    (retryLoop deps env ctx fuel s).Sat (fun s' => Grown app s'.app (a.total s'.trace))
      (fun s' e => ∃ own, e.Enters deps ctx.req own ∧ Grown app s'.app (a.total s'.trace + own)) := by
  have hround : ∀ k s, (s.trace.length = k ∧ Grown app s.app (a.total s.trace)) →
      (turn deps ctx (env.turn k) s).Sat
        (fun s' => s'.trace.length = k + 1 ∧ Grown app s'.app (a.total s'.trace))
        (fun s' e => ∃ own, e.Enters deps ctx.req own ∧ Grown app s'.app (a.total s'.trace + own)) := by
    rintro k s ⟨rfl, hs⟩
    have hgrows := (turn_grows (ha.before s.trace.length) (ha.during s.trace.length) deps ctx s).after hs
    have hvisited := Loop.Flow.sat_of_state (turn_trace deps ctx (env.turn s.trace.length) s)
    refine (Loop.Flow.Sat.and hgrows hvisited).mono (fun s' h => ?_) (fun s' e h => ?_)
    · refine ⟨?_, ?_⟩
      · rw [h.2, List.length_append]
        rfl
      · rw [h.2, total_concat]
        exact h.1
    · obtain ⟨own, hown, hs'⟩ := h.1
      refine ⟨own, hown, ?_⟩
      rw [h.2, total_concat]
      exact hs'
  have hinv : s.trace.length = 0 ∧ Grown app s.app (a.total s.trace) := by
    rw [htrace]
    exact ⟨rfl, hstart⟩
  exact (Loop.run_sat_at hround fuel 0 s hinv).mono (fun _ h => h.2) (fun _ _ h => h)

/-- Before the loop only others count. -/
theorem Entered.grown {env : Env} {a : EnvEffect} (ha : env.Adds a) {app : AppState} {req : ChatRequest} {ctx : LoopCtx}
    {s : LoopState} (h : Entered env app req ctx s) : Grown app s.app (a.total []) := by
  obtain ⟨start, ⟨sticky, sync, rr, hstart⟩, hadmitted⟩ := h.admitted
  have hcollected : Grown app (app.collectBanned env.startAt (((app.config.findModel
      (app.config.canonicalModelName req.modelName)).map (·.endpoints)).getD []) ∅).1 0 := by
    obtain ⟨fb, hfb⟩ := AppState.collectBanned_only env.startAt (((app.config.findModel
      (app.config.canonicalModelName req.modelName)).map (·.endpoints)).getD []) app ∅
    rw [hfb]
    exact .of_frame (fun _ => rfl) rfl
  have hpicked : Grown app { Handler.pickState env app req with sticky := sticky, sync := sync, roundRobin := rr }
      a.beforePick :=
    (hcollected.silent_left (grown_disturb ha.beforePick _)).silent_right (.of_frame (fun _ => rfl) rfl)
  have hchecks := (checkAllRateLimits_budgets app.config req.auth.team req.auth.tokenKey req.auth.rpm req.auth.tpm
    env.limitsAt { app := start, ledger := [] }).grown
  rw [hadmitted, hstart] at hchecks
  unfold EnvEffect.total EnvEffect.rounds
  rw [add_zero]
  exact (hpicked.trans (grown_disturb ha.beforeLimits _)).silent_right hchecks

/-- **A run that has made a call.** -/
theorem proxyHandler_grows {deps : Externs} {env : Env} {a : EnvEffect} (ha : env.Adds a) {fuel : Nat} {app : AppState}
    {req : ChatRequest} {e : Ending} (hcalled : (proxyHandler deps env fuel app req).trace ≠ [])
    (hend : (proxyHandler deps env fuel app req).ending = some e) :
    ∃ own, e.Enters deps req own ∧ Grown app (proxyHandler deps env fuel app req).app
      (a.total (proxyHandler deps env fuel app req).trace + own) := by
  obtain ⟨ctx, s, hprep⟩ := proxyHandler_prepared hcalled
  unfold proxyHandler at hend ⊢
  rw [hprep] at hend ⊢
  have hstart := (prepare_entered hprep).grown ha
  obtain rfl := (prepare_entered hprep).req_eq
  have hrun := retryLoop_grows deps ha ctx (prepare_entered hprep).trace hstart fuel
  dsimp only at hend ⊢
  cases hloop : retryLoop deps env ctx fuel s with
  | next s' =>
    rw [hloop] at hend
    cases hend
  | exit s' e' =>
    rw [hloop] at hrun hend
    cases hend
    exact hrun

/-! ## A run of `proxy_generic` -/

theorem counted_noteRequest (c : GenericCall) (app : AppState) :
    Counted app (c.noteRequest app) (once c.auth.tokenKey c.auth.team c.epKey, 0) := by
  have hnorow : ∀ w : StatsWriter, (id w).rowCount = w.rowCount.map (· + 0) := fun w => by simp
  exact .of_write (fun counter => recordRequest_requests _ _ _ app.liveStats counter) rfl hnorow

theorem counted_answer (c : GenericCall) (deps : Externs) (isStream : Bool) (s : Charged) (status : Nat)
    (body : List Chunk) (startAt now : Nat) :
    Counted s.app (c.answer deps isStream s (.response status body) startAt now).1.app
      (Generic.entered c.auth c.epKey isStream status) := by
  have hcharge : ∀ total, Grown s.app (c.charge s total now).app 0 :=
    fun total => (chargeUsage_budgets _ _ _ _ _ _ _ _ _).grown
  cases isStream with
  | true =>
    unfold GenericCall.answer GenericCall.streamed Generic.entered Generic.classifyStream
    dsimp only
    by_cases hsuccess : isSuccess status = true
    · simp only [hsuccess, if_true]
      have hnoted : ∀ s' : Charged, Grown s.app s'.app 0 → Counted s.app
          (c.noteRequest (Generic.noteSuccess s'.app c.epKey ((now - startAt) / 1000000)))
          (once c.auth.tokenKey c.auth.team c.epKey, 0) := by
        intro s' hs'
        have hframe : Grown s'.app (Generic.noteSuccess s'.app c.epKey ((now - startAt) / 1000000)) 0 :=
          .of_frame (fun _ => rfl) rfl
        exact .after_silent (hs'.silent_right hframe) (counted_noteRequest c _)
      split
      · exact hnoted _ (hcharge _)
      · exact hnoted s (.refl _)
    · have hnorow : ∀ w : StatsWriter, (id w).rowCount = w.rowCount.map (· + 0) := fun w => by simp
      simp only [hsuccess, if_true]
      exact .of_write (fun _ => rfl) rfl hnorow
  | false =>
    have hclassify : ∀ app : AppState,
        Grown app (Generic.classifyWhole app c.epKey status ((now - startAt) / 1000000) now) 0 := by
      intro app
      unfold Generic.classifyWhole
      split <;> exact .of_frame (fun _ => rfl) rfl
    have hrow : ∀ (app : AppState) (usage : Usage), Counted app { app with
        stats := app.stats.recordRequest c.canonicalModel c.endpoint.url c.auth.team usage.prompt usage.completion
          ((now - startAt) / 1000000) status none c.endpoint.costPrompt c.endpoint.costCompletion now } (0, 1) :=
      fun app usage => .of_write (fun _ => rfl) rfl fun w => recordRequest_rowCount w _ _ _ _ _ _ _ _ _ _ _
    have hentered : Generic.entered c.auth c.epKey false status
        = (0, 1) + (once c.auth.tokenKey c.auth.team c.epKey, 0) := by
      simp [Generic.entered]
    rw [hentered]
    exact ((hrow _ _).trans (.after_silent (hclassify _) (counted_noteRequest c _))).after_silent (hcharge _)

theorem proxyGeneric_grown {deps : Externs} {env : GenericEnv} {a b : Effect} (hpick : env.beforePick.Adds a)
    (hduring : env.during.Adds b) {app : AppState} {req : GenericRequest} {ep : SelectedEndpoint} {status : Nat}
    {body : List Chunk}
    (hv : { endpoint := ep, step := .sent (.response status body) } ∈ (proxyGeneric deps env app req).trace) :
    ∃ k modelName isStream, Handler.epKey ep.url ep.apiKey = .ok k ∧
      Generic.resolveBody app.config req.path req.body = .ok (modelName, isStream) ∧
      ∃ own : Effect, own.Is (Generic.entered req.auth k isStream status) ∧
        Grown app (proxyGeneric deps env app req).app (a + b + own) := by
  obtain ⟨c, s, modelName, isStream, rfl, hreply, hc⟩ := proxyGeneric_called hv
  obtain ⟨rr, hstate⟩ := hc.state
  have hchecks := (checkAllRateLimits_budgets app.config req.auth.team req.auth.tokenKey req.auth.rpm req.auth.tpm
    env.limitsAt { app := app, ledger := [] }).grown
  have hpicked := hchecks.silent_left (grown_disturb hpick _)
  have hsent : Grown app s.app (a + b) := by
    rw [hstate]
    exact (hpicked.silent_right (grown_pick _ rr)).trans (grown_disturb hduring _)
  have hrun : proxyGeneric deps env app req = _ := hc.answered env.reply
  rw [← hreply] at hrun
  have hanswer := counted_answer c deps isStream s status body env.callAt env.doneAt
  rw [hc.auth] at hanswer
  rw [hrun]
  exact ⟨c.epKey, modelName, isStream, hc.key, hc.body, Counted.after hsent hanswer⟩

/-! ## Counted once -/

section
variable {app app' : AppState} {others own : Effect} {auth : AuthContext} {ep : SelectedEndpoint} {k : String}

theorem countedOnce_of_grown {live : RequestCounter → Nat} {rows : Nat} (hkey : Handler.epKey ep.url ep.apiKey = .ok k)
    (h : Grown app app' (others + own)) (hown : own.Is (live, rows)) :
    CountedOnce auth ep others app app' ↔
      (∀ c, live c ≡ once auth.tokenKey auth.team k c [MOD 2 ^ 64]) ∧ (app.stats.pool = none ∨ rows = 1) := by
  have hlive : ∀ c, app'.liveStats.requests c ≡ app.liveStats.requests c + others.live c + live c [MOD 2 ^ 64] := by
    intro c
    have hc := h.requests c
    have hsum : (others + own).live c = others.live c + live c := congrArg (others.live c + · c) hown.live
    rwa [hsum, ← Nat.add_assoc] at hc
  have hrows : app'.stats.rowCount = (others.table app.stats).rowCount.map (· + rows) := by
    rw [h.table]
    exact hown.rows _
  unfold CountedOnce
  rw [hrows]
  simp only [hkey, Except.ok.injEq, exists_eq_left', rowCount_map_iff, others.pool]
  refine and_congr (forall_congr' fun c => ?_) Iff.rfl
  exact ⟨fun hc => Nat.ModEq.add_left_cancel' _ ((hlive c).symm.trans hc), fun hc => (hlive c).trans (hc.add_left _)⟩

/-- A request that is not counted in the total is not counted once. -/
theorem not_countedOnce (h : Grown app app' (others + own)) (hown : own.live .total = 0) :
    ¬ CountedOnce auth ep others app app' := by
  rintro ⟨k, _, hlive, _⟩
  have hgrown := h.requests .total
  have hsum : (others + own).live .total = others.live .total := congrArg (others.live .total + ·) hown
  rw [hsum] at hgrown
  have htotal : 0 ≡ once auth.tokenKey auth.team k .total [MOD 2 ^ 64] :=
    Nat.ModEq.add_left_cancel' (app.liveStats.requests .total + others.live .total) (hgrown.symm.trans (hlive .total))
  rw [once_total] at htotal
  exact absurd htotal (by decide)

end

/-- What the loop has read of a whole body is what the accounting reads again. -/
theorem toBytes_read {status : Nat} {body read : List Chunk}
    (h : call false none (.response status body) = .ok status read) : toBytes read = toBytes body := by
  cases hread : readAll body with
  | error e =>
    simp only [call, hread] at h
    cases h
  | ok bytes =>
    simp only [call, hread] at h
    cases h
    unfold toBytes
    rw [hread, readAll_singleton]

theorem Handler.countedOnce_iff {deps : Externs} {env : Env} {a : EnvEffect} {fuel : Nat} {app : AppState}
    {req : ChatRequest} {ep : SelectedEndpoint} {status : Nat} {body : List Chunk} (henv : env.KeepsPatterns)
    (ha : env.Adds a) (h : AnsweredFrom (proxyHandler deps env fuel app req) ep status body) :
    CountedOnce req.auth ep (a.total (proxyHandler deps env fuel app req).trace) app
        (proxyHandler deps env fuel app req).app ↔ Handler.Accounted deps app req status body := by
  obtain ⟨hlast, answer, hanswer⟩ := h
  obtain ⟨e, hend, hanswer⟩ := Option.bind_eq_some_iff.1 hanswer
  have hcalled : (proxyHandler deps env fuel app req).trace ≠ [] := by
    intro hnil
    rw [hnil] at hlast
    cases hlast
  obtain ⟨own, hown, hgrown⟩ := proxyHandler_grows ha hcalled hend
  obtain ⟨hread, hfailed⟩ := proxyHandler_last henv hlast hend
  rcases e with r | p
  · rcases call_response req.isStream status body with ⟨read, hcall⟩ | ⟨message, hcall⟩
    · have hr := hread read r hcall rfl
      by_cases hsettles : SettlesRequest app status
      · rw [if_pos hsettles] at hr
        subst hr
        obtain ⟨k, hkey, hown⟩ := hown
        cases hstream : req.isStream with
        | true =>
          refine iff_of_false (not_countedOnce hgrown ?_) fun h => ?_
          · rw [hown.live]
            simp [Handler.entered, hstream]
          · rw [h.whole] at hstream
            cases hstream
        | false =>
          rw [hstream] at hcall
          rw [countedOnce_of_grown hkey hgrown hown, toBytes_read hcall, hstream]
          constructor
          · rintro ⟨_, hrow⟩
            refine ⟨hstream, hsettles, hrow.imp_right fun hone => ?_⟩
            by_contra hkept
            rw [not_or] at hkept
            simp [hkept.1, Option.isSome_iff_ne_none, hkept.2] at hone
          · rintro ⟨_, _, hrow⟩
            refine ⟨fun _ => rfl, hrow.imp_right fun hnone => ?_⟩
            rcases hnone with hopenai | hnojson
            · simp [hopenai]
            · simp [hnojson]
      · rw [if_neg hsettles] at hr
        subst hr
        have hnone : own = 0 := hown
        refine iff_of_false (not_countedOnce hgrown ?_) fun h => hsettles h.settles
        rw [hnone]
        rfl
    · rw [hfailed message hcall] at hanswer
      cases hanswer
  · cases hanswer

theorem Generic.countedOnce_iff {deps : Externs} {env : GenericEnv} {a b : Effect} {app : AppState}
    {req : GenericRequest} {ep : SelectedEndpoint} {status : Nat} {body : List Chunk} (hpick : env.beforePick.Adds a)
    (hduring : env.during.Adds b) (h : AnsweredFrom (proxyGeneric deps env app req) ep status body) :
    CountedOnce req.auth ep (a + b) app (proxyGeneric deps env app req).app ↔ Generic.Accounted app req status := by
  obtain ⟨k, modelName, isStream, hkey, hbody, own, hown, hgrown⟩ :=
    proxyGeneric_grown hpick hduring (List.mem_of_getLast? h.reply)
  unfold Generic.Accounted
  rw [hbody]
  cases isStream with
  | true =>
    unfold Generic.entered at hown
    rw [if_pos rfl] at hown
    by_cases hsuccess : isSuccess status = true
    · rw [if_pos hsuccess] at hown
      rw [countedOnce_of_grown hkey hgrown hown]
      constructor
      · rintro ⟨_, hpool | hrow⟩
        · exact fun _ _ => ⟨hsuccess, hpool⟩
        · cases hrow
      · intro h
        exact ⟨fun _ => rfl, Or.inl (h modelName rfl).2⟩
    · rw [if_neg hsuccess] at hown
      have hnone : own.live .total = 0 := congrFun hown.live .total
      exact iff_of_false (not_countedOnce hgrown hnone) fun h => hsuccess (h modelName rfl).1
  | false =>
    rw [countedOnce_of_grown hkey hgrown hown]
    refine iff_of_true ⟨fun _ => rfl, Or.inr rfl⟩ fun name hname => ?_
    cases hname

/-- **Requests counted once.** Whatever others count meanwhile, in every run that is answered with an upstream's
response. -/
theorem requests_counted_once_iff (deps : Externs) :
    (∀ (env : Env) (a : EnvEffect) (fuel : Nat) (app : AppState) (req : ChatRequest) (ep : SelectedEndpoint)
      (status : Nat) (body : List Chunk), env.KeepsPatterns → env.Adds a →
      AnsweredFrom (proxyHandler deps env fuel app req) ep status body →
      (CountedOnce req.auth ep (a.total (proxyHandler deps env fuel app req).trace) app
        (proxyHandler deps env fuel app req).app ↔ Handler.Accounted deps app req status body)) ∧
    (∀ (env : GenericEnv) (a b : Effect) (app : AppState) (req : GenericRequest) (ep : SelectedEndpoint)
      (status : Nat) (body : List Chunk), env.beforePick.Adds a → env.during.Adds b →
      AnsweredFrom (proxyGeneric deps env app req) ep status body →
      (CountedOnce req.auth ep (a + b) app (proxyGeneric deps env app req).app ↔ Generic.Accounted app req status)) :=
  ⟨fun _ _ _ _ _ _ _ _ henv ha h => Handler.countedOnce_iff henv ha h,
    fun _ _ _ _ _ _ _ _ hpick hduring h => Generic.countedOnce_iff hpick hduring h⟩

/-! ## Another request meanwhile -/

/-- A request of another token is answered and counted. -/
def Others.counting (token team endpoint : String) : Others where
  stats w := w.recordRequest "gpt-4" endpoint team 0 0 0 200 none 0 0 0
  liveStats s := s.recordRequest token team endpoint

def Effect.counting (token team endpoint : String) : Effect where
  live := once token team endpoint
  table := (Others.counting token team endpoint).stats
  pool w := pool_of_rowCount (recordRequest_rowCount w _ _ _ _ _ _ _ _ _ _ _)

theorem quiet_adds : Others.quiet.Adds 0 := ⟨fun _ _ => rfl, fun _ => rfl⟩

theorem counting_adds (token team endpoint : String) :
    (Others.counting token team endpoint).Adds (.counting token team endpoint) :=
  ⟨fun s c => recordRequest_requests token team endpoint s c, fun _ => rfl⟩

def busyEnv : Env := .quiet fun _ => { answeringTurn with during := .counting "sk-other" "dev" "https://api.openai.com" }

def busyEffect : EnvEffect where
  beforePick := 0
  beforeLimits := 0
  before _ := 0
  during _ := .counting "sk-other" "dev" "https://api.openai.com"

def tabledApp : AppState := { limitedApp with stats := { pool := some [] } }

/-- A chat and an embedding are counted once, beside the other request. -/
theorem whole_answers_are_counted :
    CountedOnce limitedAuth limitedSelected (busyEffect.total (proxyHandler .mute busyEnv 1 tabledApp limitedChat).trace)
        tabledApp (proxyHandler .mute busyEnv 1 tabledApp limitedChat).app ∧
      CountedOnce limitedAuth limitedSelected (0 + 0) tabledApp
        (proxyGeneric .mute .answering tabledApp embeddingRequest).app := by
  constructor
  · have hadds : busyEnv.Adds busyEffect :=
      ⟨quiet_adds, quiet_adds, fun _ => quiet_adds, fun _ => counting_adds _ _ _⟩
    exact ((requests_counted_once_iff .mute).1 busyEnv busyEffect 1 tabledApp limitedChat limitedSelected 200 []
      ⟨fun _ => rfl, fun _ => rfl, fun _ => ⟨fun _ => rfl, fun _ => rfl⟩⟩ hadds ⟨rfl, _, rfl⟩).2
      ⟨rfl, Or.inl (by decide), Or.inr (Or.inl rfl)⟩
  · refine ((requests_counted_once_iff .mute).2 .answering 0 0 tabledApp embeddingRequest limitedSelected 200 []
      quiet_adds quiet_adds ⟨rfl, _, rfl⟩).2 fun name hname => ?_
    have hbody : Generic.resolveBody tabledApp.config embeddingRequest.path embeddingRequest.body
        = .ok ("gpt-4", false) := rfl
    rw [hbody] at hname
    cases hname

/-- A streamed chat is in the table and in no live counter. -/
theorem streamed_chat_is_not_counted :
    AnsweredFrom (proxyHandler .mute (.quiet fun _ => answeringTurn) 1 tabledApp { limitedChat with isStream := true })
        limitedSelected 200 [] ∧
      (proxyHandler .mute (.quiet fun _ => answeringTurn) 1 tabledApp
        { limitedChat with isStream := true }).app.liveStats.requests .total = 0 ∧
      (proxyHandler .mute (.quiet fun _ => answeringTurn) 1 tabledApp
        { limitedChat with isStream := true }).app.stats.rowCount = some 1 ∧
      ¬ CountedOnce limitedAuth limitedSelected 0 tabledApp (proxyHandler .mute (.quiet fun _ => answeringTurn) 1 tabledApp
        { limitedChat with isStream := true }).app := by
  have htotal : (proxyHandler .mute (.quiet fun _ => answeringTurn) 1 tabledApp
      { limitedChat with isStream := true }).app.liveStats.requests .total = 0 := rfl
  refine ⟨⟨rfl, _, rfl⟩, htotal, rfl, ?_⟩
  rintro ⟨k, _, hlive, _⟩
  have hone := hlive .total
  rw [htotal, once_total] at hone
  exact absurd hone (by simp [Nat.ModEq, tabledApp, limitedApp, startApp, LiveStats.requests])

end AiRouter
