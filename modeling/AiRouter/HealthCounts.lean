import AiRouter.Lib.Interleaving
import AiRouter.Records
import AiRouter.BanRespect

/-
# Requests and errors of an endpoint

The health store is written by the two handlers and the checker, one locked call at a time, and the dashboard reads
`requests - errors` from an entry at any moment (health/dashboard.rs:86-92).

| here | there |
| --- | --- |
| `HealthOp`               | the five calls that write `HealthStore` (health/checker.rs:51-97) |
| `HealthTask.checker`     | rounds of `check_all_endpoints` |
| `HealthTask.chat`        | `proxy_handler`: failures that are retried or the last (lines 538, 725), then the answer (lines 538-547) |
| `HealthTask.generic`     | `proxy_generic` (lines 1284, 1299, 1387, 1403, 1467, 1470) |
| `successRateUnderflows`  | the subtraction that the dashboard makes |
-/
namespace AiRouter

open Interleaving

inductive HealthOp where
  | setHealthy (now : Nat)
  | setUnhealthy (error : String) (now : Nat)
  | recordRequest
  | recordError
  | recordLatency (latencyMs : Nat)

namespace HealthStore

def new : HealthStore := { states := ∅, totalRequests := 0, totalErrors := 0 }

/-- One call for the endpoint `key`. -/
def apply (s : HealthStore) : String × HealthOp → HealthStore
  | (key, .setHealthy now) => s.setHealthy key now
  | (key, .setUnhealthy error now) => s.setUnhealthy key error now
  | (key, .recordRequest) => s.recordRequest key
  | (key, .recordError) => s.recordError key
  | (key, .recordLatency latencyMs) => s.recordLatency key latencyMs

def after (s : HealthStore) (order : List (String × HealthOp)) : HealthStore := order.foldl apply s

/-- Every endpoint's errors are among its requests. -/
def ErrorsWithin (s : HealthStore) : Prop :=
  ∀ key entry, s.states.lookup key = some entry → entry.errorCount ≤ entry.requestCount

end HealthStore

/-- `if requests > 0 { (requests - errors) .. }` -/
def EndpointHealth.successRateUnderflows (h : EndpointHealth) : Prop :=
  0 < h.requestCount ∧ h.requestCount < h.errorCount

/-! ## Who writes what -/

/-- The call for a probe's answer. -/
def ProbeReply.op (reply : ProbeReply) (now : Nat) : HealthOp :=
  match reply with
  | .status code => if isSuccess code then .setHealthy now else .setUnhealthy ("HTTP " ++ toString code) now
  | .error reason => .setUnhealthy reason now

/-- The answer that settles a request: with a status that counts as a failure, or not. -/
structure SettledAnswer where
  key : String
  failed : Bool
  latencyMs : Nat

inductive HealthTask where
  | checker (probes : List (String × ProbeReply × Nat))
  | chat (failures : List String) (settled : Option SettledAnswer)
  | generic (key : String) (failed : Bool) (latencyMs : Nat)

namespace HealthTask

/-- The endpoints that the task looks at as the checker. -/
def probed : HealthTask → List String
  | .checker probes => probes.map (·.1)
  | _ => []

/-- The endpoints that the task records an error for, in order. -/
def failed : HealthTask → List String
  | .checker _ => []
  | .chat failures none => failures
  | .chat failures (some a) => if a.failed then failures ++ [a.key] else failures
  | .generic key failed _ => if failed then [key] else []

def probeCall (p : String × ProbeReply × Nat) : String × HealthOp := (p.1, p.2.1.op p.2.2)

def errorCall (key : String) : String × HealthOp := (key, .recordError)

def answered (key : String) (latencyMs : Nat) : List (String × HealthOp) :=
  [(key, .recordRequest), (key, .recordLatency latencyMs)]

/-- The calls that are no errors. -/
def others : HealthTask → List (String × HealthOp)
  | .checker probes => probes.map probeCall
  | .chat _ none => []
  | .chat _ (some a) => answered a.key a.latencyMs
  | .generic key failed latencyMs => if failed then [] else answered key latencyMs

/-- The calls of a task: errors come first. -/
def ops (task : HealthTask) : List (String × HealthOp) := task.failed.map errorCall ++ task.others

end HealthTask

/-! ## The counts of one endpoint -/

namespace HealthStore

/-- Requests and errors. -/
def counts (s : HealthStore) (key : String) : Option (Nat × Nat) :=
  (s.states.lookup key).map fun entry => (entry.requestCount, entry.errorCount)

end HealthStore

/-- What a call does to the counts of its endpoint. -/
def HealthOp.count : HealthOp → Option (Nat × Nat) → Option (Nat × Nat)
  | .setHealthy _, c => some (c.getD (0, 0))
  | .setUnhealthy _ _, c => some (c.getD (0, 0))
  | .recordRequest, c => c.map fun c => ((c.1 + 1) % 2 ^ 64, c.2)
  | .recordError, c => c.map fun c => (c.1, (c.2 + 1) % 2 ^ 64)
  | .recordLatency _, c => c

/-- Only `recordError` makes errors. -/
theorem count_no_errors {op : HealthOp} (hop : op ≠ .recordError) {c : Option (Nat × Nat)}
    (hc : ∀ p, c = some p → p.2 = 0) : ∀ p, op.count c = some p → p.2 = 0 := by
  intro p hp
  have hentry : (c.getD (0, 0)).2 = 0 := by
    cases c with
    | none => rfl
    | some q => exact hc q rfl
  cases op with
  | recordError => exact absurd rfl hop
  | setHealthy now =>
    cases hp
    exact hentry
  | setUnhealthy error now =>
    cases hp
    exact hentry
  | recordRequest =>
    obtain ⟨q, hq, rfl⟩ := Option.map_eq_some_iff.1 hp
    exact hc q hq
  | recordLatency latencyMs => exact hc p hp

section
variable {s : HealthStore} {key : String}

theorem counts_apply_self (s : HealthStore) (key : String) (op : HealthOp) :
    (s.apply (key, op)).counts key = op.count (s.counts key) := by
  unfold HealthStore.counts
  cases op with
  | setHealthy now =>
    simp only [HealthStore.apply, HealthStore.setHealthy, KeyMap.lookup_upsert_self, HealthOp.count]
    cases s.states.lookup key <;> rfl
  | setUnhealthy error now =>
    simp only [HealthStore.apply, HealthStore.setUnhealthy, KeyMap.lookup_upsert_self, HealthOp.count]
    cases s.states.lookup key <;> rfl
  | recordRequest =>
    simp only [HealthStore.apply, HealthStore.recordRequest, KeyMap.lookup_adjust_self, HealthOp.count]
    cases s.states.lookup key <;> rfl
  | recordError =>
    simp only [HealthStore.apply, HealthStore.recordError, KeyMap.lookup_adjust_self, HealthOp.count]
    cases s.states.lookup key <;> rfl
  | recordLatency latencyMs =>
    simp only [HealthStore.apply, HealthStore.recordLatency, KeyMap.lookup_adjust_self, HealthOp.count]
    cases s.states.lookup key <;> rfl

theorem counts_apply_ne (s : HealthStore) {key key' : String} (h : key ≠ key') (op : HealthOp) :
    (s.apply (key', op)).counts key = s.counts key := by
  unfold HealthStore.counts
  cases op <;> simp only [HealthStore.apply, HealthStore.setHealthy, HealthStore.setUnhealthy,
    HealthStore.recordRequest, HealthStore.recordError, HealthStore.recordLatency, KeyMap.lookup_upsert_ne _ _ _ h,
    KeyMap.lookup_adjust_ne _ _ h]

theorem HealthStore.after_append (s : HealthStore) (order order' : List (String × HealthOp)) :
    s.after (order ++ order') = (s.after order).after order' := List.foldl_append

theorem HealthStore.after_concat (s : HealthStore) (order : List (String × HealthOp)) (a : String × HealthOp) :
    s.after (order ++ [a]) = (s.after order).apply a := HealthStore.after_append s order [a]

/-- A property of the counts that each of the calls keeps, all of them keep. -/
theorem counts_after {I : Option (Nat × Nat) → Prop} {order : List (String × HealthOp)} (h : I (s.counts key))
    (hkeep : ∀ op, (key, op) ∈ order → ∀ c, I c → I (op.count c)) : I ((s.after order).counts key) := by
  refine List.foldlRecOn order HealthStore.apply (motive := fun s => I (s.counts key)) h fun s hs a ha => ?_
  obtain ⟨key', op⟩ := a
  by_cases hkey : key = key'
  · subst hkey
    rw [counts_apply_self]
    exact hkeep op ha _ hs
  · rwa [counts_apply_ne s hkey]

end

theorem errorsWithin_iff {s : HealthStore} :
    s.ErrorsWithin ↔ ∀ key requests errors, s.counts key = some (requests, errors) → errors ≤ requests := by
  unfold HealthStore.ErrorsWithin HealthStore.counts
  constructor
  · intro h key requests errors hc
    obtain ⟨entry, hentry, heq⟩ := Option.map_eq_some_iff.1 hc
    cases heq
    exact h key entry hentry
  · intro h key entry hentry
    exact h key _ _ (by rw [hentry]; rfl)

/-! ## Calls and tasks -/

section
variable {task : HealthTask} {key : String} {op : HealthOp}

theorem others_no_error (h : (key, HealthOp.recordError) ∈ task.others) : False := by
  cases task with
  | checker probes =>
    obtain ⟨⟨k, reply, now⟩, _, heq⟩ := List.mem_map.1 h
    have hop : reply.op now = .recordError := (Prod.mk.inj heq).2
    unfold ProbeReply.op at hop
    split at hop
    · split at hop <;> cases hop
    · cases hop
  | chat failures settled =>
    cases settled with
    | none => cases h
    | some a => simp [HealthTask.others, HealthTask.answered] at h
  | generic k failed latencyMs =>
    simp only [HealthTask.others] at h
    split at h
    · cases h
    · simp [HealthTask.answered] at h

theorem failed_of_mem (h : (key, HealthOp.recordError) ∈ task.ops) : key ∈ task.failed := by
  rcases List.mem_append.1 h with h | h
  · obtain ⟨k, hk, heq⟩ := List.mem_map.1 h
    cases heq
    exact hk
  · exact (others_no_error h).elim

/-- Only a probe makes an entry. -/
theorem probed_of_mem (h : (key, op) ∈ task.ops) (hop : op.count none ≠ none) : key ∈ task.probed := by
  rcases List.mem_append.1 h with h | h
  · obtain ⟨k, _, heq⟩ := List.mem_map.1 h
    cases heq
    exact absurd rfl hop
  · cases task with
    | checker probes =>
      obtain ⟨p, hp, heq⟩ := List.mem_map.1 h
      cases heq
      exact List.mem_map_of_mem hp
    | chat failures settled =>
      cases settled with
      | none => cases h
      | some a =>
        simp only [HealthTask.others, HealthTask.answered, List.mem_cons, Prod.mk.injEq, List.not_mem_nil,
          or_false] at h
        rcases h with ⟨_, rfl⟩ | ⟨_, rfl⟩ <;> exact absurd rfl hop
    | generic k failed latencyMs =>
      simp only [HealthTask.others] at h
      split at h
      · cases h
      · simp only [HealthTask.answered, List.mem_cons, Prod.mk.injEq, List.not_mem_nil, or_false] at h
        rcases h with ⟨_, rfl⟩ | ⟨_, rfl⟩ <;> exact absurd rfl hop

theorem probe_count (reply : ProbeReply) (now : Nat) (c : Option (Nat × Nat)) :
    (reply.op now).count c = some (c.getD (0, 0)) := by
  unfold ProbeReply.op
  split
  · split <;> rfl
  · rfl

end

/-! ## Runs are tasks -/

/-- No other task writes the health store. -/
def Others.KeepsHealth (o : Others) : Prop := ∀ health, o.healthStore health = health

def Env.KeepsHealth (env : Env) : Prop :=
  env.beforePick.KeepsHealth ∧ env.beforeLimits.KeepsHealth ∧
    ∀ k, (env.turn k).before.KeepsHealth ∧ (env.turn k).during.KeepsHealth

theorem disturb_healthStore {app : AppState} {o : Others} (h : o.KeepsHealth) :
    (app.disturb o).healthStore = app.healthStore := h _

/-- The store has changed by these failures of a chat request. -/
def Failing (start health : HealthStore) : Prop :=
  ∃ failures, health = start.after (HealthTask.chat failures none).ops

/-- The store has changed by a chat request. -/
def Chatted (start health : HealthStore) : Prop :=
  ∃ failures settled, health = start.after (HealthTask.chat failures settled).ops

section
variable {start health : HealthStore}

theorem ops_failures (failures : List String) :
    (HealthTask.chat failures none).ops = failures.map HealthTask.errorCall := List.append_nil _

theorem Failing.chatted (h : Failing start health) : Chatted start health := by
  obtain ⟨failures, h⟩ := h
  exact ⟨failures, none, h⟩

theorem Failing.recordError (h : Failing start health) (key : String) : Failing start (health.recordError key) := by
  obtain ⟨failures, rfl⟩ := h
  refine ⟨failures ++ [key], ?_⟩
  rw [ops_failures, ops_failures, List.map_append, HealthStore.after_append]
  rfl

/-- The answer, which counts as a failure or not. -/
theorem Failing.settle (h : Failing start health) (key : String) (failed : Bool) (latencyMs : Nat) :
    Chatted start (((if failed then health.recordError key else health).recordRequest key).recordLatency key
      latencyMs) := by
  obtain ⟨failures, rfl⟩ := h
  refine ⟨failures, some { key := key, failed := failed, latencyMs := latencyMs }, ?_⟩
  rw [ops_failures]
  unfold HealthTask.ops
  rw [HealthStore.after_append]
  cases failed with
  | false => rfl
  | true =>
    simp only [HealthTask.failed, if_true, List.map_append, HealthStore.after_append]
    rfl

end

section
variable {deps : Externs} {ctx : LoopCtx} {t : Turn} {s : LoopState} {k : String} {start : HealthStore}

theorem settle_chats (h : Failing start s.app.healthStore) (status : Nat) (body : List Chunk) :
    (settle deps ctx t k s status body).Sat (fun s' => Failing start s'.app.healthStore)
      (fun s' _ => Chatted start s'.app.healthStore) := by
  have hclass := classified_healthStore deps ctx t k s status body
  rw [settle_eq]
  split
  · change Chatted start _
    rw [finish_healthStore, hclass]
    exact h.settle k _ _
  · refine (Loop.Flow.sat_of_state ?_).mono (fun _ h => h) (fun _ _ h => Failing.chatted h)
    rw [retry_healthStore]
    change Failing start (s.classified deps ctx t k status body).app.healthStore
    rw [hclass]
    split
    · exact h.recordError k
    · exact h

theorem attempt_chats (hd : t.during.KeepsHealth) (h : Failing start s.app.healthStore) :
    (attempt deps ctx t k s).Sat (fun s' => Failing start s'.app.healthStore)
      (fun s' _ => Chatted start s'.app.healthStore) := by
  have hduring : Failing start (s.app.disturb t.during).healthStore := by rwa [disturb_healthStore hd]
  unfold attempt
  dsimp only
  split
  · exact hduring.chatted
  · exact settle_chats hduring _ _
  · refine (Loop.Flow.sat_of_state ?_).mono (fun _ h => h) (fun _ _ h => Failing.chatted h)
    rw [callFailed_healthStore]
    exact hduring.recordError k

/-- **A round of `proxy_handler`** fails at its endpoint and goes on, or is the last. -/
theorem turn_chats (hb : t.before.KeepsHealth) (hd : t.during.KeepsHealth) (h : Failing start s.app.healthStore) :
    (turn deps ctx t s).Sat (fun s' => Failing start s'.app.healthStore)
      (fun s' _ => Chatted start s'.app.healthStore) := by
  have hbefore : Failing start (s.app.disturb t.before).healthStore := by rwa [disturb_healthStore hb]
  unfold turn
  dsimp only
  split
  · exact hbefore.chatted
  · rename_i epKey _
    have hchecked : Failing start (Gate.runAll (endpointChecks s.current epKey t.checkAt)
        { app := s.app.disturb t.before, ledger := s.ledger }).1.app.healthStore := by
      rw [(endpointChecks_budgets s.current epKey t.checkAt _).healthStore]
      exact hbefore
    split
    · refine (Loop.Flow.sat_of_state ?_).mono (fun _ h => h) (fun _ _ h => Failing.chatted h)
      obtain ⟨rr, hrr⟩ := LoopState.tryNext_only _ ctx epKey _
      rw [hrr]
      exact hchecked
    · exact attempt_chats hd hchecked

variable {env : Env} {app : AppState} {req : ChatRequest}

theorem collectBanned_healthStore (now : Nat) (eps : List EndpointConfig) (acc : Finset String) :
    (app.collectBanned now eps acc).1.healthStore = app.healthStore := by
  obtain ⟨fb, h⟩ := AppState.collectBanned_only now eps app acc
  rw [h]

theorem pickState_healthStore (hpick : env.beforePick.KeepsHealth) :
    (Handler.pickState env app req).healthStore = app.healthStore :=
  (disturb_healthStore hpick).trans (collectBanned_healthStore ..)

theorem stickyLookup_healthStore (hpick : env.beforePick.KeepsHealth) (bannedKeys : Finset String) :
    (Handler.stickyLookup env app req bannedKeys).1.healthStore = app.healthStore := by
  obtain ⟨sticky, sync, h⟩ := stickyPick_only (Handler.pickState env app req)
    (app.config.findModel (app.config.canonicalModelName req.modelName)) bannedKeys req.sessionId env.startAt
  unfold Handler.stickyLookup
  rw [h]
  exact pickState_healthStore hpick

/-- Nothing is recorded before the loop: neither where a request stops .. -/
theorem stops_healthStore (hpick : env.beforePick.KeepsHealth) (hlimits : env.beforeLimits.KeepsHealth) {run : Run}
    (h : Handler.Stops env app req run) : run.app.healthStore = app.healthStore := by
  cases h with
  | forbidden => rfl
  | unmasked => exact collectBanned_healthStore ..
  | allBanned => exact collectBanned_healthStore ..
  | stickyUnmasked => exact stickyLookup_healthStore hpick _
  | pickUnmasked => exact stickyLookup_healthStore hpick _
  | noEndpoint _ _ _ bannedKeys => exact stickyLookup_healthStore hpick bannedKeys
  | limited rej hpicked hcheck =>
    subst hcheck
    refine (checkAllRateLimits_budgets ..).healthStore.trans ((disturb_healthStore hlimits).trans ?_)
    rcases hpicked with rfl | rfl
    · exact stickyLookup_healthStore hpick _
    · exact stickyLookup_healthStore hpick _

/-- .. nor where it enters it. -/
theorem entered_healthStore (hpick : env.beforePick.KeepsHealth) (hlimits : env.beforeLimits.KeepsHealth)
    {ctx : LoopCtx} {s : LoopState} (h : Entered env app req ctx s) : s.app.healthStore = app.healthStore := by
  obtain ⟨start, ⟨sticky, sync, rr, hstart⟩, hadmitted⟩ := h.admitted
  have hchecks := (checkAllRateLimits_budgets app.config req.auth.team req.auth.tokenKey req.auth.rpm req.auth.tpm
    env.limitsAt { app := start, ledger := [] }).healthStore
  rw [hadmitted, hstart] at hchecks
  exact hchecks.trans ((disturb_healthStore hlimits).trans (pickState_healthStore hpick))

end

/-- **A run of `proxy_handler`** records the failures of its rounds and then the answer, if there is one. -/
theorem proxyHandler_chats {env : Env} (henv : env.KeepsHealth) (deps : Externs) (fuel : Nat) (app : AppState)
    (req : ChatRequest) : Chatted app.healthStore (proxyHandler deps env fuel app req).app.healthStore := by
  unfold proxyHandler
  cases hprep : prepare env app req with
  | error run => exact ⟨[], none, stops_healthStore henv.1 henv.2.1 (prepare_stops hprep)⟩
  | ok r =>
    obtain ⟨ctx, s⟩ := r
    have hstart : Failing app.healthStore s.app.healthStore :=
      ⟨[], entered_healthStore henv.1 henv.2.1 (prepare_entered hprep)⟩
    have hloop : (retryLoop deps env ctx fuel s).Sat (fun s' => Failing app.healthStore s'.app.healthStore)
        (fun s' _ => Chatted app.healthStore s'.app.healthStore) :=
      Loop.run_sat (fun k s hs => turn_chats (henv.2.2 k).1 (henv.2.2 k).2 hs) fuel 0 s hstart
    exact (hloop.mono (fun _ h => h.chatted) (fun _ _ h => h)).state

section
variable {app : AppState} {start : HealthStore}

theorem classifyStream_task (happ : app.healthStore = start) (key : String) (status latencyMs now : Nat) :
    ∃ failed latencyMs', (Generic.classifyStream app key status latencyMs now).healthStore
      = start.after (HealthTask.generic key failed latencyMs').ops := by
  subst happ
  unfold Generic.classifyStream
  split
  · exact ⟨false, latencyMs, rfl⟩
  · exact ⟨true, latencyMs, rfl⟩

theorem classifyWhole_task (happ : app.healthStore = start) (key : String) (status latencyMs now : Nat) :
    ∃ failed latencyMs', (Generic.classifyWhole app key status latencyMs now).healthStore
      = start.after (HealthTask.generic key failed latencyMs').ops := by
  subst happ
  unfold Generic.classifyWhole
  split
  · exact ⟨true, latencyMs, rfl⟩
  · exact ⟨false, latencyMs, rfl⟩

theorem answer_task {s : Charged} (hs : s.app.healthStore = start) (c : GenericCall) (deps : Externs)
    (isStream : Bool) (reply : Reply) (startAt now : Nat) :
    ∃ failed latencyMs, (c.answer deps isStream s reply startAt now).1.app.healthStore
      = start.after (HealthTask.generic c.epKey failed latencyMs).ops := by
  have hcharge : ∀ total, (c.charge s total now).app.healthStore = start :=
    fun total => (chargeUsage_budgets _ _ _ _ _ _ _ _ _).healthStore.trans hs
  unfold GenericCall.answer
  dsimp only
  split
  · subst hs
    exact ⟨true, 0, rfl⟩
  split
  · unfold GenericCall.streamed
    split
    · refine classifyStream_task ?_ c.epKey _ _ now
      split
      · exact hcharge _
      · exact hs
    · exact classifyStream_task hs c.epKey _ _ now
  · refine classifyWhole_task ?_ c.epKey _ _ now
    exact hcharge _

end

/-- **A run of `proxy_generic`** records one answer or failure, or nothing. -/
theorem proxyGeneric_task {env : GenericEnv} (hpick : env.beforePick.KeepsHealth) (hduring : env.during.KeepsHealth)
    (deps : Externs) (app : AppState) (req : GenericRequest) :
    (proxyGeneric deps env app req).app.healthStore = app.healthStore ∨
      ∃ key failed latencyMs, (proxyGeneric deps env app req).app.healthStore
        = app.healthStore.after (HealthTask.generic key failed latencyMs).ops := by
  have hlimits := (checkAllRateLimits_budgets app.config req.auth.team req.auth.tokenKey req.auth.rpm req.auth.tpm
    env.limitsAt { app := app, ledger := [] }).healthStore
  unfold proxyGeneric
  dsimp only
  split
  · exact Or.inl rfl
  split
  · exact Or.inl hlimits
  have hstart := (hpick (checkAllRateLimits app.config req.auth.team req.auth.tokenKey req.auth.rpm req.auth.tpm
    env.limitsAt { app := app, ledger := [] }).1.app.healthStore).trans hlimits
  split
  · exact Or.inl hstart
  split
  · exact Or.inl hstart
  split
  · exact Or.inl hstart
  · exact Or.inl hstart
  split
  · exact Or.inl hstart
  · rename_i epKey _
    exact Or.inr ⟨epKey, answer_task ((hduring _).trans hstart) _ deps _ env.reply env.callAt env.doneAt⟩

theorem probed_healthStore (app : AppState) (key : String) (reply : ProbeReply) (now : Nat) :
    (app.probed key reply now).healthStore = app.healthStore.apply (HealthTask.probeCall (key, reply, now)) := by
  unfold AppState.probed HealthTask.probeCall ProbeReply.op
  cases reply with
  | status code => cases h : isSuccess code <;> simp [h, HealthStore.apply]
  | error reason => rfl

/-- **A round of the checker** records the answers of its probes. -/
theorem probeAll_task {probe : Nat → Probe} (hquiet : ∀ k, (probe k).before.KeepsHealth) :
    ∀ (eps : List EndpointConfig) (k : Nat) (app : AppState),
      ∃ probes, (AppState.probeAll probe eps k app).1.healthStore
        = app.healthStore.after (HealthTask.checker probes).ops
  | [], k, app => ⟨[], rfl⟩
  | ep :: rest, k, app => by
    unfold AppState.probeAll AppState.probeEndpoint
    cases hkey : AppState.probeKey ep with
    | error e => exact ⟨[], rfl⟩
    | ok key =>
      obtain ⟨probes, hprobes⟩ := probeAll_task hquiet rest (k + 1)
        ((app.disturb (probe k).before).probed key (probe k).reply (probe k).doneAt)
      refine ⟨(key, (probe k).reply, (probe k).doneAt) :: probes, hprobes.trans ?_⟩
      rw [probed_healthStore, disturb_healthStore (hquiet k)]
      rfl

/-! ## Every order -/

/-- No task records an error for an endpoint that a task probes. -/
def ProbesApart (tasks : List HealthTask) : Prop :=
  ∀ task ∈ tasks, ∀ key ∈ task.failed, ∀ other ∈ tasks, key ∉ other.probed

section
variable {tasks : List HealthTask} {order : List (String × HealthOp)}

theorem within_of_apart (h : ProbesApart tasks) (horder : Interleaves (tasks.map (·.ops)) order) :
    (HealthStore.new.after order).ErrorsWithin := by
  have hmem : ∀ {a}, a ∈ order → ∃ task ∈ tasks, a ∈ task.ops := by
    intro a ha
    obtain ⟨ops, hops, hin⟩ := horder.mem ha
    obtain ⟨task, htask, rfl⟩ := List.mem_map.1 hops
    exact ⟨task, htask, hin⟩
  rw [errorsWithin_iff]
  intro key requests errors hcounts
  by_cases hfailed : ∃ task ∈ tasks, key ∈ task.failed
  · -- the endpoint is never probed, so it has no entry
    obtain ⟨task, htask, hkey⟩ := hfailed
    have hnone : (HealthStore.new.after order).counts key = none := by
      refine counts_after (I := fun c => c = none) rfl fun op hop c hc => ?_
      rw [hc]
      by_contra hmakes
      obtain ⟨other, hother, hin⟩ := hmem hop
      exact h task htask key hkey other hother (probed_of_mem hin hmakes)
    rw [hnone] at hcounts
    cases hcounts
  · -- the endpoint never fails, so it has no errors
    have hzero : ∀ c, (HealthStore.new.after order).counts key = some c → c.2 = 0 := by
      refine counts_after (I := fun c => ∀ p, c = some p → p.2 = 0) (fun p hp => by cases hp) ?_
      intro op hop c hc
      refine count_no_errors ?_ hc
      rintro rfl
      obtain ⟨task, htask, hin⟩ := hmem hop
      exact hfailed ⟨task, htask, failed_of_mem hin⟩
    rw [show errors = 0 from hzero _ hcounts]
    exact Nat.zero_le requests

/-- The first probe of an endpoint makes its entry. -/
theorem counts_after_probes (probes : List (String × ProbeReply × Nat)) (key : String) (reply : ProbeReply)
    (now : Nat) : (HealthStore.new.after (probes.map HealthTask.probeCall ++
      [HealthTask.probeCall (key, reply, now)])).counts key = some (0, 0) := by
  have hearlier : (HealthStore.new.after (probes.map HealthTask.probeCall)).counts key = none ∨
      (HealthStore.new.after (probes.map HealthTask.probeCall)).counts key = some (0, 0) := by
    refine counts_after (I := fun c => c = none ∨ c = some (0, 0)) (Or.inl rfl) fun op hop c hc => Or.inr ?_
    obtain ⟨p, _, heq⟩ := List.mem_map.1 hop
    cases heq
    rw [probe_count]
    rcases hc with rfl | rfl <;> rfl
  rw [HealthStore.after_concat]
  unfold HealthTask.probeCall at hearlier ⊢
  rw [counts_apply_self, probe_count]
  rcases hearlier with h | h <;> rw [h] <;> rfl

/-- The first error of an endpoint without requests. -/
theorem counts_after_errors {s : HealthStore} {key : String} {keys : List String} (hs : s.counts key = some (0, 0))
    (hkeys : key ∉ keys) :
    (s.after (keys.map HealthTask.errorCall ++ [HealthTask.errorCall key])).counts key = some (0, 1) := by
  have hothers : (s.after (keys.map HealthTask.errorCall)).counts key = some (0, 0) := by
    refine counts_after (I := fun c => c = some (0, 0)) hs fun op hop => ?_
    obtain ⟨k, hk, heq⟩ := List.mem_map.1 hop
    cases heq
    exact absurd hk hkeys
  rw [HealthStore.after_concat]
  unfold HealthTask.errorCall at hothers ⊢
  rw [counts_apply_self, hothers]
  rfl

/-- The probe first and then the failure: one error without a request. -/
theorem exists_order {checker task : HealthTask} {key : String} (hchecker : checker ∈ tasks) (htask : task ∈ tasks)
    (hprobed : key ∈ checker.probed) (hfailed : key ∈ task.failed) :
    ∃ order, Interleaves (tasks.map (·.ops)) order ∧ (HealthStore.new.after order).counts key = some (0, 1) := by
  obtain ⟨probes, rfl⟩ : ∃ probes, checker = .checker probes := by
    cases checker with
    | checker probes => exact ⟨probes, rfl⟩
    | _ => cases hprobed
  obtain ⟨⟨k, reply, now⟩, hp, hk⟩ := List.mem_map.1 hprobed
  obtain rfl : k = key := hk
  obtain ⟨i, hi⟩ := List.getElem?_of_mem hchecker
  obtain ⟨j, hj⟩ := List.getElem?_of_mem htask
  have hne : i ≠ j := by
    rintro rfl
    rw [hi] at hj
    cases hj
    cases hfailed
  obtain ⟨before, later, rfl⟩ := List.append_of_mem hp
  obtain ⟨pre, post, hsplit, hpre⟩ := List.eq_append_cons_of_mem hfailed
  refine ⟨(before.map HealthTask.probeCall ++ [HealthTask.probeCall (k, reply, now)]) ++
    (pre.map HealthTask.errorCall ++ [HealthTask.errorCall k]), ?_, ?_⟩
  · refine @interleaves_two _ _ i j _ _ (later.map HealthTask.probeCall)
      (post.map HealthTask.errorCall ++ task.others) hne ?_ ?_
    · rw [List.getElem?_map, hi]
      simp [HealthTask.ops, HealthTask.failed, HealthTask.others]
    · rw [List.getElem?_map, hj]
      simp [HealthTask.ops, hsplit]
  · rw [HealthStore.after_append]
    exact counts_after_errors (counts_after_probes before k reply now) hpre

end

/-- **An endpoint's errors are among its requests** in every state, exactly when none that a handler fails at is
probed. -/
theorem errors_within_iff (tasks : List HealthTask) :
    (∀ order, Interleaves (tasks.map (·.ops)) order → (HealthStore.new.after order).ErrorsWithin) ↔
      ProbesApart tasks := by
  constructor
  · intro h task htask key hkey other hother hprobed
    obtain ⟨order, horder, hcounts⟩ := exists_order hother htask hprobed hkey
    exact absurd (errorsWithin_iff.1 (h order horder) key 0 1 hcounts) (by omega)
  · exact fun h order horder => within_of_apart h horder

def gpt4Request : GenericRequest where
  auth := singleRequest.auth
  path := "/v1/embeddings"
  body := .json (some "gpt-4") none

/-- The endpoint is probed, refuses two requests and answers a third. -/
def twiceRefused : AppState :=
  let probe : Probe := { before := .quiet, reply := .status 200, doneAt := 0 }
  let refusing : GenericEnv := { GenericEnv.answering with reply := .sendError "connection refused" }
  let probed := ((startApp singleConfig { counters := ∅ } [] { limiters := ∅ }).checkAllEndpoints fun _ => probe).1
  let first := (proxyGeneric .mute refusing probed gpt4Request).app
  let second := (proxyGeneric .mute refusing first gpt4Request).app
  (proxyGeneric .mute .answering second gpt4Request).app

/-- Two errors, one request. -/
theorem errors_exceed_requests :
    singleConfig.Accepted ∧ ¬ twiceRefused.healthStore.ErrorsWithin ∧
      ∃ entry, twiceRefused.healthStore.states.lookup "https://api.openai.com:sk-u...am-1" = some entry ∧
        entry.requestCount = 1 ∧ entry.errorCount = 2 ∧ entry.successRateUnderflows := by
  have hentry : ∃ entry, twiceRefused.healthStore.states.lookup "https://api.openai.com:sk-u...am-1" = some entry ∧
      entry.requestCount = 1 ∧ entry.errorCount = 2 := ⟨_, rfl, rfl, rfl⟩
  obtain ⟨entry, hlookup, hrequests, herrors⟩ := hentry
  refine ⟨rfl, fun h => ?_, entry, hlookup, hrequests, herrors, ?_⟩
  · have hle := h _ entry hlookup
    omega
  · unfold EndpointHealth.successRateUnderflows
    omega

end AiRouter
