import AiRouter.BanRespect
import AiRouter.FailureCounting

/-
# `proxy_handler` with and without streaming

The streaming branch makes its upstream call inside the loop and has returns of its own. The two
modes are run side by side, on one state, for as long as they agree.
-/
namespace AiRouter

/-! ## The property -/

/-- A success response begins. -/
def VisitStep.succeeded : VisitStep → Bool
  | .sent (.response status _) => isSuccess status
  | .sent (.sendError _) => false
  | .panicked => false
  | .limited => false
  | .unsent => false

/-- The endpoint is not called, or there is a response: a success, or one with a whole body. -/
def VisitStep.heard : VisitStep → Bool
  | .sent (.response status body) => isSuccess status || Reply.intact (.response status body)
  | .sent (.sendError _) => false
  | .unsent => false
  | .panicked => true
  | .limited => true

/-- No success response has begun. -/
def BeforeSuccess (trace : List Visit) : Prop := ∀ v ∈ trace, v.step.succeeded = false

def ChatRequest.asStream (req : ChatRequest) (isStream : Bool) : ChatRequest := { req with isStream := isStream }

def LoopCtx.asStream (ctx : LoopCtx) (isStream : Bool) : LoopCtx := { ctx with req := ctx.req.asStream isStream }

/-- Where round `t` from `s` ends in a send error, the error is one failure of the endpoint, and with
retries another endpoint that has not been tried comes next, if the model has one. -/
def RetriesSendError (deps : Externs) (ctx : LoopCtx) (t : Turn) (s : LoopState) : Prop :=
  ∀ k message, Handler.epKey s.current.url s.current.apiKey = .ok k →
    (turn deps ctx t s).state.trace = s.trace ++ [{ endpoint := s.current, step := .sent (.sendError message) }] →
    (turn deps ctx t s).state.app.fail2ban.failures k
        = ((t.during.fail2ban (t.before.fail2ban s.app.fail2ban)).failures k + 1) % 2 ^ 64 ∧
      (ctx.retryOnFailure = true → ∀ m ep k',
        (t.during.config (t.before.config s.app.config)).findModel ctx.canonicalModel = some m → ep ∈ m.endpoints →
        Handler.epKey ep.url ep.key = .ok k' → k' ∉ ctx.bannedKeys → k' ∉ insert k s.triedKeys →
        ∃ s', turn deps ctx t s = .next s' ∧
          ∀ k', Handler.epKey s'.current.url s'.current.apiKey = .ok k' → k' ∉ insert k s.triedKeys)

/-- After any number of rounds up to the first success the two modes have made the same attempts and
left the same records, and streaming handles send errors as it should. -/
structure StreamsAlike (deps : Externs) (env : Env) (app : AppState) (req : ChatRequest) : Prop where
  attempts : ∀ rounds, BeforeSuccess (proxyHandler deps env rounds app (req.asStream false)).trace.dropLast →
    (proxyHandler deps env rounds app (req.asStream true)).trace
      = (proxyHandler deps env rounds app (req.asStream false)).trace
  records : ∀ rounds, BeforeSuccess (proxyHandler deps env rounds app (req.asStream false)).trace →
    (proxyHandler deps env rounds app (req.asStream true)).app.fail2ban
        = (proxyHandler deps env rounds app (req.asStream false)).app.fail2ban ∧
      (proxyHandler deps env rounds app (req.asStream true)).app.healthStore
        = (proxyHandler deps env rounds app (req.asStream false)).app.healthStore
  sendErrors : ∀ rounds ctx start s, prepare env app (req.asStream true) = .ok (ctx, start) →
    retryLoop deps env ctx rounds start = .next s → RetriesSendError deps ctx (env.turn rounds) s

/-! ## Before the loop -/

theorem prepare_asStream (env : Env) (app : AppState) (req : ChatRequest) (isStream : Bool) :
    prepare env app (req.asStream isStream)
      = (prepare env app req).map fun p => (p.1.asStream isStream, p.2) := by
  unfold prepare earlyRun
  dsimp only [ChatRequest.asStream]
  by_cases haccess : app.config.tokenHasModelAccess req.auth.tokenKey
      (app.config.canonicalModelName req.modelName) = true
  case neg =>
    simp only [haccess, Bool.false_eq_true, not_false_eq_true, if_true]
    rfl
  simp only [haccess, not_true, if_false]
  generalize app.collectBanned env.startAt (((app.config.findModel
    (app.config.canonicalModelName req.modelName)).map (·.endpoints)).getD []) ∅ = collected
  obtain ⟨app₁, p | bannedKeys⟩ := collected
  · rfl
  dsimp only
  split_ifs
  · rfl
  generalize stickyPick _ _ _ _ _ = sticky
  obtain ⟨app₂, p | endpoint⟩ := sticky
  · rfl
  cases endpoint with
  | some current =>
    dsimp only
    generalize checkAllRateLimits _ _ _ _ _ _ _ = limited
    obtain ⟨c, rej⟩ := limited
    cases rej <;> rfl
  | none =>
    dsimp only
    generalize AppState.selectAvailable _ _ _ _ = picked
    obtain ⟨app₃, p | current⟩ := picked
    · rfl
    cases current with
    | none => rfl
    | some current =>
      dsimp only
      generalize checkAllRateLimits _ _ _ _ _ _ _ = limited
      obtain ⟨c, rej⟩ := limited
      cases rej <;> rfl

/-! ## One round in the two modes -/

/-- The same attempts and the same records. -/
structure SameRecords (s s' : LoopState) : Prop where
  trace : s.trace = s'.trace
  fail2ban : s.app.fail2ban = s'.app.fail2ban
  healthStore : s.app.healthStore = s'.app.healthStore

/-- How a round in the streaming mode compares with the same round in the other: both go on alike,
both end alike, or the streaming mode ends with a success. -/
inductive Parallel (succeeded : Prop) : Loop.Flow LoopState Ending → Loop.Flow LoopState Ending → Prop where
  | goOn (s : LoopState) : ¬ succeeded → Parallel succeeded (.next s) (.next s)
  | stop {s s' : LoopState} (e e' : Ending) : SameRecords s s' → Parallel succeeded (.exit s e) (.exit s' e')
  | success (s : LoopState) (e : Ending) (f : Loop.Flow LoopState Ending) : succeeded →
      Parallel succeeded (.exit s e) f

theorem Parallel.of_eq {succeeded : Prop} (h : ¬ succeeded) (f : Loop.Flow LoopState Ending) :
    Parallel succeeded f f := by
  cases f with
  | next s => exact .goOn s h
  | exit s e => exact .stop e e ⟨rfl, rfl, rfl⟩

section
variable {deps : Externs} {ctx : LoopCtx} {t : Turn} {k : String}

/-- An answer that does not settle the request is handled alike. -/
theorem settle_asStream_eq (s : LoopState) {status : Nat} (body : List Chunk) (h : 400 ≤ status)
    (hnot : ¬ Settles ctx s.app.fail2ban status) :
    settle deps (ctx.asStream true) t k s status body = settle deps (ctx.asStream false) t k s status body := by
  have hsuccess : isSuccess status = false := by
    simp only [isSuccess, Bool.and_eq_false_iff, decide_eq_false_iff_not]
    omega
  have hstream : ∀ isStream, s.chargeStream deps (ctx.asStream isStream) k status body t.doneAt = s := by
    intro isStream
    unfold LoopState.chargeStream
    rw [if_neg (by simp [hsuccess])]
  have hclass : ∀ isStream, s.classified deps (ctx.asStream isStream) t k status body
      = { s with app := s.app.classify k status t.doneAt } := by
    intro isStream
    unfold LoopState.classified
    rw [hstream]
  have hnot' : ∀ isStream, ¬ Settles (ctx.asStream isStream) s.app.fail2ban status := fun _ => hnot
  rw [settle_eq, settle_eq, if_neg (hnot' true), if_neg (hnot' false), hclass, hclass]
  rfl

/-- **An answer**, to a success in whatever pieces its body comes. -/
theorem settle_parallel (s : LoopState) (status : Nat) (body bytes : List Chunk)
    (hsame : isSuccess status = false → body = bytes) :
    Parallel (isSuccess status = true) (settle deps (ctx.asStream true) t k s status body)
      (settle deps (ctx.asStream false) t k s status bytes) := by
  by_cases hset : Settles ctx s.app.fail2ban status
  · have hset' : ∀ isStream, Settles (ctx.asStream isStream) s.app.fail2ban status := fun _ => hset
    rw [settle_eq, settle_eq, if_pos (hset' true), if_pos (hset' false)]
    refine .stop _ _ ⟨?_, ?_, ?_⟩
    · rw [LoopState.finish_trace, LoopState.finish_trace]
      exact (chargeStream_frame _ _ _ _ _ _ _).1.trans (chargeStream_frame _ _ _ _ _ _ _).1.symm
    · rw [finish_fail2ban, finish_fail2ban, classified_fail2ban, classified_fail2ban]
    · rw [finish_healthStore, finish_healthStore, classified_healthStore, classified_healthStore]
  · have hstatus : 400 ≤ status := by
      by_contra hlt
      exact hset (Or.inl (by omega))
    have hnot : ¬ isSuccess status = true := by
      simp only [isSuccess, Bool.and_eq_true, decide_eq_true_eq]
      omega
    rw [hsame (by simpa using hnot), settle_asStream_eq s bytes hstatus hset]
    exact .of_eq hnot _

theorem settle_of_success (deps : Externs) (ctx : LoopCtx) (t : Turn) (k : String) (s : LoopState) {status : Nat}
    (body : List Chunk) (h : isSuccess status = true) : ∃ s' e, settle deps ctx t k s status body = .exit s' e := by
  have hset : Settles ctx s.app.fail2ban status := by
    simp only [isSuccess, Bool.and_eq_true, decide_eq_true_eq] at h
    exact Or.inl (by omega)
  exact ⟨_, _, by rw [settle_eq, if_pos hset]⟩

/-- The state in which the reply comes. -/
def LoopState.sending (s : LoopState) (ctx : LoopCtx) (t : Turn) : LoopState :=
  { s.visit (sendStep ctx t) with app := s.app.disturb t.during }

theorem attempt_of_ok {status : Nat} {body : List Chunk} (s : LoopState)
    (h : call ctx.req.isStream ctx.req.bodyError t.reply = .ok status body) :
    attempt deps ctx t k s = settle deps ctx t k (s.sending ctx t) status body := by
  unfold attempt
  rw [h]
  rfl

theorem attempt_of_err {message : String} (s : LoopState)
    (h : call ctx.req.isStream ctx.req.bodyError t.reply = .err message) :
    attempt deps ctx t k s = callFailed ctx t k (s.sending ctx t) message := by
  unfold attempt
  rw [h]
  rfl

/-- **A call** that is answered. -/
theorem attempt_parallel (deps : Externs) (k : String) (s : LoopState) (hheard : (sendStep ctx t).heard = true) :
    Parallel ((sendStep ctx t).succeeded = true) (attempt deps (ctx.asStream true) t k s)
      (attempt deps (ctx.asStream false) t k s) := by
  unfold sendStep at hheard ⊢
  cases hbody : ctx.req.bodyError with
  | some e =>
    rw [hbody] at hheard
    cases hheard
  | none =>
    rw [hbody] at hheard
    cases hreply : t.reply with
    | sendError message =>
      rw [hreply] at hheard
      cases hheard
    | response status body =>
      have hstream : call (ctx.asStream true).req.isStream (ctx.asStream true).req.bodyError t.reply
          = .ok status (if isSuccess status then body else textOrDefault body) := by
        simp only [LoopCtx.asStream, ChatRequest.asStream, hbody, hreply, call]
      rw [attempt_of_ok s hstream]
      cases hread : readAll body with
      | ok bytes =>
        have hwhole : call (ctx.asStream false).req.isStream (ctx.asStream false).req.bodyError t.reply
            = .ok status [.ok bytes] := by
          simp only [LoopCtx.asStream, ChatRequest.asStream, hbody, hreply, call, hread]
        rw [attempt_of_ok s hwhole]
        exact settle_parallel (s.sending ctx t) status _ _ fun hno => by simp [hno, textOrDefault, hread]
      | error message =>
        have hsuccess : isSuccess status = true := by
          simpa [hreply, VisitStep.heard, Reply.intact, hread, Except.isOk, Except.toBool] using hheard
        obtain ⟨s', e, hexit⟩ := settle_of_success deps (ctx.asStream true) t k (s.sending (ctx.asStream true) t)
          (if isSuccess status then body else textOrDefault body) hsuccess
        rw [hexit]
        exact .success s' e _ hsuccess

/-- A failure that only the other mode records. -/
theorem recordFailure_ne (fb : Fail2ban) (k : String) (now : Nat) : fb ≠ (fb.recordFailureWithCode k 0 now).1 := by
  intro h
  have hcount := fb.recordFailureWithCode_failures (k := k) 0 now
  rw [← h] at hcount
  omega

/-- An answer that breaks off: the streaming mode goes by its status, the other records a failed call. -/
theorem settle_ne_callFailed (deps : Externs) (ctx : LoopCtx) (t : Turn) (k : String) (s : LoopState) (status : Nat)
    (body : List Chunk) (message : String) :
    ¬ SameRecords (settle deps (ctx.asStream true) t k s status body).state
      (callFailed (ctx.asStream false) t k s message).state := by
  intro hsame
  have hhealth := hsame.healthStore
  have hfb := hsame.fail2ban
  rw [settle_healthStore, callFailed_healthStore] at hhealth
  rw [settle_fail2ban, callFailed_fail2ban] at hfb
  by_cases hset : Settles (ctx.asStream true) s.app.fail2ban status
  · -- a request is counted in one mode only
    have htotal := congrArg (·.totalRequests) hhealth
    simp only [if_pos hset, HealthStore.recordLatency, HealthStore.recordRequest, HealthStore.recordError] at htotal
    split at htotal
    · dsimp only at htotal
      omega
    · omega
  · -- the status is covered and no success: the code of the last error tells them apart
    obtain ⟨hlarge, hretried⟩ := not_or.1 hset
    have hcovered : s.app.fail2ban.isFailStatus status = true ∧ status ≠ 0 :=
      ⟨(not_not.1 hretried).2, by omega⟩
    have hcode := congrArg (fun fb : Fail2ban => (fb.states.lookup k).map (·.lastErrorCode)) hfb
    simp only [Fail2ban.noteStatus, hcovered.1, if_true, Fail2ban.recordFailureWithCode_lastErrorCode] at hcode
    exact hcovered.2 (Option.some.inj hcode)

/-- A call without an answer, or with an answer that breaks off, leaves different records. -/
theorem attempt_apart (deps : Externs) (k : String) (s : LoopState) (hheard : (sendStep ctx t).heard = false) :
    ¬ SameRecords (attempt deps (ctx.asStream true) t k s).state (attempt deps (ctx.asStream false) t k s).state := by
  intro hsame
  have hfb := hsame.fail2ban
  rw [attempt_fail2ban, attempt_fail2ban] at hfb
  simp only [LoopCtx.asStream, ChatRequest.asStream] at hfb
  cases hbody : ctx.req.bodyError with
  | some e =>
    -- refused before it is sent: the streaming mode returns from inside
    simp only [hbody, call] at hfb
    exact recordFailure_ne _ _ _ hfb
  | none =>
    cases hreply : t.reply with
    | sendError message =>
      simp only [hbody, hreply, call] at hfb
      exact recordFailure_ne _ _ _ hfb
    | response status body =>
      have hbroken : isSuccess status = false ∧ Reply.intact (.response status body) = false := by
        simpa [sendStep, hbody, hreply, VisitStep.heard] using hheard
      have hstream : call (ctx.asStream true).req.isStream (ctx.asStream true).req.bodyError t.reply
          = .ok status (if isSuccess status then body else textOrDefault body) := by
        simp only [LoopCtx.asStream, ChatRequest.asStream, hbody, hreply, call]
      cases hread : readAll body with
      | ok bytes => simp [Reply.intact, hread, Except.isOk, Except.toBool] at hbroken
      | error message =>
        have hwhole : call (ctx.asStream false).req.isStream (ctx.asStream false).req.bodyError t.reply
            = .err message := by
          simp only [LoopCtx.asStream, ChatRequest.asStream, hbody, hreply, call, hread]
        rw [attempt_of_ok s hstream, attempt_of_err s hwhole] at hsame
        exact settle_ne_callFailed deps ctx t k (s.sending ctx t) status _ message hsame

/-- **A round** that is heard goes the same way in both modes. -/
theorem turn_parallel (deps : Externs) (s : LoopState) (hheard : (visitStep ctx t s).heard = true) :
    Parallel ((visitStep ctx t s).succeeded = true) (turn deps (ctx.asStream true) t s)
      (turn deps (ctx.asStream false) t s) := by
  unfold visitStep at hheard ⊢
  unfold turn
  dsimp only [LoopState.charged] at hheard ⊢
  cases hkey : Handler.epKey s.current.url s.current.apiKey with
  | error p => exact .of_eq (by simp [VisitStep.succeeded]) _
  | ok k =>
    rw [hkey] at hheard
    dsimp only at hheard ⊢
    cases hrej : (Gate.runAll (endpointChecks s.current k t.checkAt)
        { app := s.app.disturb t.before, ledger := s.ledger }).2 with
    | some rej => exact .of_eq (by simp [VisitStep.succeeded]) _
    | none =>
      rw [hrej] at hheard
      exact attempt_parallel deps k _ hheard

theorem turn_apart (deps : Externs) (s : LoopState) (hheard : (visitStep ctx t s).heard = false) :
    ¬ SameRecords (turn deps (ctx.asStream true) t s).state (turn deps (ctx.asStream false) t s).state := by
  unfold visitStep at hheard
  unfold turn
  dsimp only [LoopState.charged] at hheard ⊢
  cases hkey : Handler.epKey s.current.url s.current.apiKey with
  | error p =>
    rw [hkey] at hheard
    cases hheard
  | ok k =>
    rw [hkey] at hheard
    dsimp only at hheard ⊢
    cases hrej : (Gate.runAll (endpointChecks s.current k t.checkAt)
        { app := s.app.disturb t.before, ledger := s.ledger }).2 with
    | some rej =>
      rw [hrej] at hheard
      cases hheard
    | none =>
      rw [hrej] at hheard
      exact attempt_apart deps k _ hheard

end

/-! ## A whole run in the two modes -/

theorem heard_of_succeeded {step : VisitStep} (h : step.heard = false) : step.succeeded = false := by
  cases step with
  | sent reply =>
    cases reply with
    | sendError message => rfl
    | response status body => exact (Bool.or_eq_false_iff.1 h).1
  | panicked => rfl
  | limited => rfl
  | unsent => rfl

/-- After the same number of rounds: the same attempts up to the first success, and before it the
same records. -/
structure AlikeSoFar (s s' : LoopState) : Prop where
  attempts : BeforeSuccess s'.trace.dropLast → s.trace = s'.trace
  records : BeforeSuccess s'.trace → s.app.fail2ban = s'.app.fail2ban ∧ s.app.healthStore = s'.app.healthStore

theorem SameRecords.alike {s s' : LoopState} (h : SameRecords s s') : AlikeSoFar s s' :=
  ⟨fun _ => h.trace, fun _ => ⟨h.fail2ban, h.healthStore⟩⟩

section
variable {deps : Externs} {env : Env} {ctx : LoopCtx}

/-- A success is where the comparison ends. -/
theorem alike_of_success {s s' s'' : LoopState} {v : Visit} (hv : v.step.succeeded = true)
    (htrace : s'.trace = s.trace ++ [v]) (hext : s.trace ++ [v] <+: s''.trace) : AlikeSoFar s' s'' := by
  obtain ⟨rest, hrest⟩ := hext
  constructor
  · intro hbefore
    by_cases hnil : rest = []
    · rw [htrace, ← hrest, hnil, List.append_nil]
    · have hmem : v ∈ s''.trace.dropLast := by
        rw [← hrest, List.dropLast_append_of_ne_nil hnil]
        simp
      rw [hbefore v hmem] at hv
      cases hv
  · intro hbefore
    have hmem : v ∈ s''.trace := by
      rw [← hrest]
      simp
    rw [hbefore v hmem] at hv
    cases hv

/-- The loop in one of the two modes, from round `j` on. -/
def modeLoop (deps : Externs) (env : Env) (ctx : LoopCtx) (isStream : Bool) (n j : Nat) (s : LoopState) :
    Loop.Flow LoopState Ending := Loop.run (fun j => turn deps (ctx.asStream isStream) (env.turn j)) n j s

/-- The visit is the same in the two modes. -/
theorem turn_visits (deps : Externs) (ctx : LoopCtx) (isStream : Bool) (t : Turn) (s : LoopState) :
    (turn deps (ctx.asStream isStream) t s).state.trace
      = s.trace ++ [{ endpoint := s.current, step := visitStep ctx t s }] :=
  turn_trace deps (ctx.asStream isStream) t s

/-- A round at the start of the loop and the visit it makes. -/
theorem modeLoop_extends (isStream : Bool) (n j : Nat) (s : LoopState) :
    s.trace ++ [{ endpoint := s.current, step := visitStep ctx (env.turn j) s }]
      <+: (modeLoop deps env ctx isStream (n + 1) j s).state.trace := by
  rw [← turn_visits deps ctx isStream]
  exact @Loop.run_extends _ _ (fun j => turn deps (ctx.asStream isStream) (env.turn j))
    (fun s s' : LoopState => s.trace <+: s'.trace) (fun _ => List.prefix_rfl) (fun h h' => h.trans h')
    (fun j s => ⟨_, (turn_trace deps (ctx.asStream isStream) (env.turn j) s).symm⟩) n j s

/-- **Run**: heard all along, the two modes stay alike. -/
theorem alike_of_heard (start : LoopState)
    (hheard : ∀ n, ∀ v ∈ (modeLoop deps env ctx true n 0 start).state.trace, v.step.heard = true) (n : Nat) :
    AlikeSoFar (modeLoop deps env ctx true n 0 start).state (modeLoop deps env ctx false n 0 start).state := by
  refine Loop.run_lockstep (R := fun j s => ∀ n, ∀ v ∈ (modeLoop deps env ctx true n j s).state.trace,
      v.step.heard = true) (Q := fun f f' => AlikeSoFar f.state f'.state)
    (fun s => SameRecords.alike ⟨rfl, rfl, rfl⟩) (fun j s hR => ?_) n 0 start hheard
  have hvisit := hR 1 _ ((modeLoop_extends true 0 j s).subset (List.mem_append_right _ (List.mem_singleton_self _)))
  have hparallel := turn_parallel deps s hvisit
  generalize hS : turn deps (ctx.asStream true) (env.turn j) s = fS at hparallel
  generalize hN : turn deps (ctx.asStream false) (env.turn j) s = fN at hparallel
  cases hparallel with
  | goOn s' hnot =>
    refine Or.inl ⟨s', rfl, rfl, fun n v hv => hR (n + 1) v ?_⟩
    unfold modeLoop
    rw [Loop.run_succ, hS]
    exact hv
  | stop e e' hsame =>
    refine Or.inr ⟨_, e, rfl, fun n => ?_⟩
    rw [Loop.run_succ, hN]
    exact hsame.alike
  | success s' e f hsuccess =>
    refine Or.inr ⟨s', e, rfl, fun n => ?_⟩
    have htrace := turn_visits deps ctx true (env.turn j) s
    rw [hS] at htrace
    exact alike_of_success hsuccess htrace (modeLoop_extends false n j s)

/-- **Step**: alike after one round, its call is heard. -/
theorem visit_heard_of_alike {j : Nat} {s : LoopState} (hbefore : BeforeSuccess s.trace)
    (halike : AlikeSoFar (modeLoop deps env ctx true 1 j s).state (modeLoop deps env ctx false 1 j s).state) :
    (visitStep ctx (env.turn j) s).heard = true := by
  by_contra hnot
  have hunheard : (visitStep ctx (env.turn j) s).heard = false := by simpa using hnot
  have hnone : BeforeSuccess (turn deps (ctx.asStream false) (env.turn j) s).state.trace := by
    rw [turn_visits]
    exact List.forall_mem_append.2 ⟨hbefore, List.forall_mem_singleton.2 (heard_of_succeeded hunheard)⟩
  unfold modeLoop at halike
  rw [Loop.run_one_state, Loop.run_one_state] at halike
  obtain ⟨hfb, hhealth⟩ := halike.records hnone
  have hattempts := halike.attempts fun v hv => hnone v (List.mem_of_mem_dropLast hv)
  exact turn_apart deps s hunheard ⟨hattempts, hfb, hhealth⟩

/-- **Run**: alike all along, no call goes unheard. -/
theorem heard_of_alike (n : Nat) : ∀ (j : Nat) (s : LoopState), BeforeSuccess s.trace →
    (∀ v ∈ s.trace, v.step.heard = true) →
    (∀ n, AlikeSoFar (modeLoop deps env ctx true n j s).state (modeLoop deps env ctx false n j s).state) →
    ∀ v ∈ (modeLoop deps env ctx true n j s).state.trace, v.step.heard = true := by
  induction n with
  | zero => exact fun j s _ hheard _ => hheard
  | succ n ih =>
    intro j s hbefore hheard halike
    have hvisit := visit_heard_of_alike hbefore (halike 1)
    have htrace := turn_visits deps ctx true (env.turn j) s
    have hvisited : ∀ v ∈ (turn deps (ctx.asStream true) (env.turn j) s).state.trace, v.step.heard = true := by
      rw [htrace]
      exact List.forall_mem_append.2 ⟨hheard, List.forall_mem_singleton.2 hvisit⟩
    have hparallel := turn_parallel deps s hvisit
    unfold modeLoop
    rw [Loop.run_succ]
    generalize hS : turn deps (ctx.asStream true) (env.turn j) s = fS at hparallel htrace hvisited
    generalize hN : turn deps (ctx.asStream false) (env.turn j) s = fN at hparallel
    cases hparallel with
    | goOn s' hnot =>
      refine ih (j + 1) s' ?_ hvisited fun n => ?_
      · rw [show s'.trace = _ from htrace]
        exact List.forall_mem_append.2 ⟨hbefore, List.forall_mem_singleton.2 (by simpa using hnot)⟩
      · have hnext := halike (n + 1)
        unfold modeLoop at hnext
        rw [Loop.run_succ, Loop.run_succ, hS, hN] at hnext
        exact hnext
    | stop e e' hsame => exact hvisited
    | success s' e f hsuccess => exact hvisited

theorem proxyHandler_mode {app : AppState} {req : ChatRequest} {start : LoopState}
    (hprep : prepare env app req = .ok (ctx, start)) (isStream : Bool) (n : Nat) :
    proxyHandler deps env n app (req.asStream isStream) =
      { app := (modeLoop deps env ctx isStream n 0 start).state.app
        ledger := (modeLoop deps env ctx isStream n 0 start).state.ledger
        trace := (modeLoop deps env ctx isStream n 0 start).state.trace
        ending := (modeLoop deps env ctx isStream n 0 start).result } := by
  unfold proxyHandler
  rw [prepare_asStream, hprep]
  rfl

/-- A round that is heard ends in no send error. -/
theorem retriesSendError_of_heard {n : Nat} {start s : LoopState}
    (hheard : ∀ v ∈ (modeLoop deps env ctx true (n + 1) 0 start).state.trace, v.step.heard = true)
    (hs : modeLoop deps env ctx true n 0 start = .next s) :
    RetriesSendError deps (ctx.asStream true) (env.turn n) s := by
  intro k message hkey htrace
  have hlast : modeLoop deps env ctx true (n + 1) 0 start = turn deps (ctx.asStream true) (env.turn (0 + n)) s :=
    Loop.run_next hs
  rw [Nat.zero_add] at hlast
  rw [hlast, htrace] at hheard
  have hno := hheard _ (List.mem_append_right _ (List.mem_singleton_self _))
  cases hno

end

/-- **The two modes are alike exactly if every call of the streaming mode is heard**: there is a
response, and one that is no success arrives whole. -/
theorem streams_alike_iff (deps : Externs) (env : Env) (app : AppState) (req : ChatRequest) :
    StreamsAlike deps env app req ↔
      ∀ rounds, ∀ v ∈ (proxyHandler deps env rounds app (req.asStream true)).trace, v.step.heard = true := by
  cases hprep : prepare env app req with
  | error run =>
    have hrun : ∀ isStream rounds, proxyHandler deps env rounds app (req.asStream isStream) = run := by
      intro isStream rounds
      unfold proxyHandler
      rw [prepare_asStream, hprep]
      rfl
    constructor
    · intro _ rounds v hv
      rw [hrun, (prepare_error hprep).1] at hv
      cases hv
    · intro _
      refine ⟨fun rounds _ => ?_, fun rounds _ => ?_, fun rounds ctx start s hstart => ?_⟩
      · rw [hrun, hrun]
      · rw [hrun, hrun]
        exact ⟨rfl, rfl⟩
      · rw [prepare_asStream, hprep] at hstart
        cases hstart
  | ok p =>
    obtain ⟨ctx, start⟩ := p
    have hnil := (prepare_entered hprep).trace
    constructor
    · intro h rounds v hv
      rw [proxyHandler_mode hprep] at hv
      refine heard_of_alike rounds 0 start (by simp [BeforeSuccess, hnil]) (by simp [hnil]) (fun n => ⟨?_, ?_⟩) v hv
      · have hattempts := h.attempts n
        rw [proxyHandler_mode hprep, proxyHandler_mode hprep] at hattempts
        exact hattempts
      · have hrecords := h.records n
        rw [proxyHandler_mode hprep, proxyHandler_mode hprep] at hrecords
        exact hrecords
    · intro hheard
      have hloop : ∀ n, ∀ v ∈ (modeLoop deps env ctx true n 0 start).state.trace, v.step.heard = true := by
        intro n
        have hn := hheard n
        rw [proxyHandler_mode hprep] at hn
        exact hn
      have halike := alike_of_heard start hloop
      refine ⟨fun n => ?_, fun n => ?_, fun n ctx' start' s hstart hs => ?_⟩
      · rw [proxyHandler_mode hprep, proxyHandler_mode hprep]
        exact (halike n).attempts
      · rw [proxyHandler_mode hprep, proxyHandler_mode hprep]
        exact (halike n).records
      · rw [prepare_asStream, hprep] at hstart
        cases hstart
        exact retriesSendError_of_heard (hloop (n + 1)) hs

/-- The first endpoint refuses the connection, the next answers. -/
def refusedOnce : Env :=
  .quiet fun n => if n = 0 then { answeringTurn with reply := .sendError "connection refused" } else answeringTurn

/-- A refused connection is retried and counted without streaming; with streaming it ends the request
and is not counted. -/
theorem send_error_ends_stream :
    let run (isStream : Bool) (rounds : Nat) : Run :=
      proxyHandler .reading refusedOnce rounds (startApp pairConfig { counters := ∅ } [] { limiters := ∅ })
        (singleRequest.asStream isStream)
    (run false 2).trace.map (·.endpoint.url) = ["https://a.example.com", "https://b.example.com"] ∧
      (run false 2).app.fail2ban.failures "https://a.example.com:sk-u...am-1" = 1 ∧
      (run true 2).trace.map (·.endpoint.url) = ["https://a.example.com"] ∧ (run true 2).ending.isSome = true ∧
      (run true 2).app.fail2ban.failures "https://a.example.com:sk-u...am-1" = 0 ∧
      ¬ StreamsAlike .reading refusedOnce (startApp pairConfig { counters := ∅ } [] { limiters := ∅ }) singleRequest := by
  refine ⟨rfl, rfl, rfl, rfl, rfl, fun h => ?_⟩
  have hrecords := h.records 1 fun v hv => by rw [List.mem_singleton.1 hv]; rfl
  have hcount := congrArg (·.failures "https://a.example.com:sk-u...am-1") hrecords.1
  exact Nat.zero_ne_one hcount

end AiRouter
