import AiRouter.Checker
import AiRouter.Generic
import AiRouter.HandlerSpec

/-
# What a handler or a probe writes about an endpoint

The breaker and the health records after each function that writes them, from those before.
-/
namespace AiRouter

/-! ## The breaker -/

section
variable {deps : Externs} {ctx : LoopCtx} {t : Turn} {s : LoopState} {k : String}

theorem tryNext_fail2ban (s : LoopState) (ctx : LoopCtx) (k : String) (giveUp : Response) :
    (s.tryNext ctx k giveUp).state.app.fail2ban = s.app.fail2ban := by
  obtain ⟨rr, h⟩ := s.tryNext_only ctx k giveUp
  rw [h]

theorem retry_fail2ban (s : LoopState) (ctx : LoopCtx) (k : String) (response : Response) :
    (s.retry ctx k response).state.app.fail2ban = s.app.fail2ban := by
  obtain ⟨rr, h⟩ := s.retry_only ctx k response
  rw [h]

theorem finish_fail2ban (s : LoopState) (deps : Externs) (ctx : LoopCtx) (k : String) (status : Nat)
    (body : List Chunk) (startAt now : Nat) :
    (s.finish deps ctx k status body startAt now).app.fail2ban = s.app.fail2ban := by
  unfold LoopState.finish
  dsimp only
  split
  · rfl
  · exact (chargeUsage_budgets _ _ _ _ _ _ _ _ _).fail2ban

/-- The breaker after a status that the patterns decide on. -/
def Fail2ban.noteStatus (fb : Fail2ban) (k : String) (status now : Nat) : Fail2ban :=
  if fb.isFailStatus status then (fb.recordFailureWithCode k status now).1 else fb.recordSuccess k

theorem classify_fail2ban (app : AppState) (k : String) (status now : Nat) :
    (app.classify k status now).fail2ban = app.fail2ban.noteStatus k status now := by
  unfold AppState.classify Fail2ban.noteStatus
  split <;> rfl

theorem classified_fail2ban (deps : Externs) (ctx : LoopCtx) (t : Turn) (k : String) (s : LoopState)
    (status : Nat) (body : List Chunk) :
    (s.classified deps ctx t k status body).app.fail2ban = s.app.fail2ban.noteStatus k status t.doneAt := by
  unfold LoopState.classified
  rw [← (chargeStream_budgets deps ctx k s status body t.doneAt).fail2ban]
  exact classify_fail2ban _ _ _ _

theorem settle_fail2ban (status : Nat) (body : List Chunk) :
    (settle deps ctx t k s status body).state.app.fail2ban = s.app.fail2ban.noteStatus k status t.doneAt := by
  have hclass := classified_fail2ban deps ctx t k s status body
  rw [settle_eq]
  split
  · exact (finish_fail2ban _ _ _ _ _ _ _ _).trans hclass
  · exact (retry_fail2ban _ _ _ _).trans hclass

theorem callFailed_fail2ban (message : String) :
    (callFailed ctx t k s message).state.app.fail2ban
      = (s.app.fail2ban.recordFailureWithCode k 0 t.doneAt).1 := by
  unfold callFailed
  dsimp only
  split
  · exact retry_fail2ban _ _ _ _
  · rfl

theorem attempt_fail2ban :
    (attempt deps ctx t k s).state.app.fail2ban =
      match call ctx.req.isStream ctx.req.bodyError t.reply with
      | .returned _ => t.during.fail2ban s.app.fail2ban
      | .ok status _ => (t.during.fail2ban s.app.fail2ban).noteStatus k status t.doneAt
      | .err _ => ((t.during.fail2ban s.app.fail2ban).recordFailureWithCode k 0 t.doneAt).1 := by
  unfold attempt
  cases call ctx.req.isStream ctx.req.bodyError t.reply with
  | returned r => rfl
  | ok status body => exact settle_fail2ban status body
  | err message => exact callFailed_fail2ban message

/-- **A round of `proxy_handler`** touches the breaker only where its endpoint is let through. -/
theorem turn_fail2ban (hb : t.before = .quiet) (hd : t.during = .quiet)
    (hkey : Handler.epKey s.current.url s.current.apiKey = .ok k) :
    (turn deps ctx t s).state.app.fail2ban =
      if (Gate.runAll (endpointChecks s.current k t.checkAt) s.charged).2.isNone then
        match call ctx.req.isStream ctx.req.bodyError t.reply with
        | .returned _ => s.app.fail2ban
        | .ok status _ => s.app.fail2ban.noteStatus k status t.doneAt
        | .err _ => (s.app.fail2ban.recordFailureWithCode k 0 t.doneAt).1
      else s.app.fail2ban := by
  have hchecks := (endpointChecks_budgets s.current k t.checkAt s.charged).fail2ban
  unfold turn
  simp only [hb, disturb_quiet, hkey]
  cases hrej : (Gate.runAll (endpointChecks s.current k t.checkAt) s.charged).2 with
  | some rej => exact (tryNext_fail2ban _ _ _ _).trans hchecks
  | none =>
    have hfb : ((s.withCharged (Gate.runAll (endpointChecks s.current k t.checkAt) s.charged).1)).app.fail2ban
        = s.app.fail2ban := hchecks
    rw [← hfb]
    refine attempt_fail2ban.trans ?_
    rw [hd]
    rfl

end

theorem classifyStream_fail2ban (app : AppState) (k : String) (status latencyMs now : Nat) :
    (Generic.classifyStream app k status latencyMs now).fail2ban =
      if !isSuccess status then (app.fail2ban.recordFailureWithCode k status now).1
      else app.fail2ban.recordSuccess k := by
  unfold Generic.classifyStream
  cases isSuccess status <;> rfl

theorem classifyWhole_fail2ban (app : AppState) (k : String) (status latencyMs now : Nat) :
    (Generic.classifyWhole app k status latencyMs now).fail2ban =
      if decide (400 ≤ status) && app.fail2ban.isFailStatus status then
        (app.fail2ban.recordFailureWithCode k status now).1
      else app.fail2ban.recordSuccess k := by
  simp only [Generic.classifyWhole, Bool.and_eq_true, decide_eq_true_eq]
  split <;> rfl

/-- **A response to `proxy_generic`**. -/
theorem answer_fail2ban (c : GenericCall) (deps : Externs) (isStream : Bool) (s : Charged) (status : Nat)
    (body : List Chunk) (startAt now : Nat) :
    (c.answer deps isStream s (.response status body) startAt now).1.app.fail2ban =
      if (if isStream then !isSuccess status else decide (400 ≤ status) && s.app.fail2ban.isFailStatus status) then
        (s.app.fail2ban.recordFailureWithCode c.epKey status now).1
      else s.app.fail2ban.recordSuccess c.epKey := by
  have hcharge : ∀ total, (c.charge s total now).app.fail2ban = s.app.fail2ban :=
    fun total => (chargeUsage_budgets _ _ _ _ _ _ _ _ _).fail2ban
  cases isStream with
  | true =>
    have hclass : ∀ s' : Charged, s'.app.fail2ban = s.app.fail2ban →
        (Generic.classifyStream s'.app c.epKey status ((now - startAt) / 1000000) now).fail2ban =
          if !isSuccess status then (s.app.fail2ban.recordFailureWithCode c.epKey status now).1
          else s.app.fail2ban.recordSuccess c.epKey := by
      intro s' hs'
      rw [classifyStream_fail2ban, hs']
    simp only [GenericCall.answer, if_true, GenericCall.streamed]
    split
    · refine hclass _ ?_
      split
      · exact hcharge _
      · rfl
    · exact hclass s rfl
  | false =>
    have hwhole := fun app : AppState =>
      classifyWhole_fail2ban app c.epKey status ((now - startAt) / 1000000) now
    rw [← hcharge (bodyUsage (deps.fromSlice (toBytes body))).total]
    exact hwhole _

/-- **A response to a probe**: the ban is looked at first. -/
theorem probed_fail2ban (app : AppState) (k : String) (code now : Nat) :
    (app.probed k (.status code) now).fail2ban =
      if !isSuccess code && !(app.fail2ban.isBanned k now).2 then
        ((app.fail2ban.isBanned k now).1.recordFailureWithCode k code now).1
      else if isSuccess code && (app.fail2ban.isBanned k now).2 then (app.fail2ban.isBanned k now).1.reset k
      else (app.fail2ban.isBanned k now).1 := by
  unfold AppState.probed
  dsimp only
  cases isSuccess code with
  | true => rfl
  | false => cases (app.fail2ban.isBanned k now).2 <;> rfl

/-! ## The health records -/

section
variable {deps : Externs} {ctx : LoopCtx} {t : Turn} {s : LoopState} {k : String}

theorem retry_healthStore (s : LoopState) (ctx : LoopCtx) (k : String) (response : Response) :
    (s.retry ctx k response).state.app.healthStore = s.app.healthStore := by
  obtain ⟨rr, h⟩ := s.retry_only ctx k response
  rw [h]

theorem finish_healthStore (s : LoopState) (deps : Externs) (ctx : LoopCtx) (k : String) (status : Nat)
    (body : List Chunk) (startAt now : Nat) :
    (s.finish deps ctx k status body startAt now).app.healthStore
      = (s.app.healthStore.recordRequest k).recordLatency k ((now - startAt) / 1000000) := by
  unfold LoopState.finish
  dsimp only
  split
  · rfl
  · exact (chargeUsage_budgets _ _ _ _ _ _ _ _ _).healthStore

theorem classified_healthStore (deps : Externs) (ctx : LoopCtx) (t : Turn) (k : String) (s : LoopState)
    (status : Nat) (body : List Chunk) :
    (s.classified deps ctx t k status body).app.healthStore =
      if s.app.fail2ban.isFailStatus status then s.app.healthStore.recordError k else s.app.healthStore := by
  have hcharge := chargeStream_budgets deps ctx k s status body t.doneAt
  unfold LoopState.classified AppState.classify
  rw [← hcharge.fail2ban, ← hcharge.healthStore]
  dsimp only
  split <;> rfl

/-- **An answer** is an error or not, and a request once it settles the matter. -/
theorem settle_healthStore (status : Nat) (body : List Chunk) :
    (settle deps ctx t k s status body).state.app.healthStore =
      let health := if s.app.fail2ban.isFailStatus status then s.app.healthStore.recordError k
        else s.app.healthStore
      if Settles ctx s.app.fail2ban status then
        (health.recordRequest k).recordLatency k ((t.doneAt - t.checkAt) / 1000000)
      else health := by
  have hclass := classified_healthStore deps ctx t k s status body
  rw [settle_eq, ← hclass]
  dsimp only
  split
  · exact finish_healthStore _ _ _ _ _ _ _ _
  · exact retry_healthStore _ _ _ _

theorem callFailed_healthStore (message : String) :
    (callFailed ctx t k s message).state.app.healthStore = s.app.healthStore.recordError k := by
  unfold callFailed
  dsimp only
  split
  · exact retry_healthStore _ _ _ _
  · rfl

end

end AiRouter
