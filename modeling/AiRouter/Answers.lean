import AiRouter.BodyFidelity

/-
# Which response a run of `proxy_handler` ends with

Streaming or not: an upstream answer that settles the request is passed on, and one that fails with no
endpoint left is returned as the last failure. Nothing is said of the bodies of the Anthropic path here.
-/
namespace AiRouter

/-- The last call of the run was answered with this status and body, all of which could be read, and `r` is the
response. -/
structure AnsweredWith (run : Run) (ep : SelectedEndpoint) (status : Nat) (body : List Chunk) (bytes : List UInt8)
    (r : Response) : Prop where
  reply : run.trace.getLast? = some { endpoint := ep, step := .sent (.response status body) }
  read : readAll body = .ok bytes
  ending : run.ending = some (.responded r)

/-- The body that the response carries: a successful stream chunk by chunk, anything else in one piece. -/
def given (isStream : Bool) (status : Nat) (body : List Chunk) (bytes : List UInt8) : List Chunk :=
  if isStream ∧ isSuccess status then body else [.ok bytes]

/-- The response to an answer, by whether the answer settles the request. -/
def responseTo (settles : Prop) [Decidable settles] (isStream : Bool) (ep : SelectedEndpoint) (status : Nat)
    (body : List Chunk) (bytes : List UInt8) : Response :=
  if settles then .passedOn ep status (given isStream status body bytes)
  else .lastFailure ep status (given isStream status body bytes)

instance (app : AppState) (status : Nat) : Decidable (SettlesRequest app status) :=
  inferInstanceAs (Decidable (status < 400 ∨
    ¬ (app.config.fail2ban.retryOnFailure = true ∧ app.fail2ban.isFailStatus status = true)))

/-- What holds after the last round: an answer that the call has read is passed on or returned as the last failure,
and one that it could not read is not the response. -/
def AnswersAs (ctx : LoopCtx) (fb : Fail2ban) (s' : LoopState) (e : Ending) : Prop :=
  ∀ ep status body, s'.trace.getLast? = some { endpoint := ep, step := .sent (.response status body) } →
    (∀ read r, call ctx.req.isStream none (.response status body) = .ok status read → e = .responded r →
      r = if Settles ctx fb status then .passedOn ep status read else .lastFailure ep status read) ∧
    (∀ message, call ctx.req.isStream none (.response status body) = .err message → e.answer = none)

section
variable {deps : Externs} {ctx : LoopCtx} {t : Turn} {s : LoopState} {k : String} {fb : Fail2ban}

/-- A body that can be read reaches the loop. -/
theorem call_given {isStream : Bool} {status : Nat} {body : List Chunk} {bytes : List UInt8}
    (hread : readAll body = .ok bytes) :
    call isStream none (.response status body) = .ok status (given isStream status body bytes) := by
  unfold given
  cases isStream with
  | false => simp only [call, hread, Bool.false_eq_true, false_and, if_false]
  | true =>
    simp only [call, textOrDefault, hread]
    by_cases hsuccess : isSuccess status = true
    · simp [hsuccess]
    · simp [hsuccess]

/-- A response is read or fails the call. -/
theorem call_response (isStream : Bool) (status : Nat) (body : List Chunk) :
    (∃ read, call isStream none (.response status body) = .ok status read) ∨
      ∃ message, call isStream none (.response status body) = .err message := by
  cases isStream with
  | true => exact Or.inl ⟨_, rfl⟩
  | false =>
    cases hread : readAll body with
    | ok bytes => exact Or.inl ⟨_, call_given hread⟩
    | error e => exact Or.inr ⟨e, by simp only [call, hread]⟩

theorem settle_answers (h : s.app.fail2ban.failPatterns = fb.failPatterns) (status : Nat) (body : List Chunk) :
    (settle deps ctx t k s status body).Sat (fun _ => True)
      (fun _ e => ∀ r, e = .responded r →
        r = if Settles ctx fb status then .passedOn s.current status body else .lastFailure s.current status body) := by
  have hset := settles_of_patterns ctx h status
  rw [settle_eq]
  by_cases hsettles : Settles ctx fb status
  · rw [if_pos (hset.2 hsettles), if_pos hsettles]
    exact fun r hr => (Ending.responded.inj hr).symm
  · rw [if_neg fun h => hsettles (hset.1 h), if_neg hsettles]
    refine (retry_ledger _ ctx k _).mono (fun _ _ => trivial) (fun s' e h r hr => ?_)
    obtain ⟨_, ⟨p, rfl⟩ | rfl⟩ := h
    · cases hr
    · exact (Ending.responded.inj hr).symm

theorem attempt_patterns (hd : t.during.KeepsPatterns) (h : s.app.fail2ban.failPatterns = fb.failPatterns) :
    (attempt deps ctx t k s).Sat (fun s' => s'.app.fail2ban.failPatterns = fb.failPatterns) (fun _ _ => True) := by
  have hsending : (s.sending ctx t).app.fail2ban.failPatterns = fb.failPatterns := (hd _).trans h
  cases hcall : call ctx.req.isStream ctx.req.bodyError t.reply with
  | returned r =>
    unfold attempt
    rw [hcall]
    trivial
  | ok status body =>
    rw [attempt_of_ok s hcall]
    exact settle_patterns hsending status body
  | err message =>
    rw [attempt_of_err s hcall]
    exact callFailed_patterns hsending message

theorem callFailed_answers (message : String) :
    (callFailed ctx t k s message).Sat (fun _ => True) (fun _ e => e.answer = none) := by
  unfold callFailed
  dsimp only
  split
  · refine (retry_ledger _ ctx k _).mono (fun _ _ => trivial) (fun s' e h => ?_)
    obtain ⟨_, ⟨p, rfl⟩ | rfl⟩ := h
    · rfl
    · rfl
  · rfl

theorem attempt_answers (hd : t.during.KeepsPatterns) (h : s.app.fail2ban.failPatterns = fb.failPatterns) :
    (attempt deps ctx t k s).Sat (fun _ => True) (AnswersAs ctx fb) := by
  have hsending : (s.sending ctx t).app.fail2ban.failPatterns = fb.failPatterns := (hd _).trans h
  have hvisited := Loop.Flow.sat_of_state (attempt_trace deps ctx t k s)
  by_cases hreply : ctx.req.bodyError = none ∧ ∃ status body, t.reply = .response status body
  · obtain ⟨hnone, status, body, hreply⟩ := hreply
    -- the last visit is the one this round makes
    have hlast : ∀ {s' : LoopState}, VisitedAs (sendStep ctx t) s s' → ∀ {ep status' body'},
        s'.trace.getLast? = some { endpoint := ep, step := .sent (.response status' body') } →
        ep = s.current ∧ status' = status ∧ body' = body := by
      intro s' hvisit ep status' body' hget
      rw [hvisit, List.getLast?_concat] at hget
      obtain ⟨rfl, hstep⟩ := Visit.mk.inj (Option.some.inj hget)
      have hsent := (sent_of_sendStep hstep).2
      rw [hreply] at hsent
      cases hsent
      exact ⟨rfl, rfl, rfl⟩
    rcases call_response ctx.req.isStream status body with ⟨read, hread⟩ | ⟨message, hfailed⟩
    · rw [attempt_of_ok s (show call ctx.req.isStream ctx.req.bodyError t.reply = _ by rw [hnone, hreply]; exact hread)]
        at hvisited ⊢
      refine ((settle_answers hsending status _).and hvisited).mono (fun _ _ => trivial)
        (fun s' e h ep status' body' hget => ?_)
      obtain ⟨rfl, rfl, rfl⟩ := hlast h.2 hget
      refine ⟨fun read' r hread' hr => ?_, fun message hmessage => ?_⟩
      · rw [hread] at hread'
        cases hread'
        exact h.1 r hr
      · rw [hread] at hmessage
        cases hmessage
    · rw [attempt_of_err s (show call ctx.req.isStream ctx.req.bodyError t.reply = _ by rw [hnone, hreply]; exact hfailed)]
        at hvisited ⊢
      refine ((callFailed_answers message).and hvisited).mono (fun _ _ => trivial)
        (fun s' e h ep status' body' hget => ?_)
      obtain ⟨rfl, rfl, rfl⟩ := hlast h.2 hget
      refine ⟨fun read' r hread' hr => ?_, fun _ _ => h.1⟩
      rw [hfailed] at hread'
      cases hread'
  · refine hvisited.mono (fun _ _ => trivial) (fun s' e h ep status body hget => ?_)
    rw [h, List.getLast?_concat] at hget
    obtain ⟨rfl, hstep⟩ := Visit.mk.inj (Option.some.inj hget)
    obtain ⟨hnone, hsent⟩ := sent_of_sendStep hstep
    exact absurd ⟨hnone, status, body, hsent⟩ hreply

/-- **One round.** -/
theorem turn_answers (hb : t.before.KeepsPatterns) (hd : t.during.KeepsPatterns)
    (h : s.app.fail2ban.failPatterns = fb.failPatterns) :
    (turn deps ctx t s).Sat (fun s' => s'.app.fail2ban.failPatterns = fb.failPatterns) (AnswersAs ctx fb) := by
  have hpatterns : (t.before.fail2ban s.app.fail2ban).failPatterns = fb.failPatterns := (hb _).trans h
  unfold turn
  dsimp only
  split
  · intro ep status body _
    exact ⟨fun read r _ hr => (by cases hr), fun _ _ => rfl⟩
  · rename_i k hkey
    have hbudgets := (endpointChecks_budgets s.current k t.checkAt
      { app := s.app.disturb t.before, ledger := s.ledger }).fail2ban
    have hchecked := (congrArg Fail2ban.failPatterns hbudgets).trans hpatterns
    split
    · refine ((LoopState.tryNext_sat _ ctx k _).and (tryNext_patterns hchecked _)).mono (fun s' h => h.2)
        (fun s' e h ep status body hget => ?_)
      -- the last visit was turned away
      rw [h.1.trace] at hget
      unfold LoopState.visit at hget
      rw [List.getLast?_concat] at hget
      cases hget
    · exact ((attempt_patterns hd hchecked).and (attempt_answers hd hchecked)).mono (fun _ h => h.1) (fun _ _ h => h.2)

end

/-- **A run whose last call was answered**, as the loop ends it. -/
theorem proxyHandler_last {deps : Externs} {env : Env} {fuel : Nat} {app : AppState} {req : ChatRequest}
    {ep : SelectedEndpoint} {status : Nat} {body : List Chunk} {e : Ending} (henv : env.KeepsPatterns)
    (hlast : (proxyHandler deps env fuel app req).trace.getLast?
      = some { endpoint := ep, step := .sent (.response status body) })
    (hend : (proxyHandler deps env fuel app req).ending = some e) :
    (∀ read r, call req.isStream none (.response status body) = .ok status read → e = .responded r →
      r = if SettlesRequest app status then .passedOn ep status read else .lastFailure ep status read) ∧
    (∀ message, call req.isStream none (.response status body) = .err message → e.answer = none) := by
  obtain ⟨ctx, s, hprep⟩ := proxyHandler_prepared (List.ne_nil_of_mem (List.mem_of_mem_getLast? hlast))
  unfold proxyHandler at hlast hend
  rw [hprep] at hlast hend
  have hstart := (prepare_entered hprep).unanswered henv
  have hretry := (prepare_entered hprep).retry
  obtain rfl := (prepare_entered hprep).req_eq
  have hrun : (retryLoop deps env ctx fuel s).Sat (fun s' => s'.app.fail2ban.failPatterns = app.fail2ban.failPatterns)
      (AnswersAs ctx app.fail2ban) :=
    Loop.run_sat (fun j s hs => turn_answers (henv.2.2 j).1 (henv.2.2 j).2 hs) fuel 0 s hstart.patterns
  have hsettles : Settles ctx app.fail2ban status ↔ SettlesRequest app status := by
    unfold Settles SettlesRequest
    rw [hretry]
  dsimp only at hlast hend
  cases hloop : retryLoop deps env ctx fuel s with
  | next s' =>
    rw [hloop] at hend
    cases hend
  | exit s' e' =>
    rw [hloop] at hrun hlast hend
    cases hend
    have hanswers := hrun ep status body hlast
    simp only [hsettles] at hanswers
    exact hanswers

/-- **An answered run**: its response. -/
theorem proxyHandler_answers {deps : Externs} {env : Env} {fuel : Nat} {app : AppState} {req : ChatRequest}
    {ep : SelectedEndpoint} {status : Nat} {body : List Chunk} {bytes : List UInt8} {r : Response}
    (henv : env.KeepsPatterns) (h : AnsweredWith (proxyHandler deps env fuel app req) ep status body bytes r) :
    r = responseTo (SettlesRequest app status) req.isStream ep status body bytes :=
  (proxyHandler_last henv h.reply h.ending).1 _ r (call_given h.read) rfl

end AiRouter
