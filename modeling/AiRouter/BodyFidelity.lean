import AiRouter.Normalize
import AiRouter.StreamParity
import AiRouter.TpmAccounting

/-
# What the client gets of a whole body

Both handlers read the body of a non-streaming answer through `to_bytes(.., 1 MiB)` and put back what
they have read. A body that is longer comes out as no bytes, and so does the usage it states.
-/
namespace AiRouter

/-! ## The serializer -/

/-- `serde_json::to_vec`, and what is relied on of it and of `from_slice`. -/
structure SerdeJson (deps : Externs) (toVec : Json → Option (List UInt8)) : Prop where
  /-- the empty text is no JSON -/
  empty : deps.fromSlice [] = none
  /-- a value can always be written, and never as the empty text -/
  total : ∀ json, ∃ bytes, toVec json = some bytes ∧ bytes ≠ []

/-- The body put back (handler.rs:662-665): the normalized JSON, or the bytes that were read. -/
def restoreBody (deps : Externs) (toVec : Json → Option (List UInt8)) (requestedModel : String)
    (bytes : List UInt8) : List UInt8 :=
  (((deps.fromSlice bytes).map (normalizeOpenaiResponse · requestedModel)).bind toVec).getD bytes

/-- The body that `proxy_handler` answers with outside the Anthropic paths. The last failure is kept
as it came in `last_error_response`. -/
def Handler.clientBody (deps : Externs) (toVec : Json → Option (List UInt8)) (requestedModel : String) :
    Response → Option (List UInt8)
  | .passedOn _ _ body => some (restoreBody deps toVec requestedModel (toBytes body))
  | .lastFailure _ _ body => (readAll body).toOption
  | _ => none

/-- The body that `proxy_generic` answers with. -/
def Generic.clientBody : Response → Option (List UInt8)
  | .passedOn _ _ body => (readAll body).toOption
  | _ => none

section
variable (deps : Externs) (toVec : Json → Option (List UInt8)) (model : String) (ep : SelectedEndpoint)
  (status : Nat) (body : List Chunk)

@[simp] theorem Handler.clientBody_passedOn : Handler.clientBody deps toVec model (.passedOn ep status body)
    = some (restoreBody deps toVec model (toBytes body)) := rfl

@[simp] theorem Handler.clientBody_lastFailure : Handler.clientBody deps toVec model (.lastFailure ep status body)
    = (readAll body).toOption := rfl

@[simp] theorem Generic.clientBody_passedOn : Generic.clientBody (.passedOn ep status body)
    = (readAll body).toOption := rfl

end

/-! ## The property -/

/-- Unchanged where it is no JSON, otherwise the serialization of its normalized value. -/
def Renders (deps : Externs) (toVec : Json → Option (List UInt8)) (requestedModel : String)
    (bytes body : List UInt8) : Prop :=
  match deps.fromSlice bytes with
  | none => body = bytes
  | some json => toVec (normalizeOpenaiResponse json requestedModel) = some body

/-- The charges for real usage. -/
def postFact (ledger : List Charge) : List Charge := ledger.filter (·.phase = .postFact)

/-- The statistics end with a row of this usage. A last failure gets no row, so it may state none. -/
def Recorded (model team : String) (stats : StatsWriter) (usage : Usage) : Response → Prop
  | .passedOn ep status _ => ∃ before latencyMs hash now, stats = StatsWriter.recordRequest before model ep.url
      team usage.prompt usage.completion latencyMs status hash ep.costPrompt ep.costCompletion now
  | _ => usage = .zero

/-- `usage` is what the run charges and records for its response. -/
structure Accounted (auth : AuthContext) (cfg : AppConfig) (model epKey : String) (ep : SelectedEndpoint)
    (usage : Usage) (run : Run) (r : Response) : Prop where
  charged : postFact run.ledger = lateCharges auth.team auth.tokenKey epKey (teamTpm cfg auth.team) auth.tpm
    ep.endpointLimitsTpm usage.total
  recorded : Recorded model auth.team run.app.stats usage r

/-- The client gets the body as it should, and the usage charged and recorded is the one `bytes` states. -/
structure Handler.Faithful (deps : Externs) (toVec : Json → Option (List UInt8)) (app : AppState) (req : ChatRequest)
    (run : Run) (ep : SelectedEndpoint) (k : String) (bytes : List UInt8) (r : Response) : Prop where
  body : ∃ body, clientBody deps toVec req.modelName r = some body ∧ Renders deps toVec req.modelName bytes body
  accounted : Accounted req.auth run.app.config (app.config.canonicalModelName req.modelName) k ep
    (bodyUsage (deps.fromSlice bytes)) run r

/-- Likewise, the body byte for byte. -/
structure Generic.Faithful (deps : Externs) (env : GenericEnv) (app : AppState) (req : GenericRequest)
    (modelName : String) (run : Run) (ep : SelectedEndpoint) (k : String) (bytes : List UInt8) (r : Response) :
    Prop where
  body : clientBody r = some bytes
  accounted : Accounted req.auth (env.beforePick.config app.config) (app.config.canonicalModelName modelName) k ep
    (bodyUsage (deps.fromSlice bytes)) run r

/-- The endpoint has answered the run's last call with the whole body `bytes`, and `r` is the response. -/
structure Answered (run : Run) (ep : SelectedEndpoint) (epKey : String) (status : Nat) (bytes : List UInt8)
    (r : Response) : Prop where
  reply : ∃ body, run.trace.getLast? = some { endpoint := ep, step := .sent (.response status body) } ∧
    readAll body = .ok bytes
  ending : run.ending = some (.responded r)
  key : Handler.epKey ep.url ep.apiKey = .ok epKey

/-- Does a response with this status settle the request? (handler.rs:543) -/
def SettlesRequest (app : AppState) (status : Nat) : Prop :=
  status < 400 ∨ ¬ (app.config.fail2ban.retryOnFailure ∧ app.fail2ban.isFailStatus status)

/-- When `proxy_handler` is faithful: a body that settles the request has at most 1 MiB; one that is kept
as the last failure states no usage, and is no JSON or normalized as it stands. -/
structure Handler.Intact (deps : Externs) (toVec : Json → Option (List UInt8)) (app : AppState)
    (requestedModel : String) (status : Nat) (bytes : List UInt8) : Prop where
  short : SettlesRequest app status → bytes.length ≤ mebibyte
  kept : ¬ SettlesRequest app status → Renders deps toVec requestedModel bytes bytes ∧
    bodyUsage (deps.fromSlice bytes) = .zero

/-- The fail patterns of a breaker are never written. -/
def Others.KeepsPatterns (o : Others) : Prop := ∀ fb, (o.fail2ban fb).failPatterns = fb.failPatterns

def Env.KeepsPatterns (env : Env) : Prop :=
  env.beforePick.KeepsPatterns ∧ env.beforeLimits.KeepsPatterns ∧
    ∀ k, (env.turn k).before.KeepsPatterns ∧ (env.turn k).during.KeepsPatterns

/-! ## Reading and putting back -/

@[simp] theorem readAll_singleton (bytes : List UInt8) : readAll [.ok bytes] = .ok bytes := by
  simp [readAll, Except.map]

theorem toBytes_short {body : List Chunk} {bytes : List UInt8} (h : readAll body = .ok bytes)
    (hlen : bytes.length ≤ mebibyte) : toBytes body = bytes := by
  unfold toBytes
  rw [h]
  exact if_pos hlen

theorem toBytes_long {body : List Chunk} {bytes : List UInt8} (h : readAll body = .ok bytes)
    (hlen : mebibyte < bytes.length) : toBytes body = [] := by
  unfold toBytes
  rw [h]
  exact if_neg (by omega)

theorem ne_nil_of_long {bytes : List UInt8} (hlen : mebibyte < bytes.length) : bytes ≠ [] := by
  rintro rfl
  exact absurd hlen (by decide)

section
variable {deps : Externs} {toVec : Json → Option (List UInt8)} (model : String) {bytes : List UInt8}

theorem restoreBody_renders (h : SerdeJson deps toVec) :
    Renders deps toVec model bytes (restoreBody deps toVec model bytes) := by
  unfold Renders restoreBody
  cases deps.fromSlice bytes with
  | none => rfl
  | some json =>
    obtain ⟨text, htext, _⟩ := h.total (normalizeOpenaiResponse json model)
    simp [htext]

theorem restoreBody_nil (h : SerdeJson deps toVec) : restoreBody deps toVec model [] = [] := by
  simp [restoreBody, h.empty]

/-- No body renders as nothing but the empty one. -/
theorem not_renders_nil (h : SerdeJson deps toVec) (hne : bytes ≠ []) : ¬ Renders deps toVec model bytes [] := by
  unfold Renders
  cases deps.fromSlice bytes with
  | none => exact fun heq => hne heq.symm
  | some json =>
    intro heq
    obtain ⟨text, htext, hnil⟩ := h.total (normalizeOpenaiResponse json model)
    rw [heq] at htext
    exact hnil (Option.some.inj htext).symm

end

/-! ## The ledger -/

theorem postFact_append (l l' : List Charge) : postFact (l ++ l') = postFact l ++ postFact l' :=
  List.filter_append _ _

@[simp] theorem postFact_reserve (key : String) (tpm : Nat) : postFact (reserve key tpm) = [] := by
  unfold reserve postFact
  split <;> simp

theorem postFact_late (key : String) (tpm total : Nat) : postFact (late key tpm total) = late key tpm total := by
  unfold late postFact
  split <;> simp

theorem postFact_lateCharges (team tokenKey epKey : String) (teamTpm tokenTpm endpointTpm total : Nat) :
    postFact (lateCharges team tokenKey epKey teamTpm tokenTpm endpointTpm total)
      = lateCharges team tokenKey epKey teamTpm tokenTpm endpointTpm total := by
  unfold lateCharges
  rw [postFact_append, postFact_append, postFact_late, postFact_late, postFact_late]

theorem lateCharges_zero (team tokenKey epKey : String) (teamTpm tokenTpm endpointTpm : Nat) :
    lateCharges team tokenKey epKey teamTpm tokenTpm endpointTpm Usage.zero.total = [] := by
  simp [lateCharges, late, Usage.total, Usage.zero, satAddU64]

/-! ## One round of the loop -/

theorem settles_of_patterns (ctx : LoopCtx) {fb fb' : Fail2ban} (h : fb'.failPatterns = fb.failPatterns)
    (status : Nat) : Settles ctx fb' status ↔ Settles ctx fb status := by
  unfold Settles Fail2ban.isFailStatus
  rw [h]

/-- What the round leaves that ends in an endpoint's answer. -/
def Delivers (deps : Externs) (ctx : LoopCtx) (fb : Fail2ban) (k : String) (ep : SelectedEndpoint) (status : Nat)
    (bytes : List UInt8) (s' : LoopState) (r : Response) : Prop :=
  if Settles ctx fb status then
    r = .passedOn ep status [.ok bytes] ∧
      postFact s'.ledger = lateCharges ctx.req.auth.team ctx.req.auth.tokenKey k
        (teamTpm s'.app.config ctx.req.auth.team) ctx.req.auth.tpm ep.endpointLimitsTpm
        (bodyUsage (deps.fromSlice (toBytes [.ok bytes]))).total ∧
      Recorded ctx.canonicalModel ctx.req.auth.team s'.app.stats
        (bodyUsage (deps.fromSlice (toBytes [.ok bytes]))) r
  else r = .lastFailure ep status [.ok bytes] ∧ postFact s'.ledger = []

/-- What holds before every round. -/
structure Unanswered (fb : Fail2ban) (s : LoopState) : Prop where
  patterns : s.app.fail2ban.failPatterns = fb.failPatterns
  uncharged : postFact s.ledger = []

/-- What holds after the last round. -/
def AnswersWhole (deps : Externs) (ctx : LoopCtx) (fb : Fail2ban) (s' : LoopState) (e : Ending) : Prop :=
  ∀ ep status body bytes r, s'.trace.getLast? = some { endpoint := ep, step := .sent (.response status body) } →
    readAll body = .ok bytes → e = .responded r →
    ∃ k, Handler.epKey ep.url ep.apiKey = .ok k ∧ Delivers deps ctx fb k ep status bytes s' r

section
variable {deps : Externs} {ctx : LoopCtx} {t : Turn} {s : LoopState} {k : String} {fb : Fail2ban}

theorem finish_records (s : LoopState) (deps : Externs) (k : String) (hstream : ctx.req.isStream = false)
    (hanthropic : ctx.req.isAnthropic = false) (status : Nat) (body : List Chunk) (startAt now : Nat) :
    Recorded ctx.canonicalModel ctx.req.auth.team (s.finish deps ctx k status body startAt now).app.stats
      (bodyUsage (deps.fromSlice (toBytes body))) (.passedOn s.current status body) := by
  unfold LoopState.finish
  dsimp only
  rw [if_neg (by simp [hstream])]
  simp only [hanthropic, Bool.false_eq_true, false_and, if_false]
  exact ⟨_, _, _, _, rfl⟩

theorem settle_delivers (hstream : ctx.req.isStream = false) (hanthropic : ctx.req.isAnthropic = false)
    (hs : Unanswered fb s) (status : Nat) (bytes : List UInt8) :
    (settle deps ctx t k s status [.ok bytes]).Sat (fun s' => postFact s'.ledger = [])
      (fun s' e => ∀ r, e = .responded r → Delivers deps ctx fb k s.current status bytes s' r) := by
  have hcurrent : (s.classified deps ctx t k status [.ok bytes]).current = s.current :=
    (chargeStream_frame deps ctx k s status [.ok bytes] t.doneAt).2.1
  have hledger : (s.classified deps ctx t k status [.ok bytes]).ledger = s.ledger := by
    have hcharge := chargeStream_ledger s deps ctx k status [.ok bytes] t.doneAt
    rw [if_neg (by simp [hstream]), List.append_nil] at hcharge
    exact hcharge
  have hset := settles_of_patterns ctx hs.patterns status
  rw [settle_eq]
  split
  · rename_i hsettles
    rintro r hr
    obtain rfl := Ending.responded.inj hr
    unfold Delivers
    rw [if_pos (hset.1 hsettles)]
    refine ⟨rfl, ?_, ?_⟩
    · rw [finish_ledger, LoopState.finish_config, hledger, hcurrent, if_neg (by simp [hstream]), postFact_append,
        hs.uncharged, List.nil_append, postFact_lateCharges]
    · have hrec := finish_records (s.classified deps ctx t k status [.ok bytes]) deps k hstream hanthropic status
        [.ok bytes] t.checkAt t.doneAt
      rwa [hcurrent] at hrec
  · rename_i hsettles
    refine (retry_ledger _ ctx k _).mono (fun s' h => ?_) (fun s' e h r hr => ?_)
    · rw [h]
      exact (congrArg postFact hledger).trans hs.uncharged
    · unfold Delivers
      rw [if_neg fun h => hsettles (hset.2 h)]
      obtain ⟨hl, ⟨p, rfl⟩ | rfl⟩ := h
      · cases hr
      · obtain rfl := Ending.responded.inj hr
        exact ⟨rfl, by rw [hl]; exact (congrArg postFact hledger).trans hs.uncharged⟩

theorem noteStatus_patterns (fb : Fail2ban) (k : String) (status now : Nat) :
    (fb.noteStatus k status now).failPatterns = fb.failPatterns := by
  unfold Fail2ban.noteStatus
  split <;> simp

theorem tryNext_patterns (h : s.app.fail2ban.failPatterns = fb.failPatterns) (giveUp : Response) :
    (s.tryNext ctx k giveUp).Sat (fun s' => s'.app.fail2ban.failPatterns = fb.failPatterns) (fun _ _ => True) :=
  (Loop.Flow.sat_of_state (tryNext_fail2ban s ctx k giveUp)).mono
    (fun _ h' => (congrArg Fail2ban.failPatterns h').trans h) (fun _ _ _ => trivial)

theorem settle_patterns (h : s.app.fail2ban.failPatterns = fb.failPatterns) (status : Nat) (body : List Chunk) :
    (settle deps ctx t k s status body).Sat (fun s' => s'.app.fail2ban.failPatterns = fb.failPatterns)
      (fun _ _ => True) :=
  (Loop.Flow.sat_of_state (settle_fail2ban status body)).mono
    (fun _ h' => (congrArg Fail2ban.failPatterns h').trans ((noteStatus_patterns _ _ _ _).trans h))
    (fun _ _ _ => trivial)

theorem callFailed_patterns (h : s.app.fail2ban.failPatterns = fb.failPatterns) (message : String) :
    (callFailed ctx t k s message).Sat (fun s' => s'.app.fail2ban.failPatterns = fb.failPatterns)
      (fun _ _ => True) :=
  (Loop.Flow.sat_of_state (callFailed_fail2ban message)).mono
    (fun _ h' => (congrArg Fail2ban.failPatterns h').trans
      ((Fail2ban.recordFailureWithCode_patterns _ _ _).trans h))
    (fun _ _ _ => trivial)

/-- Without streaming, a call comes to a status with the whole body, or it fails. -/
theorem call_whole (bodyError : Option String) (reply : Reply) :
    (∃ status body bytes, bodyError = none ∧ reply = .response status body ∧ readAll body = .ok bytes ∧
      call false bodyError reply = .ok status [.ok bytes]) ∨
    ((∃ message, call false bodyError reply = .err message) ∧
      ∀ status body bytes, bodyError = none → reply = .response status body → readAll body ≠ .ok bytes) := by
  cases bodyError with
  | some e => exact Or.inr ⟨⟨e, rfl⟩, fun _ _ _ h => by cases h⟩
  | none =>
    cases reply with
    | sendError e => exact Or.inr ⟨⟨e, rfl⟩, fun _ _ _ _ h => by cases h⟩
    | response status body =>
      cases hread : readAll body with
      | ok bytes => exact Or.inl ⟨status, body, bytes, rfl, rfl, hread, by simp only [call, hread]⟩
      | error e =>
        refine Or.inr ⟨⟨e, by simp only [call, hread]⟩, fun status' body' bytes _ h heq => ?_⟩
        cases h
        rw [hread] at heq
        cases heq

theorem sent_of_sendStep {reply : Reply} (h : sendStep ctx t = .sent reply) :
    ctx.req.bodyError = none ∧ t.reply = reply := by
  unfold sendStep at h
  by_cases hb : ctx.req.bodyError.isSome = true
  · rw [if_pos hb] at h
    cases h
  · rw [if_neg hb] at h
    exact ⟨Option.not_isSome_iff_eq_none.1 hb, VisitStep.sent.inj h⟩

theorem attempt_delivers (hd : t.during.KeepsPatterns) (hstream : ctx.req.isStream = false)
    (hanthropic : ctx.req.isAnthropic = false) (hkey : Handler.epKey s.current.url s.current.apiKey = .ok k)
    (hs : Unanswered fb s) :
    (attempt deps ctx t k s).Sat (Unanswered fb) (AnswersWhole deps ctx fb) := by
  -- the last visit is the one this round makes
  have hlast : ∀ {s' : LoopState} {ep status body}, VisitedAs (sendStep ctx t) s s' →
      s'.trace.getLast? = some { endpoint := ep, step := .sent (.response status body) } →
      ep = s.current ∧ ctx.req.bodyError = none ∧ t.reply = .response status body := by
    intro s' ep status body hvis hget
    rw [hvis, List.getLast?_concat] at hget
    obtain ⟨hep, hstep⟩ := Visit.mk.inj (Option.some.inj hget)
    exact ⟨hep.symm, sent_of_sendStep hstep⟩
  have hsending : Unanswered fb (s.sending ctx t) := ⟨(hd _).trans hs.patterns, hs.uncharged⟩
  have hvisited := Loop.Flow.sat_of_state (attempt_trace deps ctx t k s)
  rcases call_whole ctx.req.bodyError t.reply with ⟨status, body, bytes, hnone, hreply, hread, hcall⟩ | ⟨⟨message, hcall⟩, hno⟩
  · rw [← hstream] at hcall
    rw [attempt_of_ok s hcall] at hvisited ⊢
    refine ((settle_delivers hstream hanthropic hsending status bytes).and
      ((settle_patterns hsending.patterns status [.ok bytes]).and hvisited)).mono
      (fun s' h => ⟨h.2.1, h.1⟩) (fun s' e h ep status' body' bytes' r hget hread' hr => ?_)
    obtain ⟨rfl, _, hreply'⟩ := hlast h.2.2 hget
    rw [hreply] at hreply'
    cases hreply'
    rw [hread] at hread'
    cases hread'
    exact ⟨k, hkey, h.1 r hr⟩
  · rw [← hstream] at hcall
    rw [attempt_of_err s hcall] at hvisited ⊢
    refine ((callFailed_ledger message).and ((callFailed_patterns hsending.patterns message).and hvisited)).mono
      (fun s' h => ⟨h.2.1, by rw [h.1]; exact hs.uncharged⟩)
      (fun s' e h ep status body bytes r hget hread _ => ?_)
    obtain ⟨_, hnone, hreply⟩ := hlast h.2.2 hget
    exact absurd hread (hno status body bytes hnone hreply)

/-- **One round**: it charges nothing unless it ends in an answer, and then what `Delivers` says. -/
theorem turn_delivers (hb : t.before.KeepsPatterns) (hd : t.during.KeepsPatterns)
    (hstream : ctx.req.isStream = false) (hanthropic : ctx.req.isAnthropic = false) (hs : Unanswered fb s) :
    (turn deps ctx t s).Sat (Unanswered fb) (AnswersWhole deps ctx fb) := by
  have hpatterns : (t.before.fail2ban s.app.fail2ban).failPatterns = fb.failPatterns := (hb _).trans hs.patterns
  unfold turn
  dsimp only
  split
  · intro ep status body bytes r _ _ hr
    cases hr
  · rename_i k hkey
    have hbudgets := (endpointChecks_budgets s.current k t.checkAt
      { app := s.app.disturb t.before, ledger := s.ledger }).fail2ban
    split
    · rename_i rej hrej
      have hkept := endpointChecks_rejected_ledger hrej
      refine (LoopState.tryNext_sat _ ctx k _).and ((tryNext_ledger _ ctx k _).and
        (tryNext_patterns ((congrArg Fail2ban.failPatterns hbudgets).trans hpatterns) _)) |>.mono
        (fun s' h => ⟨h.2.2, ?_⟩) (fun s' e h ep status body bytes r hget _ _ => ?_)
      · rw [h.2.1]
        exact (congrArg postFact hkept).trans hs.uncharged
      · -- the last visit was turned away
        rw [h.1.trace] at hget
        unfold LoopState.visit at hget
        rw [List.getLast?_concat] at hget
        cases hget
    · rename_i hnone
      have hreserved := enters_endpointChecks s.current k t.checkAt _ hnone
      refine attempt_delivers hd hstream hanthropic hkey ⟨?_, ?_⟩
      · exact (congrArg Fail2ban.failPatterns hbudgets).trans hpatterns
      · refine (congrArg postFact hreserved).trans ?_
        rw [postFact_append, postFact_reserve, List.append_nil]
        exact hs.uncharged

end

/-! ## Before the loop -/

theorem collectBanned_patterns (now : Nat) : ∀ (eps : List EndpointConfig) (app : AppState)
    (bannedKeys : Finset String),
    (app.collectBanned now eps bannedKeys).1.fail2ban.failPatterns = app.fail2ban.failPatterns
  | [], _, _ => rfl
  | ep :: rest, app, bannedKeys => by
    simp only [AppState.collectBanned]
    split
    · rfl
    · rw [collectBanned_patterns now rest]
      exact Fail2ban.isBanned_patterns _ _

/-- Before the loop nothing is charged after the fact, whatever is reloaded meanwhile. -/
theorem Entered.unanswered {env : Env} {app : AppState} {req : ChatRequest} {ctx : LoopCtx} {s : LoopState}
    (henv : env.KeepsPatterns) (h : Entered env app req ctx s) : Unanswered app.fail2ban s := by
  obtain ⟨start, ⟨sticky, sync, rr, hstart⟩, hadmitted⟩ := h.admitted
  have hcharged : s.charged = _ := (congrArg Prod.fst hadmitted).symm
  have hpatterns : start.fail2ban.failPatterns = app.fail2ban.failPatterns := by
    rw [hstart]
    exact (henv.2.1 _).trans ((henv.1 _).trans (collectBanned_patterns _ _ _ _))
  constructor
  · have hchecks := (checkAllRateLimits_budgets app.config req.auth.team req.auth.tokenKey req.auth.rpm req.auth.tpm
      env.limitsAt { app := start, ledger := [] }).fail2ban
    rw [hadmitted] at hchecks
    exact (congrArg Fail2ban.failPatterns hchecks).trans hpatterns
  · have hledger := enters_rateChecks app.config req.auth.team req.auth.tokenKey req.auth.rpm req.auth.tpm env.limitsAt
      { app := start, ledger := [] } (congrArg Prod.snd hadmitted)
    refine (congrArg (fun c : Charged => postFact c.ledger) hcharged).trans ((congrArg postFact hledger).trans ?_)
    simp [postFact_append]

/-! ## A whole run -/

/-- **An answered run of `proxy_handler`**: what the client gets, what is charged and what is recorded. -/
theorem proxyHandler_delivers {deps : Externs} {env : Env} {fuel : Nat} {app : AppState} {req : ChatRequest}
    {ep : SelectedEndpoint} {k : String} {status : Nat} {bytes : List UInt8} {r : Response}
    (henv : env.KeepsPatterns) (hstream : req.isStream = false) (hanthropic : req.isAnthropic = false)
    (h : Answered (proxyHandler deps env fuel app req) ep k status bytes r) :
    ∃ ctx s', ctx.req = req ∧ ctx.canonicalModel = app.config.canonicalModelName req.modelName ∧
      (Settles ctx app.fail2ban status ↔ SettlesRequest app status) ∧
      (proxyHandler deps env fuel app req).app = s'.app ∧ (proxyHandler deps env fuel app req).ledger = s'.ledger ∧
      Delivers deps ctx app.fail2ban k ep status bytes s' r := by
  obtain ⟨⟨body, hlast, hread⟩, hend, hkey⟩ := h
  obtain ⟨ctx, s, hprep⟩ := proxyHandler_prepared (List.ne_nil_of_mem (List.mem_of_mem_getLast? hlast))
  unfold proxyHandler at hlast hend ⊢
  rw [hprep] at hlast hend ⊢
  have hentered := prepare_entered hprep
  have hreq := hentered.req_eq
  have hmodel := hentered.canonical
  have hretry := hentered.retry
  have hstart := hentered.unanswered henv
  have hrun : (retryLoop deps env ctx fuel s).Sat (Unanswered app.fail2ban)
      (AnswersWhole deps ctx app.fail2ban) :=
    Loop.run_sat (fun j s hs => turn_delivers (henv.2.2 j).1 (henv.2.2 j).2 (by rw [hreq]; exact hstream)
      (by rw [hreq]; exact hanthropic) hs) fuel 0 s hstart
  have hsettles : Settles ctx app.fail2ban status ↔ SettlesRequest app status := by
    unfold Settles SettlesRequest
    rw [hretry]
  dsimp only at hlast hend ⊢
  cases hloop : retryLoop deps env ctx fuel s with
  | next s' =>
    rw [hloop] at hend
    cases hend
  | exit s' e =>
    rw [hloop] at hrun hlast hend
    obtain ⟨k', hk', hdelivers⟩ := hrun ep status body bytes r hlast hread (Option.some.inj hend)
    rw [hkey] at hk'
    cases hk'
    exact ⟨ctx, s', hreq, hmodel, hsettles, rfl, rfl, hdelivers⟩

theorem whole_records (c : GenericCall) (deps : Externs) (s : Charged) (status : Nat) (body : List Chunk)
    (latencyMs now : Nat) :
    Recorded c.canonicalModel c.auth.team (c.whole deps s status body latencyMs now).1.app.stats
      (bodyUsage (deps.fromSlice (toBytes body))) (.passedOn c.endpoint status [.ok (toBytes body)]) := by
  refine ⟨s.app.stats, latencyMs, none, now, ?_⟩
  have hbudgets : (c.charge s (bodyUsage (deps.fromSlice (toBytes body))).total now).app.stats = s.app.stats := by
    obtain ⟨_, _, h⟩ := chargeUsage_budgets s c.auth.team c.auth.tokenKey c.epKey c.teamTpm c.auth.tpm
      c.endpoint.endpointLimitsTpm (bodyUsage (deps.fromSlice (toBytes body))).total now
    unfold GenericCall.charge
    rw [h]
  unfold GenericCall.whole Generic.classifyWhole GenericCall.noteRequest
  dsimp only
  rw [hbudgets]
  split <;> rfl

/-- **An answered run of `proxy_generic`.** -/
theorem proxyGeneric_delivers {deps : Externs} {env : GenericEnv} {app : AppState} {req : GenericRequest}
    {ep : SelectedEndpoint} {k modelName : String} {status : Nat} {bytes : List UInt8} {r : Response}
    (hbody : Generic.resolveBody app.config req.path req.body = .ok (modelName, false))
    (h : Answered (proxyGeneric deps env app req) ep k status bytes r) :
    ∃ body, readAll body = .ok bytes ∧ r = .passedOn ep status [.ok (toBytes body)] ∧
      Accounted req.auth (env.beforePick.config app.config) (app.config.canonicalModelName modelName) k ep
        (bodyUsage (deps.fromSlice (toBytes body))) (proxyGeneric deps env app req) r := by
  obtain ⟨⟨body, hlast, hread⟩, hend, hkey⟩ := h
  obtain ⟨c, s, modelName', isStream, rfl, hreply, hc⟩ := proxyGeneric_called (List.mem_of_mem_getLast? hlast)
  have hbody' := hc.body
  rw [hbody] at hbody'
  obtain ⟨rfl, rfl⟩ := Prod.mk.inj (Except.ok.inj hbody')
  have hkey' := hc.key
  rw [hkey] at hkey'
  obtain rfl := Except.ok.inj hkey'
  have hrun : proxyGeneric deps env app req = _ := hc.answered env.reply
  rw [← hreply] at hrun
  have hr : r = .passedOn c.endpoint status [.ok (toBytes body)] := by
    rw [hrun] at hend
    exact (Ending.responded.inj (Option.some.inj hend)).symm
  refine ⟨body, hread, hr, ?_, ?_⟩
  · have hbase := enters_rateChecks app.config req.auth.team req.auth.tokenKey req.auth.rpm req.auth.tpm
      env.limitsAt { app := app, ledger := [] } hc.limits
    rw [hrun]
    dsimp only
    rw [answer_ledger, postFact_append, hc.ledger, postFact_lateCharges, hc.auth, hc.teamTpm]
    refine (congrArg (postFact · ++ _) hbase).trans ?_
    simp [postFact_append, Generic.chargedTotal]
  · rw [hr, hrun, ← hc.auth, ← hc.model]
    exact whole_records c deps s status body _ _

/-! ## When a body arrives -/

theorem Handler.faithful_iff {deps : Externs} {toVec : Json → Option (List UInt8)} (hserde : SerdeJson deps toVec)
    {env : Env} {fuel : Nat} {app : AppState} {req : ChatRequest} {ep : SelectedEndpoint} {k : String} {status : Nat}
    {bytes : List UInt8} {r : Response} (henv : env.KeepsPatterns) (hstream : req.isStream = false)
    (hanthropic : req.isAnthropic = false)
    (h : Answered (proxyHandler deps env fuel app req) ep k status bytes r) :
    Handler.Faithful deps toVec app req (proxyHandler deps env fuel app req) ep k bytes r ↔
      Handler.Intact deps toVec app req.modelName status bytes := by
  obtain ⟨ctx, s', hreq, hmodel, hsettles, happ, hledger, hdelivers⟩ :=
    proxyHandler_delivers henv hstream hanthropic h
  unfold Delivers at hdelivers
  rw [hreq, hmodel] at hdelivers
  by_cases hset : SettlesRequest app status
  · rw [if_pos (hsettles.2 hset)] at hdelivers
    obtain ⟨rfl, hcharged, hrecorded⟩ := hdelivers
    have hsingle := readAll_singleton bytes
    constructor
    · rintro ⟨⟨body, hclient, hrenders⟩, _⟩
      refine ⟨fun _ => ?_, fun hnot => absurd hset hnot⟩
      by_contra hlong
      -- nothing is left of a body that is too long
      have hlost := toBytes_long hsingle (not_le.1 hlong)
      rw [Handler.clientBody_passedOn, hlost, restoreBody_nil _ hserde] at hclient
      rw [← Option.some.inj hclient] at hrenders
      exact not_renders_nil _ hserde (ne_nil_of_long (not_le.1 hlong)) hrenders
    · rintro ⟨hshort, _⟩
      have hkept := toBytes_short hsingle (hshort hset)
      rw [hkept] at hcharged hrecorded
      refine ⟨⟨_, rfl, ?_⟩, ?_, ?_⟩
      · rw [hkept]
        exact restoreBody_renders _ hserde
      · rw [hledger, happ]
        exact hcharged
      · rw [happ]
        exact hrecorded
  · rw [if_neg fun hs => hset (hsettles.1 hs)] at hdelivers
    obtain ⟨rfl, huncharged⟩ := hdelivers
    constructor
    · rintro ⟨⟨body, hclient, hrenders⟩, _, hrecorded⟩
      refine ⟨fun hs => absurd hs hset, fun _ => ⟨?_, hrecorded⟩⟩
      rw [Handler.clientBody_lastFailure, readAll_singleton] at hclient
      rwa [← Option.some.inj hclient] at hrenders
    · rintro ⟨_, hkept⟩
      obtain ⟨hrenders, hzero⟩ := hkept hset
      refine ⟨⟨bytes, ?_, hrenders⟩, ?_, hzero⟩
      · rw [Handler.clientBody_lastFailure, readAll_singleton]
        rfl
      · rw [hzero, lateCharges_zero, hledger]
        exact huncharged

theorem Generic.faithful_iff {deps : Externs} {env : GenericEnv} {app : AppState} {req : GenericRequest}
    {ep : SelectedEndpoint} {k modelName : String} {status : Nat} {bytes : List UInt8} {r : Response}
    (hbody : Generic.resolveBody app.config req.path req.body = .ok (modelName, false))
    (h : Answered (proxyGeneric deps env app req) ep k status bytes r) :
    Generic.Faithful deps env app req modelName (proxyGeneric deps env app req) ep k bytes r ↔
      bytes.length ≤ mebibyte := by
  obtain ⟨body, hread, rfl, haccounted⟩ := proxyGeneric_delivers hbody h
  have hclient : Generic.clientBody (.passedOn ep status [.ok (toBytes body)]) = some (toBytes body) := by
    rw [Generic.clientBody_passedOn, readAll_singleton]
    rfl
  constructor
  · rintro ⟨hbytes, _⟩
    rw [hclient] at hbytes
    by_contra hlong
    have hlost := toBytes_long hread (not_le.1 hlong)
    rw [hlost] at hbytes
    exact ne_nil_of_long (not_le.1 hlong) (Option.some.inj hbytes).symm
  · intro hshort
    have hkept := toBytes_short hread hshort
    rw [hkept] at haccounted hclient ⊢
    exact ⟨hclient, haccounted⟩

/-- **A whole body reaches the client, and is accounted for by the usage it states**, exactly where it is
short enough, and where it is no failure kept for last. -/
theorem body_faithful_iff {deps : Externs} {toVec : Json → Option (List UInt8)} (hserde : SerdeJson deps toVec) :
    (∀ (env : GenericEnv) (app : AppState) (req : GenericRequest) (ep : SelectedEndpoint) (k modelName : String)
      (status : Nat) (bytes : List UInt8) (r : Response),
      Generic.resolveBody app.config req.path req.body = .ok (modelName, false) →
      Answered (proxyGeneric deps env app req) ep k status bytes r →
      (Generic.Faithful deps env app req modelName (proxyGeneric deps env app req) ep k bytes r ↔
        bytes.length ≤ mebibyte)) ∧
    (∀ (env : Env) (fuel : Nat) (app : AppState) (req : ChatRequest) (ep : SelectedEndpoint) (k : String)
      (status : Nat) (bytes : List UInt8) (r : Response),
      env.KeepsPatterns → req.isStream = false → req.isAnthropic = false →
      Answered (proxyHandler deps env fuel app req) ep k status bytes r →
      (Handler.Faithful deps toVec app req (proxyHandler deps env fuel app req) ep k bytes r ↔
        Handler.Intact deps toVec app req.modelName status bytes)) :=
  ⟨fun _ _ _ _ _ _ _ _ _ hbody h => Generic.faithful_iff hbody h,
    fun _ _ _ _ _ _ _ _ _ henv hstream hanthropic h => Handler.faithful_iff hserde henv hstream hanthropic h⟩

/-! ## Answers of any length -/

/-- Whatever settles the request is passed on by the round that visits the endpoint. -/
theorem turn_passes_on (deps : Externs) {ctx : LoopCtx} {t : Turn} {s : LoopState} {reply : Reply} {status : Nat}
    (bytes : List UInt8) (hstream : ctx.req.isStream = false) (hvisit : visitStep ctx t s = .sent reply)
    (hset : status < 400) :
    ∃ s', turn deps ctx { t with reply := .response status [.ok bytes] } s
        = .exit s' (.responded (.passedOn s.current status [.ok bytes])) ∧
      s'.trace = s.trace ++ [{ endpoint := s.current, step := .sent (.response status [.ok bytes]) }] := by
  unfold visitStep at hvisit
  cases hkey : Handler.epKey s.current.url s.current.apiKey with
  | error p =>
    rw [hkey] at hvisit
    cases hvisit
  | ok k =>
    rw [hkey] at hvisit
    dsimp only at hvisit
    cases hchecks : (Gate.runAll (endpointChecks s.current k t.checkAt)
        { app := s.app.disturb t.before, ledger := s.ledger }).2 with
    | some rej =>
      rw [hchecks] at hvisit
      cases hvisit
    | none =>
      rw [hchecks] at hvisit
      obtain ⟨hnone, _⟩ := sent_of_sendStep hvisit
      have hcall : call ctx.req.isStream ctx.req.bodyError (.response status [.ok bytes]) = .ok status [.ok bytes] := by
        rw [hstream, hnone]
        simp only [call, readAll_singleton]
      have hstep : visitStep ctx { t with reply := .response status [.ok bytes] } s
          = .sent (.response status [.ok bytes]) := by
        unfold visitStep sendStep
        rw [hkey]
        dsimp only
        rw [hchecks, hnone]
        rfl
      have hturn : ∃ s', turn deps ctx { t with reply := .response status [.ok bytes] } s
          = .exit s' (.responded (.passedOn s.current status [.ok bytes])) := by
        have hset' : ∀ fb, Settles ctx fb status := fun _ => Or.inl hset
        unfold turn
        dsimp only [LoopState.charged]
        simp only [hkey, hchecks]
        rw [attempt_of_ok _ hcall, settle_eq, if_pos (hset' _)]
        exact ⟨_, rfl⟩
      obtain ⟨s', hturn⟩ := hturn
      have htrace := turn_trace deps ctx { t with reply := .response status [.ok bytes] } s
      rw [hturn, hstep] at htrace
      exact ⟨s', hturn, htrace⟩

/-! ## Two bodies -/

/-- `{"usage":{"prompt_tokens":5}}` -/
def promptText : List UInt8 := "\x7b\"usage\":\x7b\"prompt_tokens\":5\x7d\x7d".toUTF8.data.toList

/-- `{"model":"gpt-4","usage":{"prompt_tokens":5}}` -/
def normalizedText : List UInt8 :=
  "\x7b\"model\":\"gpt-4\",\"usage\":\x7b\"prompt_tokens\":5\x7d\x7d".toUTF8.data.toList

/-- A parser for the first. -/
def Externs.prompting : Externs where
  fromSlice bytes :=
    if bytes = promptText then some (.object [("usage", .object [("prompt_tokens", .unsigned 5)])]) else none
  fromLossy _ := none
  hashToken := id

/-- A serializer that writes the second. -/
def writeNormalized : Json → Option (List UInt8)
  | .object [("model", .string "gpt-4"), ("usage", .object [("prompt_tokens", .unsigned 5)])] => some normalizedText
  | _ => some "null".toUTF8.data.toList

theorem prompting_serde : SerdeJson .prompting writeNormalized := by
  refine ⟨rfl, fun json => ?_⟩
  unfold writeNormalized
  split
  · exact ⟨_, rfl, by decide⟩
  · exact ⟨_, rfl, by decide⟩

def limitedApp : AppState := startApp limitedConfig { counters := ∅ } [] { limiters := ∅ }

def bodyEnv (bytes : List UInt8) : Env := .quiet fun _ => { answeringTurn with reply := .response 200 [.ok bytes] }

def bodyGenericEnv (bytes : List UInt8) : GenericEnv :=
  { GenericEnv.answering with reply := .response 200 [.ok bytes] }

def embeddingRequest : GenericRequest where
  auth := limitedAuth
  path := "/v1/embeddings"
  body := .json (some "gpt-4") none

def limitedChat : ChatRequest := { singleRequest with auth := limitedAuth }

def limitedSelected : SelectedEndpoint :=
  EndpointConfig.selected ⟨"https://api.openai.com", "sk-upstream-1", some ⟨0, 1000⟩, none, 1⟩ 0 1

/-- A body of 45 bytes, through both handlers. -/
theorem short_body_is_faithful :
    Generic.Faithful .prompting (bodyGenericEnv promptText) limitedApp embeddingRequest "gpt-4"
        (proxyGeneric .prompting (bodyGenericEnv promptText) limitedApp embeddingRequest) limitedSelected
        "https://api.openai.com:sk-u...am-1" promptText (.passedOn limitedSelected 200 [.ok promptText]) ∧
      Handler.Faithful .prompting writeNormalized limitedApp limitedChat
        (proxyHandler .prompting (bodyEnv promptText) 1 limitedApp limitedChat) limitedSelected
        "https://api.openai.com:sk-u...am-1" promptText (.passedOn limitedSelected 200 [.ok promptText]) := by
  constructor
  · exact ((body_faithful_iff prompting_serde).1 (bodyGenericEnv promptText) limitedApp embeddingRequest
      limitedSelected _ "gpt-4" 200 promptText _ rfl ⟨⟨[.ok promptText], rfl, rfl⟩, rfl, rfl⟩).2 (by decide)
  · exact ((body_faithful_iff prompting_serde).2 (bodyEnv promptText) 1 limitedApp limitedChat limitedSelected
      _ 200 promptText _ ⟨fun _ => rfl, fun _ => rfl, fun _ => ⟨fun _ => rfl, fun _ => rfl⟩⟩ rfl rfl
      ⟨⟨[.ok promptText], rfl, rfl⟩, rfl, rfl⟩).2 ⟨fun _ => by decide, fun h => absurd (Or.inl (by decide)) h⟩

/-- One byte more than 1 MiB. -/
def longBody : List UInt8 := List.replicate (mebibyte + 1) 0

theorem longBody_length : longBody.length = mebibyte + 1 := List.length_replicate

/-- Whatever the body, `proxy_generic` passes on what it has read of it. -/
theorem generic_answers (bytes : List UInt8) :
    Answered (proxyGeneric .prompting (bodyGenericEnv bytes) limitedApp embeddingRequest) limitedSelected
      "https://api.openai.com:sk-u...am-1" 200 bytes (.passedOn limitedSelected 200 [.ok (toBytes [.ok bytes])]) := by
  have hv : { endpoint := limitedSelected, step := .sent (.response 200 [.ok promptText]) }
      ∈ (proxyGeneric .prompting (bodyGenericEnv promptText) limitedApp embeddingRequest).trace :=
    List.mem_singleton_self _
  obtain ⟨c, s, modelName, isStream, hend, _, hc⟩ := proxyGeneric_called hv
  have hbody := hc.body
  have hname : Generic.resolveBody limitedApp.config embeddingRequest.path embeddingRequest.body
      = .ok ("gpt-4", false) := rfl
  rw [hname] at hbody
  cases hbody
  have hrun' : proxyGeneric .prompting (bodyGenericEnv bytes) limitedApp embeddingRequest = _ :=
    hc.answered (.response 200 [.ok bytes])
  refine ⟨⟨[.ok bytes], ?_, readAll_singleton bytes⟩, ?_, rfl⟩
  · rw [hrun', ← hend]
    rfl
  · rw [hrun', ← hend]
    rfl

theorem prepare_turn (turn turn' : Nat → Turn) (app : AppState) (req : ChatRequest) :
    prepare (.quiet turn) app req = prepare (.quiet turn') app req := rfl

/-- Whatever the body, `proxy_handler` passes it on. -/
theorem handler_answers (bytes : List UInt8) :
    Answered (proxyHandler .prompting (bodyEnv bytes) 1 limitedApp limitedChat) limitedSelected
      "https://api.openai.com:sk-u...am-1" 200 bytes (.passedOn limitedSelected 200 [.ok bytes]) := by
  obtain ⟨ctx, s, hprep, hvisit, hstream, hcurrent, htrace⟩ : ∃ ctx s,
      prepare (.quiet fun _ => answeringTurn) limitedApp limitedChat = .ok (ctx, s) ∧
      visitStep ctx answeringTurn s = .sent answeringTurn.reply ∧ ctx.req.isStream = false ∧
      s.current = limitedSelected ∧ s.trace = [] := ⟨_, _, rfl, rfl, rfl, rfl, rfl⟩
  obtain ⟨s', hturn, hvisited⟩ := turn_passes_on .prompting bytes hstream hvisit (by decide : 200 < 400)
  rw [htrace, hcurrent, List.nil_append] at hvisited
  rw [hcurrent] at hturn
  have hrun : proxyHandler .prompting (bodyEnv bytes) 1 limitedApp limitedChat
      = { app := s'.app, ledger := s'.ledger, trace := s'.trace
          ending := some (.responded (.passedOn limitedSelected 200 [.ok bytes])) } := by
    have hloop : retryLoop .prompting (bodyEnv bytes) ctx 1 s
        = .exit s' (.responded (.passedOn limitedSelected 200 [.ok bytes])) := by
      unfold retryLoop
      rw [Loop.run_succ]
      have hround : turn .prompting ctx ((bodyEnv bytes).turn 0) s
          = .exit s' (.responded (.passedOn limitedSelected 200 [.ok bytes])) := hturn
      rw [hround]
    unfold proxyHandler
    rw [show prepare (bodyEnv bytes) limitedApp limitedChat = .ok (ctx, s) from
      (prepare_turn _ _ _ _).trans hprep]
    dsimp only
    rw [hloop]
    rfl
  refine ⟨⟨[.ok bytes], ?_, readAll_singleton bytes⟩, ?_, rfl⟩
  · rw [hrun]
    dsimp only
    rw [hvisited]
    rfl
  · rw [hrun]

/-- The client gets nothing of a body of 1 MiB and a byte, from either handler. -/
theorem long_body_is_lost :
    (∃ r, Answered (proxyGeneric .prompting (bodyGenericEnv longBody) limitedApp embeddingRequest) limitedSelected
        "https://api.openai.com:sk-u...am-1" 200 longBody r ∧ Generic.clientBody r = some [] ∧
      ¬ Generic.Faithful .prompting (bodyGenericEnv longBody) limitedApp embeddingRequest "gpt-4"
        (proxyGeneric .prompting (bodyGenericEnv longBody) limitedApp embeddingRequest) limitedSelected
        "https://api.openai.com:sk-u...am-1" longBody r) ∧
    ∃ r, Answered (proxyHandler .prompting (bodyEnv longBody) 1 limitedApp limitedChat) limitedSelected
        "https://api.openai.com:sk-u...am-1" 200 longBody r ∧
      Handler.clientBody .prompting writeNormalized "gpt-4" r = some [] ∧
      ¬ Handler.Faithful .prompting writeNormalized limitedApp limitedChat
        (proxyHandler .prompting (bodyEnv longBody) 1 limitedApp limitedChat) limitedSelected
        "https://api.openai.com:sk-u...am-1" longBody r := by
  have hlong : mebibyte < longBody.length := by rw [longBody_length]; omega
  have hlost := toBytes_long (readAll_singleton longBody) hlong
  have hgeneric := generic_answers longBody
  have hhandler := handler_answers longBody
  refine ⟨⟨_, hgeneric, ?_, fun h => ?_⟩, _, hhandler, ?_, fun h => ?_⟩
  · rw [Generic.clientBody_passedOn, hlost]
    rfl
  · exact absurd ((Generic.faithful_iff rfl hgeneric).1 h) (not_le.2 hlong)
  · rw [Handler.clientBody_passedOn, hlost, restoreBody_nil _ prompting_serde]
  · have hintact := (Handler.faithful_iff prompting_serde
      ⟨fun _ => rfl, fun _ => rfl, fun _ => ⟨fun _ => rfl, fun _ => rfl⟩⟩ rfl rfl hhandler).1 h
    exact absurd (hintact.short (Or.inl (by decide))) (not_le.2 hlong)

end AiRouter
