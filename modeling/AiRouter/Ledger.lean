import AiRouter.HandlerSpec

/-
# What a request enters in the ledger

Every check that lets the request through reserves one token of the bucket it is about, where that
has a limit; the answer charges the rest. The ledger of a run is therefore the reservations of the
team and of the token, one for each endpoint that was let through, and the late charges.
-/
namespace AiRouter

/-- The reservation of an admitted check. -/
def reserve (key : String) (tpm : Nat) : List Charge :=
  if 0 < tpm then [⟨key, .reservation, 1⟩] else []

/-- A charge for real usage to one bucket, of which one token is reserved. -/
def late (key : String) (tpm total : Nat) : List Charge :=
  if 0 < tpm ∧ 1 < total then [⟨key, .postFact, total - 1⟩] else []

/-- The charges for real usage. -/
def lateCharges (team tokenKey epKey : String) (teamTpm tokenTpm endpointTpm total : Nat) : List Charge :=
  late (teamKey team) teamTpm total ++ late tokenKey tokenTpm total ++ late (epRlKey epKey) endpointTpm total

/-- What the visit of an endpoint reserves: nothing unless its limits let it through. -/
def Visit.reservation (v : Visit) : List Charge :=
  match v.step, Handler.epKey v.endpoint.url v.endpoint.apiKey with
  | .sent _, .ok epKey => reserve (epRlKey epKey) v.endpoint.endpointLimitsTpm
  | .unsent, .ok epKey => reserve (epRlKey epKey) v.endpoint.endpointLimitsTpm
  | _, _ => []

/-! ## Checks -/

/-- Passing the checks `gs` enters `entries`. -/
def Enters (gs : List (Gate.Check Charged Rejection)) (entries : List Charge) : Prop :=
  ∀ c : Charged, (Gate.runAll gs c).2 = none → (Gate.runAll gs c).1.ledger = c.ledger ++ entries

theorem Enters.nil : Enters [] [] := fun c _ => (List.append_nil c.ledger).symm

theorem Enters.append {gs hs : List (Gate.Check Charged Rejection)} {es fs : List Charge}
    (hg : Enters gs es) (hh : Enters hs fs) : Enters (gs ++ hs) (es ++ fs) := by
  intro c hnone
  obtain ⟨hfirst, hsecond, hstate⟩ := Gate.runAll_append_admitted hnone
  rw [hstate, hh _ hsecond, hg c hfirst, List.append_assoc]

/-- A check that is made only sometimes. -/
theorem Enters.opt {g : Gate.Check Charged Rejection} {es : List Charge} (b : Prop) [Decidable b]
    (hg : Enters [g] es) (hnot : ¬ b → es = []) : Enters (if b then [g] else []) es := by
  split
  · exact hg
  · rename_i hb
    rw [hnot hb]
    exact .nil

theorem enters_sharedCheck (scope key : String) (limit now : Nat) (label : String) :
    Enters [sharedCheck scope key limit now label] [] := by
  intro c _
  rw [Gate.runAll_cons, List.append_nil]
  split <;> rfl

theorem localCheck_passes {key : String} {rpm tpm : Nat} {scope : RateLimitScope} {now : Nat} {label : String}
    {c : Charged} (h : (localCheck key rpm tpm scope now label c).2 = none) :
    (c.app.limiters.check key rpm tpm 1 scope now).2.allowed = true := by
  unfold localCheck Charged.checkLocal at h
  dsimp only at h
  split at h
  · assumption
  · cases h

theorem enters_localCheck (key : String) (rpm tpm : Nat) (scope : RateLimitScope) (now : Nat)
    (label : String) : Enters [localCheck key rpm tpm scope now label] (reserve key tpm) := by
  intro c hnone
  rw [Gate.runAll_singleton] at hnone ⊢
  have hallowed := localCheck_passes hnone
  simp only [localCheck, Charged.checkLocal, hallowed, reserve, Nat.one_pos, true_and, and_true]
  split
  · rfl
  · rw [List.append_nil]

/-- **Admission** of a request reserves a token of the team's and of the token's own budget. -/
theorem enters_rateChecks (cfg : AppConfig) (team tokenKey : String) (tokenRpm tokenTpm now : Nat) :
    Enters (rateChecks cfg team tokenKey tokenRpm tokenTpm now)
      (reserve (teamKey team) (teamTpm cfg team) ++ reserve tokenKey tokenTpm) := by
  have hteam := (Enters.opt (0 < teamRpm cfg team)
    (enters_sharedCheck "team" (teamKey team) (teamRpm cfg team) now ("Team '" ++ team ++ "' (shared)"))
    fun _ => rfl).append (Enters.opt (0 < teamRpm cfg team ∨ 0 < teamTpm cfg team)
      (enters_localCheck (teamKey team) (teamRpm cfg team) (teamTpm cfg team) .token now ("Team '" ++ team ++ "'"))
      fun hnot => if_neg fun htpm => hnot (Or.inr htpm))
  have htoken := (hteam.append (Enters.opt (0 < tokenRpm)
    (enters_sharedCheck "token" tokenKey tokenRpm now "Token (shared)") fun _ => rfl)).append
      (enters_localCheck tokenKey tokenRpm tokenTpm .token now "Token")
  rwa [List.nil_append, List.append_nil] at htoken

/-- **An endpoint's limits** reserve a token of its budget. -/
theorem enters_endpointChecks (ep : SelectedEndpoint) (epKey : String) (now : Nat) :
    Enters (endpointChecks ep epKey now) (reserve (epRlKey epKey) ep.endpointLimitsTpm) := by
  have hchecks := (Enters.opt (0 < ep.endpointLimitsRpm)
    (enters_sharedCheck "ep" epKey ep.endpointLimitsRpm now "Endpoint (shared)") fun _ => rfl).append
      (Enters.opt (0 < ep.endpointLimitsRpm ∨ 0 < ep.endpointLimitsTpm)
        (enters_localCheck (epRlKey epKey) ep.endpointLimitsRpm ep.endpointLimitsTpm .endpoint now "Endpoint")
        fun hnot => if_neg fun htpm => hnot (Or.inr htpm))
  rwa [List.nil_append] at hchecks

theorem localCheck_rejected_ledger {key : String} {rpm tpm now : Nat} {scope : RateLimitScope}
    {label : String} {c : Charged} {rej : Rejection}
    (h : (Gate.runAll [localCheck key rpm tpm scope now label] c).2 = some rej) :
    (Gate.runAll [localCheck key rpm tpm scope now label] c).1.ledger = c.ledger := by
  rw [Gate.runAll_cons] at h ⊢
  cases hcheck : (localCheck key rpm tpm scope now label c).2 with
  | none => rw [hcheck] at h; cases h
  | some r =>
    unfold localCheck Charged.checkLocal at hcheck ⊢
    dsimp only at hcheck ⊢
    split at hcheck
    · cases hcheck
    · rename_i hno
      exact if_neg fun hand => hno hand.1

/-- An endpoint whose limits reject has reserved nothing: its own check is the last one. -/
theorem endpointChecks_rejected_ledger {ep : SelectedEndpoint} {epKey : String} {now : Nat} {c : Charged}
    {rej : Rejection} (h : (Gate.runAll (endpointChecks ep epKey now) c).2 = some rej) :
    (Gate.runAll (endpointChecks ep epKey now) c).1.ledger = c.ledger := by
  have hown : ∀ {c : Charged}, (Gate.runAll (if 0 < ep.endpointLimitsRpm ∨ 0 < ep.endpointLimitsTpm then
        [localCheck (epRlKey epKey) ep.endpointLimitsRpm ep.endpointLimitsTpm .endpoint now "Endpoint"]
      else []) c).2 = some rej →
      (Gate.runAll (if 0 < ep.endpointLimitsRpm ∨ 0 < ep.endpointLimitsTpm then
        [localCheck (epRlKey epKey) ep.endpointLimitsRpm ep.endpointLimitsTpm .endpoint now "Endpoint"]
      else []) c).1.ledger = c.ledger := by
    intro c hc
    split at hc
    · rename_i hlimited
      rw [if_pos hlimited]
      exact localCheck_rejected_ledger hc
    · cases hc
  unfold endpointChecks at h ⊢
  by_cases hrpm : 0 < ep.endpointLimitsRpm
  · rw [if_pos hrpm, List.singleton_append, Gate.runAll_cons] at h ⊢
    cases hshared : (sharedCheck "ep" epKey ep.endpointLimitsRpm now "Endpoint (shared)" c).2 with
    | some r => rfl
    | none =>
      rw [hshared] at h
      exact hown h
  · rw [if_neg hrpm, List.nil_append] at h ⊢
    exact hown h

/-! ## Charges -/

theorem consume_ledger (c : Charged) (key : String) (tpm total now : Nat) (h : 1 < total) :
    (c.consume key tpm (total - 1) now).ledger = c.ledger ++ late key tpm total := by
  unfold Charged.consume late
  by_cases htpm : 0 < tpm
  · rw [if_pos htpm, if_pos (show 0 < tpm ∧ 1 < total from ⟨htpm, h⟩)]
    exact if_neg (by omega)
  · rw [if_neg htpm, if_neg fun hand => htpm hand.1, List.append_nil]

/-- **The charge for real usage** enters the late charges. -/
theorem chargeUsage_ledger (c : Charged) (team tokenKey epKey : String)
    (teamTpm tokenTpm endpointTpm total now : Nat) :
    (chargeUsage c team tokenKey epKey teamTpm tokenTpm endpointTpm total now).ledger
      = c.ledger ++ lateCharges team tokenKey epKey teamTpm tokenTpm endpointTpm total := by
  unfold chargeUsage
  split
  · rename_i h
    rw [consume_ledger _ _ _ _ _ h, consume_ledger _ _ _ _ _ h, consume_ledger _ _ _ _ _ h]
    simp only [lateCharges, List.append_assoc]
  · rename_i h
    have hnone : ∀ key tpm, late key tpm total = [] := fun key tpm => if_neg fun hand => h hand.2
    simp only [lateCharges, hnone, List.append_nil]

/-! ## Answers -/

/-- The usage that `proxy_handler` charges for an answer that settles the request: that of a stream
only where the answer is a success. -/
def chargedTotal (deps : Externs) (isStream : Bool) (status : Nat) (body : List Chunk) : Nat :=
  if isStream then
    if isSuccess status then (Handler.streamUsage deps body).total else 0
  else (bodyUsage (deps.fromSlice (toBytes body))).total

/-- What `proxy_handler` charges late for its answer. -/
def Answer.late (deps : Externs) (ctx : LoopCtx) (epKey : String) (a : Answer) : List Charge :=
  if a.settled then
    lateCharges ctx.req.auth.team ctx.req.auth.tokenKey epKey ctx.teamTpm ctx.req.auth.tpm
      a.endpoint.endpointLimitsTpm (chargedTotal deps ctx.req.isStream a.status a.body)
  else []

/-! ## One round of the loop -/

section
variable {deps : Externs} {ctx : LoopCtx} {t : Turn} {s : LoopState} {epKey : String}

theorem tryNext_ledger (s : LoopState) (ctx : LoopCtx) (epKey : String) (giveUp : Response) :
    (s.tryNext ctx epKey giveUp).Sat (fun s' => s'.ledger = s.ledger)
      (fun s' e => s'.ledger = s.ledger ∧ ((∃ p, e = .panicked p) ∨ e = .responded giveUp)) := by
  unfold LoopState.tryNext
  dsimp only
  split
  · exact ⟨rfl, Or.inl ⟨_, rfl⟩⟩
  · exact rfl
  · exact ⟨rfl, Or.inr rfl⟩

theorem retry_ledger (s : LoopState) (ctx : LoopCtx) (epKey : String) (response : Response) :
    (s.retry ctx epKey response).Sat (fun s' => s'.ledger = s.ledger)
      (fun s' e => s'.ledger = s.ledger ∧ ((∃ p, e = .panicked p) ∨ e = .responded response)) :=
  tryNext_ledger { s with lastError := some response } ctx epKey response

theorem chargeStream_ledger (s : LoopState) (deps : Externs) (ctx : LoopCtx) (epKey : String)
    (status : Nat) (body : List Chunk) (now : Nat) :
    (s.chargeStream deps ctx epKey status body now).ledger = s.ledger ++
      if ctx.req.isStream ∧ isSuccess status then
        lateCharges ctx.req.auth.team ctx.req.auth.tokenKey epKey ctx.teamTpm ctx.req.auth.tpm
          s.current.endpointLimitsTpm (Handler.streamUsage deps body).total
      else [] := by
  unfold LoopState.chargeStream
  split
  · exact chargeUsage_ledger _ _ _ _ _ _ _ _ _
  · rw [List.append_nil]

theorem finish_ledger (s : LoopState) (deps : Externs) (ctx : LoopCtx) (epKey : String) (status : Nat)
    (body : List Chunk) (startAt now : Nat) :
    (s.finish deps ctx epKey status body startAt now).ledger = s.ledger ++
      if ctx.req.isStream then []
      else lateCharges ctx.req.auth.team ctx.req.auth.tokenKey epKey (teamTpm s.app.config ctx.req.auth.team)
        ctx.req.auth.tpm s.current.endpointLimitsTpm (bodyUsage (deps.fromSlice (toBytes body))).total := by
  unfold LoopState.finish
  dsimp only
  split
  · rw [List.append_nil]
  · exact chargeUsage_ledger _ _ _ _ _ _ _ _ _

/-- **An answer** is charged once, early for a stream and late for a whole body. -/
theorem settle_ledger (hteam : ctx.teamTpm = teamTpm s.app.config ctx.req.auth.team) (status : Nat)
    (body : List Chunk) :
    (settle deps ctx t epKey s status body).Sat (fun s' => s'.ledger = s.ledger)
      (fun s' e => ∀ a, e.answer = some a →
        a.endpoint = s.current ∧ s'.ledger = s.ledger ++ a.late deps ctx epKey) := by
  have hframe := chargeStream_frame deps ctx epKey s status body t.doneAt
  have hconfig := classified_config deps ctx t epKey s status body
  have hledger : (s.classified deps ctx t epKey status body).ledger
      = (s.chargeStream deps ctx epKey status body t.doneAt).ledger := rfl
  have hcurrent : (s.classified deps ctx t epKey status body).current = s.current := hframe.2.1
  rw [settle_eq]
  split
  · rintro a ha
    obtain rfl := Option.some.inj ha
    refine ⟨rfl, ?_⟩
    dsimp only [Answer.late]
    rw [finish_ledger, hconfig, hledger, hcurrent, ← hteam, chargeStream_ledger]
    unfold chargedTotal
    by_cases hstream : ctx.req.isStream = true
    · by_cases hok : isSuccess status = true
      · simp only [hstream, hok, and_self, if_true, List.append_nil]
      · have hnone : ∀ key tpm, late key tpm 0 = [] := fun _ _ => if_neg fun hand => by omega
        simp only [hstream, hok, Bool.false_eq_true, and_false, if_false, if_true, List.append_nil, lateCharges,
          hnone]
    · simp only [hstream, Bool.false_eq_true, false_and, if_false, if_true, List.append_nil]
  · rename_i hset
    have hkept : (s.classified deps ctx t epKey status body).ledger = s.ledger := by
      -- a failure is no success
      have hfail : ¬ (ctx.req.isStream = true ∧ isSuccess status = true) := by
        rintro ⟨_, hok⟩
        unfold Settles at hset
        simp only [isSuccess, Bool.and_eq_true, decide_eq_true_eq] at hok
        exact hset (Or.inl (by omega))
      rw [hledger, chargeStream_ledger, if_neg hfail, List.append_nil]
    refine (retry_ledger _ ctx epKey _).mono (fun s' h => h.trans hkept) (fun s' e h a ha => ?_)
    obtain ⟨hl, ⟨p, rfl⟩ | rfl⟩ := h
    · cases ha
    · obtain rfl := Option.some.inj ha
      exact ⟨rfl, by rw [hl]; exact hkept.trans (List.append_nil _).symm⟩

theorem callFailed_ledger (message : String) :
    (callFailed ctx t epKey s message).Sat (fun s' => s'.ledger = s.ledger)
      (fun _ e => e.answer = none) := by
  unfold callFailed
  dsimp only
  split
  · refine (retry_ledger _ ctx epKey _).mono (fun s' h => h) (fun s' e h => ?_)
    obtain ⟨_, ⟨p, rfl⟩ | rfl⟩ := h
    · rfl
    · rfl
  · rfl

/-- A call that comes to a status was sent. -/
theorem call_ok {isStream : Bool} {bodyError : Option String} {reply : Reply} {status : Nat}
    {body : List Chunk} (h : call isStream bodyError reply = .ok status body) : bodyError = none := by
  cases bodyError with
  | none => rfl
  | some e => cases isStream <;> cases h

/-- What the streaming branch returns from inside is no answer. -/
theorem call_returned {isStream : Bool} {bodyError : Option String} {reply : Reply} {r : Response}
    (h : call isStream bodyError reply = .returned r) : (Ending.responded r).answer = none := by
  unfold call at h
  split at h
  · cases h; rfl
  · cases h; rfl
  · cases h
  · cases h
  · cases h
  · split at h <;> cases h

theorem attempt_ledger (hd : t.during.KeepsConfig)
    (hteam : ctx.teamTpm = teamTpm s.app.config ctx.req.auth.team) :
    (attempt deps ctx t epKey s).Sat (fun s' => s'.ledger = s.ledger)
      (fun s' e => ∀ a, e.answer = some a →
        a.endpoint = s.current ∧ sendStep ctx t = .sent t.reply ∧ s'.ledger = s.ledger ++ a.late deps ctx epKey) := by
  have hconfig : (s.app.disturb t.during).config = s.app.config := disturb_config hd
  rw [← hconfig] at hteam
  unfold attempt
  dsimp only
  split
  · rename_i r hcall
    intro a ha
    rw [call_returned hcall] at ha
    cases ha
  · rename_i status body hcall
    refine (settle_ledger hteam status body).mono (fun s' h => h) (fun s' e h a ha => ?_)
    have hsent : sendStep ctx t = .sent t.reply := by
      unfold sendStep
      rw [call_ok hcall]
      rfl
    exact ⟨(h a ha).1, hsent, (h a ha).2⟩
  · refine (callFailed_ledger _).mono (fun s' h => h) (fun s' e h a ha => ?_)
    rw [h] at ha
    cases ha

/-- An endpoint that is let through reserves, whether the request is then sent or not. -/
theorem reservation_of_send (v : Visit) (hstep : v.step = sendStep ctx t)
    (hkey : Handler.epKey v.endpoint.url v.endpoint.apiKey = .ok epKey) :
    v.reservation = reserve (epRlKey epKey) v.endpoint.endpointLimitsTpm := by
  unfold Visit.reservation
  rw [hstep, hkey]
  unfold sendStep
  by_cases hb : ctx.req.bodyError.isSome = true
  · rw [if_pos hb]
  · rw [if_neg hb]

/-- **One round** enters the reservation of its visit and, where it ends in an answer, the late
charges for it. -/
theorem turn_ledger (hb : t.before.KeepsConfig) (hd : t.during.KeepsConfig)
    (hteam : ctx.teamTpm = teamTpm s.app.config ctx.req.auth.team) :
    (turn deps ctx t s).Sat
      (fun s' => ∃ v, s'.trace = s.trace ++ [v] ∧ s'.ledger = s.ledger ++ v.reservation)
      (fun s' e => ∀ a, e.answer = some a → ∃ k v, Handler.epKey a.endpoint.url a.endpoint.apiKey = .ok k ∧
        s'.trace = s.trace ++ [v] ∧ v.reservation = reserve (epRlKey k) a.endpoint.endpointLimitsTpm ∧
        s'.ledger = s.ledger ++ v.reservation ++ a.late deps ctx k) := by
  have hconfig : (s.app.disturb t.before).config = s.app.config := disturb_config hb
  unfold turn
  dsimp only
  split
  · intro a ha
    cases ha
  · rename_i epKey hkey
    have hchecks := (endpointChecks_budgets s.current epKey t.checkAt
      { app := s.app.disturb t.before, ledger := s.ledger }).config.trans hconfig
    split
    · rename_i rej hrej
      have hkept := endpointChecks_rejected_ledger hrej
      refine (LoopState.tryNext_sat _ ctx epKey _).and (tryNext_ledger _ ctx epKey _) |>.mono
        (fun s' h => ?_) (fun s' e h a ha => ?_)
      · exact ⟨_, h.1.trace, by rw [h.2]; exact hkept.trans (List.append_nil _).symm⟩
      · obtain ⟨_, _, ⟨p, rfl⟩ | rfl⟩ := h
        · cases ha
        · cases ha
    · rename_i hnone
      have hreserved := enters_endpointChecks s.current epKey t.checkAt _ hnone
      have hvisit := reservation_of_send { endpoint := s.current, step := sendStep ctx t } rfl hkey
      rw [← hchecks] at hteam
      refine (attempt_sat hd).and (attempt_ledger hd hteam) |>.mono (fun s' h => ?_) (fun s' e h a ha => ?_)
      · obtain ⟨⟨_, hvis, _⟩, hledger⟩ := h
        refine ⟨{ endpoint := s.current, step := sendStep ctx t }, hvis, ?_⟩
        rw [hledger, hvisit]
        exact hreserved
      · obtain ⟨⟨hvis, _⟩, hans⟩ := h
        obtain ⟨hend, _, hledger⟩ := hans a ha
        rw [hend]
        refine ⟨epKey, { endpoint := s.current, step := sendStep ctx t }, hkey, hvis, hvisit, ?_⟩
        rw [hledger, hvisit]
        exact congrArg (· ++ a.late deps ctx epKey) hreserved

/-! ## A whole run -/

/-- **Run**: the ledger of a run that ends in an answer. -/
theorem retryLoop_ledger {env : Env} (henv : env.KeepsConfig) {cfg : AppConfig} {base : List Charge}
    (hteam : ctx.teamTpm = teamTpm cfg ctx.req.auth.team) (hcfg : s.app.config = cfg)
    (hbase : s.ledger = base) (htrace : s.trace = []) (fuel : Nat) {a : Answer}
    (ha : (retryLoop deps env ctx fuel s).result.bind (·.answer) = some a) :
    ∃ k before v, Handler.epKey a.endpoint.url a.endpoint.apiKey = .ok k ∧
      (retryLoop deps env ctx fuel s).state.trace = before ++ [v] ∧
      v.reservation = reserve (epRlKey k) a.endpoint.endpointLimitsTpm ∧
      (retryLoop deps env ctx fuel s).state.ledger = base ++
        (retryLoop deps env ctx fuel s).state.trace.flatMap Visit.reservation ++ a.late deps ctx k := by
  have hround : ∀ j s, (s.app.config = cfg ∧ s.ledger = base ++ s.trace.flatMap Visit.reservation) →
      (turn deps ctx (env.turn j) s).Sat
        (fun s => s.app.config = cfg ∧ s.ledger = base ++ s.trace.flatMap Visit.reservation)
        (fun s e => ∀ a, e.answer = some a → ∃ k before v,
          Handler.epKey a.endpoint.url a.endpoint.apiKey = .ok k ∧ s.trace = before ++ [v] ∧
          v.reservation = reserve (epRlKey k) a.endpoint.endpointLimitsTpm ∧
          s.ledger = base ++ s.trace.flatMap Visit.reservation ++ a.late deps ctx k) := by
    rintro j s ⟨hcfg, hledger⟩
    obtain ⟨hb, hd⟩ := henv.2.2 j
    have hteam' : ctx.teamTpm = teamTpm s.app.config ctx.req.auth.team := by rw [hcfg]; exact hteam
    refine (turn_sat hb hd).and (turn_ledger hb hd hteam') |>.mono (fun s' h => ?_) (fun s' e h a ha => ?_)
    · obtain ⟨hon, v, htrace, hl⟩ := h
      refine ⟨hon.config.trans hcfg, ?_⟩
      rw [hl, hledger, htrace, List.flatMap_append, List.append_assoc]
      simp only [List.flatMap_singleton]
    · obtain ⟨_, hans⟩ := h
      obtain ⟨k, v, hk, htrace, hv, hl⟩ := hans a ha
      refine ⟨k, _, v, hk, htrace, hv, ?_⟩
      rw [hl, hledger, htrace, List.flatMap_append, ← List.append_assoc]
      simp only [List.flatMap_singleton]
  have hstart : s.app.config = cfg ∧ s.ledger = base ++ s.trace.flatMap Visit.reservation := by
    refine ⟨hcfg, ?_⟩
    rw [hbase, htrace, List.flatMap_nil, List.append_nil]
  have hrun := Loop.run_sat hround fuel 0 s hstart
  unfold retryLoop at ha ⊢
  generalize Loop.run (fun k => turn deps ctx (env.turn k)) fuel 0 s = flow at ha hrun
  cases flow with
  | next s' => cases ha
  | exit s' e => exact hrun a ha

end

end AiRouter
