import AiRouter.Mediation
import AiRouter.RpmWindow

/-
# The RPM limits over whole runs of the server

A request makes calls on the limiter store, and so do the requests, pages, reloads and cleanups beside it. From the
store at one time to the store at a later time there is a `Span` of such calls, and a request that gets past the
limits of its team, its token and its endpoints has been admitted by a call for each of them. So the whole is a
history of calls, and what a history admits bounds what the server lets through, to the requests beside it too.
-/
namespace AiRouter

/-- From the store `s` at `a` to the store `s'` at `b` by calls that have read an RPM of at most `rpm` for `key`.
Of the calls that take a cell, `cells` are the ones that are counted. -/
inductive Span (key : String) (rpm : Nat) : Nat → Nat → RateLimiterStore → RateLimiterStore →
    List (String × Nat) → Prop where
  | wait {a b : Nat} {s : RateLimiterStore} (le : a ≤ b) : Span key rpm a b s s []
  | call {a b : Nat} {s s' : RateLimiterStore} {cells : List (String × Nat)} (c : StoreCall) (now : a ≤ c.now)
      (limit : (c.limits key).rpm ≤ rpm) (rest : Span key rpm c.now b (c.apply s) s' cells) :
      Span key rpm a b s s' cells
  | cell {a b : Nat} {s s' : RateLimiterStore} {cells : List (String × Nat)} (c : StoreCall) (now : a ≤ c.now)
      (limit : (c.limits key).rpm ≤ rpm) {k : String} (admits : c.admits s = some k)
      (rest : Span key rpm c.now b (c.apply s) s' cells) : Span key rpm a b s s' ((k, c.now) :: cells)

namespace Span

variable {key : String} {rpm a b c now : Nat} {s s' s'' : RateLimiterStore} {cells cells' : List (String × Nat)}

theorem refl (now : Nat) (s : RateLimiterStore) : Span key rpm now now s s [] := .wait (le_refl now)

theorem le (h : Span key rpm a b s s' cells) : a ≤ b := by
  induction h with
  | wait hle => exact hle
  | call c hnow _ _ ih => exact hnow.trans ih
  | cell c hnow _ _ _ ih => exact hnow.trans ih

theorem earlier (h : Span key rpm b c s s' cells) (hle : a ≤ b) : Span key rpm a c s s' cells := by
  cases h with
  | wait hbc => exact .wait (hle.trans hbc)
  | call d hnow hlimit hrest => exact .call d (hle.trans hnow) hlimit hrest
  | cell d hnow hlimit hadmits hrest => exact .cell d (hle.trans hnow) hlimit hadmits hrest

theorem trans (h : Span key rpm a b s s' cells) (h' : Span key rpm b c s' s'' cells') :
    Span key rpm a c s s'' (cells ++ cells') := by
  induction h with
  | wait hle => exact h'.earlier hle
  | call d hnow hlimit _ ih => exact .call d hnow hlimit (ih h')
  | cell d hnow hlimit hadmits _ ih => exact .cell d hnow hlimit hadmits (ih h')

theorem later (h : Span key rpm a b s s' cells) (hle : b ≤ c) : Span key rpm a c s s' cells := by
  have hwait := h.trans (.wait hle)
  rwa [List.append_nil] at hwait

/-- Nothing need be counted. -/
theorem uncounted (h : Span key rpm a b s s' cells) : Span key rpm a b s s' [] := by
  induction h with
  | wait hle => exact .wait hle
  | call d hnow hlimit _ ih => exact .call d hnow hlimit ih
  | cell d hnow hlimit _ _ ih => exact .call d hnow hlimit ih

/-- What follows counts nothing. -/
theorem and_then (h : Span key rpm a b s s' cells) (h' : Span key rpm b c s' s'' []) :
    Span key rpm a c s s'' cells := by
  have hboth := h.trans h'
  rwa [List.append_nil] at hboth

/-- **The calls of a span** go on with any history, and have admitted all that is counted. -/
theorem history (h : Span key rpm a b s s' cells) : ∀ {past : RpmHistory}, past.store = s → past.clock ≤ a →
    ∃ calls, Steps.Every RpmHistory.step (RpmHistory.Within key rpm) past calls ∧
      (Steps.run RpmHistory.step past calls).store = s' ∧ (Steps.run RpmHistory.step past calls).clock ≤ b ∧
      ∃ taken, (Steps.run RpmHistory.step past calls).admitted = past.admitted ++ taken ∧ cells.Sublist taken := by
  induction h with
  | wait hle =>
    exact fun {past} hstore hclock => ⟨[], trivial, hstore, hclock.trans hle, [], (List.append_nil _).symm, .refl []⟩
  | @call a b s s' cells d hnow hlimit _ ih =>
    rintro past rfl hclock
    obtain ⟨calls, hevery, hstore, hb, taken, hadmitted, hcells⟩ := @ih (past.step d) rfl (le_refl _)
    refine ⟨d :: calls, ⟨⟨hclock.trans hnow, hlimit⟩, hevery⟩, hstore, hb,
      (d.admits past.store).toList.map (·, d.now) ++ taken, ?_, hcells.trans (List.sublist_append_right _ _)⟩
    rw [← List.append_assoc]
    exact hadmitted
  | @cell a b s s' cells d hnow hlimit k hadmits _ ih =>
    rintro past rfl hclock
    obtain ⟨calls, hevery, hstore, hb, taken, hadmitted, hcells⟩ := @ih (past.step d) rfl (le_refl _)
    refine ⟨d :: calls, ⟨⟨hclock.trans hnow, hlimit⟩, hevery⟩, hstore, hb, (k, d.now) :: taken, ?_, hcells.cons_cons _⟩
    have hstep : (past.step d).admitted = past.admitted ++ [(k, d.now)] := by
      unfold RpmHistory.step
      rw [hadmits]
      rfl
    rw [hstep, List.append_assoc] at hadmitted
    exact hadmitted

end Span

/-! ## Calls of the handlers -/

/-- The limits of a caller that has read those of one key. -/
def limitsFor (k : String) (l : LimitsConfig) : String → LimitsConfig :=
  Function.update (fun _ => { rpm := 0, tpm := 0 }) k l

section
variable {key : String} {rpm : Nat}

theorem limitsFor_self (k : String) (l : LimitsConfig) : limitsFor k l k = l := Function.update_self _ _ _

theorem limitsFor_le {k : String} {l : LimitsConfig} (h : k = key → l.rpm ≤ rpm) : (limitsFor k l key).rpm ≤ rpm := by
  unfold limitsFor
  by_cases hk : key = k
  · subst hk
    rw [Function.update_self]
    exact h rfl
  · rw [Function.update_of_ne hk]
    exact Nat.zero_le _

/-- The cell that an admitted check takes. -/
def cell (k : String) (r now : Nat) : List (String × Nat) := if 0 < r then [(k, now)] else []

/-- A row of checks at `now` is a span, and passing it takes `cells`. -/
def Takes (key : String) (rpm now : Nat) (gs : List (Gate.Check Charged Rejection)) (cells : List (String × Nat)) : Prop :=
  ∀ c : Charged, Span key rpm now now c.app.limiters (Gate.runAll gs c).1.app.limiters
    (if (Gate.runAll gs c).2.isNone then cells else [])

theorem Takes.nil (now : Nat) : Takes key rpm now [] [] := fun c => .refl now c.app.limiters

theorem Takes.append {now : Nat} {gs hs : List (Gate.Check Charged Rejection)} {cs ds : List (String × Nat)}
    (hg : Takes key rpm now gs cs) (hh : Takes key rpm now hs ds) : Takes key rpm now (gs ++ hs) (cs ++ ds) := by
  intro c
  have hfirst := hg c
  rw [Gate.runAll_append]
  cases hrej : (Gate.runAll gs c).2 with
  | some r =>
    rw [hrej] at hfirst
    exact hfirst
  | none =>
    rw [hrej] at hfirst
    have hsecond := hh (Gate.runAll gs c).1
    dsimp only
    split
    · rename_i hnone
      rw [if_pos hnone] at hsecond
      exact hfirst.trans hsecond
    · rename_i hsome
      rw [if_neg hsome] at hsecond
      exact hfirst.uncounted.trans hsecond

theorem Takes.opt {now : Nat} {g : Gate.Check Charged Rejection} {cs : List (String × Nat)} (p : Prop) [Decidable p]
    (hg : Takes key rpm now [g] cs) (hnot : ¬ p → cs = []) : Takes key rpm now (if p then [g] else []) cs := by
  split
  · exact hg
  · rename_i hp
    rw [hnot hp]
    exact .nil now

theorem takes_sharedCheck (scope k : String) (limit now : Nat) (label : String) :
    Takes key rpm now [sharedCheck scope k limit now label] [] := by
  intro c
  rw [ite_self, Gate.runAll_cons]
  split <;> exact .refl now _

/-- **A check** of the store is one call, and passing it takes a cell of a positive RPM. -/
theorem takes_localCheck {k : String} {r : Nat} (h : k = key → r ≤ rpm) (tpm now : Nat) (scope : RateLimitScope)
    (label : String) : Takes key rpm now [localCheck k r tpm scope now label] (cell k r now) := by
  intro c
  let call : StoreCall := ⟨limitsFor k { rpm := r, tpm := tpm }, .op (.check k 1 scope now)⟩
  have happly : call.apply c.app.limiters = (c.app.limiters.check k r tpm 1 scope now).1 := by
    change (c.app.limiters.check k (limitsFor k _ k).rpm (limitsFor k _ k).tpm 1 scope now).1 = _
    rw [limitsFor_self]
  have hafter : Span key rpm call.now now (call.apply c.app.limiters)
      (Gate.runAll [localCheck k r tpm scope now label] c).1.app.limiters [] := by
    have hlimiters : (Gate.runAll [localCheck k r tpm scope now label] c).1.app.limiters
        = (c.app.limiters.check k r tpm 1 scope now).1 := by
      rw [Gate.runAll_singleton]
      rfl
    rw [hlimiters, happly]
    exact .refl now _
  by_cases hcell : (Gate.runAll [localCheck k r tpm scope now label] c).2.isNone ∧ 0 < r
  · obtain ⟨hnone, hr⟩ := hcell
    rw [if_pos hnone]
    unfold cell
    rw [if_pos hr]
    refine .cell call (le_refl now) (limitsFor_le h) ?_ hafter
    have hallowed : (c.app.limiters.check k r tpm 1 scope now).2.allowed = true := by
      rw [Gate.runAll_singleton] at hnone
      exact localCheck_passes (Option.isNone_iff_eq_none.1 hnone)
    have hok := ((c.app.limiters.check_allowed r tpm 1 now scope).1 hallowed).1
    unfold StoreCall.admits
    have hchecks : call.checks = some (k, { rpm := r, tpm := tpm }) := by
      change (if 0 < (limitsFor k _ k).rpm then some (k, limitsFor k _ k) else none) = _
      rw [limitsFor_self, if_pos hr]
    rw [hchecks, Option.bind_some]
    exact if_pos (by rw [show call.now = now from rfl, hok]; rfl)
  · have hnothing : (if (Gate.runAll [localCheck k r tpm scope now label] c).2.isNone then cell k r now else []) = [] := by
      unfold cell
      split
      · rename_i hnone
        exact if_neg fun hr => hcell ⟨hnone, hr⟩
      · rfl
    rw [hnothing]
    exact .call call (le_refl now) (limitsFor_le h) hafter

theorem consume_span (c : Charged) (k : String) (tpm tokens now : Nat) :
    Span key rpm now now c.app.limiters (c.consume k tpm tokens now).app.limiters [] := by
  unfold Charged.consume
  split
  · refine .call ⟨limitsFor k { rpm := 0, tpm := tpm }, .op (.consumeTpm k tokens now)⟩ (le_refl now)
      (limitsFor_le fun _ => Nat.zero_le _) ?_
    change Span key rpm now now (c.app.limiters.consumeTpm k (limitsFor k _ k).tpm tokens now) _ []
    rw [limitsFor_self]
    exact .refl now _
  · exact .refl now _

theorem chargeUsage_span (c : Charged) (team tokenKey epKey : String) (teamTpm tokenTpm endpointTpm total now : Nat) :
    Span key rpm now now c.app.limiters
      (chargeUsage c team tokenKey epKey teamTpm tokenTpm endpointTpm total now).app.limiters [] := by
  unfold chargeUsage
  split
  · exact ((consume_span c _ _ _ now).trans (consume_span _ _ _ _ now)).trans (consume_span _ _ _ _ now)
  · exact .refl now _

theorem tpmRemaining_span (app : AppState) (k : String) (limit now : Nat) :
    Span key rpm now now app.limiters (app.tpmRemaining k limit now).1.limiters [] := by
  unfold AppState.tpmRemaining
  split
  · refine .call ⟨limitsFor k { rpm := 0, tpm := limit }, .op (.getTpmState k now)⟩ (le_refl now)
      (limitsFor_le fun _ => Nat.zero_le _) ?_
    change Span key rpm now now (app.limiters.getTpmState k (limitsFor k _ k).tpm now).1 _ []
    rw [limitsFor_self]
    exact .refl now _
  · exact .refl now _

end

/-! ## The limits of the configuration -/

/-- Whoever checks `key` reads an RPM of at most `rpm`. -/
structure AppConfig.CapsRpm (key : String) (rpm : Nat) (cfg : AppConfig) : Prop where
  token : ∀ auth, authenticate cfg key = some auth → auth.rpm ≤ rpm
  team : ∀ team, teamKey team = key → teamRpm cfg team ≤ rpm
  endpoint : ∀ m ∈ cfg.models, ∀ sel, Balancer.PickOf m sel → ∀ k, Handler.epKey sel.url sel.apiKey = .ok k →
    epRlKey k = key → sel.endpointLimitsRpm ≤ rpm

/-- Others make calls from `a` to `b`, and publish configurations that cap `key` too. -/
structure Others.Within (key : String) (rpm a b : Nat) (o : Others) : Prop where
  calls : ∀ s, Span key rpm a b s (o.limiters s) []
  caps : ∀ cfg : AppConfig, cfg.CapsRpm key rpm → (o.config cfg).CapsRpm key rpm

/-- From the state `app` at `a` to the state `app'` at `b`, under configurations that cap `key`. -/
structure Course (key : String) (rpm a b : Nat) (app app' : AppState) (cells : List (String × Nat)) : Prop where
  calls : Span key rpm a b app.limiters app'.limiters cells
  caps : app.config.CapsRpm key rpm → app'.config.CapsRpm key rpm

namespace Course

variable {key : String} {rpm a b c now : Nat} {app app' app'' : AppState} {cells cells' : List (String × Nat)}

/-- Whatever leaves the limiters and the configuration alone. -/
theorem idle (le : a ≤ b) (limiters : app'.limiters = app.limiters) (config : app'.config = app.config) :
    Course key rpm a b app app' [] := by
  refine ⟨?_, fun h => ?_⟩
  · rw [limiters]
    exact .wait le
  · rw [config]
    exact h

theorem refl (now : Nat) (app : AppState) : Course key rpm now now app app [] := .idle (le_refl now) rfl rfl

theorem earlier (h : Course key rpm b c app app' cells) (hle : a ≤ b) : Course key rpm a c app app' cells :=
  ⟨h.calls.earlier hle, h.caps⟩

theorem later (h : Course key rpm a b app app' cells) (hle : b ≤ c) : Course key rpm a c app app' cells :=
  ⟨h.calls.later hle, h.caps⟩

theorem trans (h : Course key rpm a b app app' cells) (h' : Course key rpm b c app' app'' cells') :
    Course key rpm a c app app'' (cells ++ cells') := ⟨h.calls.trans h'.calls, fun hcaps => h'.caps (h.caps hcaps)⟩

theorem and_then (h : Course key rpm a b app app' cells) (h' : Course key rpm b c app' app'' []) :
    Course key rpm a c app app'' cells := ⟨h.calls.and_then h'.calls, fun hcaps => h'.caps (h.caps hcaps)⟩

theorem uncounted (h : Course key rpm a b app app' cells) : Course key rpm a b app app' [] :=
  ⟨h.calls.uncounted, h.caps⟩

/-- What comes to the same state, as far as the limiters and the configuration go. -/
theorem to_same (h : Course key rpm a b app app' cells) (limiters : app''.limiters = app'.limiters)
    (config : app''.config = app'.config) : Course key rpm a b app app'' cells :=
  h.and_then (.idle (le_refl b) limiters config)

theorem of_budgets (h : Span key rpm a b app.limiters app'.limiters cells) (hbudgets : OnlyBudgets app app') :
    Course key rpm a b app app' cells := ⟨h, fun hcaps => by rw [hbudgets.config]; exact hcaps⟩

end Course

theorem Others.Within.course {key : String} {rpm a b : Nat} {o : Others} (h : o.Within key rpm a b) (app : AppState) :
    Course key rpm a b app (app.disturb o) [] := ⟨h.calls app.limiters, h.caps app.config⟩

theorem quiet_within {key : String} {rpm a b : Nat} (h : a ≤ b) : Others.quiet.Within key rpm a b :=
  ⟨fun _ => .wait h, fun _ hcaps => hcaps⟩

structure Turn.Within (key : String) (rpm a : Nat) (t : Turn) : Prop where
  before : t.before.Within key rpm a t.checkAt
  during : t.during.Within key rpm t.checkAt t.doneAt

/-- When the round `k` of the loop may begin. -/
def Env.clock (env : Env) : Nat → Nat
  | 0 => env.limitsAt
  | k + 1 => (env.turn k).doneAt

structure Env.Within (key : String) (rpm a b : Nat) (env : Env) : Prop where
  pick : ∃ between, env.beforePick.Within key rpm a between ∧ env.beforeLimits.Within key rpm between env.limitsAt
  turn : ∀ k, (env.turn k).Within key rpm (env.clock k)
  clock : ∀ k, env.clock k ≤ b

structure GenericEnv.Within (key : String) (rpm a b : Nat) (env : GenericEnv) : Prop where
  limits : a ≤ env.limitsAt
  pick : env.beforePick.Within key rpm env.limitsAt env.callAt
  during : env.during.Within key rpm env.callAt env.doneAt
  done : env.doneAt ≤ b

structure Outside.Within (key : String) (rpm a b : Nat) (out : Outside) : Prop where
  now : a ≤ out.now ∧ out.now ≤ b
  chat : out.chat.Within key rpm a b
  generic : out.generic.Within key rpm a b

/-! ## Cells of a request -/

/-- What the team's and the token's limits take. -/
def admissionCells (cfg : AppConfig) (auth : AuthContext) (now : Nat) : List (String × Nat) :=
  cell (teamKey auth.team) (teamRpm cfg auth.team) now ++ cell auth.tokenKey auth.rpm now

/-- What the endpoint's limits take, where they let it through. -/
def Visit.cells (v : Visit) (now : Nat) : List (String × Nat) :=
  match v.step, Handler.epKey v.endpoint.url v.endpoint.apiKey with
  | .sent _, .ok epKey => cell (epRlKey epKey) v.endpoint.endpointLimitsRpm now
  | .unsent, .ok epKey => cell (epRlKey epKey) v.endpoint.endpointLimitsRpm now
  | _, _ => []

/-- The visits of the rounds from `k` on. -/
def visitCells (env : Env) : Nat → List Visit → List (String × Nat)
  | _, [] => []
  | k, v :: visits => v.cells (env.turn k).checkAt ++ visitCells env (k + 1) visits

theorem visitCells_append (env : Env) (v : Visit) (visits : List Visit) : ∀ k,
    visitCells env k (visits ++ [v]) = visitCells env k visits ++ v.cells (env.turn (k + visits.length)).checkAt := by
  induction visits with
  | nil => exact fun k => List.append_nil _
  | cons w visits ih =>
    intro k
    change w.cells _ ++ visitCells env (k + 1) (visits ++ [v]) = _
    rw [ih, ← List.append_assoc, List.length_cons, Nat.add_right_comm k 1, Nat.add_assoc]
    rfl

section
variable {key : String} {rpm : Nat}

/-- **The limits of a request's team and token.** -/
theorem takes_rateChecks {cfg : AppConfig} (hcaps : cfg.CapsRpm key rpm) {auth : AuthContext}
    (hauth : authenticate cfg auth.tokenKey = some auth) (now : Nat) :
    Takes key rpm now (rateChecks cfg auth.team auth.tokenKey auth.rpm auth.tpm now) (admissionCells cfg auth now) := by
  have hshared : ∀ scope k limit label, Takes key rpm now [sharedCheck scope k limit now label] [] :=
    fun scope k limit label => takes_sharedCheck scope k limit now label
  have hteam := (Takes.opt (0 < teamRpm cfg auth.team)
    (hshared "team" (teamKey auth.team) (teamRpm cfg auth.team) ("Team '" ++ auth.team ++ "' (shared)"))
      fun _ => rfl).append
    (Takes.opt (0 < teamRpm cfg auth.team ∨ 0 < teamTpm cfg auth.team)
      (takes_localCheck (hcaps.team auth.team) (teamTpm cfg auth.team) now .token ("Team '" ++ auth.team ++ "'"))
      fun hnot => if_neg fun hrpm => hnot (Or.inl hrpm))
  have hown : auth.tokenKey = key → auth.rpm ≤ rpm := by
    rintro rfl
    exact hcaps.token auth hauth
  have htoken := (hteam.append (Takes.opt (0 < auth.rpm)
    (hshared "token" auth.tokenKey auth.rpm "Token (shared)") fun _ => rfl)).append
      (takes_localCheck hown auth.tpm now .token "Token")
  rwa [List.nil_append, List.append_nil] at htoken

/-- An endpoint whose limit is capped. -/
def Capped (key : String) (rpm : Nat) (ep : SelectedEndpoint) : Prop :=
  ∀ k, Handler.epKey ep.url ep.apiKey = .ok k → epRlKey k = key → ep.endpointLimitsRpm ≤ rpm

theorem capped_of_pick {cfg : AppConfig} (hcaps : cfg.CapsRpm key rpm) {name : String} {m : ModelConfig}
    {ep : SelectedEndpoint} (hm : cfg.findModel name = some m) (hpick : Balancer.PickOf m ep) : Capped key rpm ep :=
  hcaps.endpoint m (List.mem_of_find?_eq_some hm) ep hpick

theorem takes_endpointChecks {ep : SelectedEndpoint} (hcap : Capped key rpm ep) {epKey : String}
    (hkey : Handler.epKey ep.url ep.apiKey = .ok epKey) (now : Nat) :
    Takes key rpm now (endpointChecks ep epKey now) (cell (epRlKey epKey) ep.endpointLimitsRpm now) := by
  have hshared : Takes key rpm now [sharedCheck "ep" epKey ep.endpointLimitsRpm now "Endpoint (shared)"] [] :=
    takes_sharedCheck _ _ _ _ _
  have hchecks := (Takes.opt (0 < ep.endpointLimitsRpm) hshared fun _ => rfl).append
    (Takes.opt (0 < ep.endpointLimitsRpm ∨ 0 < ep.endpointLimitsTpm)
      (takes_localCheck (hcap epKey hkey) ep.endpointLimitsTpm now .endpoint "Endpoint")
      fun hnot => if_neg fun hrpm => hnot (Or.inl hrpm))
  rwa [List.nil_append] at hchecks

/-! ## One round -/

theorem tryNext_course (s : LoopState) (ctx : LoopCtx) (epKey : String) (giveUp : Response) (now : Nat)
    (hcaps : s.app.config.CapsRpm key rpm) :
    (s.tryNext ctx epKey giveUp).Sat
      (fun s' => Capped key rpm s'.current ∧ s'.trace = s.trace ∧ Course key rpm now now s.app s'.app [])
      (fun s' _ => s'.trace = s.trace ∧ Course key rpm now now s.app s'.app []) := by
  obtain ⟨rr, honly⟩ := LoopState.tryNext_only s ctx epKey giveUp
  have hsat := LoopState.tryNext_sat s ctx epKey giveUp
  cases hflow : s.tryNext ctx epKey giveUp with
  | next s' =>
    rw [hflow] at honly hsat
    obtain ⟨htrace, hconfig, -, rr', hpick⟩ := hsat
    obtain ⟨m, _, hm, hp, -⟩ := Balancer.selectAvailable_found hpick
    refine ⟨capped_of_pick hcaps hm hp, htrace, .idle (le_refl now) ?_ hconfig⟩
    rw [show s'.app = _ from honly]
  | exit s' e =>
    rw [hflow] at honly hsat
    refine ⟨hsat.trace, .idle (le_refl now) ?_ hsat.config⟩
    rw [show s'.app = _ from honly]

variable {deps : Externs} {ctx : LoopCtx} {t : Turn} {s : LoopState} {epKey : String}

theorem chargeStream_course (s : LoopState) (deps : Externs) (ctx : LoopCtx) (epKey : String) (status : Nat)
    (body : List Chunk) (now : Nat) :
    Course key rpm now now s.app (s.chargeStream deps ctx epKey status body now).app [] := by
  refine .of_budgets ?_ (chargeStream_budgets deps ctx epKey s status body now)
  unfold LoopState.chargeStream
  split
  · exact chargeUsage_span s.charged _ _ _ _ _ _ _ now
  · exact .refl now _

theorem classify_limiters (app : AppState) (epKey : String) (status now : Nat) :
    (app.classify epKey status now).limiters = app.limiters := by
  unfold AppState.classify
  split <;> rfl

theorem classified_course (s : LoopState) (deps : Externs) (ctx : LoopCtx) (t : Turn) (epKey : String) (status : Nat)
    (body : List Chunk) :
    Course key rpm t.doneAt t.doneAt s.app (s.classified deps ctx t epKey status body).app [] := by
  refine (chargeStream_course s deps ctx epKey status body t.doneAt).to_same ?_ ?_
  · unfold LoopState.classified
    exact classify_limiters _ _ _ _
  · unfold LoopState.classified
    exact AppState.classify_config _ _ _ _

theorem finish_course (s : LoopState) (deps : Externs) (ctx : LoopCtx) (epKey : String) (status : Nat)
    (body : List Chunk) (startAt now : Nat) :
    Course key rpm now now s.app (s.finish deps ctx epKey status body startAt now).app [] := by
  let answered : Charged :=
    { app := (s.app.answered epKey ((now - startAt) / 1000000)).bindSession ctx.req.sessionId s.current.index now
      ledger := s.ledger }
  refine ⟨?_, fun hcaps => by rw [LoopState.finish_config]; exact hcaps⟩
  unfold LoopState.finish
  dsimp only
  split
  · exact .refl now _
  · exact chargeUsage_span answered _ _ _ _ _ _ _ now

theorem settle_course (hcaps : s.app.config.CapsRpm key rpm) (status : Nat) (body : List Chunk) :
    (settle deps ctx t epKey s status body).Sat
      (fun s' => Capped key rpm s'.current ∧ s'.trace = s.trace ∧ Course key rpm t.doneAt t.doneAt s.app s'.app [])
      (fun s' _ => s'.trace = s.trace ∧ Course key rpm t.doneAt t.doneAt s.app s'.app []) := by
  have htrace := (chargeStream_frame deps ctx epKey s status body t.doneAt).1
  have hcourse : Course key rpm t.doneAt t.doneAt s.app (s.classified deps ctx t epKey status body).app [] :=
    classified_course s deps ctx t epKey status body
  rw [settle_eq]
  split
  · refine ⟨?_, hcourse.trans (finish_course _ _ _ _ _ _ _ _)⟩
    rw [LoopState.finish_trace]
    exact htrace
  · unfold LoopState.retry
    have hnoted : Course key rpm t.doneAt t.doneAt s.app
        ((s.classified deps ctx t epKey status body).app.noteError ctx.req epKey) [] := hcourse.to_same rfl rfl
    refine (tryNext_course _ ctx epKey _ t.doneAt (by exact hnoted.caps hcaps)).mono (fun s' h => ?_) (fun s' _ h => ?_)
    · exact ⟨h.1, h.2.1.trans htrace, hnoted.trans h.2.2⟩
    · exact ⟨h.1.trans htrace, hnoted.trans h.2⟩

theorem callFailed_course (hcaps : s.app.config.CapsRpm key rpm) (message : String) :
    (callFailed ctx t epKey s message).Sat
      (fun s' => Capped key rpm s'.current ∧ s'.trace = s.trace ∧ Course key rpm t.doneAt t.doneAt s.app s'.app [])
      (fun s' _ => s'.trace = s.trace ∧ Course key rpm t.doneAt t.doneAt s.app s'.app []) := by
  have hnoted : Course key rpm t.doneAt t.doneAt s.app ((s.app.failed epKey 0 t.doneAt).noteError ctx.req epKey) [] :=
    .idle (le_refl t.doneAt) rfl rfl
  unfold callFailed
  dsimp only
  split
  · unfold LoopState.retry
    refine (tryNext_course _ ctx epKey _ t.doneAt (by exact hcaps)).mono (fun s' h => ?_) (fun s' _ h => ?_)
    · exact ⟨h.1, h.2.1, hnoted.trans h.2.2⟩
    · exact ⟨h.1, hnoted.trans h.2⟩
  · exact ⟨rfl, hnoted⟩

theorem attempt_course (hcaps : s.app.config.CapsRpm key rpm) (ht : t.during.Within key rpm t.checkAt t.doneAt) :
    (attempt deps ctx t epKey s).Sat
      (fun s' => Capped key rpm s'.current ∧ VisitedAs (sendStep ctx t) s s' ∧
        Course key rpm t.checkAt t.doneAt s.app s'.app [])
      (fun s' _ => VisitedAs (sendStep ctx t) s s' ∧ Course key rpm t.checkAt t.doneAt s.app s'.app []) := by
  have hduring := ht.course s.app
  have hcaps' := hduring.caps hcaps
  unfold attempt
  dsimp only
  split
  · exact ⟨rfl, hduring⟩
  · rename_i status body _
    refine (settle_course (by exact hcaps') status body).mono (fun s' h => ?_) (fun s' _ h => ?_)
    · exact ⟨h.1, h.2.1, hduring.trans h.2.2⟩
    · exact ⟨h.1, hduring.trans h.2⟩
  · rename_i message _
    refine (callFailed_course (by exact hcaps') message).mono (fun s' h => ?_) (fun s' _ h => ?_)
    · exact ⟨h.1, h.2.1, hduring.trans h.2.2⟩
    · exact ⟨h.1, hduring.trans h.2⟩

theorem sendStep_cells {v : Visit} (hstep : v.step = sendStep ctx t)
    (hkey : Handler.epKey v.endpoint.url v.endpoint.apiKey = .ok epKey) (now : Nat) :
    v.cells now = cell (epRlKey epKey) v.endpoint.endpointLimitsRpm now := by
  unfold Visit.cells
  rw [hstep, hkey]
  unfold sendStep
  by_cases hb : ctx.req.bodyError.isSome = true
  · rw [if_pos hb]
  · rw [if_neg hb]

/-- **One round** takes a cell of its endpoint where it lets the request through. -/
theorem turn_course {a : Nat} (hcaps : s.app.config.CapsRpm key rpm) (hcap : Capped key rpm s.current)
    (ht : t.Within key rpm a) :
    (turn deps ctx t s).Sat
      (fun s' => Capped key rpm s'.current ∧ ∃ v, s'.trace = s.trace ++ [v] ∧
        Course key rpm a t.doneAt s.app s'.app (v.cells t.checkAt))
      (fun s' _ => ∃ v, s'.trace = s.trace ++ [v] ∧ Course key rpm a t.doneAt s.app s'.app (v.cells t.checkAt)) := by
  have hbefore := ht.before.course s.app
  have hdone : t.checkAt ≤ t.doneAt := (ht.during.course s.app).calls.le
  unfold turn
  dsimp only
  split
  · rename_i p hp
    refine ⟨_, rfl, ?_⟩
    have hnone : ∀ step now, ({ endpoint := s.current, step := step } : Visit).cells now = [] := by
      intro step now
      unfold Visit.cells
      rw [hp]
      cases step <;> rfl
    rw [hnone]
    exact hbefore.later hdone
  · rename_i k hkey
    have htakes := takes_endpointChecks hcap hkey t.checkAt { app := s.app.disturb t.before, ledger := s.ledger }
    have hchecks := hbefore.trans (.of_budgets htakes (endpointChecks_budgets s.current k t.checkAt
      { app := s.app.disturb t.before, ledger := s.ledger }))
    have hcaps' := hchecks.caps hcaps
    split
    · rename_i rej hrej
      refine (tryNext_course _ ctx k _ t.checkAt (by exact hcaps')).mono (fun s' h => ?_) (fun s' _ h => ?_)
      · exact ⟨h.1, _, h.2.1, (hchecks.uncounted.trans h.2.2).later hdone⟩
      · exact ⟨_, h.1, (hchecks.uncounted.trans h.2).later hdone⟩
    · rename_i hnone
      have hnone' : (Gate.runAll (endpointChecks s.current k t.checkAt)
        { app := s.app.disturb t.before, ledger := s.ledger }).2 = none := hnone
      rw [hnone'] at hchecks
      have hcells := sendStep_cells (t := t) (v := { endpoint := s.current, step := sendStep ctx t }) rfl hkey t.checkAt
      refine (attempt_course (by exact hcaps') ht.during).mono (fun s' h => ?_) (fun s' _ h => ?_)
      · exact ⟨h.1, _, h.2.1, hcells ▸ hchecks.and_then h.2.2⟩
      · exact ⟨_, h.1, hcells ▸ hchecks.and_then h.2⟩

/-! ## The loop -/

/-- **The loop**: a cell for each visit that was let through. -/
theorem retryLoop_course {a b : Nat} {env : Env} (henv : env.Within key rpm a b)
    (hcaps : s.app.config.CapsRpm key rpm) (hcap : Capped key rpm s.current) (htrace : s.trace = []) (fuel : Nat) :
    Course key rpm env.limitsAt b s.app (retryLoop deps env ctx fuel s).state.app
      (visitCells env 0 (retryLoop deps env ctx fuel s).state.trace) := by
  have hround : ∀ k s', (Capped key rpm s'.current ∧ s'.trace.length = k ∧
        Course key rpm env.limitsAt (env.clock k) s.app s'.app (visitCells env 0 s'.trace)) →
      (turn deps ctx (env.turn k) s').Sat
        (fun s'' => Capped key rpm s''.current ∧ s''.trace.length = k + 1 ∧
          Course key rpm env.limitsAt (env.clock (k + 1)) s.app s''.app (visitCells env 0 s''.trace))
        (fun s'' _ => Course key rpm env.limitsAt b s.app s''.app (visitCells env 0 s''.trace)) := by
    rintro k s' ⟨hcap', hlength, hcourse⟩
    have hcells : ∀ (v : Visit) (after : List Visit), after = s'.trace ++ [v] → visitCells env 0 after
        = visitCells env 0 s'.trace ++ v.cells (env.turn k).checkAt := by
      rintro v _ rfl
      rw [visitCells_append, hlength, Nat.zero_add]
    refine (turn_course (hcourse.caps hcaps) hcap' (henv.turn k)).mono (fun s'' h => ?_) (fun s'' _ h => ?_)
    · obtain ⟨hcap'', v, hv, hround⟩ := h
      refine ⟨hcap'', by rw [hv, List.length_append, hlength]; rfl, ?_⟩
      rw [hcells v _ hv]
      exact hcourse.trans hround
    · obtain ⟨v, hv, hround⟩ := h
      rw [hcells v _ hv]
      exact (hcourse.trans hround).later (henv.clock (k + 1))
  have hstart : Course key rpm env.limitsAt (env.clock 0) s.app s.app (visitCells env 0 s.trace) := by
    rw [htrace]
    exact .refl env.limitsAt _
  have hrun := Loop.run_sat_at hround fuel 0 s ⟨hcap, by rw [htrace]; rfl, hstart⟩
  exact (hrun.mono (fun s' h => h.2.2.later (henv.clock _)) (fun _ _ h => h)).state

/-! ## Up to the loop -/

variable {app : AppState} {req : ChatRequest} {env : Env} {a b : Nat}

theorem collectBanned_course (app : AppState) (now startAt : Nat) (eps : List EndpointConfig) :
    Course key rpm now now app (app.collectBanned startAt eps ∅).1 [] := by
  obtain ⟨fb, hfb⟩ := AppState.collectBanned_only startAt eps app ∅
  rw [hfb]
  exact .idle (le_refl now) rfl rfl

/-- Before the pick, others may run twice. -/
theorem pickState_course (henv : env.Within key rpm a b) (app : AppState) (req : ChatRequest) :
    ∃ between, Course key rpm a between app (Handler.pickState env app req) [] ∧
      env.beforeLimits.Within key rpm between env.limitsAt := by
  obtain ⟨between, hpick, hlimits⟩ := henv.pick
  exact ⟨between, (collectBanned_course app a env.startAt _).trans (hpick.course _), hlimits⟩

theorem stickyLookup_course (env : Env) (app : AppState) (req : ChatRequest) (bannedKeys : Finset String) (now : Nat) :
    Course key rpm now now (Handler.pickState env app req) (Handler.stickyLookup env app req bannedKeys).1 [] := by
  obtain ⟨sticky, sync, h⟩ := stickyPick_only (Handler.pickState env app req)
    (app.config.findModel (app.config.canonicalModelName req.modelName)) bannedKeys req.sessionId env.startAt
  unfold Handler.stickyLookup
  rw [h]
  exact .idle (le_refl now) rfl rfl

/-- **A request that is turned away** before the loop. -/
theorem prepare_error_course (henv : env.Within key rpm a b) (hcaps : app.config.CapsRpm key rpm)
    (hauth : authenticate app.config req.auth.tokenKey = some req.auth) {run : Run} (h : prepare env app req = .error run) :
    Course key rpm a b app run.app [] := by
  obtain ⟨between, hpick, hlimits⟩ := pickState_course henv app req
  have hb : env.limitsAt ≤ b := henv.clock 0
  have hbetween : between ≤ env.limitsAt := (hlimits.course app).calls.le
  have hab : a ≤ b := (hpick.calls.le.trans hbetween).trans hb
  have hcollect : Course key rpm a b app (app.collectBanned env.startAt (Handler.candidates app req) ∅).1 [] :=
    (collectBanned_course app a env.startAt _).later hab
  have hsticky : ∀ bannedKeys, Course key rpm a between app (Handler.stickyLookup env app req bannedKeys).1 [] :=
    fun bannedKeys => hpick.trans (stickyLookup_course env app req bannedKeys between)
  cases prepare_stops h with
  | forbidden => exact .idle hab rfl rfl
  | unmasked => exact hcollect
  | allBanned => exact hcollect.to_same rfl rfl
  | stickyUnmasked => exact (hsticky _).later (hbetween.trans hb)
  | pickUnmasked => exact ((hsticky _).later (hbetween.trans hb)).to_same rfl rfl
  | noEndpoint => exact ((hsticky _).later (hbetween.trans hb)).to_same rfl rfl
  | @limited rej bannedKeys picked charged hpick' hcheck =>
    have hpicked : Course key rpm a between app picked [] := by
      rcases hpick' with rfl | rfl
      · exact hsticky bannedKeys
      · exact (hsticky bannedKeys).to_same rfl rfl
    have hchecked := (hpicked.trans (hlimits.course picked)).trans (.of_budgets
      (takes_rateChecks hcaps hauth env.limitsAt { app := picked.disturb env.beforeLimits, ledger := [] }).uncounted
      (checkAllRateLimits_budgets app.config req.auth.team req.auth.tokenKey req.auth.rpm req.auth.tpm env.limitsAt
        { app := picked.disturb env.beforeLimits, ledger := [] }))
    subst hcheck
    exact (hchecked.later hb).to_same rfl rfl

/-- **A request that enters the loop** has taken the cells of its team and its token. -/
theorem prepare_ok_course (henv : env.Within key rpm a b) (hcaps : app.config.CapsRpm key rpm)
    (hauth : authenticate app.config req.auth.tokenKey = some req.auth) (h : prepare env app req = .ok (ctx, s)) :
    Capped key rpm s.current ∧ s.trace = [] ∧
      Course key rpm a env.limitsAt app s.app (admissionCells app.config req.auth env.limitsAt) := by
  have he := prepare_entered h
  obtain ⟨between, hpick, hlimits⟩ := pickState_course henv app req
  obtain ⟨start, ⟨sticky, sync, rr, hstart⟩, hadmitted⟩ := he.admitted
  refine ⟨?_, he.trace, ?_⟩
  · rcases he.picked with hsticky | ⟨_, hselected⟩
    · obtain ⟨m, _, hm, hp, -⟩ := stickyPick_found hsticky
      exact capped_of_pick hcaps hm hp
    · obtain ⟨m, _, hm, hp, -⟩ := Balancer.selectAvailable_found hselected
      exact capped_of_pick (hpick.caps hcaps) hm hp
  · have hstarted : Course key rpm a env.limitsAt app start [] := by
      let picked : AppState := { Handler.pickState env app req with sticky := sticky, sync := sync, roundRobin := rr }
      have hpicked : Course key rpm a between app picked [] := hpick.to_same rfl rfl
      rw [hstart]
      exact hpicked.trans (hlimits.course picked)
    have htakes := takes_rateChecks hcaps hauth env.limitsAt { app := start, ledger := [] }
    have hbudgets := checkAllRateLimits_budgets app.config req.auth.team req.auth.tokenKey req.auth.rpm req.auth.tpm
      env.limitsAt { app := start, ledger := [] }
    rw [show Gate.runAll (rateChecks app.config req.auth.team req.auth.tokenKey req.auth.rpm req.auth.tpm env.limitsAt)
      { app := start, ledger := [] } = (s.charged, none) from hadmitted] at htakes
    rw [hadmitted] at hbudgets
    exact hstarted.trans (.of_budgets htakes hbudgets)

end

/-! ## The routes -/

/-- The cells of a chat that gets past its limits, wherever it ends. -/
def chatCells (site : Site) (env : Env) (fuel : Nat) (app : AppState) (raw : RawRequest) : List (String × Nat) :=
  match Handler.upToSelection site.deps site.toVec site.parseError env app raw with
  | .ok _ => admissionCells app.config raw.auth env.limitsAt ++ visitCells env 0 (Handler.serve site env fuel app raw).trace
  | .error _ => []

/-- The cells of any other request that gets past its limits, wherever it ends. -/
def genericCells (env : GenericEnv) (app : AppState) (req : GenericRequest) : List (String × Nat) :=
  if "/v1/".toList <+: req.path.toList ∧ (checkAllRateLimits app.config req.auth.team req.auth.tokenKey req.auth.rpm
      req.auth.tpm env.limitsAt { app := app, ledger := [] }).2.isNone then
    admissionCells app.config req.auth env.limitsAt
  else []

/-- The cells of a listing that is shown. -/
def listCells (cfg : AppConfig) (auth : AuthContext) (now : Nat) : ServerReply → List (String × Nat)
  | .models _ => admissionCells cfg auth now
  | .tags _ => admissionCells cfg auth now
  | _ => []

section
variable {key : String} {rpm a b : Nat} {app : AppState}

theorem chat_course (site : Site) {env : Env} (henv : env.Within key rpm a b) (hcaps : app.config.CapsRpm key rpm)
    {raw : RawRequest} (hauth : authenticate app.config raw.auth.tokenKey = some raw.auth) (fuel : Nat) :
    Course key rpm a b app (Handler.serve site env fuel app raw).app (chatCells site env fuel app raw) := by
  have hab : a ≤ b := by
    obtain ⟨between, hpick, hlimits⟩ := henv.pick
    exact ((hpick.course app).calls.le.trans (hlimits.course app).calls.le).trans (henv.clock 0)
  unfold chatCells Handler.serve
  cases hstart : Handler.upToSelection site.deps site.toVec site.parseError env app raw with
  | error run =>
    dsimp only
    rcases upToSelection_error hstart with ⟨happ, _⟩ | ⟨req, hreq, hprep⟩
    · rw [happ]
      exact .idle hab rfl rfl
    · exact prepare_error_course henv hcaps (by rw [hreq]; exact hauth) hprep
  | ok start =>
    obtain ⟨ctx, s⟩ := start
    obtain ⟨_, _, _, _, hprep⟩ := upToSelection_ok hstart
    obtain ⟨hcap, htrace, hcourse⟩ := prepare_ok_course henv hcaps hauth hprep
    exact hcourse.trans (retryLoop_course henv (hcourse.caps hcaps) hcap htrace fuel)

theorem answer_course (c : GenericCall) (deps : Externs) (isStream : Bool) (s : Charged) (reply : Reply)
    (startAt now : Nat) : Course key rpm now now s.app (c.answer deps isStream s reply startAt now).1.app [] := by
  have hclassify : ∀ (app app' : AppState) (k : String) (status ms : Nat), Course key rpm now now app app' [] →
      Course key rpm now now app (Generic.classifyStream app' k status ms now) [] ∧
        Course key rpm now now app (Generic.classifyWhole app' k status ms now) [] := by
    intro app app' k status ms h
    unfold Generic.classifyStream Generic.classifyWhole
    exact ⟨by split <;> exact h.to_same rfl rfl, by split <;> exact h.to_same rfl rfl⟩
  have hcharge : ∀ total, Course key rpm now now s.app (c.charge s total now).app [] := fun total =>
    .of_budgets (chargeUsage_span s _ _ _ _ _ _ total now) (chargeUsage_budgets s _ _ _ _ _ _ total now)
  unfold GenericCall.answer
  dsimp only
  split
  · exact .idle (le_refl now) rfl rfl
  · rename_i status body
    split
    · unfold GenericCall.streamed
      split
      · refine ((hclassify s.app _ _ _ _ ?_).1).to_same rfl rfl
        split
        · exact hcharge _
        · exact .refl now s.app
      · exact (hclassify s.app _ _ _ _ (.refl now s.app)).1
    · let usage := bodyUsage (deps.fromSlice (toBytes body))
      let charged := c.charge s usage.total now
      let noted : AppState := { charged.app with
        stats := charged.app.stats.recordRequest c.canonicalModel c.endpoint.url c.auth.team usage.prompt
          usage.completion ((now - startAt) / 1000000) status none c.endpoint.costPrompt c.endpoint.costCompletion now }
      have hnoted : Course key rpm now now s.app noted [] := (hcharge usage.total).to_same rfl rfl
      unfold GenericCall.whole
      exact ((hclassify s.app noted c.epKey status ((now - startAt) / 1000000) hnoted).2).to_same rfl rfl

theorem generic_course {deps : Externs} {env : GenericEnv} (henv : env.Within key rpm a b)
    (hcaps : app.config.CapsRpm key rpm) {req : GenericRequest}
    (hauth : authenticate app.config req.auth.tokenKey = some req.auth) :
    Course key rpm a b app (proxyGeneric deps env app req).app (genericCells env app req) := by
  have hchecks : Course key rpm a env.limitsAt app _ _ := (Course.of_budgets
    (takes_rateChecks hcaps hauth env.limitsAt { app := app, ledger := [] })
    (checkAllRateLimits_budgets app.config req.auth.team req.auth.tokenKey req.auth.rpm req.auth.tpm env.limitsAt
      { app := app, ledger := [] })).earlier henv.limits
  have hpick := henv.pick.course
  have hduring := henv.during.course
  have hcall : env.callAt ≤ b := (hduring app).calls.le.trans henv.done
  have hlimits : env.limitsAt ≤ b := (hpick app).calls.le.trans hcall
  unfold genericCells proxyGeneric checkAllRateLimits at *
  dsimp only
  by_cases hpath : "/v1/".toList <+: req.path.toList
  case neg =>
    rw [if_pos hpath, if_neg fun h => hpath h.1]
    exact .idle (henv.limits.trans hlimits) rfl rfl
  rw [if_neg (not_not.2 hpath)]
  split
  · rename_i hrej
    rw [if_neg (by rw [hrej]; exact fun h => Bool.noConfusion h.2)]
    exact (hchecks.uncounted.later hlimits).to_same rfl rfl
  rename_i hnone
  rw [hnone] at hchecks
  rw [if_pos ⟨hpath, by rw [hnone]; rfl⟩]
  -- whatever comes of it, its limits have let it through
  have hpicked := (hchecks.and_then (hpick _)).later hcall
  split
  · exact hpicked
  split
  · exact hpicked
  split
  · exact hpicked.to_same rfl rfl
  · exact hpicked.to_same rfl rfl
  split
  · exact hpicked.to_same rfl rfl
  · refine Course.later (Course.and_then ?_ (answer_course _ _ _ _ _ _ _)) henv.done
    refine Course.and_then ?_ (hduring _)
    exact (hchecks.and_then (hpick _)).to_same rfl rfl

theorem listed_course {now : Nat} (hcaps : app.config.CapsRpm key rpm) {auth : AuthContext}
    (hauth : authenticate app.config auth.tokenKey = some auth) (reply : List String → ServerReply) :
    Course key rpm now now app (listed now app auth reply).app
      (listCells app.config auth now (listed now app auth reply).reply) := by
  have hchecks := Course.of_budgets (takes_rateChecks hcaps hauth now { app := app, ledger := [] })
    (checkAllRateLimits_budgets app.config auth.team auth.tokenKey auth.rpm auth.tpm now { app := app, ledger := [] })
  unfold listed checkAllRateLimits at *
  dsimp only
  split
  · exact hchecks.uncounted.to_same rfl rfl
  · rename_i hnone
    rw [hnone] at hchecks
    dsimp only
    unfold listCells
    split
    · exact hchecks
    · exact hchecks
    · exact hchecks.uncounted

theorem walkRows_course {β : Type} {row : AppState → EndpointItem → AppState × Except Panic β} {now : Nat}
    (hrow : ∀ app item, Course key rpm now now app (row app item).1 []) (items : List EndpointItem)
    (app : AppState) : Course key rpm now now app (walkRows row items app).1 [] :=
  walkRows_rel (R := fun app app' => Course key rpm now now app app' []) (fun app => .refl now app)
    (fun h h' => h.and_then h') hrow items app

theorem onlyLapsed_course {now t : Nat} {app' : AppState} (h : app.OnlyLapsed t app') :
    Course key rpm now now app app' [] := by
  obtain ⟨fb, rfl, -⟩ := h
  exact .idle (le_refl now) rfl rfl

theorem tpmRemaining_course (app : AppState) (k : String) (limit now : Nat) :
    Course key rpm now now app (app.tpmRemaining k limit now).1 [] := by
  refine .of_budgets (tpmRemaining_span app k limit now) ?_
  unfold AppState.tpmRemaining
  split
  · exact ⟨_, _, rfl⟩
  · exact .refl _

theorem statsRow_course (parse : String → Option ParsedUrl) (now : Nat) (app : AppState) (item : EndpointItem) :
    Course key rpm now now app (statsRow parse now app item).1 [] := by
  unfold statsRow
  split
  · exact .refl now app
  · rename_i epKey _
    have hlook : Course key rpm now now app (app.lookBan epKey now).1 [] := .idle (le_refl now) rfl rfl
    exact hlook.trans (tpmRemaining_course _ _ _ now)

theorem statsJson_course (parse : String → Option ParsedUrl) (now : Nat) (auth : AuthContext) (app : AppState) :
    Course key rpm now now app (statsJson parse now auth app).1 [] :=
  ((tpmRemaining_course app _ _ now).trans (tpmRemaining_course _ _ _ now)).trans
    (walkRows_course (statsRow_course parse now) _ _)

end

/-! ## One request, and requests one after another -/

namespace Site

variable (site : Site)

/-- The cells of a request that gets past its limits. -/
def cells (out : Outside) (app : AppState) (r : HttpRequest) : List (String × Nat) :=
  match authMiddleware app.config r with
  | none => []
  | some auth =>
    match site.route r with
    | .chat => chatCells site out.chat out.fuel app (site.raw r auth r.path)
    | .generic => genericCells out.generic app ((site.raw r auth r.target).read site.deps site.parseError)
    | .models => listCells app.config auth out.now (site.serve out app r).reply
    | .tags => listCells app.config auth out.now (site.serve out app r).reply
    | _ => []

/-- The cells of all the requests. -/
def runCells : AppState → List Arrival → List (String × Nat)
  | _, [] => []
  | app, a :: arrivals =>
    site.cells a.outside (app.disturb a.before) a.request ++ runCells (site.step app a) arrivals

end Site

/-- Each request comes when the one before it is over. -/
def InTime (key : String) (rpm : Nat) : Nat → List Arrival → Prop
  | _, [] => True
  | since, a :: arrivals => ∃ start done, a.before.Within key rpm since start ∧ a.outside.Within key rpm start done ∧
      InTime key rpm done arrivals

section
variable {key : String} {rpm a b : Nat} {app : AppState}

theorem authMiddleware_known {cfg : AppConfig} {r : HttpRequest} {auth : AuthContext}
    (h : authMiddleware cfg r = some auth) : authenticate cfg auth.tokenKey = some auth := by
  unfold authMiddleware at h
  split at h
  · cases h
  · obtain ⟨tokenKey, _, hauth⟩ := Option.bind_eq_some_iff.1 h
    rw [tokenKey_of_authenticate hauth]
    exact hauth

/-- **One request.** -/
theorem site_serve_course (site : Site) {out : Outside} (hout : out.Within key rpm a b) (hcaps : app.config.CapsRpm key rpm)
    (r : HttpRequest) : Course key rpm a b app (site.serve out app r).app (site.cells out app r) := by
  have hnow : ∀ {app' cells}, Course key rpm out.now out.now app app' cells → Course key rpm a b app app' cells :=
    fun h => (h.earlier hout.now.1).later hout.now.2
  unfold Site.cells
  cases hauth : authMiddleware app.config r with
  | none => exact hnow (onlyLapsed_course (serve_stranger site out hauth).2.2)
  | some auth =>
    have hknown := authMiddleware_known hauth
    dsimp only
    rw [site.serve_known out hauth]
    cases hroute : site.route r with
    | chat =>
      dsimp only
      rw [site.serveKnown_chat, Served.ofRun_app]
      exact chat_course site hout.chat hcaps hknown out.fuel
    | generic =>
      dsimp only
      rw [site.serveKnown_generic, Served.ofRun_app]
      exact generic_course hout.generic hcaps hknown
    | models => exact hnow (listed_course hcaps hknown _)
    | tags => exact hnow (listed_course hcaps hknown _)
    | stats => exact hnow (statsJson_course site.parseUrl out.now auth app)
    | health => exact hnow (walkRows_course (fun app item => onlyLapsed_course
        (healthRow_lapsed site.parseUrl out.now app item)) _ app)
    | vhealth => exact hnow (walkRows_course (fun app item => onlyLapsed_course
        (dashboardRow_lapsed site.parseUrl out.now app item)) _ app)
    | _ => exact hnow (.refl out.now app)

/-- **Requests one after another** are a span of calls. -/
theorem run_span (site : Site) : ∀ (arrivals : List Arrival) (since : Nat) (app : AppState),
    InTime key rpm since arrivals → app.config.CapsRpm key rpm → ∃ done,
      Span key rpm since done app.limiters (Steps.run site.step app arrivals).limiters (site.runCells app arrivals) := by
  intro arrivals
  induction arrivals with
  | nil => exact fun since app _ _ => ⟨since, .refl since app.limiters⟩
  | cons a arrivals ih =>
    rintro since app ⟨start, done, hbefore, hout, hrest⟩ hcaps
    have hcourse := (hbefore.course app).trans (site_serve_course site hout (hbefore.caps _ hcaps) a.request)
    rw [List.nil_append] at hcourse
    obtain ⟨last, hspan⟩ := ih done (site.step app a) hrest (hcourse.caps hcaps)
    exact ⟨last, hcourse.calls.trans hspan⟩

end

/-- **The RPM limits of a server.** Requests are served one after another, and what others do beside them are calls
of the store. Then the store has come about by a history of calls; these have admitted, among others, all that got
past a limit: requests at the limits of their team and their token, and visits of chats at those of their endpoints;
and in any time they have admitted at most a burst and what the time gives. -/
theorem server_rpm_bounded {key : String} {rpm : Nat} (hrpm : 0 < rpm) (site : Site) {app : AppState}
    (hempty : app.limiters = { limiters := ∅ }) (hcaps : app.config.CapsRpm key rpm) {arrivals : List Arrival}
    (htime : InTime key rpm 0 arrivals) :
    ∃ calls, Steps.Every RpmHistory.step (RpmHistory.Within key rpm) .start calls ∧
      (Steps.run RpmHistory.step .start calls).store = (Steps.run site.step app arrivals).limiters ∧
      (site.runCells app arrivals).Sublist (Steps.run RpmHistory.step .start calls).admitted ∧
      ∀ t₁ t₂, (site.runCells app arrivals).countP (fun d => decide (d.1 = key ∧ t₁ ≤ d.2 ∧ d.2 ≤ t₂))
          ≤ (Steps.run RpmHistory.step .start calls).admittedIn key t₁ t₂ ∧
        (Steps.run RpmHistory.step .start calls).admittedIn key t₁ t₂ ≤ rpm + rpm * (t₂ - t₁) / perMinute := by
  obtain ⟨done, hspan⟩ := run_span site arrivals 0 app htime hcaps
  obtain ⟨calls, hevery, hstore, -, taken, hadmitted, hcells⟩ :=
    @Span.history _ _ _ _ _ _ _ hspan .start hempty.symm (le_refl 0)
  have hall : (site.runCells app arrivals).Sublist (Steps.run RpmHistory.step .start calls).admitted := by
    rw [hadmitted]
    exact hcells
  have hrun : (Steps.run RpmHistory.step .start calls).Inv key rpm :=
    Steps.run_keeps (fun h c hw hi => hi.step hrpm hw) calls _ hevery .start
  exact ⟨calls, hevery, hstore, hall, fun t₁ t₂ => ⟨hall.countP_le, hrun.admittedIn_le t₁ t₂⟩⟩

/-- One request a minute for the client. -/
def oneAMinute : AppConfig :=
  { providerConfig with
    tokens := [{ key := "sk-client", team := "dev", models := none, limits := some { rpm := 1, tpm := 0 } }] }

def oneAMinuteApp : AppState := startApp oneAMinute { counters := ∅ } [] { limiters := ∅ }

theorem oneAMinute_caps : oneAMinute.CapsRpm "sk-client" 1 where
  token auth h := by
    cases h
    decide
  team team h := by
    have hlist := congrArg String.toList h
    rw [teamKey, String.toList_append] at hlist
    cases hlist
  endpoint m _ sel _ k _ h := by
    have hlist := congrArg String.toList h
    rw [epRlKey, String.toList_append] at hlist
    cases hlist

theorem refusedOutside_within {key : String} {rpm : Nat} : refusedOutside.Within key rpm 0 0 where
  now := ⟨le_refl 0, le_refl 0⟩
  chat := ⟨⟨0, quiet_within (le_refl 0), quiet_within (le_refl 0)⟩,
    fun k => by cases k <;> exact ⟨quiet_within (le_refl 0), quiet_within (le_refl 0)⟩, fun k => by cases k <;> exact le_refl 0⟩
  generic := ⟨le_refl 0, quiet_within (le_refl 0), quiet_within (le_refl 0), le_refl 0⟩

/-- A model that nobody has, behind no gate but the limits. -/
def lookForNothing : HttpRequest := { smallChat with path := "/v1/embeddings", body := [.ok (modelText "nothing")] }

/-- A request that ends on its model, a call, and a listing: only the first gets past the limit. -/
def threeCalls : List Arrival :=
  [{ before := .quiet, outside := refusedOutside, request := lookForNothing },
   { before := .quiet, outside := refusedOutside, request := smallChat },
   { before := .quiet, outside := refusedOutside
     request := { smallChat with method := .get, path := "/v1/models", body := [] } }]

theorem threeCalls_inTime : InTime "sk-client" 1 0 threeCalls :=
  ⟨0, 0, quiet_within (le_refl 0), refusedOutside_within, 0, 0, quiet_within (le_refl 0), refusedOutside_within,
    0, 0, quiet_within (le_refl 0), refusedOutside_within, trivial⟩

theorem three_calls_bounded :
    plainSite.runCells oneAMinuteApp threeCalls = [("sk-client", 0)] ∧
      ∃ calls, Steps.Every RpmHistory.step (RpmHistory.Within "sk-client" 1) .start calls ∧
        (Steps.run RpmHistory.step .start calls).store = (Steps.run plainSite.step oneAMinuteApp threeCalls).limiters ∧
        (plainSite.runCells oneAMinuteApp threeCalls).Sublist (Steps.run RpmHistory.step .start calls).admitted ∧
        ∀ t₁ t₂, (plainSite.runCells oneAMinuteApp threeCalls).countP
            (fun d => decide (d.1 = "sk-client" ∧ t₁ ≤ d.2 ∧ d.2 ≤ t₂))
            ≤ (Steps.run RpmHistory.step .start calls).admittedIn "sk-client" t₁ t₂ ∧
          (Steps.run RpmHistory.step .start calls).admittedIn "sk-client" t₁ t₂ ≤ 1 + 1 * (t₂ - t₁) / perMinute :=
  ⟨rfl, server_rpm_bounded Nat.one_pos plainSite rfl oneAMinute_caps threeCalls_inTime⟩

end AiRouter
