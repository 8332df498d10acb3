import AiRouter.BanRespect
import AiRouter.Ledger
import AiRouter.Lib.Steps
import AiRouter.Snapshot

/-
# The endpoint of a session

A session is bound to the index of an endpoint, whatever the model and whoever asks. A model that has no
endpoint there gets another one, and the session its index.

| here | there |
| --- | --- |
| `Session`        | the state between the requests of one session, and where they have been sent |
| `Ask`, `.handle` | one request through `proxy_handler`, and what runs before it |
| `Outruns`        | `sticky_idx < m.endpoints.len()` fails (handler.rs:263) |
-/
namespace AiRouter

/-- What others do leaves the configuration and the session's binding alone. -/
def Others.Spares (sid : String) (o : Others) : Prop :=
  o.KeepsConfig ∧ ∀ st, (o.sticky st).ttlSecs = st.ttlSecs ∧ (o.sticky st).sessions.lookup sid = st.sessions.lookup sid

theorem OnlyBudgets.sticky {app app' : AppState} (h : OnlyBudgets app app') : app'.sticky = app.sticky := by
  obtain ⟨_, _, rfl⟩ := h; rfl

/-! ## The session's endpoint -/

section
variable {app : AppState} {m : ModelConfig} {sid : String} {now b : Nat} {pick : Option SelectedEndpoint}

/-- A binding that is alive decides, where the model has an endpoint there. -/
theorem stickyPick_bound (hget : (app.sticky.get sid now).2 = some b)
    (h : (stickyPick app (some m) ∅ (some sid) now).2 = .ok pick) (hlt : b < m.endpoints.length) :
    ∃ sel, pick = some sel ∧ sel.index = b := by
  unfold stickyPick at h
  simp only [hget, Option.orElse_some, List.getElem?_eq_getElem hlt] at h
  split at h
  · cases h
  · rw [if_pos (Finset.notMem_empty _)] at h
    exact ⟨_, (Except.ok.inj h).symm, rfl⟩

end

section
variable {deps : Externs} {ctx : LoopCtx} {t : Turn} {s : LoopState} {epKey sid : String}

/-- The session is bound to the endpoint since the end of the round. -/
def BoundTo (sid : String) (t : Turn) (ep : SelectedEndpoint) (app : AppState) : Prop :=
  app.sticky.sessions.lookup sid = some { endpointIndex := ep.index, lastAccess := t.doneAt }

theorem finish_binds (hsid : ctx.req.sessionId = some sid) (s : LoopState) (deps : Externs) (epKey : String)
    (status : Nat) (body : List Chunk) :
    BoundTo sid t s.current (s.finish deps ctx epKey status body t.checkAt t.doneAt).app := by
  have hbound : BoundTo sid t s.current ((s.app.answered epKey ((t.doneAt - t.checkAt) / 1000000)).bindSession
      ctx.req.sessionId s.current.index t.doneAt) := by
    unfold BoundTo AppState.bindSession
    rw [hsid]
    exact AList.lookup_insert _
  unfold LoopState.finish
  dsimp only
  split
  · exact hbound
  · unfold BoundTo
    dsimp only
    rw [(chargeUsage_budgets _ _ _ _ _ _ _ _ _).sticky]
    exact hbound

/-- A round that ends in an answer has sent the request to its endpoint and bound the session to it. -/
def AnswersBound (sid : String) (t : Turn) (s s' : LoopState) (e : Ending) : Prop :=
  ∀ ep status body, e = .responded (.passedOn ep status body) →
    VisitedAs (.sent t.reply) s s' ∧ BoundTo sid t s.current s'.app

theorem settle_binds (hsid : ctx.req.sessionId = some sid) (status : Nat) (body : List Chunk) :
    (settle deps ctx t epKey s status body).Sat (fun _ => True)
      (fun s' e => ∀ ep status body, e = .responded (.passedOn ep status body) → BoundTo sid t s.current s'.app) := by
  have hcurrent : (s.classified deps ctx t epKey status body).current = s.current :=
    (chargeStream_frame deps ctx epKey s status body t.doneAt).2.1
  rw [settle_eq]
  split
  · intro _ _ _ _
    have hbinds := finish_binds (t := t) hsid (s.classified deps ctx t epKey status body) deps epKey status body
    rw [hcurrent] at hbinds
    exact hbinds
  · refine (retry_ledger _ ctx epKey _).mono (fun _ _ => trivial) (fun s' e h _ _ _ he => ?_)
    obtain ⟨_, ⟨p, rfl⟩ | rfl⟩ := h
    · cases he
    · cases he

theorem attempt_binds (hsid : ctx.req.sessionId = some sid) :
    (attempt deps ctx t epKey s).Sat (fun _ => True) (AnswersBound sid t s) := by
  have htrace := Loop.Flow.sat_of_state (attempt_trace deps ctx t epKey s)
  have hbinds : (attempt deps ctx t epKey s).Sat (fun _ => True)
      (fun s' e => ∀ ep status body, e = .responded (.passedOn ep status body) →
        sendStep ctx t = .sent t.reply ∧ BoundTo sid t s.current s'.app) := by
    unfold attempt
    dsimp only
    split
    · rename_i r hcall
      intro ep status body he
      have hanswer := call_returned hcall
      rw [he] at hanswer
      cases hanswer
    · rename_i status body hcall
      refine (settle_binds hsid status body).mono (fun _ h => h) (fun s' e h ep status' body' he => ?_)
      have hsent : sendStep ctx t = .sent t.reply := by
        unfold sendStep
        rw [call_ok hcall]
        rfl
      exact ⟨hsent, h ep status' body' he⟩
    · refine (callFailed_ledger _).mono (fun _ _ => trivial) (fun s' e h ep status body he => ?_)
      rw [he] at h
      cases h
  refine (htrace.and hbinds).mono (fun _ _ => trivial) (fun s' e h ep status body he => ?_)
  obtain ⟨hsent, hbound⟩ := h.2 ep status body he
  have hvisit := h.1
  rw [hsent] at hvisit
  exact ⟨hvisit, hbound⟩

/-- **Step**, a round of the loop. -/
theorem turn_binds (hsid : ctx.req.sessionId = some sid) :
    (turn deps ctx t s).Sat (fun _ => True) (AnswersBound sid t s) := by
  unfold turn
  dsimp only
  split
  · intro ep status body he
    cases he
  · rename_i epKey hkey
    split
    · refine (tryNext_ledger _ ctx epKey _).mono (fun _ _ => trivial) (fun s' e h ep status body he => ?_)
      obtain ⟨_, ⟨p, rfl⟩ | rfl⟩ := h
      · cases he
      · cases he
    · exact attempt_binds hsid

/-- **Run**: a request that one endpoint has been asked for is answered in the first round. -/
theorem retryLoop_binds {env : Env} (henv : env.KeepsConfig) (hsid : ctx.req.sessionId = some sid)
    (htrace : s.trace = []) {fuel : Nat} (honce : (retryLoop deps env ctx fuel s).state.trace.length = 1)
    {ep : SelectedEndpoint} {status : Nat} {body : List Chunk}
    (hanswer : (retryLoop deps env ctx fuel s).result = some (.responded (.passedOn ep status body))) :
    (retryLoop deps env ctx fuel s).state.trace = [{ endpoint := s.current, step := .sent (env.turn 0).reply }] ∧
      (retryLoop deps env ctx fuel s).state.app.config = s.app.config ∧
      BoundTo sid (env.turn 0) s.current (retryLoop deps env ctx fuel s).state.app := by
  unfold retryLoop at honce hanswer ⊢
  cases fuel with
  | zero => cases hanswer
  | succ n =>
    rw [Loop.run_succ] at honce hanswer ⊢
    have hsat : (turn deps ctx (env.turn 0) s).Sat (RoundOn ctx s) (fun s' _ => RoundLast s s') :=
      turn_sat (henv.2.2 0).1 (henv.2.2 0).2
    have hbinds : (turn deps ctx (env.turn 0) s).Sat (fun _ => True) (AnswersBound sid (env.turn 0) s) :=
      turn_binds hsid
    cases hturn : turn deps ctx (env.turn 0) s with
    | exit s' e =>
      rw [hturn] at honce hanswer hsat hbinds
      obtain ⟨hvisit, hbound⟩ := hbinds ep status body (Option.some.inj hanswer)
      unfold VisitedAs at hvisit
      rw [htrace] at hvisit
      exact ⟨hvisit, hsat.config, hbound⟩
    | next s' =>
      rw [hturn] at honce hanswer hsat
      dsimp only at honce hanswer
      obtain ⟨step, hvisit⟩ := hsat.visited
      have hone : s'.trace.length = 1 := by rw [hvisit, htrace]; rfl
      cases n with
      | zero => cases hanswer
      | succ n =>
        -- a second round visits a second endpoint
        have hlonger : ∀ k s, s.trace.length ≤ (turn deps ctx (env.turn k) s).state.trace.length := by
          intro k s
          rw [turn_trace deps ctx (env.turn k) s, List.length_append]
          exact Nat.le_add_right _ _
        have hmore : (turn deps ctx (env.turn 1) s').state.trace.length
            ≤ (Loop.run (fun k => turn deps ctx (env.turn k)) (n + 1) 1 s').state.trace.length :=
          @Loop.run_extends _ _ _ (fun s s' => s.trace.length ≤ s'.trace.length)
            (fun _ => Nat.le_refl _) Nat.le_trans hlonger n 1 s'
        rw [honce, turn_trace deps ctx (env.turn 1) s', List.length_append, hone] at hmore
        exact absurd hmore (by simp)

end

/-! ## The requests of a session -/

/-- Where a request has been sent. -/
structure Sent where
  tokenKey : String
  /-- the canonical name of its model -/
  model : String
  endpoint : SelectedEndpoint

structure Session where
  app : AppState
  log : List Sent
  /-- when the last request was answered -/
  last : Option Nat

/-- A request, and what runs between the one before and it. -/
structure Ask where
  between : Others
  env : Env
  fuel : Nat
  req : ChatRequest

namespace Ask

variable (deps : Externs) (sid : String) (s : Session) (a : Ask)

def run : Run := proxyHandler deps a.env a.fuel (s.app.disturb a.between) a.req

/-- The model that is asked for. -/
def model : String := s.app.config.canonicalModelName a.req.modelName

def handle : Session where
  app := (a.run deps s).app
  log := s.log ++ (a.run deps s).trace.filterMap fun v =>
    match v.step with
    | .sent _ => some { tokenKey := a.req.auth.tokenKey, model := a.model s, endpoint := v.endpoint }
    | _ => none
  last := some (a.env.turn 0).doneAt

/-- A request of the session, after a gap that is short enough, with no endpoint banned, that the first
endpoint asked answers. -/
structure Served : Prop where
  session : a.req.sessionId = some sid
  between : a.between.Spares sid
  beforePick : a.env.beforePick.Spares sid
  config : a.env.KeepsConfig
  gap : ∀ t, s.last = some t → t ≤ a.env.startAt ∧ a.env.startAt < t + s.app.sticky.ttlSecs * 10 ^ 9
  unbanned : (prepare a.env (s.app.disturb a.between) a.req).toOption.map (·.1.bannedKeys) = some ∅
  once : (a.run deps s).trace.length = 1
  answered : ∃ ep status body, (a.run deps s).ending = some (.responded (.passedOn ep status body))

/-- The session is bound to an index at which the model has no endpoint. -/
def Outruns : Prop :=
  ∃ m e, s.app.config.findModel (a.model s) = some m ∧ s.app.sticky.sessions.lookup sid = some e ∧
    m.endpoints.length ≤ e.endpointIndex

/-- The same token asks for the same model. -/
def Repeats (x : Sent) : Prop := a.req.auth.tokenKey = x.tokenKey ∧ a.model s = x.model

end Ask

/-- Every request of a token for a model goes to one endpoint. -/
def Stable (log : List Sent) : Prop :=
  ∀ x ∈ log, ∀ y ∈ log, x.tokenKey = y.tokenKey → x.model = y.model → x.endpoint = y.endpoint

/-- Whenever a request outruns its model, no token asks from then on for a model that it has asked for before. -/
def Unparted (deps : Externs) (sid : String) : Session → List Ask → Prop
  | _, [] => True
  | s, a :: rest =>
    (a.Outruns sid s → ∀ b ∈ a :: rest, ∀ x ∈ s.log, ¬ b.Repeats s x) ∧ Unparted deps sid (a.handle deps s) rest

/-- The session is bound to index `i` since the last answer. -/
def Session.Holds (sid : String) (s : Session) (i : Nat) : Prop :=
  ∃ t, s.last = some t ∧ s.app.sticky.sessions.lookup sid = some { endpointIndex := i, lastAccess := t }

/-- What holds between the requests of a session. -/
structure Session.Inv (cfg : AppConfig) (sid : String) (s : Session) : Prop where
  config : s.app.config = cfg
  picked : ∀ x ∈ s.log, ∃ m, cfg.findModel x.model = some m ∧ Balancer.PickOf m x.endpoint
  /-- the binding never grows -/
  bound : ∀ x ∈ s.log, ∃ i, s.Holds sid i ∧ i ≤ x.endpoint.index

section
variable {deps : Externs} {sid : String} {cfg : AppConfig} {s : Session} {a : Ask}

theorem pickState_sticky (env : Env) (app : AppState) (req : ChatRequest) :
    (Handler.pickState env app req).sticky = env.beforePick.sticky app.sticky := by
  unfold Handler.pickState
  obtain ⟨fb, hfb⟩ := AppState.collectBanned_only env.startAt
    (((app.config.findModel (app.config.canonicalModelName req.modelName)).map (·.endpoints)).getD []) app ∅
  rw [hfb]
  rfl

/-- A request finds the binding of the last one alive. -/
theorem Ask.Served.alive (h : a.Served deps sid s) {i : Nat} (hbound : s.Holds sid i) :
    ((Handler.pickState a.env (s.app.disturb a.between) a.req).sticky.get sid a.env.startAt).2 = some i := by
  obtain ⟨t, hlast, hbound⟩ := hbound
  obtain ⟨hfrom, hto⟩ := h.gap t hlast
  rw [pickState_sticky]
  obtain ⟨httl, hlookup⟩ := h.between.2 s.app.sticky
  obtain ⟨httl', hlookup'⟩ := h.beforePick.2 (a.between.sticky s.app.sticky)
  have hentry := (hlookup'.trans hlookup).trans hbound
  have hage : (a.env.startAt - t) / 10 ^ 9 < s.app.sticky.ttlSecs := by
    rw [Nat.div_lt_iff_lt_mul (by omega)]
    omega
  unfold SessionStickyStore.get
  have hdisturb : (s.app.disturb a.between).sticky = a.between.sticky s.app.sticky := rfl
  rw [hdisturb, hentry]
  dsimp only
  rw [httl', httl, if_pos hage]

/-- A request that is served enters the loop. -/
theorem Ask.Served.enters (h : a.Served deps sid s) : ∃ ctx start,
    prepare a.env (s.app.disturb a.between) a.req = .ok (ctx, start) ∧ ctx.bannedKeys = ∅ := by
  have hunbanned := h.unbanned
  cases hprep : prepare a.env (s.app.disturb a.between) a.req with
  | error run =>
    rw [hprep] at hunbanned
    cases hunbanned
  | ok p =>
    rw [hprep] at hunbanned
    exact ⟨p.1, p.2, rfl, Option.some.inj hunbanned⟩

/-- **The first pick**: the index that the session is bound to, if the model has an endpoint there. -/
theorem prepare_index {env : Env} {app : AppState} {req : ChatRequest} {ctx : LoopCtx} {start : LoopState}
    {m : ModelConfig} {b : Nat} (hprep : prepare env app req = .ok (ctx, start)) (hempty : ctx.bannedKeys = ∅)
    (hsid : req.sessionId = some sid) (hm : app.config.findModel ctx.canonicalModel = some m)
    (hget : ((Handler.pickState env app req).sticky.get sid env.startAt).2 = some b) :
    b < m.endpoints.length → start.current.index = b := by
  have hsticky : Handler.sticky env app req ctx =
      (stickyPick (Handler.pickState env app req) (some m) ∅ (some sid) env.startAt).2 := by
    unfold Handler.sticky
    rw [hempty, hsid, hm]
  intro hlt
  rcases (prepare_entered hprep).picked with hcurrent | ⟨hnone, -⟩
  · rw [hsticky] at hcurrent
    obtain ⟨sel, hsel, hindex⟩ := stickyPick_bound hget hcurrent hlt
    obtain rfl := Option.some.inj hsel
    exact hindex
  · rw [hsticky] at hnone
    obtain ⟨sel, hsel, -⟩ := stickyPick_bound hget hnone hlt
    cases hsel

/-- **What a request does**: it goes to an endpoint of its model and binds the session to it. That is the
endpoint at the index that the session is bound to, if the model has one there. -/
theorem Ask.Served.sends (h : a.Served deps sid s) (hs : s.app.config = cfg) :
    ∃ m ep, cfg.findModel (a.model s) = some m ∧ Balancer.PickOf m ep ∧
      (a.handle deps s).log = s.log ++ [{ tokenKey := a.req.auth.tokenKey, model := a.model s, endpoint := ep }] ∧
      (a.handle deps s).app.config = cfg ∧ (a.handle deps s).Holds sid ep.index ∧
      ∀ i, s.Holds sid i → i < m.endpoints.length → ep.index = i := by
  obtain ⟨ctx, start, hprep, hempty⟩ := h.enters
  obtain ⟨_, _, _, hanswer⟩ := h.answered
  have honce := h.once
  have hp := prepare_ok h.config.1 h.config.2.1 hprep
  have hcfg : (s.app.disturb a.between).config = cfg := (disturb_config h.between.1).trans hs
  have hrun : a.run deps s = proxyHandler deps a.env a.fuel (s.app.disturb a.between) a.req := rfl
  unfold proxyHandler at hrun
  rw [hprep] at hrun
  dsimp only at hrun
  rw [hrun] at hanswer honce
  have hsid : ctx.req.sessionId = some sid := by
    rw [hp.req_eq]
    exact h.session
  obtain ⟨htrace, hconfig, hbound⟩ := retryLoop_binds h.config hsid hp.trace honce hanswer
  obtain ⟨m, hm, hpick, -⟩ := hp.picked
  have hmodel : ctx.canonicalModel = a.model s := by
    rw [hp.canonical, hcfg, ← hs]
    rfl
  refine ⟨m, start.current, by rw [← hmodel, ← hcfg]; exact hm, hpick, ?_, ?_, ?_, ?_⟩
  · unfold Ask.handle
    dsimp only
    rw [hrun]
    dsimp only
    rw [htrace]
    rfl
  · unfold Ask.handle
    dsimp only
    rw [hrun]
    exact hconfig.trans (hp.config.trans hcfg)
  · refine ⟨(a.env.turn 0).doneAt, rfl, ?_⟩
    unfold Ask.handle
    dsimp only
    rw [hrun]
    exact hbound
  · exact fun i hi => prepare_index hprep hempty h.session hm (h.alive hi)

/-- What a request adds to the log, and to what it binds the session. -/
structure Ask.Adds (cfg : AppConfig) (sid : String) (s s' : Session) (a : Ask) (x : Sent) : Prop where
  log : s'.log = s.log ++ [x]
  config : s'.app.config = cfg
  repeats : a.Repeats s x
  picked : ∃ m, cfg.findModel x.model = some m ∧ Balancer.PickOf m x.endpoint
  holds : s'.Holds sid x.endpoint.index
  kept : ∀ i, s.Holds sid i → ¬ a.Outruns sid s → x.endpoint.index = i
  fell : ∀ i, s.Holds sid i → a.Outruns sid s → x.endpoint.index < i

theorem Ask.Served.adds (h : a.Served deps sid s) (hs : s.app.config = cfg) :
    ∃ x, a.Adds cfg sid s (a.handle deps s) x := by
  obtain ⟨m, ep, hm, hpick, hlog, hconfig, hholds, hindex⟩ := h.sends hs
  refine ⟨_, hlog, hconfig, ⟨rfl, rfl⟩, ⟨m, hm, hpick⟩, hholds, fun i hi hnot => ?_, fun i hi hover => ?_⟩
  · obtain ⟨t, hlast, hentry⟩ := hi
    refine hindex i ⟨t, hlast, hentry⟩ (Nat.not_le.1 fun hle => hnot ?_)
    exact ⟨m, _, by rw [hs]; exact hm, hentry, hle⟩
  · obtain ⟨m', e, hm', he, hle⟩ := hover
    rw [hs, hm] at hm'
    obtain rfl := Option.some.inj hm'
    obtain ⟨t, _, hentry⟩ := hi
    obtain rfl := Option.some.inj (hentry.symm.trans he)
    exact Nat.lt_of_lt_of_le hpick.index_lt hle

theorem Ask.Adds.le {s' : Session} {x : Sent} (h : a.Adds cfg sid s s' x) {i : Nat} (hi : s.Holds sid i) :
    x.endpoint.index ≤ i := by
  by_cases hover : a.Outruns sid s
  · exact Nat.le_of_lt (h.fell i hi hover)
  · exact Nat.le_of_eq (h.kept i hi hover)

/-- **Step**: a request keeps what holds between the requests. -/
theorem Ask.Adds.inv {s' : Session} {x : Sent} (h : a.Adds cfg sid s s' x) (hs : s.Inv cfg sid) :
    s'.Inv cfg sid := by
  refine ⟨h.config, fun y hy => ?_, fun y hy => ?_⟩
  · rw [h.log, List.mem_append, List.mem_singleton] at hy
    obtain hy | rfl := hy
    · exact hs.picked y hy
    · exact h.picked
  · rw [h.log, List.mem_append, List.mem_singleton] at hy
    refine ⟨x.endpoint.index, h.holds, ?_⟩
    obtain hy | rfl := hy
    · obtain ⟨i, hi, hle⟩ := hs.bound y hy
      exact (h.le hi).trans hle
    · exact Nat.le_refl _

/-- Who asks for what does not depend on the state. -/
theorem Ask.repeats_congr {s' : Session} (h : s'.app.config = s.app.config) (b : Ask) (x : Sent) :
    b.Repeats s' x ↔ b.Repeats s x := by
  unfold Ask.Repeats Ask.model
  rw [h]

theorem mem_run_log {x : Sent} (hx : x ∈ s.log) (asks : List Ask) :
    x ∈ (Steps.run (Ask.handle deps) s asks).log := by
  have hstep : ∀ s a, True → x ∈ s.log → x ∈ (Ask.handle deps s a).log := fun _ _ _ h => List.mem_append_left _ h
  exact Steps.run_keeps hstep asks s (Steps.every_true asks s) hx

/-- **Run**: each request is in the log, under an index not above that of the first one. -/
theorem sent_later {b : Ask} (rest : List Ask) : ∀ {a : Ask} {s : Session} {x : Sent}, s.Inv cfg sid →
    a.Adds cfg sid s (a.handle deps s) x →
    Steps.Every (Ask.handle deps) (Ask.Served deps sid) (a.handle deps s) rest → b ∈ a :: rest →
    ∃ y ∈ (Steps.run (Ask.handle deps) s (a :: rest)).log, b.Repeats s y ∧ y.endpoint.index ≤ x.endpoint.index := by
  induction rest with
  | nil =>
    intro a s x _ hx _ hb
    obtain rfl := List.mem_singleton.1 hb
    refine ⟨x, ?_, hx.repeats, Nat.le_refl _⟩
    rw [Steps.run_cons, Steps.run_nil, hx.log]
    exact List.mem_append_right _ (List.mem_singleton_self _)
  | cons a' rest ih =>
    intro a s x hs hx hserved hb
    rw [Steps.run_cons]
    obtain rfl | hb := List.mem_cons.1 hb
    · refine ⟨x, mem_run_log ?_ (a' :: rest), hx.repeats, Nat.le_refl _⟩
      rw [hx.log]
      exact List.mem_append_right _ (List.mem_singleton_self _)
    · obtain ⟨x', hx'⟩ := hserved.1.adds hx.config
      obtain ⟨y, hy, hagain, hle⟩ := ih (hx.inv hs) hx' hserved.2 hb
      refine ⟨y, hy, ?_, hle.trans (hx'.le hx.holds)⟩
      exact (Ask.repeats_congr (hx.config.trans hs.config.symm) b y).1 hagain

/-- Where the endpoints stay, no pair comes again once a request has outrun its model: it would get a lower
index. -/
theorem unparted_of_stable (asks : List Ask) : ∀ {s : Session}, s.Inv cfg sid →
    Steps.Every (Ask.handle deps) (Ask.Served deps sid) s asks →
    Stable (Steps.run (Ask.handle deps) s asks).log → Unparted deps sid s asks := by
  induction asks with
  | nil => exact fun _ _ _ => trivial
  | cons a rest ih =>
    intro s hs hserved hstable
    obtain ⟨x, hx⟩ := hserved.1.adds hs.config
    refine ⟨fun hover b hb y hy hrepeats => ?_, ih (hx.inv hs) hserved.2 hstable⟩
    obtain ⟨i, hi, hle⟩ := hs.bound y hy
    obtain ⟨z, hz, hagain, hbelow⟩ := sent_later rest hs hx hserved.2 hb
    have hlt := Nat.lt_of_le_of_lt hbelow (hx.fell i hi hover)
    have hsame := hstable z hz y (mem_run_log hy _) (hagain.1.symm.trans hrepeats.1)
      (hagain.2.symm.trans hrepeats.2)
    rw [hsame] at hlt
    exact absurd hle (Nat.not_le.2 hlt)

/-- The session is bound to the endpoint of `x`, or the pair does not come again. -/
def Settled (sid : String) (s : Session) (asks : List Ask) (x : Sent) : Prop :=
  s.Holds sid x.endpoint.index ∨ ∀ b ∈ asks, ¬ b.Repeats s x

/-- **Step**: a request of a pair that is settled goes where the pair has gone. -/
theorem Ask.Adds.stable {s' : Session} {x : Sent} {rest : List Ask} (h : a.Adds cfg sid s s' x)
    (hs : s.Inv cfg sid) (hstable : Stable s.log) (hsettled : ∀ y ∈ s.log, Settled sid s (a :: rest) y)
    (hunparted : a.Outruns sid s → ∀ b ∈ a :: rest, ∀ y ∈ s.log, ¬ b.Repeats s y) : Stable s'.log := by
  have hsame : ∀ y ∈ s.log, x.tokenKey = y.tokenKey → x.model = y.model → x.endpoint = y.endpoint := by
    intro y hy htoken hmodel
    have hrepeats : a.Repeats s y := ⟨h.repeats.1.trans htoken, h.repeats.2.trans hmodel⟩
    have hnot : ¬ a.Outruns sid s := fun hover => hunparted hover a List.mem_cons_self y hy hrepeats
    have hindex : x.endpoint.index = y.endpoint.index := by
      obtain hholds | hnever := hsettled y hy
      · exact h.kept _ hholds hnot
      · exact absurd hrepeats (hnever a List.mem_cons_self)
    obtain ⟨m, hm, hpick⟩ := h.picked
    obtain ⟨m', hm', hpick'⟩ := hs.picked y hy
    rw [hmodel, hm'] at hm
    obtain rfl := Option.some.inj hm
    exact hpick.eq_of_index hpick' hindex
  intro y hy z hz htoken hmodel
  rw [h.log, List.mem_append, List.mem_singleton] at hy hz
  obtain hy | rfl := hy
  · obtain hz | rfl := hz
    · exact hstable y hy z hz htoken hmodel
    · exact (hsame y hy htoken.symm hmodel.symm).symm
  · obtain hz | rfl := hz
    · exact hsame z hz htoken hmodel
    · rfl

/-- **Step**: settled pairs stay settled. -/
theorem Ask.Adds.settled {s' : Session} {x : Sent} {rest : List Ask} (h : a.Adds cfg sid s s' x)
    (hs : s.Inv cfg sid) (hsettled : ∀ y ∈ s.log, Settled sid s (a :: rest) y)
    (hunparted : a.Outruns sid s → ∀ b ∈ a :: rest, ∀ y ∈ s.log, ¬ b.Repeats s y) :
    ∀ y ∈ s'.log, Settled sid s' rest y := by
  have hcongr := fun b y => Ask.repeats_congr (h.config.trans hs.config.symm) b y
  intro y hy
  rw [h.log, List.mem_append, List.mem_singleton] at hy
  obtain hy | rfl := hy
  · by_cases hover : a.Outruns sid s
    · exact Or.inr fun b hb hrepeats => hunparted hover b (List.mem_cons_of_mem _ hb) y hy ((hcongr b y).1 hrepeats)
    · obtain hholds | hnever := hsettled y hy
      · refine Or.inl ?_
        rw [← h.kept _ hholds hover]
        exact h.holds
      · exact Or.inr fun b hb hrepeats => hnever b (List.mem_cons_of_mem _ hb) ((hcongr b y).1 hrepeats)
  · exact Or.inl h.holds

/-- **Run**: where no pair is parted, the endpoints stay. -/
theorem stable_of_unparted (asks : List Ask) : ∀ {s : Session}, s.Inv cfg sid →
    Steps.Every (Ask.handle deps) (Ask.Served deps sid) s asks → Stable s.log →
    (∀ y ∈ s.log, Settled sid s asks y) → Unparted deps sid s asks →
    Stable (Steps.run (Ask.handle deps) s asks).log := by
  induction asks with
  | nil => exact fun _ _ hstable _ _ => hstable
  | cons a rest ih =>
    intro s hs hserved hstable hsettled hunparted
    obtain ⟨x, hx⟩ := hserved.1.adds hs.config
    exact ih (hx.inv hs) hserved.2 (hx.stable hs hstable hsettled hunparted.1) (hx.settled hs hsettled hunparted.1)
      hunparted.2

end

/-- **The endpoint of a session**: in a session whose requests are served one after another, each token's
requests for a model stay with one endpoint exactly where no such pair is asked for on both sides of a request
that outruns its model. -/
theorem session_stable_iff (deps : Externs) (sid : String) {s : Session} (hfresh : s.log = []) (asks : List Ask)
    (hserved : Steps.Every (Ask.handle deps) (Ask.Served deps sid) s asks) :
    Stable (Steps.run (Ask.handle deps) s asks).log ↔ Unparted deps sid s asks := by
  have hinv : s.Inv s.app.config sid := by
    refine ⟨rfl, ?_, ?_⟩
    · simp [hfresh]
    · simp [hfresh]
  constructor
  · exact unparted_of_stable asks hinv hserved
  · refine stable_of_unparted asks hinv hserved ?_ ?_
    · simp [Stable, hfresh]
    · simp [hfresh]

/-! ## A session that asks for a smaller model in between -/

/-- A model with two endpoints and one with one. -/
def twoModelConfig : AppConfig :=
  { pairConfig with
    models := pairConfig.models ++
      [{ name := "gpt-3.5", aliases := [], modelType := "chat"
         endpoints :=
          [{ url := "https://c.example.com", key := "sk-upstream-3", limits := none, cost := none, weight := 1 }] }] }

/-- The start of a session, where another one has had the first endpoint of `gpt-4`. -/
def freshSession : Session where
  app :=
    { startApp twoModelConfig { counters := AList.singleton "gpt-4" 1 } [] { limiters := ∅ } with
      sticky := { sessions := ∅, ttlSecs := 300 } }
  log := []
  last := none

/-- A request in the session that nothing disturbs, and that takes no time. -/
def quietAsk (modelName : String) : Ask where
  between := .quiet
  env := .quiet fun _ => answeringTurn
  fuel := 1
  req := { singleRequest with modelName := modelName, sessionId := some "session-1" }

theorem quietAsk_served {modelName : String} {s : Session} (hlast : ∀ t, s.last = some t → t = 0)
    (httl : s.app.sticky.ttlSecs = 300)
    (hunbanned : (prepare (quietAsk modelName).env s.app (quietAsk modelName).req).toOption.map (·.1.bannedKeys) = some ∅)
    (honce : ((quietAsk modelName).run .mute s).trace.length = 1)
    (hanswered : ∃ ep status body,
      ((quietAsk modelName).run .mute s).ending = some (.responded (.passedOn ep status body))) :
    (quietAsk modelName).Served .mute "session-1" s := by
  refine ⟨rfl, ⟨fun _ => rfl, fun _ => ⟨rfl, rfl⟩⟩, ⟨fun _ => rfl, fun _ => ⟨rfl, rfl⟩⟩,
    ⟨fun _ => rfl, fun _ => rfl, fun _ => ⟨fun _ => rfl, fun _ => rfl⟩⟩, fun t ht => ?_, hunbanned, honce, hanswered⟩
  obtain rfl := hlast t ht
  rw [httl]
  exact ⟨Nat.le_refl 0, by show 0 < 0 + 300 * 10 ^ 9; decide⟩

/-- `gpt-4` and then, twice, a model that has no second endpoint. -/
def smallerAfter : List Ask := [quietAsk "gpt-4", quietAsk "gpt-3.5", quietAsk "gpt-3.5"]

/-- The same, and `gpt-4` again. -/
def smallerBetween : List Ask := [quietAsk "gpt-4", quietAsk "gpt-3.5", quietAsk "gpt-4"]

theorem smallerAfter_stable : Stable (Steps.run (Ask.handle .mute) freshSession smallerAfter).log := by
  have hserved : Steps.Every (Ask.handle .mute) (Ask.Served .mute "session-1") freshSession smallerAfter := by
    refine ⟨?_, ?_, ?_, trivial⟩
    · exact quietAsk_served (fun t ht => by cases ht) rfl rfl rfl ⟨_, _, _, rfl⟩
    · exact quietAsk_served (fun t ht => by cases ht; rfl) rfl rfl rfl ⟨_, _, _, rfl⟩
    · exact quietAsk_served (fun t ht => by cases ht; rfl) rfl rfl rfl ⟨_, _, _, rfl⟩
  refine (session_stable_iff .mute "session-1" rfl smallerAfter hserved).2 ⟨?_, ?_, ?_, trivial⟩
  · intro _ _ _ x hx
    cases hx
  · -- the other model is asked for no more
    intro _ b hb x hx hrepeats
    have hb' : b = quietAsk "gpt-3.5" := by simpa using hb
    obtain rfl := List.mem_singleton.1 hx
    rw [hb'] at hrepeats
    exact absurd hrepeats.2 (by decide)
  · -- bound to the endpoint that there is
    rintro ⟨m, e, hm, he, hle⟩
    obtain rfl := Option.some.inj hm
    obtain rfl := Option.some.inj he
    exact absurd hle (by decide)

/-- The second request for `gpt-4` goes to the other endpoint. -/
theorem smaller_model_moves_session :
    twoModelConfig.Accepted ∧
      (∀ a ∈ smallerBetween, RequestOf twoModelConfig "sk-client" a.req.modelName a.req) ∧
      Steps.Every (Ask.handle .mute) (Ask.Served .mute "session-1") freshSession smallerBetween ∧
      (Steps.run (Ask.handle .mute) freshSession smallerBetween).log.map (fun x => (x.model, x.endpoint.url)) =
        [("gpt-4", "https://b.example.com"), ("gpt-3.5", "https://c.example.com"), ("gpt-4", "https://a.example.com")] ∧
      ¬ Stable (Steps.run (Ask.handle .mute) freshSession smallerBetween).log := by
  have hserved : Steps.Every (Ask.handle .mute) (Ask.Served .mute "session-1") freshSession smallerBetween := by
    refine ⟨?_, ?_, ?_, trivial⟩
    · exact quietAsk_served (fun t ht => by cases ht) rfl rfl rfl ⟨_, _, _, rfl⟩
    · exact quietAsk_served (fun t ht => by cases ht; rfl) rfl rfl rfl ⟨_, _, _, rfl⟩
    · exact quietAsk_served (fun t ht => by cases ht; rfl) rfl rfl rfl ⟨_, _, _, rfl⟩
  refine ⟨rfl, ?_, hserved, rfl, fun hstable => ?_⟩
  · intro a ha
    simp only [smallerBetween, List.mem_cons, List.not_mem_nil, or_false] at ha
    obtain rfl | rfl | rfl := ha <;> exact ⟨rfl, rfl⟩
  · obtain ⟨x, y, z, hlog, hsame, hmodel, hindex⟩ : ∃ x y z : Sent,
        (Steps.run (Ask.handle .mute) freshSession smallerBetween).log = [x, y, z] ∧ x.tokenKey = z.tokenKey ∧
          x.model = z.model ∧ x.endpoint.index ≠ z.endpoint.index :=
      ⟨_, _, _, rfl, rfl, rfl, by decide⟩
    rw [hlog] at hstable
    exact hindex (congrArg SelectedEndpoint.index (hstable x (by simp) z (by simp) hsame hmodel))

end AiRouter
