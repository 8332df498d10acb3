import AiRouter.ModelAccess
import AiRouter.RpmQuota
import AiRouter.Server
import AiRouter.TpmAccounting
import AiRouter.Lib.Steps

/-
# What stands between a client and an upstream

A request comes to an endpoint only with a key that the configuration knows, for a model that the key may use,
and after the limits of its team and token have let it through and entered their reservations. A request
without such a key, on whatever route, sends nothing, is charged nothing, and leaves no mark but that bans which
have run out are forgotten: the health pages look at every endpoint.
-/
namespace AiRouter

/-! ## What the ledger of a request begins with -/

section
variable {deps : Externs} {ctx : LoopCtx} {t : Turn} {s : LoopState} {epKey : String}

end

/-! ## Admission -/

/-- Passing the checks `gs` takes the limiters along `R`. -/
def Leads (gs : List (Gate.Check Charged Rejection)) (R : RateLimiterStore → RateLimiterStore → Prop) : Prop :=
  ∀ c : Charged, (Gate.runAll gs c).2 = none → R c.app.limiters (Gate.runAll gs c).1.app.limiters

section
variable {gs hs : List (Gate.Check Charged Rejection)} {R S : RateLimiterStore → RateLimiterStore → Prop}
  {key : String} {rpm tpm now : Nat} {scope : RateLimitScope} {s s' : RateLimiterStore}

theorem Leads.append (hg : Leads gs R) (hh : Leads hs S) : Leads (gs ++ hs) (Relation.Comp R S) := by
  intro c hnone
  obtain ⟨hfirst, hsecond, hstate⟩ := Gate.runAll_append_admitted hnone
  rw [hstate]
  exact ⟨_, hg c hfirst, hh _ hsecond⟩

/-- A check that is made only sometimes. -/
theorem Leads.opt {g : Gate.Check Charged Rejection} (b : Prop) [Decidable b] (hg : Leads [g] R)
    (hnot : ¬ b → ∀ s, R s s) : Leads (if b then [g] else []) R := by
  split
  · exact hg
  · rename_i hb
    exact fun c _ => hnot hb c.app.limiters

end

section
variable {deps : Externs} {env : Env} {app : AppState} {req : ChatRequest} {ctx : LoopCtx} {s : LoopState}

end

section
variable {site : Site} {env : Env} {app : AppState} {raw : RawRequest}

/-- A chat that does not reach the loop ends on its body, in the state it came to, or is not prepared. -/
theorem upToSelection_error {run : Run}
    (h : Handler.upToSelection site.deps site.toVec site.parseError env app raw = .error run) :
    (run.app = app ∧ run.trace = []) ∨ ∃ req, req.auth = raw.auth ∧ prepare env app req = .error run := by
  unfold Handler.upToSelection at h
  dsimp only at h
  split at h
  · cases h
    exact Or.inl ⟨rfl, rfl⟩
  split at h
  · cases h
    exact Or.inl ⟨rfl, rfl⟩
  split at h
  · cases h
    exact Or.inl ⟨rfl, rfl⟩
  · exact Or.inr ⟨_, rfl, h⟩

theorem upToSelection_ok {ctx : LoopCtx} {s : LoopState}
    (h : Handler.upToSelection site.deps site.toVec site.parseError env app raw = .ok (ctx, s)) :
    ∃ bytes json fwd, Handler.readBody site.deps site.parseError raw.body = .ok (bytes, json) ∧
      prepare env app (raw.chat site.deps site.parseError json fwd) = .ok (ctx, s) := by
  unfold Handler.upToSelection at h
  dsimp only at h
  split at h
  · cases h
  rename_i bytes json hread
  split at h
  · cases h
  rename_i fwd _
  split at h
  · cases h
  · exact ⟨bytes, json, fwd, hread, h⟩

end

theorem Served.ofRun_app (run : Run) : (Served.ofRun run).app = run.app := rfl

namespace Site

variable (site : Site) (out : Outside) {app : AppState} {r : HttpRequest} {auth : AuthContext}

theorem serve_known (h : authMiddleware app.config r = some auth) :
    site.serve out app r = site.serveKnown out app r auth (site.route r) := by
  unfold serve
  rw [h]

theorem serveKnown_chat : site.serveKnown out app r auth .chat =
    .ofRun (Handler.serve site out.chat out.fuel app (site.raw r auth r.path)) := rfl

theorem serveKnown_generic : site.serveKnown out app r auth .generic =
    .ofRun (proxyGeneric site.deps out.generic app ((site.raw r auth r.target).read site.deps site.parseError)) := rfl

theorem serve_unknown (h : authMiddleware app.config r = none) :
    site.serve out app r = site.serveUnknown out app (site.route r) := by
  unfold serve
  rw [h]

end Site

namespace Site

/-- When the limits of a request are checked. -/
def limitsAt (site : Site) (out : Outside) (r : HttpRequest) : Nat :=
  match site.route r with
  | .chat => out.chat.limitsAt
  | _ => out.generic.limitsAt

end Site

def plainSite : Site where
  basePath := ""
  deps := .modelReading
  toVec _ := none
  parseError _ := ""
  parseUrl _ := none

def refusedOutside : Outside where
  now := 0
  chat := .quiet fun _ => refusingTurn
  fuel := 1
  generic := .answering

/-- A client's call. -/
def smallChat : HttpRequest where
  method := .post
  path := "/v1/chat/completions"
  query := none
  authorization := some "Bearer sk-client"
  contentType := none
  body := [.ok (modelText "small")]

namespace Fail2ban

/-- Some of the bans that have run out by `now` are forgotten. -/
structure Lapsed (now : Nat) (fb fb' : Fail2ban) : Prop where
  rules : fb' = { fb with states := fb'.states }
  states : ∀ k, fb'.states.lookup k = fb.states.lookup k ∨ ∃ state until_, fb.states.lookup k = some state ∧
    state.bannedUntil = some until_ ∧ until_ ≤ now ∧ fb'.states.lookup k = some state.unbanned

variable {now t : Nat} {fb fb' fb'' : Fail2ban} {k : String}

theorem Lapsed.refl (now : Nat) (fb : Fail2ban) : fb.Lapsed now fb := ⟨rfl, fun _ => Or.inl rfl⟩

theorem Lapsed.mono (h : fb.Lapsed t fb') (hle : t ≤ now) : fb.Lapsed now fb' := by
  refine ⟨h.rules, fun k => (h.states k).imp id ?_⟩
  rintro ⟨state, until_, hstate, huntil, hrun, hafter⟩
  exact ⟨state, until_, hstate, huntil, hrun.trans hle, hafter⟩

theorem Lapsed.trans (h : fb.Lapsed now fb') (h' : fb'.Lapsed now fb'') : fb.Lapsed now fb'' := by
  refine ⟨?_, fun k => ?_⟩
  · rw [h'.rules, h.rules]
  · rcases h'.states k with hsame | ⟨state, until_, hstate, huntil, hrun, hafter⟩
    · rw [hsame]
      exact h.states k
    · rcases h.states k with hsame | ⟨_, _, _, _, _, hforgotten⟩
      · exact Or.inr ⟨state, until_, hsame ▸ hstate, huntil, hrun, hafter⟩
      · -- what is forgotten has no ban left
        rw [hstate] at hforgotten
        rw [Option.some.inj hforgotten] at huntil
        cases huntil

theorem isBanned_lapsed (fb : Fail2ban) (k : String) (now : Nat) : fb.Lapsed now (fb.isBanned k now).1 := by
  unfold isBanned
  split
  · exact .refl now fb
  · rename_i state hstate
    split
    · exact .refl now fb
    · rename_i until_ huntil
      split
      · exact .refl now fb
      · rename_i hrun
        refine ⟨rfl, fun k' => ?_⟩
        by_cases hk : k' = k
        · subst hk
          exact Or.inr ⟨state, until_, hstate, huntil, not_lt.1 hrun, AList.lookup_insert _⟩
        · exact Or.inl (AList.lookup_insert_ne hk)

/-- A ban that has run out is none, forgotten or not. -/
theorem Lapsed.entry (h : fb.Lapsed now fb') (hle : now ≤ t) (k : String) :
    fb'.states.lookup k = fb.states.lookup k ∨ ∃ state, fb.states.lookup k = some state ∧
      state.bannedNow t = false ∧ fb'.states.lookup k = some state.unbanned := by
  refine (h.states k).imp id ?_
  rintro ⟨state, until_, hstate, huntil, hrun, hafter⟩
  refine ⟨state, hstate, ?_, hafter⟩
  unfold EndpointState.bannedNow
  rw [huntil, Option.any_some]
  exact decide_eq_false (by omega)

theorem Lapsed.isBanned_eq (h : fb.Lapsed now fb') (hle : now ≤ t) (k : String) :
    (fb'.isBanned k t).2 = (fb.isBanned k t).2 := by
  rw [isBanned_snd, isBanned_snd]
  unfold bannedUntil
  rcases h.entry hle k with hsame | ⟨state, hstate, hfree, hafter⟩
  · rw [hsame]
  · rw [hstate, hafter]
    exact hfree.symm

theorem Lapsed.banReason_eq (h : fb.Lapsed now fb') (hle : now ≤ t) (k : String) :
    fb'.banReason k t = fb.banReason k t := by
  unfold banReason
  rcases h.entry hle k with hsame | ⟨state, hstate, hfree, hafter⟩
  · rw [hsame]
  · rw [hstate, hafter]
    simp only [hfree]
    rfl

end Fail2ban

/-- All that is left behind is bans forgotten that had run out by `now`. -/
def AppState.OnlyLapsed (now : Nat) (app app' : AppState) : Prop :=
  ∃ fb, app' = { app with fail2ban := fb } ∧ app.fail2ban.Lapsed now fb

namespace AppState.OnlyLapsed

variable {now : Nat} {app app' app'' : AppState}

theorem refl (now : Nat) (app : AppState) : app.OnlyLapsed now app := ⟨_, rfl, .refl now _⟩

theorem trans (h : app.OnlyLapsed now app') (h' : app'.OnlyLapsed now app'') : app.OnlyLapsed now app'' := by
  obtain ⟨fb, rfl, hfb⟩ := h
  obtain ⟨fb', rfl, hfb'⟩ := h'
  exact ⟨fb', rfl, hfb.trans hfb'⟩

theorem mono {t : Nat} (h : app.OnlyLapsed t app') (hle : t ≤ now) : app.OnlyLapsed now app' := by
  obtain ⟨fb, rfl, hfb⟩ := h
  exact ⟨fb, rfl, hfb.mono hle⟩

end AppState.OnlyLapsed

/-- What each row may do to the state, the walk may. -/
theorem walkRows_rel {β : Type} {row : AppState → EndpointItem → AppState × Except Panic β}
    {R : AppState → AppState → Prop} (hrefl : ∀ app, R app app) (htrans : ∀ {a b c}, R a b → R b c → R a c)
    (hrow : ∀ app item, R app (row app item).1) : ∀ (items : List EndpointItem) (app : AppState),
    R app (walkRows row items app).1 := by
  intro items
  induction items with
  | nil => exact hrefl
  | cons item rest ih =>
    intro app
    unfold walkRows
    dsimp only
    split
    · exact hrow app item
    · exact htrans (hrow app item) (ih _)

theorem healthRow_lapsed (parse : String → Option ParsedUrl) (now : Nat) (app : AppState) (item : EndpointItem) :
    app.OnlyLapsed now (healthRow parse now app item).1 := by
  unfold healthRow
  split
  · exact .refl now app
  · exact ⟨_, rfl, app.fail2ban.isBanned_lapsed _ now⟩

theorem dashboardRow_lapsed (parse : String → Option ParsedUrl) (now : Nat) (app : AppState) (item : EndpointItem) :
    app.OnlyLapsed now (dashboardRow parse now app item).1 := by
  unfold dashboardRow
  split
  · exact .refl now app
  · exact ⟨_, rfl, app.fail2ban.isBanned_lapsed _ now⟩

/-- **Step**: a request without a known key. -/
theorem serve_stranger (site : Site) (out : Outside) {app : AppState} {r : HttpRequest}
    (h : authMiddleware app.config r = none) :
    (site.serve out app r).trace = [] ∧ (site.serve out app r).ledger = [] ∧
      app.OnlyLapsed out.now (site.serve out app r).app := by
  rw [site.serve_unknown out h]
  cases site.route r with
  | health => exact ⟨rfl, rfl, walkRows_rel (.refl _) .trans (healthRow_lapsed site.parseUrl out.now) _ app⟩
  | vhealth => exact ⟨rfl, rfl, walkRows_rel (.refl _) .trans (dashboardRow_lapsed site.parseUrl out.now) _ app⟩
  | _ => exact ⟨rfl, rfl, .refl _ _⟩

theorem strangers_run (site : Site) {T : Nat} : ∀ (arrivals : List Arrival) (app : AppState),
    (∀ a ∈ arrivals, a.before = .quiet ∧ a.outside.now ≤ T ∧ authMiddleware app.config a.request = none) →
    (∀ served ∈ site.run app arrivals, served.trace = [] ∧ served.ledger = []) ∧
      app.OnlyLapsed T (Steps.run site.step app arrivals) := by
  intro arrivals
  induction arrivals with
  | nil => exact fun app _ => ⟨fun _ hserved => (List.not_mem_nil hserved).elim, .refl T app⟩
  | cons a arrivals ih =>
    intro app h
    obtain ⟨hquiet, hT, hstranger⟩ := h a List.mem_cons_self
    have hmeet : site.meet app a = site.serve a.outside app a.request := by
      unfold Site.meet
      rw [hquiet, disturb_quiet]
    obtain ⟨htrace, hledger, hlapsed⟩ := serve_stranger site a.outside hstranger
    rw [← hmeet] at htrace hledger hlapsed
    have hconfig : (site.step app a).config = app.config := by
      obtain ⟨fb, hfb, -⟩ := hlapsed
      unfold Site.step
      rw [hfb]
    obtain ⟨hrest, hafter⟩ := ih (site.step app a) fun b hb => by
      rw [hconfig]
      exact h b (List.mem_cons_of_mem a hb)
    refine ⟨fun served hserved => ?_, (hlapsed.mono hT).trans hafter⟩
    rcases List.mem_cons.1 hserved with rfl | hserved
    · exact ⟨htrace, hledger⟩
    · exact hrest served hserved

/-- **Strangers leave no mark**: whatever they ask for, nothing is sent or charged, the state stays as it is but for
bans that have run out and are forgotten, and every ban is reported as before. -/
theorem strangers_leave_no_mark (site : Site) {T : Nat} {app : AppState} {arrivals : List Arrival}
    (h : ∀ a ∈ arrivals, a.before = .quiet ∧ a.outside.now ≤ T ∧ authMiddleware app.config a.request = none) :
    (∀ served ∈ site.run app arrivals, served.trace = [] ∧ served.ledger = []) ∧
      ∃ fb, Steps.run site.step app arrivals = { app with fail2ban := fb } ∧ app.fail2ban.Lapsed T fb ∧
        ∀ k t, T ≤ t → (fb.isBanned k t).2 = (app.fail2ban.isBanned k t).2 ∧
          fb.banReason k t = app.fail2ban.banReason k t := by
  obtain ⟨hserved, fb, hrun, hlapsed⟩ := strangers_run site arrivals app h
  exact ⟨hserved, fb, hrun, hlapsed, fun k t ht => ⟨hlapsed.isBanned_eq ht k, hlapsed.banReason_eq ht k⟩⟩

/-- The ban of the provider has run out. -/
def lapsingApp : AppState :=
  { providerApp with
    fail2ban := { providerApp.fail2ban with
      states := (∅ : KeyMap String EndpointState).insert "https://api.openai.com:sk-u...am-1"
        { EndpointState.fresh with consecutiveFailures := 3, bannedUntil := some 0 } } }

def lookAtHealth : HttpRequest where
  method := .get
  path := "/health"
  query := none
  authorization := none
  contentType := none
  body := []

/-- A look at `/health`, and a call with a key that nobody has. -/
def strangers : List Arrival :=
  [{ before := .quiet, outside := refusedOutside, request := lookAtHealth },
   { before := .quiet, outside := refusedOutside
     request := { smallChat with authorization := some "Bearer sk-nobody" } }]

/-- The ban is forgotten, and nothing else is different. -/
theorem strangers_forget :
    ((Steps.run plainSite.step lapsingApp strangers).fail2ban.states.lookup
        "https://api.openai.com:sk-u...am-1").map (·.bannedUntil)
        = some none ∧
      (∀ served ∈ plainSite.run lapsingApp strangers, served.trace = [] ∧ served.ledger = []) ∧
      ∃ fb, Steps.run plainSite.step lapsingApp strangers = { lapsingApp with fail2ban := fb } ∧
        lapsingApp.fail2ban.Lapsed 0 fb ∧ ∀ k t, 0 ≤ t →
          (fb.isBanned k t).2 = (lapsingApp.fail2ban.isBanned k t).2 ∧
            fb.banReason k t = lapsingApp.fail2ban.banReason k t :=
  ⟨rfl, strangers_leave_no_mark plainSite fun a ha => by
    rcases List.mem_cons.1 ha with rfl | ha
    · exact ⟨rfl, le_refl _, rfl⟩
    · rw [List.mem_singleton.1 ha]
      exact ⟨rfl, le_refl _, rfl⟩⟩

end AiRouter
