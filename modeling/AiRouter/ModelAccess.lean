import AiRouter.Generic
import AiRouter.Reach
import AiRouter.BanRespect

/-
# The model that is checked and the model that serves

A requested name is resolved to an entry of the model list, the entry's name is checked against
the token's list, and then that name is resolved again, over names and aliases in list order.
The second resolution can stop at an earlier entry that has the name as an alias.
-/
namespace AiRouter

/-- The model whose endpoints `select_available` and `select_endpoint` use for a requested name. -/
def servingModel (cfg : AppConfig) (modelName : String) : Option ModelConfig :=
  cfg.findModel (cfg.canonicalModelName modelName)

/-- The token's effective list covers the model name. -/
def Listed (cfg : AppConfig) (tokenKey name : String) : Prop :=
  ∃ eff, cfg.resolveToken tokenKey = some eff ∧ ("*" ∈ eff.models ∨ name ∈ eff.models)

/-- Every endpoint a run has come to is an endpoint of the serving model, and that model's name is
the checked one and in the token's list. -/
def CheckedServes (cfg : AppConfig) (tokenKey modelName : String) (trace : List Visit) : Prop :=
  ∀ v ∈ trace, ∃ m, servingModel cfg modelName = some m ∧ Balancer.PickOf m v.endpoint ∧
    m.name = cfg.canonicalModelName modelName ∧ Listed cfg tokenKey m.name

/-- Both handlers serve with the model they have checked. -/
def ServedAsChecked (cfg : AppConfig) (tokenKey modelName : String) : Prop :=
  (∀ (deps : Externs) (env : Env) (app : AppState) (req : ChatRequest) (fuel : Nat),
    app.config = cfg → env.KeepsConfig → RequestOf cfg tokenKey modelName req →
    CheckedServes cfg tokenKey modelName (proxyHandler deps env fuel app req).trace) ∧
  (∀ (deps : Externs) (env : GenericEnv) (app : AppState) (req : GenericRequest) (isStream : Bool),
    app.config = cfg → env.KeepsConfig → authenticate cfg tokenKey = some req.auth →
    Generic.resolveBody cfg req.path req.body = .ok (modelName, isStream) →
    CheckedServes cfg tokenKey modelName (proxyGeneric deps env app req).trace)

/-- The entry that answers the requested name may be used by the token, but an entry listed
before it has the name of that entry as an alias. -/
def Shadowed (cfg : AppConfig) (tokenKey modelName : String) : Prop :=
  ∃ before m after other, cfg.models = before ++ m :: after ∧
    (∀ x ∈ before, x.answers modelName = false) ∧ m.answers modelName = true ∧
    cfg.tokenHasModelAccess tokenKey m.name = true ∧
    before.find? (·.answers m.name) = some other ∧ other.name ≠ m.name ∧ other.endpoints ≠ []

/-! ## Resolving twice -/

/-- What the first resolution says about the list. -/
theorem findModel_split {cfg : AppConfig} {r : String} {m : ModelConfig} (h : cfg.findModel r = some m) :
    ∃ before after, cfg.models = before ++ m :: after ∧ (∀ x ∈ before, x.answers r = false) ∧
      m.answers r = true := by
  unfold AppConfig.findModel at h
  rw [List.find?_eq_some_iff_append] at h
  obtain ⟨hm, before, after, hsplit, hbefore⟩ := h
  exact ⟨before, after, hsplit, fun x hx => by simpa using hbefore x hx, hm⟩

/-- Resolving the name of an entry finds that entry or one before it. -/
theorem findModel_of_split {cfg : AppConfig} {before after : List ModelConfig} {m : ModelConfig}
    (h : cfg.models = before ++ m :: after) :
    cfg.findModel m.name = (before.find? (·.answers m.name)).or (some m) := by
  have hm : m.answers m.name = true := ModelConfig.answers_iff.2 (Or.inl rfl)
  have hhead : (m :: after).find? (·.answers m.name) = some m := List.find?_cons_of_pos hm
  unfold AppConfig.findModel
  rw [h, List.find?_append, hhead]

/-- **Where nothing is shadowed the two resolutions agree** on a model that has endpoints. -/
theorem serving_name {cfg : AppConfig} {tokenKey modelName : String} {m : ModelConfig}
    (hno : ¬ Shadowed cfg tokenKey modelName)
    (haccess : cfg.tokenHasModelAccess tokenKey (cfg.canonicalModelName modelName) = true)
    (hm : servingModel cfg modelName = some m) (hne : m.endpoints ≠ []) :
    m.name = cfg.canonicalModelName modelName := by
  unfold servingModel at hm
  cases hr : cfg.findModel modelName with
  | none =>
    -- an unknown name stays what it is and is not found the second time either
    rw [canonicalModelName_unknown hr, hr] at hm
    cases hm
  | some m₀ =>
    rw [canonicalModelName_found hr] at hm haccess ⊢
    obtain ⟨before, after, hsplit, hbefore, hanswers⟩ := findModel_split hr
    rw [findModel_of_split hsplit] at hm
    cases hother : before.find? (·.answers m₀.name) with
    | none =>
      rw [hother, Option.none_or] at hm
      obtain rfl := Option.some.inj hm
      rfl
    | some other =>
      rw [hother, Option.some_or] at hm
      obtain rfl := Option.some.inj hm
      by_contra hname
      exact hno ⟨before, m₀, after, other, hsplit, hbefore, hanswers, haccess, hother, hname, hne⟩

theorem listed_of_access {cfg : AppConfig} {tokenKey name : String}
    (h : cfg.tokenHasModelAccess tokenKey name = true) : Listed cfg tokenKey name := tokenHasModelAccess_iff.1 h

/-- One visit, given the check that was passed and the selector's answer. -/
theorem checked_visit {cfg : AppConfig} {tokenKey modelName : String} {m : ModelConfig}
    {sel : SelectedEndpoint} (hno : ¬ Shadowed cfg tokenKey modelName)
    (haccess : cfg.tokenHasModelAccess tokenKey (cfg.canonicalModelName modelName) = true)
    (hm : servingModel cfg modelName = some m) (hpick : Balancer.PickOf m sel) :
    m.name = cfg.canonicalModelName modelName ∧ Listed cfg tokenKey m.name := by
  have hne : m.endpoints ≠ [] := List.length_pos_iff.1 (Nat.lt_of_le_of_lt (Nat.zero_le _) hpick.index_lt)
  have hname := serving_name hno haccess hm hne
  exact ⟨hname, by rw [hname]; exact listed_of_access haccess⟩

theorem checked_of_not_shadowed {cfg : AppConfig} {tokenKey modelName : String}
    (hno : ¬ Shadowed cfg tokenKey modelName) : ServedAsChecked cfg tokenKey modelName := by
  constructor
  · rintro deps env app req fuel rfl henv hreq v hv
    obtain ⟨ctx, s, hprep⟩ := proxyHandler_prepared (List.ne_nil_of_mem hv)
    unfold proxyHandler at hv
    rw [hprep] at hv
    have hp := prepare_ok henv.1 henv.2.1 hprep
    obtain ⟨m, hm, hcur⟩ := hp.picked
    have htrace : ∀ v ∈ s.trace, PickedBy ctx m v.endpoint := by
      intro v hv
      rw [hp.trace] at hv
      cases hv
    have hpick := (retryLoop_visits deps henv hm hp.config hcur htrace fuel v hv).1
    have haccess := hp.access
    rw [hp.canonical, hreq.2, hreq.tokenKey] at haccess
    rw [hp.canonical, hreq.2] at hm
    obtain ⟨hname, hlisted⟩ := checked_visit hno haccess hm hpick
    exact ⟨m, hm, hpick, hname, hlisted⟩
  · rintro deps env app req isStream rfl henv hauth hbody v hv
    obtain ⟨name, stream, m, hbody', haccess, hm, hpick⟩ := proxyGeneric_visits henv.1 hv
    rw [hbody] at hbody'
    cases hbody'
    rw [tokenKey_of_authenticate hauth] at haccess
    obtain ⟨hname, hlisted⟩ := checked_visit hno haccess hm hpick
    exact ⟨m, hm, hpick, hname, hlisted⟩

/-! ## With a shadowed entry -/

/-- Past the access check, with room in the budgets, `proxy_generic` comes to an endpoint. -/
theorem generic_comes_to {cfg : AppConfig} {auth : AuthContext} {modelName : String} {m : ModelConfig}
    (deps : Externs) (rr : RoundRobinCounters)
    (haccess : cfg.tokenHasModelAccess auth.tokenKey (cfg.canonicalModelName modelName) = true)
    (hm : servingModel cfg modelName = some m) (hne : m.endpoints ≠ []) :
    ∃ v, v ∈ (proxyGeneric deps .answering
      (startApp cfg rr [] (roomyStore [teamKey auth.team, auth.tokenKey]))
      { auth := auth, path := "/v1/completions", body := .json (some modelName) none }).trace := by
  have hopen : Open [teamKey auth.team, auth.tokenKey] 3
      { app := startApp cfg rr [] (roomyStore [teamKey auth.team, auth.tokenKey]), ledger := [] } :=
    ⟨rfl, RateLimiterStore.roomyStore_roomy _⟩
  have hnone := (hopen.checkAllRateLimits cfg List.mem_cons_self
    (List.mem_cons_of_mem _ List.mem_cons_self) auth.rpm auth.tpm).1
  have hconfig := (checkAllRateLimits_budgets cfg auth.team auth.tokenKey auth.rpm auth.tpm 0
    { app := startApp cfg rr [] (roomyStore [teamKey auth.team, auth.tokenKey]), ledger := [] }).config
  have hcfg : (startApp cfg rr [] (roomyStore [teamKey auth.team, auth.tokenKey])).config = cfg := rfl
  rw [hcfg] at hconfig
  have hpath : "/v1/".toList <+: "/v1/completions".toList := by decide
  unfold proxyGeneric
  dsimp only [GenericEnv.answering]
  simp only [hpath, not_true_eq_false, if_false, hcfg, hnone, Generic.resolveBody, Option.getD_some,
    haccess, disturb_quiet, hconfig]
  obtain ⟨sel, hsel, _⟩ := Balancer.selectEndpoint_some
    (checkAllRateLimits cfg auth.team auth.tokenKey auth.rpm auth.tpm 0
      { app := startApp cfg rr [] (roomyStore [teamKey auth.team, auth.tokenKey]), ledger := [] }).1.app.roundRobin
    hm hne
  rw [hsel]
  dsimp only
  split
  · exact ⟨_, List.mem_singleton_self _⟩
  · exact ⟨_, List.mem_singleton_self _⟩

theorem not_checked_of_shadowed {cfg : AppConfig} {tokenKey modelName : String}
    (hs : Shadowed cfg tokenKey modelName) : ¬ ServedAsChecked cfg tokenKey modelName := by
  obtain ⟨before, m, after, other, hsplit, hbefore, hanswers, haccess, hother, hname, hne⟩ := hs
  have hfirst : cfg.findModel modelName = some m := by
    unfold AppConfig.findModel
    rw [List.find?_eq_some_iff_append]
    exact ⟨hanswers, before, after, hsplit, fun x hx => by simpa using hbefore x hx⟩
  have hcanon := canonicalModelName_found hfirst
  have hserving : servingModel cfg modelName = some other := by
    unfold servingModel
    rw [hcanon, findModel_of_split hsplit, hother, Option.some_or]
  rw [← hcanon] at haccess
  obtain ⟨auth, hauth, rfl⟩ := authenticate_of_access haccess
  obtain ⟨v, hv⟩ := generic_comes_to .mute { counters := ∅ } haccess hserving hne
  rintro ⟨-, hgeneric⟩
  obtain ⟨m', hm', _, hname', _⟩ := hgeneric .mute .answering
    (startApp cfg { counters := ∅ } [] (roomyStore [teamKey auth.team, auth.tokenKey])) _ false rfl
    ⟨fun _ => rfl, fun _ => rfl⟩ hauth rfl v hv
  rw [hserving] at hm'
  obtain rfl := Option.some.inj hm'
  rw [hcanon] at hname'
  exact hname hname'

/-- **The serving model is the checked one exactly where no entry is shadowed.** -/
theorem served_as_checked_iff (cfg : AppConfig) (tokenKey modelName : String) :
    ServedAsChecked cfg tokenKey modelName ↔ ¬ Shadowed cfg tokenKey modelName := by
  constructor
  · intro hchecked hs
    exact not_checked_of_shadowed hs hchecked
  · exact checked_of_not_shadowed

/-! ## An alias that takes over -/

/-- The token may use `gpt-3.5`; the entry before it claims that name as an alias. -/
def aliasConfig : AppConfig where
  teams := [{ name := "dev", models := ["gpt-3.5"], limits := none, costMultiplier := none }]
  tokens := [{ key := "sk-client", team := "dev", models := none, limits := none }]
  models :=
    [{ name := "gpt-4", aliases := ["gpt-3.5"], modelType := "chat"
       endpoints := [{ url := "https://big", key := "k1", limits := none, cost := none, weight := 1 }] },
     { name := "gpt-3.5", aliases := ["cheap"], modelType := "chat"
       endpoints := [{ url := "https://small", key := "k2", limits := none, cost := none, weight := 1 }] }]
  fail2ban := .default

/-- A request for `cheap` is checked as `gpt-3.5` and sent to the endpoint of `gpt-4`, which the
token may not use. -/
theorem alias_reaches_other_model :
    aliasConfig.Accepted ∧ RequestOf aliasConfig "sk-client" "cheap"
        { singleRequest with modelName := "cheap", auth := { singleRequest.auth with models := ["gpt-3.5"] } } ∧
      aliasConfig.canonicalModelName "cheap" = "gpt-3.5" ∧
      aliasConfig.tokenHasModelAccess "sk-client" "gpt-4" = false ∧
      (servingModel aliasConfig "cheap").map (·.name) = some "gpt-4" ∧
      (proxyHandler .mute (.quiet fun _ => answeringTurn) 1
        (startApp aliasConfig { counters := ∅ } [] { limiters := ∅ })
        { singleRequest with
          modelName := "cheap"
          auth := { singleRequest.auth with models := ["gpt-3.5"] } }).trace.map (·.endpoint.url)
          = ["https://big"] :=
  ⟨rfl, ⟨rfl, rfl⟩, rfl, rfl, rfl, rfl⟩

end AiRouter
