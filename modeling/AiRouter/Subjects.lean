import AiRouter.Handler
import AiRouter.RpmQuota

/-
# Who a limit is for

Teams, tokens and endpoints have limits. Each has a pair of limiters of its own under a key in one flat
store, and a counter in Redis under its scope.

| here | there |
| --- | --- |
| `Subject.key`       | the keys of `limiters.check` (handler.rs:352-355, 1600-1620) |
| `Subject.sharedKey` | the scopes and keys of `sync.check_rate_limit` (handler.rs:332-338, 1593-1598, 1611-1615) |
| `Subject.limits`    | what the checks are called with |
-/
namespace AiRouter

inductive Subject where
  | team (name : String)
  | token (key : String)
  | endpoint (url key : String)
deriving DecidableEq, Repr

namespace Subject

/-- The key of its pair of limiters. -/
def key : Subject → Except Panic String
  | team name => .ok (teamKey name)
  | token k => .ok k
  | endpoint url k => (Handler.epKey url k).map epRlKey

def scope : Subject → String
  | team _ => "team"
  | token _ => "token"
  | endpoint _ _ => "ep"

/-- The key of its shared counter, within its scope. -/
def sharedKey : Subject → Except Panic String
  | team name => .ok (teamKey name)
  | token k => .ok k
  | endpoint url k => Handler.epKey url k

/-- The limits a configuration gives it; an endpoint has those of each of its entries. -/
def limits (cfg : AppConfig) : Subject → List LimitsConfig
  | team name => [⟨teamRpm cfg name, teamTpm cfg name⟩]
  | token k => ((cfg.resolveToken k).map fun eff => ⟨eff.rpm, eff.tpm⟩).toList
  | endpoint url k =>
    ((cfg.models.flatMap (·.endpoints)).filter fun ep => ep.url == url && ep.key == k).map
      fun ep => ep.limits.getD ⟨0, 0⟩

/-- The subjects a configuration names. -/
def In (cfg : AppConfig) : Subject → Prop
  | team name => ∃ t ∈ cfg.teams, t.name = name
  | token k => ∃ t ∈ cfg.tokens, t.key = k
  | endpoint url k => ∃ m ∈ cfg.models, ∃ ep ∈ m.endpoints, ep.url = url ∧ ep.key = k

theorem endpoint_key {url k e : String} (h : Handler.epKey url k = .ok e) :
    (endpoint url k).key = .ok (epRlKey e) := by
  show (Handler.epKey url k).map epRlKey = _
  rw [h]
  rfl

theorem endpoint_key_ok {url k s : String} (h : (endpoint url k).key = .ok s) :
    ∃ e, Handler.epKey url k = .ok e ∧ s = epRlKey e := by
  change (Handler.epKey url k).map epRlKey = .ok s at h
  cases he : Handler.epKey url k with
  | error p =>
    rw [he] at h
    cases h
  | ok e =>
    rw [he] at h
    cases h
    exact ⟨e, rfl, rfl⟩

/-- What is kept under a key of neither form is a token's. -/
theorem eq_token_of_key {S : Subject} {s : String} (h : S.key = .ok s) (hteam : ∀ name, teamKey name ≠ s)
    (hep : ∀ e, epRlKey e ≠ s) : S = token s := by
  cases S with
  | team name => exact absurd (Except.ok.inj h) (hteam name)
  | token k => rw [Except.ok.inj h]
  | endpoint url k =>
    obtain ⟨e, _, he⟩ := endpoint_key_ok h
    exact absurd he.symm (hep e)

/-! ## The checks a request makes of them -/

/-- The checks of a subject: of its shared counter, and of its own pair. -/
inductive Asks (S : Subject) (l : LimitsConfig) (now : Nat) : Gate.Check Charged Rejection → Prop where
  | shared {k label : String} : S.sharedKey = .ok k → Asks S l now (sharedCheck S.scope k l.rpm now label)
  | own {k label : String} {scope : RateLimitScope} : S.key = .ok k →
      Asks S l now (localCheck k l.rpm l.tpm scope now label)

theorem rateChecks_asks {cfg : AppConfig} {name tokenKey : String} {rpm tpm now : Nat}
    {g : Gate.Check Charged Rejection} (hg : g ∈ rateChecks cfg name tokenKey rpm tpm now) :
    Asks (team name) ⟨teamRpm cfg name, teamTpm cfg name⟩ now g ∨ Asks (token tokenKey) ⟨rpm, tpm⟩ now g := by
  simp only [rateChecks, List.mem_append, List.mem_ite_nil_right, List.mem_singleton] at hg
  rcases hg with ((⟨_, rfl⟩ | ⟨_, rfl⟩) | ⟨_, rfl⟩) | rfl
  · exact Or.inl (.shared rfl)
  · exact Or.inl (.own rfl)
  · exact Or.inr (.shared rfl)
  · exact Or.inr (.own rfl)

theorem endpointChecks_asks {ep : SelectedEndpoint} {epKey : String} {now : Nat}
    {g : Gate.Check Charged Rejection} (hkey : Handler.epKey ep.url ep.apiKey = .ok epKey)
    (hg : g ∈ endpointChecks ep epKey now) :
    Asks (endpoint ep.url ep.apiKey) ⟨ep.endpointLimitsRpm, ep.endpointLimitsTpm⟩ now g := by
  simp only [endpointChecks, List.mem_append, List.mem_ite_nil_right, List.mem_singleton] at hg
  rcases hg with ⟨_, rfl⟩ | ⟨_, rfl⟩
  · exact .shared hkey
  · exact .own (endpoint_key hkey)

/-! ## Where a request has its limits from -/

theorem authenticate_limits {cfg : AppConfig} {tokenKey : String} {auth : AuthContext}
    (h : authenticate cfg tokenKey = some auth) : ⟨auth.rpm, auth.tpm⟩ ∈ limits cfg (token tokenKey) := by
  obtain ⟨eff, heff, rfl⟩ := Option.map_eq_some_iff.1 h
  show _ ∈ ((cfg.resolveToken tokenKey).map fun eff => (⟨eff.rpm, eff.tpm⟩ : LimitsConfig)).toList
  rw [heff]
  exact List.mem_singleton.2 rfl

theorem pick_limits {cfg : AppConfig} {m : ModelConfig} {ep : SelectedEndpoint} (hm : m ∈ cfg.models)
    (h : Balancer.PickOf m ep) :
    ⟨ep.endpointLimitsRpm, ep.endpointLimitsTpm⟩ ∈ limits cfg (endpoint ep.url ep.apiKey) := by
  obtain ⟨e, he, _, hsel⟩ := h.mem
  have hmem : e ∈ cfg.models.flatMap (·.endpoints) := List.mem_flatMap.2 ⟨m, hm, he⟩
  rw [hsel]
  refine List.mem_map.2 ⟨e, List.mem_filter.2 ⟨hmem, ?_⟩, ?_⟩
  · simp
  · show e.limits.getD ⟨0, 0⟩ = ⟨(e.limits.map (·.rpm)).getD 0, (e.limits.map (·.tpm)).getD 0⟩
    cases e.limits <;> rfl

end Subject

end AiRouter
