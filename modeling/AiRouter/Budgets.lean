import AiRouter.RetryLoop
import AiRouter.Subjects

/-
# Whose budget is it

Teams, tokens and endpoints share one store of limiters. `team:` and `ep:` are put before the names of
two of the three kinds; a token is kept under its bare key. The counters in Redis have the scope in the
key.
-/
namespace AiRouter

/-- Subjects of different kinds have different entries, and what is done for the one leaves the budget of
the other alone. -/
structure AppConfig.BudgetsApart (cfg : AppConfig) : Prop where
  entries : ∀ S S' : Subject, S.In cfg → S'.In cfg → S.scope ≠ S'.scope → ∀ k k', S.key = .ok k →
    S'.key = .ok k' → k ≠ k'
  traffic : ∀ S S' : Subject, S.In cfg → S'.In cfg → S.scope ≠ S'.scope → ∀ k k', S.key = .ok k →
    S'.key = .ok k' → ∀ limits (store : RateLimiterStore) ops, (∀ op ∈ ops, op.key = k) →
      (runOps limits store ops).limiters.lookup k' = store.limiters.lookup k'
  counters : ∀ S S' : Subject, S.In cfg → S'.In cfg → S.scope ≠ S'.scope → ∀ k k', S.sharedKey = .ok k →
    S'.sharedKey = .ok k' → ∀ (sync : SyncStore) limit now,
      sync.rateKey S.scope k ≠ sync.rateKey S'.scope k' ∧
      (sync.checkRateLimit S.scope k limit now).1.redis.entries.lookup (sync.rateKey S'.scope k')
        = sync.redis.entries.lookup (sync.rateKey S'.scope k')

/-- No token is spelled like the key of a team or of an endpoint. -/
def AppConfig.TokensPlain (cfg : AppConfig) : Prop :=
  ∀ t ∈ cfg.tokens, (∀ team ∈ cfg.teams, t.key ≠ teamKey team.name) ∧
    ∀ m ∈ cfg.models, ∀ ep ∈ m.endpoints, ∀ e, Handler.epKey ep.url ep.key = .ok e → t.key ≠ epRlKey e

/-- The scopes part at their first letters. -/
theorem SyncStore.rateKey_ne_of_scope (sync : SyncStore) {S S' : Subject} (h : S.scope ≠ S'.scope) (k k' : String) :
    sync.rateKey S.scope k ≠ sync.rateKey S'.scope k' := by
  intro heq
  cases S <;> cases S' <;>
    simp [Subject.scope, SyncStore.rateKey, ← String.toList_inj, String.toList_append] at h heq

/-- Operations on one key leave the others alone. -/
theorem runOps_lookup_ne (limits : String → LimitsConfig) {k k' : String} (h : k' ≠ k) :
    ∀ (ops : List LimiterOp) (store : RateLimiterStore), (∀ op ∈ ops, op.key = k) →
      (runOps limits store ops).limiters.lookup k' = store.limiters.lookup k' := by
  intro ops
  induction ops with
  | nil => exact fun _ _ => rfl
  | cons op ops ih =>
    intro store hops
    have hop : k' ≠ op.key := by
      rw [hops op List.mem_cons_self]
      exact h
    show (runOps limits (op.apply limits store) ops).limiters.lookup k' = _
    rw [ih _ fun op' hop' => hops op' (List.mem_cons_of_mem _ hop'), LimiterOp.apply_lookup_ne hop]

namespace AppConfig.TokensPlain

variable {cfg : AppConfig}

/-- A token's key is no other subject's. -/
theorem token_key (h : cfg.TokensPlain) {t : TokenConfig} (ht : t ∈ cfg.tokens) {S : Subject} (hin : S.In cfg)
    (hscope : S.scope ≠ "token") {k : String} (hk : S.key = .ok k) : t.key ≠ k := by
  obtain ⟨hteams, hendpoints⟩ := h t ht
  cases S with
  | team name =>
    obtain ⟨team, hteam, rfl⟩ := hin
    rw [← Except.ok.inj hk]
    exact hteams team hteam
  | token _ => exact absurd rfl hscope
  | endpoint url key =>
    obtain ⟨m, hm, ep, hep, rfl, rfl⟩ := hin
    obtain ⟨e, he, rfl⟩ := Subject.endpoint_key_ok hk
    exact hendpoints m hm ep hep e he

theorem entries (h : cfg.TokensPlain) {S S' : Subject} (hin : S.In cfg) (hin' : S'.In cfg)
    (hscope : S.scope ≠ S'.scope) {k k' : String} (hk : S.key = .ok k) (hk' : S'.key = .ok k') : k ≠ k' := by
  by_cases htoken : S.scope = "token"
  · cases S with
    | team name => simp [Subject.scope] at htoken
    | endpoint url key => simp [Subject.scope] at htoken
    | token key =>
      obtain ⟨t, ht, rfl⟩ := hin
      rw [← Except.ok.inj hk]
      exact h.token_key ht hin' (fun hs => hscope (htoken.trans hs.symm)) hk'
  · cases S' with
    | token key =>
      obtain ⟨t, ht, rfl⟩ := hin'
      rw [← Except.ok.inj hk']
      exact (h.token_key ht hin htoken hk).symm
    | team name =>
      cases S with
      | team _ => exact absurd rfl hscope
      | token _ => exact absurd rfl htoken
      | endpoint url key =>
        obtain ⟨e, _, rfl⟩ := Subject.endpoint_key_ok hk
        rw [← Except.ok.inj hk']
        exact (teamKey_ne_epRlKey name e).symm
    | endpoint url key =>
      cases S with
      | endpoint _ _ => exact absurd rfl hscope
      | token _ => exact absurd rfl htoken
      | team name =>
        obtain ⟨e, _, rfl⟩ := Subject.endpoint_key_ok hk'
        rw [← Except.ok.inj hk]
        exact teamKey_ne_epRlKey name e

end AppConfig.TokensPlain

/-- **The budgets of teams, tokens and endpoints** are apart exactly where no token is spelled like the key
of another subject. -/
theorem budgets_apart_iff (cfg : AppConfig) : cfg.BudgetsApart ↔ cfg.TokensPlain := by
  constructor
  · intro h t ht
    have htoken : (Subject.token t.key).In cfg := ⟨t, ht, rfl⟩
    refine ⟨fun team hteam => ?_, fun m hm ep hep e he => ?_⟩
    · have hteam : (Subject.team team.name).In cfg := ⟨team, hteam, rfl⟩
      exact h.entries _ _ htoken hteam (by simp [Subject.scope]) _ _ rfl rfl
    · have hep : (Subject.endpoint ep.url ep.key).In cfg := ⟨m, hm, ep, hep, rfl, rfl⟩
      exact h.entries _ _ htoken hep (by simp [Subject.scope]) _ _ rfl (Subject.endpoint_key he)
  · intro h
    refine ⟨fun S S' hin hin' hscope k k' => h.entries hin hin' hscope, ?_, ?_⟩
    · intro S S' hin hin' hscope k k' hk hk' limits store ops hops
      exact runOps_lookup_ne limits (h.entries hin hin' hscope hk hk').symm ops store hops
    · intro S S' _ _ hscope k k' _ _ sync limit now
      have hne := sync.rateKey_ne_of_scope hscope k k'
      exact ⟨hne, (sync.checkRateLimit_onlyAt S.scope k limit now).others _ hne.symm⟩

/-! ## A token by the name of its team -/

/-- The token `team:dev` of the team `dev`, each with one request per minute. -/
def namesakeConfig : AppConfig :=
  { singleConfig with
    teams := [{ name := "dev", models := ["*"], limits := some ⟨1, 0⟩, costMultiplier := none }]
    tokens := [{ key := "team:dev", team := "dev", models := none, limits := some ⟨1, 0⟩ }] }

/-- The configuration is accepted, and the first request of the token is rejected: its team's check has
used the token's budget. -/
theorem namesakes_share_a_budget :
    namesakeConfig.Accepted ∧ ¬ namesakeConfig.BudgetsApart ∧
      ((checkAllRateLimits namesakeConfig "dev" "team:dev" 1 0 0
        { app := startApp namesakeConfig { counters := ∅ } [] { limiters := ∅ }, ledger := [] }).2.map
          (·.scope)) = some "Token" := by
  refine ⟨rfl, fun h => ?_, rfl⟩
  have htoken : (Subject.token "team:dev").In namesakeConfig := ⟨_, List.mem_singleton_self _, rfl⟩
  have hteam : (Subject.team "dev").In namesakeConfig := ⟨_, List.mem_singleton_self _, rfl⟩
  exact h.entries _ _ htoken hteam (by simp [Subject.scope]) _ _ rfl rfl rfl

end AiRouter
