import AiRouter.Keys

/-
# The configuration: `config/types.rs` and `validate_config` (config/loader.rs:82-104)

| here | there |
| --- | --- |
| `AppConfig` and its parts      | the structs of types.rs that the request path reads |
| `AppConfig.resolveToken`       | `resolve_token` (types.rs:341) |
| `AppConfig.tokenHasModelAccess`| `token_has_model_access` (types.rs:375) |
| `AppConfig.findModel`          | `find_model` (types.rs:387) |
| `AppConfig.canonicalModelName` | `canonical_model_name` (types.rs:394) |
| `validateConfig`               | `validate_config` (loader.rs:82), message texts included |

`f64` settings are exact rationals.
-/
namespace AiRouter

structure LimitsConfig where
  rpm : Nat
  tpm : Nat
deriving DecidableEq, Repr

structure CostConfig where
  prompt : Rat
  completion : Rat
deriving DecidableEq, Repr

structure TeamConfig where
  name : String
  models : List String
  limits : Option LimitsConfig
  costMultiplier : Option Rat
deriving DecidableEq, Repr

structure TokenConfig where
  key : String
  team : String
  models : Option (List String)
  limits : Option LimitsConfig
deriving DecidableEq, Repr

structure EndpointConfig where
  url : String
  key : String
  limits : Option LimitsConfig
  cost : Option CostConfig
  weight : Nat
deriving DecidableEq, Repr

structure ModelConfig where
  name : String
  aliases : List String
  endpoints : List EndpointConfig
  modelType : String
deriving DecidableEq, Repr

structure Fail2banConfig where
  maxFailures : Nat
  banDurationSecs : Nat
  errorThresholdPct : Rat
  failStatusCodes : List String
  retryOnFailure : Bool
deriving DecidableEq, Repr

/-- `Fail2banConfig::default` (types.rs:214). -/
def Fail2banConfig.default : Fail2banConfig where
  maxFailures := 5
  banDurationSecs := 60
  errorThresholdPct := 1 / 2
  failStatusCodes := ["5xx", "401", "403", "429"]
  retryOnFailure := true

structure AppConfig where
  teams : List TeamConfig
  tokens : List TokenConfig
  models : List ModelConfig
  fail2ban : Fail2banConfig
deriving DecidableEq, Repr

/-- Effective token limits (types.rs:282). -/
structure EffectiveLimits where
  rpm : Nat
  tpm : Nat
  models : List String
  costMultiplier : Rat
deriving DecidableEq, Repr

def AppConfig.findTeam (cfg : AppConfig) (name : String) : Option TeamConfig :=
  cfg.teams.find? (·.name == name)

def AppConfig.resolveToken (cfg : AppConfig) (tokenKey : String) : Option EffectiveLimits :=
  (cfg.tokens.find? (·.key == tokenKey)).map fun token =>
    let team := cfg.findTeam token.team
    let teamLimits := team.bind (·.limits)
    { models := (token.models.orElse fun _ => team.map (·.models)).getD ["*"]
      rpm := ((token.limits.map (·.rpm)).orElse fun _ => teamLimits.map (·.rpm)).getD 0
      tpm := ((token.limits.map (·.tpm)).orElse fun _ => teamLimits.map (·.tpm)).getD 0
      costMultiplier := (team.bind (·.costMultiplier)).getD 1 }

def AppConfig.tokenHasModelAccess (cfg : AppConfig) (tokenKey model : String) : Bool :=
  match cfg.resolveToken tokenKey with
  | some eff => if eff.models.any (· == "*") then true else eff.models.any (· == model)
  | none => false

/-- Does this entry of the model list answer to the name? -/
def ModelConfig.answers (m : ModelConfig) (modelName : String) : Bool :=
  m.name == modelName || m.aliases.any (· == modelName)

def AppConfig.findModel (cfg : AppConfig) (modelName : String) : Option ModelConfig :=
  cfg.models.find? (·.answers modelName)

def AppConfig.canonicalModelName (cfg : AppConfig) (modelName : String) : String :=
  ((cfg.findModel modelName).map (·.name)).getD modelName

/-- The first loop of `validate_config`. -/
def checkTokenTeams (teamNames : List String) : List TokenConfig → Except Panic (Option String)
  | [] => .ok none
  | token :: rest =>
    if teamNames.contains token.team then checkTokenTeams teamNames rest
    else (Loader.maskKey token.key).map fun masked =>
      some ("Token '" ++ masked ++ "' references unknown team '" ++ token.team ++ "'")

/-- The second loop of `validate_config`. -/
def checkModelEndpoints : List ModelConfig → Option String
  | [] => none
  | model :: rest =>
    if model.endpoints.isEmpty then
      some ("Model '" ++ model.name ++ "' has no endpoints configured")
    else checkModelEndpoints rest

/-- `validate_config`: `none` accepts, `some` is the error text. -/
def validateConfig (cfg : AppConfig) : Except Panic (Option String) :=
  match checkTokenTeams (cfg.teams.map (·.name)) cfg.tokens with
  | .error p => .error p
  | .ok (some e) => .ok (some e)
  | .ok none => .ok (checkModelEndpoints cfg.models)

def AppConfig.Accepted (cfg : AppConfig) : Prop := validateConfig cfg = .ok none

/-! ## What the lookups return -/

theorem ModelConfig.answers_iff {m : ModelConfig} {r : String} :
    m.answers r = true ↔ m.name = r ∨ r ∈ m.aliases := by
  simp [ModelConfig.answers]

theorem canonicalModelName_found {cfg : AppConfig} {r : String} {m : ModelConfig}
    (h : cfg.findModel r = some m) : cfg.canonicalModelName r = m.name := by
  simp [AppConfig.canonicalModelName, h]

theorem canonicalModelName_unknown {cfg : AppConfig} {r : String} (h : cfg.findModel r = none) :
    cfg.canonicalModelName r = r := by
  simp [AppConfig.canonicalModelName, h]

theorem tokenHasModelAccess_iff {cfg : AppConfig} {tokenKey model : String} :
    cfg.tokenHasModelAccess tokenKey model = true ↔
      ∃ eff, cfg.resolveToken tokenKey = some eff ∧ ("*" ∈ eff.models ∨ model ∈ eff.models) := by
  unfold AppConfig.tokenHasModelAccess
  cases cfg.resolveToken tokenKey with
  | none => simp
  | some eff =>
    by_cases hstar : "*" ∈ eff.models
    · simp [hstar]
    · simp [hstar]

theorem checkModelEndpoints_none : ∀ {ms : List ModelConfig},
    checkModelEndpoints ms = none → ∀ m ∈ ms, m.endpoints ≠ []
  | [], _, m, hm => by cases hm
  | model :: rest, h, m, hm => by
    simp only [checkModelEndpoints] at h
    split at h
    · cases h
    · rename_i he
      rcases List.mem_cons.1 hm with rfl | hm
      · simpa using he
      · exact checkModelEndpoints_none h m hm

/-- An accepted configuration has no model without endpoints. -/
theorem AppConfig.Accepted.endpoints_ne {cfg : AppConfig} (hv : cfg.Accepted) {m : ModelConfig}
    (hm : m ∈ cfg.models) : m.endpoints ≠ [] := by
  unfold AppConfig.Accepted validateConfig at hv
  split at hv
  · cases hv
  · cases hv
  · exact checkModelEndpoints_none (Except.ok.inj hv) m hm

end AiRouter
