import AiRouter.Config

/-
# What a token inherits: `resolve_token` after deserialization (config/types.rs)

A YAML mapping gives a field or leaves it out; serde fills what is left out (`#[serde(default)]`) before
`resolve_token` sees it. Inside `limits` that fills `rpm` and `tpm` one by one, so that a token with one of
them has both.

| here | there |
| --- | --- |
| `LimitsYaml.read`  | `LimitsConfig` (types.rs:114) |
| `TeamYaml.read`    | `TeamConfig`, `default_team_models` (types.rs:86) |
| `TokenYaml.read`   | `TokenConfig` (types.rs:103) |
| `ConfigYaml.read`  | `AppConfig` (types.rs:6); its other sections as they are read |
-/
namespace AiRouter

/-! ## Deserialization -/

structure LimitsYaml where
  rpm : Option Nat
  tpm : Option Nat
deriving DecidableEq, Repr

structure TeamYaml where
  name : String
  models : Option (List String)
  limits : Option LimitsYaml
  costMultiplier : Option Rat
deriving DecidableEq, Repr

structure TokenYaml where
  key : String
  team : String
  models : Option (List String)
  limits : Option LimitsYaml
deriving DecidableEq, Repr

structure ConfigYaml where
  teams : Option (List TeamYaml)
  tokens : Option (List TokenYaml)
  models : List ModelConfig
  fail2ban : Fail2banConfig
deriving DecidableEq, Repr

def LimitsYaml.read (l : LimitsYaml) : LimitsConfig where
  rpm := l.rpm.getD 0
  tpm := l.tpm.getD 0

def TeamYaml.read (t : TeamYaml) : TeamConfig where
  name := t.name
  models := t.models.getD ["*"]
  limits := t.limits.map (·.read)
  costMultiplier := t.costMultiplier

def TokenYaml.read (t : TokenYaml) : TokenConfig where
  key := t.key
  team := t.team
  models := t.models
  limits := t.limits.map (·.read)

def ConfigYaml.read (c : ConfigYaml) : AppConfig where
  teams := (c.teams.getD []).map (·.read)
  tokens := (c.tokens.getD []).map (·.read)
  models := c.models
  fail2ban := c.fail2ban

namespace ConfigYaml

def findToken (c : ConfigYaml) (key : String) : Option TokenYaml := (c.tokens.getD []).find? (·.key == key)

def findTeam (c : ConfigYaml) (name : String) : Option TeamYaml := (c.teams.getD []).find? (·.name == name)

variable (c : ConfigYaml)

theorem read_findToken (key : String) : c.read.tokens.find? (·.key == key) = (c.findToken key).map (·.read) := by
  unfold read findToken
  rw [List.find?_map]
  rfl

theorem read_findTeam (name : String) : c.read.findTeam name = (c.findTeam name).map (·.read) := by
  unfold read AppConfig.findTeam findTeam
  rw [List.find?_map]
  rfl

/-! ## What the documentation promises -/

/-- The token's own value, else the team's, else `dflt`. -/
def inherited {α : Type} (own team : Option α) (dflt : α) : α := (own.orElse fun _ => team).getD dflt

def teamOf (c : ConfigYaml) (token : TokenYaml) : Option TeamYaml := c.findTeam token.team

/-- `resolve_token` inherits field by field. -/
structure Inherits (c : ConfigYaml) (token : TokenYaml) (eff : EffectiveLimits) : Prop where
  models : eff.models = inherited token.models ((c.teamOf token).bind (·.models)) ["*"]
  rpm : eff.rpm = inherited (token.limits.bind (·.rpm)) (((c.teamOf token).bind (·.limits)).bind (·.rpm)) 0
  tpm : eff.tpm = inherited (token.limits.bind (·.tpm)) (((c.teamOf token).bind (·.limits)).bind (·.tpm)) 0

/-- The token has a section `limits` without the field, and its team sets the field. -/
def Drops (c : ConfigYaml) (token : TokenYaml) (field : LimitsYaml → Option Nat) : Prop :=
  ∃ own ∈ token.limits, field own = none ∧
    ∃ value ∈ ((c.teamOf token).bind (·.limits)).bind field, value ≠ 0

/-! ## What the code does -/

/-- One limit, as `resolve_token` takes it from the sections that deserialization has filled. -/
def filled (field : LimitsYaml → Option Nat) (own team : Option LimitsYaml) : Nat :=
  ((own.map fun l => (field l).getD 0).orElse fun _ => team.map fun l => (field l).getD 0).getD 0

theorem filled_iff (field : LimitsYaml → Option Nat) (own team : Option LimitsYaml) :
    filled field own team = inherited (own.bind field) (team.bind field) 0 ↔
      ¬ ∃ l ∈ own, field l = none ∧ ∃ value ∈ team.bind field, value ≠ 0 := by
  unfold filled inherited
  cases own with
  | none =>
    cases team with
    | none => simp
    | some t => cases h : field t <;> simp [h]
  | some l =>
    cases hfield : field l with
    | some value => simp [hfield]
    | none => cases hteam : team.bind field <;> simp [hfield, eq_comm]

/-- The effective limits of a token, from what the YAML gives. -/
theorem read_resolveToken {key : String} {token : TokenYaml} (h : c.findToken key = some token) :
    ∃ eff, c.read.resolveToken key = some eff ∧
      eff.models = inherited token.models ((c.teamOf token).bind (·.models)) ["*"] ∧
      eff.rpm = filled (·.rpm) token.limits ((c.teamOf token).bind (·.limits)) ∧
      eff.tpm = filled (·.tpm) token.limits ((c.teamOf token).bind (·.limits)) := by
  unfold AppConfig.resolveToken
  rw [c.read_findToken, h]
  refine ⟨_, rfl, ?_⟩
  dsimp only [TokenYaml.read]
  rw [c.read_findTeam]
  unfold inherited filled teamOf
  cases hteam : c.findTeam token.team with
  | none =>
    refine ⟨by simp, ?_, ?_⟩ <;> cases token.limits <;> rfl
  | some team =>
    refine ⟨?_, ?_, ?_⟩
    · cases token.models <;> cases hmodels : team.models <;> simp [TeamYaml.read, hmodels]
    all_goals
      cases hown : token.limits <;> cases hlimits : team.limits <;> simp [TeamYaml.read, LimitsYaml.read, hlimits]

/-- **Inheritance field by field** fails exactly for a token whose `limits` leave out what the team sets. -/
theorem resolveToken_inherits_iff {key : String} {token : TokenYaml} (h : c.findToken key = some token) :
    (∃ eff, c.read.resolveToken key = some eff ∧ c.Inherits token eff) ↔
      ¬ c.Drops token (·.rpm) ∧ ¬ c.Drops token (·.tpm) := by
  obtain ⟨eff, heff, hmodels, hrpm, htpm⟩ := c.read_resolveToken h
  have hrpm_iff := filled_iff (·.rpm) token.limits ((c.teamOf token).bind (·.limits))
  have htpm_iff := filled_iff (·.tpm) token.limits ((c.teamOf token).bind (·.limits))
  rw [← hrpm] at hrpm_iff
  rw [← htpm] at htpm_iff
  constructor
  · rintro ⟨eff', heff', hinherits⟩
    obtain rfl : eff = eff' := Option.some.inj (heff.symm.trans heff')
    exact ⟨hrpm_iff.1 hinherits.rpm, htpm_iff.1 hinherits.tpm⟩
  · rintro ⟨hkeeps_rpm, hkeeps_tpm⟩
    exact ⟨eff, heff, hmodels, hrpm_iff.2 hkeeps_rpm, htpm_iff.2 hkeeps_tpm⟩

/-- The team `basic` of the README with its two tokens. -/
def basic : ConfigYaml where
  teams := some [⟨"basic", some ["gpt-4o-mini"], some ⟨some 100, some 50000⟩, none⟩]
  tokens := some [⟨"sk-user-1", "basic", none, none⟩, ⟨"sk-power-user", "basic", none, some ⟨some 500, none⟩⟩]
  models := []
  fail2ban := .default

theorem full_inheritance :
    ∃ eff, basic.read.resolveToken "sk-user-1" = some eff ∧ basic.Inherits ⟨"sk-user-1", "basic", none, none⟩ eff := by
  refine (@resolveToken_inherits_iff basic "sk-user-1" _ (by decide)).2 ⟨?_, ?_⟩ <;> rintro ⟨own, hown, _⟩ <;> cases hown

/-- `limits: { rpm: 500 }` under a team of 50000 TPM: the token's TPM is unlimited. -/
theorem power_user_tpm_dropped :
    basic.read.resolveToken "sk-power-user" = some { rpm := 500, tpm := 0, models := ["gpt-4o-mini"], costMultiplier := 1 } ∧
      ∀ eff, basic.read.resolveToken "sk-power-user" = some eff →
        ¬ basic.Inherits ⟨"sk-power-user", "basic", none, some ⟨some 500, none⟩⟩ eff := by
  have heff : basic.read.resolveToken "sk-power-user"
      = some { rpm := 500, tpm := 0, models := ["gpt-4o-mini"], costMultiplier := 1 } := by decide
  refine ⟨heff, fun eff h hinherits => ?_⟩
  obtain rfl := Option.some.inj (heff.symm.trans h)
  exact absurd hinherits.tpm (by decide)

end ConfigYaml

end AiRouter
