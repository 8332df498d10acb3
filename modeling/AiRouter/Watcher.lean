import AiRouter.Config
import AiRouter.Fail2ban
import AiRouter.Lib.Steps

/-
# Hot reload: `load_config` (config/loader.rs) and the reload task (config/watcher.rs:48-72)

| here | there |
| --- | --- |
| `expandFrom`, `expandEnvVars` | `expand_env_vars` (loader.rs:28); its inner loop is the mode `var` |
| `loadConfig`                  | `load_config` (loader.rs:11) |
| `ReloadTask.reload`           | one round of the task's loop (watcher.rs:52-71) |

`serde_yaml` and the text of the path are parameters. What a round finds is the file, which may be unreadable
or not UTF-8, and the variables that are set once `.env` has been read. A panic ends the task; the service goes
on with what is published.
-/
namespace AiRouter

/-! ## Variables -/

/-- Outside of a `${..}`, or inside with what has been read of it. -/
inductive ExpandMode where
  | text
  | var (name : List Char) (dflt : Option (List Char)) (inDefault : Bool)
deriving DecidableEq, Repr

/-- What takes the place of a `${..}`. -/
def substitute (env : String → Option String) (name : List Char) (dflt : Option (List Char)) :
    Except String (List Char) :=
  let name := trim name
  if name.isEmpty then .error "Empty variable name in $\x7b\x7d"
  else
    match env (String.ofList name) with
    | some val => .ok val.toList
    | none =>
      match dflt with
      | some d => .ok (trim d)
      | none => .error ("Environment variable '" ++ String.ofList name ++ "' is not set (and no default provided)")

def expandFrom (env : String → Option String) : ExpandMode → List Char → List Char → Except String (List Char)
  | .text, [], result => .ok result
  | .text, '$' :: '{' :: cs, result => expandFrom env (.var [] none false) cs result
  | .text, c :: cs, result => expandFrom env .text cs (result ++ [c])
  | .var name dflt _, [], result => (substitute env name dflt).map (result ++ ·)
  | .var name dflt _, '}' :: cs, result =>
    match substitute env name dflt with
    | .ok val => expandFrom env .text cs (result ++ val)
    | .error e => .error e
  | .var name dflt false, ':' :: '-' :: cs, result => expandFrom env (.var name dflt true) cs result
  | .var name dflt false, c :: cs, result => expandFrom env (.var (name ++ [c]) dflt false) cs result
  | .var name dflt true, c :: cs, result => expandFrom env (.var name (some (dflt.getD [] ++ [c])) true) cs result

theorem expandFrom_open (env : String → Option String) (cs result : List Char) :
    expandFrom env .text ('$' :: '{' :: cs) result = expandFrom env (.var [] none false) cs result := by
  rw [expandFrom]

def expandEnvVars (env : String → Option String) (input : String) : Except String String :=
  (expandFrom env .text input.toList []).map String.ofList

/-! ## Loading -/

/-- What is not in `load_config`: the path as it is printed, and the YAML parser. -/
structure Loader where
  path : String
  parseYaml : String → Option AppConfig

/-- The file and the variables, as a round finds them. -/
structure FileSeen where
  content : Option String
  env : String → Option String

def Loader.loadConfig (l : Loader) (f : FileSeen) : Except Panic (Except String AppConfig) :=
  match f.content with
  | none => .ok (.error ("Cannot read " ++ l.path))
  | some content =>
    match expandEnvVars f.env content with
    | .error e => .ok (.error e)
    | .ok expanded =>
      match l.parseYaml expanded with
      | none => .ok (.error "Failed to parse YAML config")
      | some config =>
        match validateConfig config with
        | .error p => .error p
        | .ok (some e) => .ok (.error e)
        | .ok none => .ok (.ok config)

/-- The first token whose team is not configured. -/
def AppConfig.firstStray (cfg : AppConfig) : Option TokenConfig :=
  cfg.tokens.find? fun token => !(cfg.teams.map (·.name)).contains token.team

/-- Short enough to be hidden whole, or with whole characters in the first and the last four bytes. -/
def Maskable (key : String) : Prop :=
  key.utf8ByteSize ≤ 8 ∨ ByteSlice.IsBoundary key 4 ∧ ByteSlice.IsBoundary key (key.utf8ByteSize - 4)

/-- The configuration that the file holds, valid or not. -/
def Loader.parsed (l : Loader) (f : FileSeen) : Option AppConfig :=
  f.content.bind fun content => (expandEnvVars f.env content).toOption.bind l.parseYaml

/-- If the file holds a configuration, its first stray token has a key that can be masked. -/
def Loader.Harmless (l : Loader) (f : FileSeen) : Prop :=
  ∀ cfg ∈ l.parsed f, ∀ token ∈ cfg.firstStray, Maskable token.key

theorem checkTokenTeams_isOk_iff (teamNames : List String) : ∀ tokens : List TokenConfig,
    (checkTokenTeams teamNames tokens).isOk = true ↔
      ∀ token ∈ tokens.find? (fun token => !teamNames.contains token.team), Maskable token.key
  | [] => by simp [checkTokenTeams, Except.isOk, Except.toBool]
  | token :: rest => by
    by_cases h : teamNames.contains token.team = true
    · rw [checkTokenTeams, if_pos h, List.find?_cons_of_neg (by simpa using h)]
      exact checkTokenTeams_isOk_iff teamNames rest
    · have hmask : ∀ f : String → Option String,
          ((Loader.maskKey token.key).map f).isOk = (Loader.maskKey token.key).isOk := by
        intro f
        cases Loader.maskKey token.key <;> rfl
      rw [checkTokenTeams, if_neg h, List.find?_cons_of_pos (by simpa using h), hmask]
      simp only [Option.mem_def, Option.some.injEq, forall_eq']
      exact maskWith_isOk_iff

theorem validateConfig_isOk_iff (cfg : AppConfig) :
    (validateConfig cfg).isOk = true ↔ ∀ token ∈ cfg.firstStray, Maskable token.key := by
  rw [AppConfig.firstStray, ← checkTokenTeams_isOk_iff]
  unfold validateConfig
  split
  · rename_i h
    rw [h]
  · rename_i h
    rw [h]
  · rename_i h
    rw [h]
    rfl

theorem Loader.loadConfig_unparsed {l : Loader} {f : FileSeen} (h : l.parsed f = none) :
    ∃ e, l.loadConfig f = .ok (.error e) := by
  unfold Loader.parsed at h
  unfold Loader.loadConfig
  cases hcontent : f.content with
  | none => exact ⟨_, rfl⟩
  | some content =>
    rw [hcontent, Option.bind_some] at h
    dsimp only
    cases hexpanded : expandEnvVars f.env content with
    | error e => exact ⟨_, rfl⟩
    | ok expanded =>
      rw [hexpanded] at h
      have hparse : l.parseYaml expanded = none := h
      dsimp only
      rw [hparse]
      exact ⟨_, rfl⟩

theorem Loader.loadConfig_parsed {l : Loader} {f : FileSeen} {cfg : AppConfig} (h : l.parsed f = some cfg) :
    l.loadConfig f = (validateConfig cfg).map fun
      | some e => .error e
      | none => .ok cfg := by
  obtain ⟨content, hcontent, h⟩ := Option.bind_eq_some_iff.1 h
  obtain ⟨expanded, hexpanded, hparse⟩ := Option.bind_eq_some_iff.1 h
  cases hresult : expandEnvVars f.env content with
  | error e =>
    rw [hresult] at hexpanded
    cases hexpanded
  | ok text =>
    rw [hresult] at hexpanded
    obtain rfl : text = expanded := Option.some.inj hexpanded
    unfold Loader.loadConfig
    rw [hcontent]
    dsimp only
    rw [hresult]
    dsimp only
    rw [hparse]
    dsimp only
    rcases validateConfig cfg with _ | _ | _ <;> rfl

/-- **`load_config` returns** exactly on harmless files. -/
theorem Loader.loadConfig_isOk_iff (l : Loader) (f : FileSeen) : (l.loadConfig f).isOk = true ↔ l.Harmless f := by
  unfold Loader.Harmless
  cases h : l.parsed f with
  | none =>
    obtain ⟨e, he⟩ := Loader.loadConfig_unparsed h
    simp [he, Except.isOk, Except.toBool]
  | some cfg =>
    have hmap : ((validateConfig cfg).map fun
        | some e => (.error e : Except String AppConfig)
        | none => .ok cfg).isOk = (validateConfig cfg).isOk := by
      cases validateConfig cfg <;> rfl
    rw [Loader.loadConfig_parsed h, hmap, validateConfig_isOk_iff]
    simp

/-! ## The reload task -/

/-- What is published, and whether the task still runs. -/
structure ReloadTask where
  published : AppConfig
  alive : Bool
deriving DecidableEq, Repr

def ReloadTask.reload (l : Loader) (t : ReloadTask) (f : FileSeen) : ReloadTask :=
  if t.alive then
    match l.loadConfig f with
    | .ok (.ok cfg) => { t with published := cfg }
    | .ok (.error _) => t
    | .error _ => { t with alive := false }
  else t

def Loader.accepts (l : Loader) (f : FileSeen) : Option AppConfig :=
  match l.loadConfig f with
  | .ok (.ok cfg) => some cfg
  | _ => none

/-- The last content that is accepted, or the initial configuration. -/
def Loader.lastAccepted (l : Loader) (initial : AppConfig) (files : List FileSeen) : AppConfig :=
  (files.filterMap l.accepts).getLast?.getD initial

/-- The task runs, and has published the last accepted content. -/
structure ReloadTask.Follows (l : Loader) (initial : AppConfig) (seen : List FileSeen) (t : ReloadTask) : Prop where
  published : t.published = l.lastAccepted initial seen
  alive : t.alive = true

theorem ReloadTask.reload_alive_iff {l : Loader} {t : ReloadTask} {f : FileSeen} :
    (t.reload l f).alive = true ↔ t.alive = true ∧ l.Harmless f := by
  rw [← Loader.loadConfig_isOk_iff]
  unfold ReloadTask.reload
  by_cases h : t.alive = true
  · rw [if_pos h]
    rcases l.loadConfig f with _ | _ | _ <;> simp [h, Except.isOk, Except.toBool]
  · rw [if_neg h]
    simp [h]

theorem ReloadTask.Follows.reload {l : Loader} {initial : AppConfig} {seen : List FileSeen} {t : ReloadTask}
    {f : FileSeen} (h : t.Follows l initial seen) (hf : l.Harmless f) :
    (t.reload l f).Follows l initial (seen ++ [f]) := by
  refine ⟨?_, ReloadTask.reload_alive_iff.2 ⟨h.alive, hf⟩⟩
  unfold ReloadTask.reload Loader.lastAccepted
  rw [if_pos h.alive, List.filterMap_append]
  have haccepts : l.accepts f = match l.loadConfig f with
    | .ok (.ok cfg) => some cfg
    | _ => none := rfl
  rcases hload : l.loadConfig f with p | e | cfg
  · simp [haccepts, hload, h.published, Loader.lastAccepted]
  · simp [haccepts, hload, h.published, Loader.lastAccepted]
  · simp [haccepts, hload]

/-- **Run**: harmless contents. -/
theorem ReloadTask.Follows.run {l : Loader} {initial : AppConfig} {files : List FileSeen} :
    ∀ {seen : List FileSeen} {t : ReloadTask}, t.Follows l initial seen → (∀ f ∈ files, l.Harmless f) →
      (Steps.run (ReloadTask.reload l) t files).Follows l initial (seen ++ files) := by
  induction files with
  | nil =>
    intro seen t h _
    rw [List.append_nil]
    exact h
  | cons f files ih =>
    intro seen t h hfiles
    obtain ⟨hf, hrest⟩ := List.forall_mem_cons.1 hfiles
    rw [Steps.run_cons, ← List.singleton_append, ← List.append_assoc]
    exact ih (h.reload hf) hrest

/-- **The reload task follows the file** through a sequence of contents exactly where each is harmless. -/
theorem reload_follows_iff (l : Loader) (initial : AppConfig) (files : List FileSeen) :
    (∀ seen, seen <+: files →
        (Steps.run (ReloadTask.reload l) { published := initial, alive := true } seen).Follows l initial seen) ↔
      ∀ f ∈ files, l.Harmless f := by
  constructor
  · intro h f hf
    obtain ⟨before, after, rfl⟩ := List.append_of_mem hf
    have halive := (h (before ++ [f]) ⟨after, by simp⟩).alive
    rw [Steps.run_append] at halive
    exact (ReloadTask.reload_alive_iff.1 halive).2
  · rintro h seen ⟨rest, rfl⟩
    have hstart : ({ published := initial, alive := true } : ReloadTask).Follows l initial [] := ⟨rfl, rfl⟩
    exact hstart.run fun f hf => h f (List.mem_append_left rest hf)

/-! A key of nine bytes that are three characters, under a team that is not configured. -/

def emptyConfig : AppConfig := { teams := [], tokens := [], models := [], fail2ban := .default }

def strayConfig : AppConfig :=
  { emptyConfig with tokens := [{ key := "€€€", team := "ghost", models := none, limits := none }] }

def initialConfig : AppConfig := { emptyConfig with teams := [⟨"basic", ["*"], none, none⟩] }

/-- A YAML parser on the two files. -/
def parsesTwo : Loader where
  path := "\"config.yaml\""
  parseYaml := fun text =>
    if text = "server:\n  listen: a\ntokens:\n  - key: €€€\n    team: ghost\n" then some strayConfig
    else if text = "server:\n  listen: a\n" then some emptyConfig
    else none

def strayFile : FileSeen where
  content := some "server:\n  listen: a\ntokens:\n  - key: €€€\n    team: ghost\n"
  env := fun _ => none

def goodFile : FileSeen where
  content := some "server:\n  listen: a\n"
  env := fun _ => none

/-- The file with the stray token ends the task; the good one after it is not seen. -/
theorem stray_token_ends_reload :
    parsesTwo.accepts goodFile = some emptyConfig ∧
      Steps.run (ReloadTask.reload parsesTwo) { published := initialConfig, alive := true } [strayFile, goodFile]
        = { published := initialConfig, alive := false } ∧
      ¬ ∀ seen, seen <+: [strayFile, goodFile] →
        (Steps.run (ReloadTask.reload parsesTwo) { published := initialConfig, alive := true } seen).Follows parsesTwo
          initialConfig seen := by
  have hrun : Steps.run (ReloadTask.reload parsesTwo) { published := initialConfig, alive := true } [strayFile, goodFile]
      = { published := initialConfig, alive := false } := rfl
  refine ⟨rfl, hrun, fun h => ?_⟩
  have halive := (h _ List.prefix_rfl).alive
  rw [hrun] at halive
  cases halive

end AiRouter
