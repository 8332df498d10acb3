import AiRouter.Anthropic
import AiRouter.ModelAccess
import AiRouter.Multipart

/-
# The model of a generic request

`proxy_generic` derives the model that it checks along three branches which the content type selects, and sends the
body as it came.

| here | there |
| --- | --- |
| `readUpTo`          | `axum::body::to_bytes` with its limit |
| `readBodyAndParse`  | `read_body_and_parse` (handler.rs:805) |
| `Generic.readBody`  | `proxy_generic` up to the model name (lines 1165-1201) |
-/
namespace AiRouter

/-! ## Reading the body -/

structure RawRequest where
  auth : AuthContext
  /-- the path after `strip_base_path` -/
  path : String
  /-- the header, where it is text -/
  contentType : Option String
  body : List Chunk

/-- The whole body, unless it is longer than the limit or breaks off. -/
def readUpTo : Nat → List Chunk → Except String (List UInt8)
  | _, [] => .ok []
  | _, .error e :: _ => .error e
  | limit, .ok bytes :: rest =>
    if limit < bytes.length then .error "length limit exceeded"
    else (readUpTo (limit - bytes.length) rest).map (bytes ++ ·)

/-- 50 MiB -/
def bodyLimit : Nat := 50 * mebibyte

/-- `parseError` is what `serde_json` says of a text that is no JSON. -/
def readBodyAndParse (deps : Externs) (parseError : List UInt8 → String) (body : List Chunk) : Except Response Json :=
  match readUpTo bodyLimit body with
  | .error e => .error (.plainText 400 ("Failed to read body: " ++ e))
  | .ok bytes =>
    match deps.fromSlice bytes with
    | some json => .ok json
    | none => .error (.plainText 400 ("Invalid JSON: " ++ parseError bytes))

namespace Json

def asBool : Json → Option Bool
  | .bool b => some b
  | _ => none

end Json

namespace RawRequest

/-- `unwrap_or("")` -/
def header (raw : RawRequest) : String := raw.contentType.getD ""

/-- `content_type.starts_with(..)` -/
def hasType (raw : RawRequest) (type : String) : Bool := decide (type.toList <+: raw.header.toList)

end RawRequest

def Generic.readBody (deps : Externs) (parseError : List UInt8 → String) (raw : RawRequest) : ParsedBody :=
  if raw.hasType "application/json" then
    match readBodyAndParse deps parseError raw.body with
    | .error response => .refused response
    | .ok json => .json ((json.get "model").bind (·.asStr)) ((json.get "stream").bind (·.asBool))
  else
    match readUpTo bodyLimit raw.body with
    | .error e => .refused (.jsonError 400 ("Failed to read body: " ++ e) "invalid_request_error" "body_read_failed")
    | .ok bytes => .other (if raw.hasType "multipart/form-data" then parseMultipartModel bytes raw.header else none)

def RawRequest.read (raw : RawRequest) (deps : Externs) (parseError : List UInt8 → String) : GenericRequest where
  auth := raw.auth
  path := raw.path
  body := Generic.readBody deps parseError raw

/-! ## The model of the body and the model that is checked -/

/-- The name that is checked is that of the body's model, the token may use it, and the endpoint is one of the entry
with that name, in the configuration `picked` of the pick. -/
structure ChecksForwarded (req : GenericRequest) (cfg picked : AppConfig) (model : String) (ep : SelectedEndpoint) :
    Prop where
  checked : ∃ name isStream, Generic.resolveBody cfg req.path req.body = .ok (name, isStream) ∧
    cfg.canonicalModelName name = cfg.canonicalModelName model ∧
    cfg.tokenHasModelAccess req.auth.tokenKey (cfg.canonicalModelName model) = true
  served : ∃ m, picked.findModel (cfg.canonicalModelName model) = some m ∧ m.name = cfg.canonicalModelName model ∧
    Balancer.PickOf m ep

/-- The name that is found without looking into the JSON: the form's field, a model of the path's type, or the first
model. -/
def RawRequest.guessed (raw : RawRequest) (cfg : AppConfig) (bytes : List UInt8) : Option String :=
  Generic.modelOf cfg raw.path (if raw.hasType "multipart/form-data" then parseMultipartModel bytes raw.header else none)

/-- The endpoint is picked for the canonical name, in the configuration of that moment. -/
theorem Generic.Called.found {deps : Externs} {env : GenericEnv} {app : AppState} {req : GenericRequest}
    {c : GenericCall} {s : Charged} {modelName : String} {isStream : Bool}
    (hc : Generic.Called deps env app req c s modelName isStream) :
    ∃ m, (env.beforePick.config app.config).findModel (app.config.canonicalModelName modelName) = some m ∧
      Balancer.PickOf m c.endpoint := by
  have hconfig := (checkAllRateLimits_budgets app.config req.auth.team req.auth.tokenKey req.auth.rpm
    req.auth.tpm env.limitsAt { app := app, ledger := [] }).config
  obtain ⟨m, hm, hp⟩ := Balancer.selectEndpoint_found hc.picked
  rw [hc.model] at hm
  refine ⟨m, ?_, hp⟩
  rw [← hm]
  unfold AppState.disturb
  rw [hconfig]

/-- The name that is checked, by branch: that of the body, or the one that is found otherwise. -/
theorem resolved_name_iff {deps : Externs} {parseError : List UInt8 → String} {cfg : AppConfig} {raw : RawRequest}
    {bytes : List UInt8} {json : Json} {model name : String} {isStream : Bool}
    (hread : readUpTo bodyLimit raw.body = .ok bytes) (hjson : deps.fromSlice bytes = some json)
    (hmodel : json.get "model" = some (.string model))
    (hbody : Generic.resolveBody cfg raw.path (Generic.readBody deps parseError raw) = .ok (name, isStream)) :
    (raw.hasType "application/json" = true ∨ ∃ guess, raw.guessed cfg bytes = some guess ∧
      cfg.canonicalModelName guess = cfg.canonicalModelName model) ↔
      cfg.canonicalModelName name = cfg.canonicalModelName model := by
  unfold Generic.readBody readBodyAndParse at hbody
  unfold RawRequest.guessed
  by_cases htype : raw.hasType "application/json" = true
  · simp only [htype, if_true, hread, hjson, Generic.resolveBody, Except.ok.injEq, Prod.mk.injEq, hmodel,
      Option.bind_some, Json.asStr, Option.getD_some] at hbody
    simp [htype, hbody.1]
  · simp only [htype, Bool.false_eq_true, if_false, hread, Generic.resolveBody] at hbody
    split at hbody
    · rename_i guess hguess
      obtain ⟨rfl, _⟩ := Prod.mk.inj (Except.ok.inj hbody)
      simp only [htype, Bool.false_eq_true, false_or, hguess, Option.some.injEq]
      constructor
      · rintro ⟨n, rfl, hc⟩
        exact hc
      · intro hc
        exact ⟨_, rfl, hc⟩
    · cases hbody

/-- **The model of the body is the one that is checked and that serves exactly if** the content type says JSON, or the
name that is found otherwise comes to the same entry, and that entry's name is not an alias of one listed before. -/
theorem checks_forwarded_iff {deps : Externs} {parseError : List UInt8 → String} {env : GenericEnv} {app : AppState}
    {raw : RawRequest} {ep : SelectedEndpoint} {reply : Reply} {bytes : List UInt8} {json : Json} {model : String}
    (hv : { endpoint := ep, step := .sent reply } ∈ (proxyGeneric deps env app (raw.read deps parseError)).trace)
    (hread : readUpTo bodyLimit raw.body = .ok bytes) (hjson : deps.fromSlice bytes = some json)
    (hmodel : json.get "model" = some (.string model)) :
    ChecksForwarded (raw.read deps parseError) app.config (env.beforePick.config app.config) model ep ↔
      (raw.hasType "application/json" = true ∨
        ∃ name, raw.guessed app.config bytes = some name ∧
          app.config.canonicalModelName name = app.config.canonicalModelName model) ∧
      ∀ m, (env.beforePick.config app.config).findModel (app.config.canonicalModelName model) = some m →
        m.name = app.config.canonicalModelName model := by
  obtain ⟨c, s, name, isStream, rfl, _, hc⟩ := proxyGeneric_called hv
  obtain ⟨m, hm, hp⟩ := hc.found
  have haccess := hc.access
  rw [resolved_name_iff hread hjson hmodel hc.body]
  constructor
  · intro h
    obtain ⟨name', isStream', hbody', hsame, _⟩ := h.checked
    rw [hc.body] at hbody'
    cases hbody'
    obtain ⟨m', hm', hm'name, _⟩ := h.served
    exact ⟨hsame, fun x hx => by rw [hm', Option.some.injEq] at hx; rw [← hx, hm'name]⟩
  · rintro ⟨hsame, hentry⟩
    rw [hsame] at haccess hm
    exact ⟨⟨name, isStream, hc.body, hsame, haccess⟩, m, hm, hentry m hm, hp⟩

/-- Two models of one provider, of which the token may use the first. -/
def providerConfig : AppConfig where
  teams := [{ name := "dev", models := ["small"], limits := none, costMultiplier := none }]
  tokens := [{ key := "sk-client", team := "dev", models := none, limits := none }]
  models :=
    [{ name := "small", aliases := [], modelType := "embedding"
       endpoints := [{ url := "https://api.openai.com", key := "sk-upstream-1", limits := none, cost := none, weight := 1 }] },
     { name := "big", aliases := [], modelType := "chat"
       endpoints := [{ url := "https://api.openai.com", key := "sk-upstream-1", limits := none, cost := none, weight := 1 }] }]
  fail2ban := .default

def providerApp : AppState := startApp providerConfig { counters := ∅ } [] { limiters := ∅ }

/-- `{"model":".."}` -/
def modelText (name : String) : List UInt8 := asciiBytes ("\x7b\"model\":\"" ++ name ++ "\"\x7d")

/-- A parser for the two texts. -/
def Externs.modelReading : Externs where
  fromSlice bytes :=
    (["small", "big"].find? fun name => bytes = modelText name).map fun name => .object [("model", .string name)]
  fromLossy _ := none
  hashToken := id

def embeddingsFor (contentType : Option String) (name : String) : RawRequest where
  auth := { tokenKey := "sk-client", team := "dev", models := ["small"], rpm := 0, tpm := 0, costMultiplier := 1 }
  path := "/v1/embeddings"
  contentType := contentType
  body := [.ok (modelText name)]

def providerSelected : SelectedEndpoint :=
  EndpointConfig.selected ⟨"https://api.openai.com", "sk-upstream-1", none, none, 1⟩ 0 1

/-- With parameters after the type it is checked as it should be. -/
theorem parameters_are_json :
    ChecksForwarded ((embeddingsFor (some "application/json; charset=utf-8") "small").read .modelReading fun _ => "")
      providerConfig providerConfig "small" providerSelected :=
  (@checks_forwarded_iff .modelReading (fun _ => "") .answering providerApp
    (embeddingsFor (some "application/json; charset=utf-8") "small") providerSelected (.response 200 [])
    (modelText "small") _ "small" (List.mem_singleton_self _) rfl rfl rfl).2
    ⟨Or.inl (by decide), fun m hm => by cases hm; rfl⟩

/-- Without a content type `big` is sent to the provider, although the token may not use it: `small` is checked. -/
theorem untyped_body_is_not_checked :
    authenticate providerConfig "sk-client" = some (embeddingsFor none "big").auth ∧
      providerConfig.tokenHasModelAccess "sk-client" "big" = false ∧
      (proxyGeneric .modelReading .answering providerApp ((embeddingsFor none "big").read .modelReading fun _ => "")).trace
        = [{ endpoint := providerSelected, step := .sent (.response 200 []) }] ∧
      readUpTo bodyLimit (embeddingsFor none "big").body = .ok (modelText "big") ∧
      (Externs.modelReading.fromSlice (modelText "big")).bind (·.get "model") = some (.string "big") ∧
      ¬ ChecksForwarded ((embeddingsFor none "big").read .modelReading fun _ => "") providerConfig providerConfig "big"
        providerSelected := by
  refine ⟨rfl, rfl, rfl, rfl, rfl, fun h => ?_⟩
  obtain ⟨name, isStream, _, _, haccess⟩ := h.checked
  cases haccess

end AiRouter
