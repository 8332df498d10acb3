import AiRouter.RequestBody
import AiRouter.Reach

/-
# From the body to the endpoint: what can panic

Lines 163-293 of handler.rs: the body is parsed, translated and its alias replaced, the access is checked, the bans
are collected, the session is looked up and an endpoint is picked. `prepare` has them from the access check on; the
log line of a refused access masks the token (line 211).
-/
namespace AiRouter

/-! ## The steps -/

/-- `read_body_and_parse` (handler.rs:805) with both of its results. -/
def Handler.readBody (deps : Externs) (parseError : List UInt8 → String) (body : List Chunk) :
    Except Response (List UInt8 × Json) :=
  match readUpTo bodyLimit body with
  | .error e => .error (.plainText 400 ("Failed to read body: " ++ e))
  | .ok bytes =>
    match deps.fromSlice bytes with
    | some json => .ok (bytes, json)
    | none => .error (.plainText 400 ("Invalid JSON: " ++ parseError bytes))

theorem readBodyAndParse_eq (deps : Externs) (parseError : List UInt8 → String) (body : List Chunk) :
    readBodyAndParse deps parseError body = (Handler.readBody deps parseError body).map (·.2) := by
  unfold readBodyAndParse Handler.readBody
  cases readUpTo bodyLimit body with
  | error e => rfl
  | ok bytes => cases h : deps.fromSlice bytes <;> simp [h, Except.map]

/-- What the rest of the handler reads of the request, of which `fwd` is sent on. -/
def RawRequest.chat (raw : RawRequest) (deps : Externs) (parseError : List UInt8 → String) (json : Json)
    (fwd : List UInt8) : ChatRequest where
  auth := raw.auth
  modelName := (Handler.translated raw.path json).2
  isStream := ((json.get "stream").bind (·.asBool)).getD false
  isAnthropic := isAnthropicRequest raw.path
  sessionId := getSessionId deps fwd
  bodyError := if (deps.fromSlice fwd).isSome then none else some (parseError fwd)

/-- The name that the model is looked up by. -/
def Handler.canonicalModel (cfg : AppConfig) (path : String) (json : Json) : String :=
  cfg.canonicalModelName (translated path json).2

/-- `tracing::warn!(.., token = %mask_key(&token_key), ..)` of a refused access -/
def Handler.logForbidden (cfg : AppConfig) (req : ChatRequest) : Except Panic Unit :=
  if cfg.tokenHasModelAccess req.auth.tokenKey (cfg.canonicalModelName req.modelName) then .ok ()
  else (Handler.maskKey req.auth.tokenKey).map fun _ => ()

def Handler.upToSelection (deps : Externs) (toVec : Json → Option (List UInt8)) (parseError : List UInt8 → String)
    (env : Env) (app : AppState) (raw : RawRequest) : Except Run (LoopCtx × LoopState) :=
  match Handler.readBody deps parseError raw.body with
  | .error response => earlyRun app [] (.responded response)
  | .ok (bytes, json) =>
    match Handler.forwardedBody toVec app.config raw.path bytes json with
    | .error p => earlyRun app [] (.panicked p)
    | .ok fwd =>
      let req := raw.chat deps parseError json fwd
      match Handler.logForbidden app.config req with
      | .error p => earlyRun app [] (.panicked p)
      | .ok _ => prepare env app req

/-- No run panics, and the model is assigned on objects only. -/
structure Handler.SelectsSafely (deps : Externs) (toVec : Json → Option (List UInt8))
    (parseError : List UInt8 → String) (cfg : AppConfig) (raw : RawRequest) (json : Json) : Prop where
  runs : ∀ (env : Env) (app : AppState), app.config = cfg → env.KeepsConfig → ∀ run,
    upToSelection deps toVec parseError env app raw = .error run → ∀ p, run.ending ≠ some (.panicked p)
  assigned : canonicalModel cfg raw.path json ≠ (translated raw.path json).2 →
    ∃ fields, (translated raw.path json).1 = .object fields

/-! ## Masks -/

/-- Neither cut of the mask falls inside a character. -/
def MaskableWith (short edge : Nat) (key : String) : Prop :=
  key.utf8ByteSize ≤ short ∨ ByteSlice.IsBoundary key edge ∧ ByteSlice.IsBoundary key (key.utf8ByteSize - edge)

theorem ok_of_isOk {ε α : Type} : ∀ {x : Except ε α}, x.isOk = true ↔ ∃ a, x = .ok a
  | .ok a => ⟨fun _ => ⟨a, rfl⟩, fun _ => rfl⟩
  | .error e => by simp [Except.isOk, Except.toBool]

theorem maskWith_ok_iff {short edge : Nat} {key : String} :
    (∃ m, maskWith short edge key = .ok m) ↔ MaskableWith short edge key := by
  rw [← ok_of_isOk]
  exact maskWith_isOk_iff

theorem map_ok_iff {ε α β : Type} {f : α → β} : ∀ {x : Except ε α}, (∃ b, x.map f = .ok b) ↔ ∃ a, x = .ok a
  | .ok a => ⟨fun _ => ⟨a, rfl⟩, fun _ => ⟨f a, rfl⟩⟩
  | .error e => ⟨fun ⟨_, h⟩ => (by cases h), fun ⟨_, h⟩ => (by cases h)⟩

theorem Handler.epKey_ok_iff {url key : String} : (∃ k, Handler.epKey url key = .ok k) ↔ MaskableWith 8 4 key :=
  map_ok_iff.trans maskWith_ok_iff

theorem Balancer.epKey_ok_iff {url key : String} : (∃ k, Balancer.epKey url key = .ok k) ↔ MaskableWith 6 3 key :=
  map_ok_iff.trans maskWith_ok_iff

theorem maskableWith_of_ascii {short edge : Nat} {key : String} (hse : edge ≤ short) (h : ByteSlice.Ascii key) :
    MaskableWith short edge key := by
  by_cases hshort : key.utf8ByteSize ≤ short
  · exact Or.inl hshort
  · exact Or.inr ⟨h.isBoundary (by omega), h.isBoundary (by omega)⟩

/-! ## Selection -/

section
variable {m : ModelConfig} {bannedKeys triedKeys : Finset String}

theorem collectBanned_ok {now : Nat} : ∀ {eps : List EndpointConfig} {app : AppState} {acc : Finset String},
    (∀ ep ∈ eps, ∃ k, Handler.epKey ep.url ep.key = .ok k) → ∃ b, (app.collectBanned now eps acc).2 = .ok b
  | [], _, acc, _ => ⟨acc, rfl⟩
  | ep :: rest, app, acc, h => by
    obtain ⟨k, hk⟩ := h ep List.mem_cons_self
    simp only [AppState.collectBanned, hk]
    exact collectBanned_ok fun e he => h e (List.mem_cons_of_mem ep he)

theorem stickyPick_ok {app : AppState} {model : Option ModelConfig} {sessionId : Option String} {now : Nat}
    (h : ∀ m, model = some m → ∀ ep ∈ m.endpoints, ∃ k, Handler.epKey ep.url ep.key = .ok k) :
    ∃ pick, (stickyPick app model bannedKeys sessionId now).2 = .ok pick := by
  unfold stickyPick
  cases sessionId with
  | none => exact ⟨none, rfl⟩
  | some sid =>
    dsimp only
    split
    · rename_i idx m _
      split
      · exact ⟨none, rfl⟩
      · rename_i ep hep
        obtain ⟨k, hk⟩ := h m rfl ep (List.mem_of_getElem? hep)
        rw [hk]
        dsimp only
        split
        · exact ⟨_, rfl⟩
        · exact ⟨none, rfl⟩
    · exact ⟨none, rfl⟩

theorem Balancer.scan_ok {endpoints : List EndpointConfig} {start : Nat} (hne : endpoints ≠ [])
    (h : ∀ ep ∈ endpoints, ∃ k, Balancer.epKey ep.url ep.key = .ok k) :
    ∀ offs, ∃ pick, Balancer.scan endpoints bannedKeys triedKeys start offs = .ok pick
  | [] => ⟨none, rfl⟩
  | offset :: rest => by
    have hlt : (start + offset) % endpoints.length < endpoints.length := Nat.mod_lt _ (List.length_pos_iff.2 hne)
    obtain ⟨k, hk⟩ := h _ (List.getElem_mem hlt)
    simp only [Balancer.scan, List.getElem?_eq_getElem hlt, hk]
    split
    · exact Balancer.scan_ok hne h rest
    · exact ⟨_, rfl⟩

theorem Balancer.selectAvailable_ok {cfg : AppConfig} {rr : RoundRobinCounters} {name : String}
    (h : ∀ m, cfg.findModel name = some m → ∀ ep ∈ m.endpoints, ∃ k, Balancer.epKey ep.url ep.key = .ok k) :
    ∃ pick, (Balancer.selectAvailable cfg rr name bannedKeys triedKeys).2 = .ok pick := by
  unfold Balancer.selectAvailable
  split
  · exact ⟨none, rfl⟩
  · rename_i m hm
    dsimp only
    split
    · exact ⟨none, rfl⟩
    · rename_i hlen
      exact Balancer.scan_ok (fun hnil => hlen (by rw [hnil]; rfl)) (h m hm) _

/-- The first endpoint of the scan is masked, whatever its key. -/
theorem Balancer.selectAvailable_masks {cfg : AppConfig} {rr : RoundRobinCounters} {name : String} {i : Nat}
    {ep : EndpointConfig} {p : Panic} (hm : cfg.findModel name = some m) (hi : m.endpoints[i]? = some ep)
    (hrr : rr.At m i) (hkey : Balancer.epKey ep.url ep.key = .error p) :
    (Balancer.selectAvailable cfg rr name bannedKeys triedKeys).2 = .error p := by
  have hlt : i < m.endpoints.length := (List.getElem?_eq_some_iff.1 hi).1
  have hn : m.endpoints.length ≠ 0 := by omega
  obtain ⟨n, hsucc⟩ := Nat.exists_eq_succ_of_ne_zero hn
  have hidx : ((rr.counters.lookup m.name).getD 0 % m.endpoints.length + 0) % m.endpoints.length = i := by
    rw [Nat.add_zero, Nat.mod_mod, hrr]
  have hrange : List.range m.endpoints.length = 0 :: (List.range n).map Nat.succ := by
    rw [hsucc, List.range_succ_eq_map]
  simp only [selectAvailable, hm, if_neg hn, RoundRobinCounters.next, hrange, scan, hidx, hi, hkey]

end

/-- **Where a request panics** before the loop: while the bans are collected, the session is looked up or an
endpoint is picked. -/
theorem prepare_panicked {env : Env} {app : AppState} {req : ChatRequest} {run : Run} {p : Panic}
    (h : prepare env app req = .error run) (hp : run.ending = some (.panicked p)) :
    app.config.tokenHasModelAccess req.auth.tokenKey (app.config.canonicalModelName req.modelName) = true ∧
      ((app.collectBanned env.startAt (Handler.candidates app req) ∅).2 = .error p ∨
        ∃ bannedKeys, (Handler.stickyLookup env app req bannedKeys).2 = .error p ∨
          ((Handler.stickyLookup env app req bannedKeys).1.selectAvailable
            (app.config.canonicalModelName req.modelName) bannedKeys ∅).2 = .error p) := by
  cases prepare_stops h with
  | unmasked haccess hcollect =>
    cases hp
    exact ⟨haccess, Or.inl hcollect⟩
  | stickyUnmasked haccess hsticky =>
    cases hp
    exact ⟨haccess, Or.inr ⟨_, Or.inl hsticky⟩⟩
  | pickUnmasked haccess hpick =>
    cases hp
    exact ⟨haccess, Or.inr ⟨_, Or.inr hpick⟩⟩
  | forbidden | allBanned | noEndpoint | limited => cases hp

/-- With keys that can be masked, nothing panics before the loop. -/
theorem prepare_safe {env : Env} {app : AppState} {req : ChatRequest} (hpick : env.beforePick.KeepsConfig)
    (hkeys : app.config.tokenHasModelAccess req.auth.tokenKey (app.config.canonicalModelName req.modelName) = true →
      ∀ m, app.config.findModel (app.config.canonicalModelName req.modelName) = some m →
        ∀ ep ∈ m.endpoints, MaskableWith 8 4 ep.key ∧ MaskableWith 6 3 ep.key)
    {run : Run} (h : prepare env app req = .error run) (p : Panic) : run.ending ≠ some (.panicked p) := by
  intro hp
  obtain ⟨haccess, hcases⟩ := prepare_panicked h hp
  have hhandler : ∀ m, app.config.findModel (app.config.canonicalModelName req.modelName) = some m →
      ∀ ep ∈ m.endpoints, ∃ k, Handler.epKey ep.url ep.key = .ok k :=
    fun m hm ep hep => Handler.epKey_ok_iff.2 (hkeys haccess m hm ep hep).1
  have hconfig : (Handler.pickState env app req).config = app.config := by
    unfold Handler.pickState
    rw [disturb_config hpick, AppState.collectBanned_config]
  rcases hcases with hcollect | ⟨bannedKeys, hsticky | havailable⟩
  · have hlisted : ∀ ep ∈ Handler.candidates app req, ∃ k, Handler.epKey ep.url ep.key = .ok k := by
      unfold Handler.candidates
      cases hm : app.config.findModel (app.config.canonicalModelName req.modelName) with
      | none => simp
      | some m => exact hhandler m hm
    obtain ⟨b, hb⟩ := @collectBanned_ok env.startAt _ app ∅ hlisted
    rw [hb] at hcollect
    cases hcollect
  · obtain ⟨pick, hok⟩ := @stickyPick_ok bannedKeys (Handler.pickState env app req) _ req.sessionId env.startAt hhandler
    unfold Handler.stickyLookup at hsticky
    rw [hok] at hsticky
    cases hsticky
  · obtain ⟨sticky, sync, hstate⟩ := stickyPick_only (Handler.pickState env app req)
      (app.config.findModel (app.config.canonicalModelName req.modelName)) bannedKeys req.sessionId env.startAt
    unfold Handler.stickyLookup at havailable
    rw [hstate] at havailable
    have hbalancer : ∀ m, (Handler.pickState env app req).config.findModel
        (app.config.canonicalModelName req.modelName) = some m →
        ∀ ep ∈ m.endpoints, ∃ k, Balancer.epKey ep.url ep.key = .ok k := by
      rw [hconfig]
      exact fun m hm ep hep => Balancer.epKey_ok_iff.2 (hkeys haccess m hm ep hep).2
    obtain ⟨pick, hok⟩ := @Balancer.selectAvailable_ok bannedKeys ∅ _ (Handler.pickState env app req).roundRobin _
      hbalancer
    unfold AppState.selectAvailable at havailable
    dsimp only at havailable
    rw [hok] at havailable
    cases havailable

/-! ## When nothing panics -/

/-- The alias of a body that is no object does not arise, and the keys of the model can be masked both ways. -/
structure Handler.Selectable (cfg : AppConfig) (path tokenKey : String) (json : Json) : Prop where
  body : isAnthropicRequest path = true ∨ (∃ fields, json = .object fields) ∨
    cfg.canonicalModelName "unknown" = "unknown"
  keys : cfg.tokenHasModelAccess tokenKey (canonicalModel cfg path json) = true →
    ∀ m, cfg.findModel (canonicalModel cfg path json) = some m →
      ∀ ep ∈ m.endpoints, MaskableWith 8 4 ep.key ∧ MaskableWith 6 3 ep.key

theorem requestModel_of_not_object {json : Json} (h : ∀ fields, json ≠ .object fields) :
    requestModel json = "unknown" := by
  cases json with
  | object fields => exact absurd rfl (h fields)
  | _ => rfl

/-- The model is assigned on objects only. -/
theorem assigned_iff {cfg : AppConfig} {path : String} {json : Json} :
    (Handler.canonicalModel cfg path json ≠ (Handler.translated path json).2 →
        ∃ fields, (Handler.translated path json).1 = .object fields) ↔
      isAnthropicRequest path = true ∨ (∃ fields, json = .object fields) ∨
        cfg.canonicalModelName "unknown" = "unknown" := by
  unfold Handler.canonicalModel Handler.translated
  by_cases hpath : isAnthropicRequest path = true
  · simp only [hpath, if_true, true_or, iff_true]
    exact fun _ => ⟨_, rfl⟩
  · simp only [hpath, false_or, Bool.false_eq_true, if_false]
    by_cases hobject : ∃ fields, json = .object fields
    · simp [hobject]
    · rw [requestModel_of_not_object fun fields h => hobject ⟨fields, h⟩]
      simp only [hobject, false_or, imp_false, not_not]

/-- An object takes the assignment. -/
theorem forwarded_of_assigned {toVec : Json → Option (List UInt8)} {cfg : AppConfig} {path : String} {json : Json}
    (h : Handler.canonicalModel cfg path json ≠ (Handler.translated path json).2 →
      ∃ fields, (Handler.translated path json).1 = .object fields) (bytes : List UInt8) :
    ∃ fwd, Handler.forwardedBody toVec cfg path bytes json = .ok fwd := by
  unfold Handler.forwardedBody
  dsimp only
  split
  · rename_i hne
    obtain ⟨fields, hfields⟩ := h hne
    rw [hfields]
    exact ⟨_, rfl⟩
  · exact ⟨_, rfl⟩

section
variable {deps : Externs} {toVec : Json → Option (List UInt8)} {parseError : List UInt8 → String} {cfg : AppConfig}
  {raw : RawRequest} {bytes : List UInt8} {json : Json}

/-- Once the body is read and rewritten, a request with access is prepared. -/
theorem upToSelection_eq {env : Env} {app : AppState} {fwd : List UInt8}
    (hread : readUpTo bodyLimit raw.body = .ok bytes) (hjson : deps.fromSlice bytes = some json)
    (hfwd : Handler.forwardedBody toVec app.config raw.path bytes json = .ok fwd)
    (hlog : Handler.logForbidden app.config (raw.chat deps parseError json fwd) = .ok ()) :
    Handler.upToSelection deps toVec parseError env app raw = prepare env app (raw.chat deps parseError json fwd) := by
  unfold Handler.upToSelection Handler.readBody
  simp only [hread, hjson, hfwd, hlog]

theorem logForbidden_ok {req : ChatRequest} (h : ByteSlice.Ascii req.auth.tokenKey) :
    Handler.logForbidden cfg req = .ok () := by
  unfold Handler.logForbidden
  split
  · rfl
  · obtain ⟨m, hm⟩ := maskWith_ok_iff.2 (@maskableWith_of_ascii 8 4 _ (by omega) h)
    unfold Handler.maskKey
    rw [hm]
    rfl

def refusedTurn : Turn where
  before := .quiet
  checkAt := 0
  during := .quiet
  reply := .sendError ""
  doneAt := 0

theorem stickyPick_startApp (cfg : AppConfig) (rr : RoundRobinCounters) (model : Option ModelConfig)
    (bannedKeys : Finset String) (sessionId : Option String) :
    (stickyPick (startApp cfg rr [] { limiters := ∅ }) model bannedKeys sessionId 0).2 = .ok none := by
  cases sessionId with
  | none => rfl
  | some sid => cases model <;> rfl

/-- With no bans and the counter at an endpoint whose key cannot be masked, the request panics. -/
theorem exists_panic {req : ChatRequest} {m : ModelConfig} {ep : EndpointConfig}
    (haccess : cfg.tokenHasModelAccess req.auth.tokenKey (cfg.canonicalModelName req.modelName) = true)
    (hm : cfg.findModel (cfg.canonicalModelName req.modelName) = some m) (hep : ep ∈ m.endpoints)
    (hbad : ¬ (MaskableWith 8 4 ep.key ∧ MaskableWith 6 3 ep.key)) :
    ∃ rr run p, prepare (.quiet fun _ => refusedTurn) (startApp cfg rr [] { limiters := ∅ }) req = .error run ∧
      run.ending = some (.panicked p) := by
  obtain ⟨i, hlt, rfl⟩ := List.mem_iff_getElem.1 hep
  have hcfg : (startApp cfg (.pointing m i) [] { limiters := ∅ }).config = cfg := rfl
  refine ⟨.pointing m i, ?_⟩
  by_cases hall : ∀ ep ∈ m.endpoints, MaskableWith 8 4 ep.key
  · -- the handler can mask all keys, so the balancer is reached
    obtain ⟨b, hcollect, hmem⟩ := collectBanned_startApp cfg (.pointing m i) [] { limiters := ∅ } m.endpoints ∅
      fun ep hep => Handler.epKey_ok_iff.2 (hall ep hep)
    have hb : b = ∅ := Finset.eq_empty_of_forall_notMem fun k hk => by simpa using (hmem k).1 hk
    subst hb
    have hkey : ¬ ∃ k, Balancer.epKey m.endpoints[i].url m.endpoints[i].key = .ok k :=
      fun h => hbad ⟨hall _ hep, Balancer.epKey_ok_iff.1 h⟩
    obtain ⟨p, hp⟩ : ∃ p, Balancer.epKey m.endpoints[i].url m.endpoints[i].key = .error p := by
      cases hk : Balancer.epKey m.endpoints[i].url m.endpoints[i].key with
      | error p => exact ⟨p, rfl⟩
      | ok k => exact absurd ⟨k, hk⟩ hkey
    have hmasks := @Balancer.selectAvailable_masks m ∅ ∅ cfg (.pointing m i) _ i _ p hm
      (List.getElem?_eq_getElem hlt) (RoundRobinCounters.pointing_at hlt) hp
    have hnot : (some m).any (fun m => m.endpoints.length = (∅ : Finset String).card ∧ 0 < m.endpoints.length)
        = false := by simp
    have hsticky := stickyPick_startApp cfg (.pointing m i) (some m) ∅ req.sessionId
    obtain ⟨sticky, sync, hstate⟩ := stickyPick_only (startApp cfg (.pointing m i) [] { limiters := ∅ }) (some m) ∅
      req.sessionId 0
    have hrr : (startApp cfg (.pointing m i) [] { limiters := ∅ }).roundRobin = .pointing m i := rfl
    unfold prepare
    dsimp only [Env.quiet]
    simp only [hcfg, haccess, not_true_eq_false, if_false, hm, Option.map_some, Option.getD_some, hcollect, hnot,
      Bool.false_eq_true, disturb_quiet, hsticky, hstate, AppState.selectAvailable, hrr, hmasks]
    exact ⟨_, p, rfl, rfl⟩
  · cases hcollect : ((startApp cfg (.pointing m i) [] { limiters := ∅ }).collectBanned 0 m.endpoints ∅).2 with
    | ok b => exact absurd (fun ep hep => Handler.epKey_ok_iff.1 (collectBanned_keys hcollect ep hep)) hall
    | error p =>
      unfold prepare
      dsimp only [Env.quiet]
      simp only [hcfg, haccess, not_true_eq_false, if_false, hm, Option.map_some, Option.getD_some, hcollect]
      exact ⟨_, p, rfl, rfl⟩

end

/-- **Selection is safe** exactly for these bodies and keys. -/
theorem selects_safely_iff {deps : Externs} {toVec : Json → Option (List UInt8)} {parseError : List UInt8 → String}
    {cfg : AppConfig} {raw : RawRequest} {bytes : List UInt8} {json : Json}
    (htoken : ByteSlice.Ascii raw.auth.tokenKey) (hread : readUpTo bodyLimit raw.body = .ok bytes)
    (hjson : deps.fromSlice bytes = some json) :
    Handler.SelectsSafely deps toVec parseError cfg raw json ↔
      Handler.Selectable cfg raw.path raw.auth.tokenKey json := by
  constructor
  · intro h
    refine ⟨assigned_iff.1 h.assigned, fun haccess m hm ep hep => ?_⟩
    by_contra hbad
    obtain ⟨fwd, hfwd⟩ := @forwarded_of_assigned toVec _ _ _ h.assigned bytes
    obtain ⟨rr, run, p, hrun, hp⟩ := @exists_panic cfg (raw.chat deps parseError json fwd) m ep haccess hm hep hbad
    refine h.runs (.quiet fun _ => refusedTurn) (startApp cfg rr [] { limiters := ∅ }) rfl ?_ run ?_ p hp
    · exact ⟨fun _ => rfl, fun _ => rfl, fun _ => ⟨fun _ => rfl, fun _ => rfl⟩⟩
    · rw [upToSelection_eq hread hjson hfwd (logForbidden_ok htoken)]
      exact hrun
  · rintro ⟨hbody, hkeys⟩
    have hassigned := assigned_iff.2 hbody
    refine ⟨?_, hassigned⟩
    rintro env app rfl henv run hrun p
    obtain ⟨fwd, hfwd⟩ := @forwarded_of_assigned toVec _ _ _ hassigned bytes
    rw [upToSelection_eq hread hjson hfwd (logForbidden_ok htoken)] at hrun
    exact prepare_safe henv.1 hkeys hrun p

def readGpt4 (bytes : List UInt8) : Option Json :=
  if bytes = modelText "gpt-4" then some (.object [("model", .string "gpt-4")])
  else if bytes = [91, 93] then some (.array [])
  else none

/-- A parser of that text and of the empty array. -/
def Externs.gpt4Texts : Externs where
  fromSlice := readGpt4
  fromLossy := readGpt4
  hashToken := id

def chatRaw (bytes : List UInt8) : RawRequest where
  auth := singleRequest.auth
  path := "/v1/chat/completions"
  contentType := none
  body := [.ok bytes]

/-- The one text that can be written again. -/
def writeGpt4 (_ : Json) : Option (List UInt8) := some (modelText "gpt-4")

/-- A request for a model with plain keys. -/
theorem plain_keys_are_safe :
    Handler.SelectsSafely .gpt4Texts writeGpt4 (fun _ => "") singleConfig (chatRaw (modelText "gpt-4"))
      (.object [("model", .string "gpt-4")]) := by
  refine (@selects_safely_iff .gpt4Texts _ _ singleConfig (chatRaw (modelText "gpt-4")) (modelText "gpt-4") _
    (by decide) rfl rfl).2 ⟨Or.inr (Or.inl ⟨_, rfl⟩), ?_⟩
  rintro - m hm ep hep
  obtain rfl : m = _ := (Option.some.inj hm).symm
  obtain rfl := List.mem_singleton.1 hep
  exact ⟨maskableWith_of_ascii (by omega) (by decide), maskableWith_of_ascii (by omega) (by decide)⟩

/-- Three characters of three bytes each: the mask would keep four bytes. -/
def euroConfig : AppConfig :=
  { singleConfig with
    models :=
      [{ name := "gpt-4", aliases := [], modelType := "chat"
         endpoints :=
           [{ url := "https://api.openai.com", key := "€€€", limits := none, cost := none, weight := 1 }] }] }

/-- A request without a model name is for this one. -/
def catchAllConfig : AppConfig :=
  { singleConfig with
    models :=
      [{ name := "gpt-4", aliases := ["unknown"], modelType := "chat"
         endpoints :=
           [{ url := "https://api.openai.com", key := "sk-upstream-1", limits := none, cost := none, weight := 1 }] }] }

/-- Such a key panics while the bans are collected, and an empty array when its alias is replaced. -/
theorem accepted_config_panics :
    euroConfig.Accepted ∧ authenticate euroConfig "sk-client" = some (chatRaw (modelText "gpt-4")).auth ∧
      (∃ run, Handler.upToSelection .gpt4Texts writeGpt4 (fun _ => "") (.quiet fun _ => refusedTurn)
          (startApp euroConfig { counters := ∅ } [] { limiters := ∅ }) (chatRaw (modelText "gpt-4")) = .error run ∧
        run.ending = some (.panicked .charBoundary)) ∧
    catchAllConfig.Accepted ∧ authenticate catchAllConfig "sk-client" = some (chatRaw [91, 93]).auth ∧
      ∃ run, Handler.upToSelection .gpt4Texts writeGpt4 (fun _ => "") (.quiet fun _ => refusedTurn)
          (startApp catchAllConfig { counters := ∅ } [] { limiters := ∅ }) (chatRaw [91, 93]) = .error run ∧
        run.ending = some (.panicked .indexOutOfBounds) :=
  ⟨rfl, by decide, ⟨_, rfl, rfl⟩, rfl, by decide, _, rfl, rfl⟩

end AiRouter
