import AiRouter.GenericBody

/-
# The body that `proxy_handler` sends on

An Anthropic request is translated (proxy/anthropic.rs:9-58), then an alias is replaced by the canonical name, and
the session is read out of the bytes that come of it.

| here | there |
| --- | --- |
| `Json.setIndex`          | `json[key] = value` |
| `translateRequest`       | `translate_request` (anthropic.rs:11); `json!` writes an absent content as `null` |
| `isAnthropicRequest`     | `is_anthropic_request` (anthropic.rs:120) |
| `Handler.translated`     | the value and the model name after lines 168-192 |
| `Handler.forwardedBody`  | `body_bytes` after line 207 |
| `getSessionId`           | `get_session_id` (handler.rs:816) |
-/
namespace AiRouter

namespace Json

/-- `null` becomes an object; on any other value that is none the index panics. -/
def setIndex (json : Json) (key : String) (value : Json) : Except Panic Json :=
  match json with
  | .object fields => .ok (.object (SortedAssoc.insert key value fields))
  | .null => .ok (.object [(key, value)])
  | _ => .error .indexOutOfBounds

end Json

/-! ## Translation -/

/-- `body.get("model")`, `unknown` where it is no string -/
def requestModel (body : Json) : String := ((body.get "model").bind (·.asStr)).getD "unknown"

/-- `json!({"role": role, "content": content})` -/
def chatMessage (role : String) (content : Json) : Json :=
  .object [("content", content), ("role", .string role)]

def systemMessages (body : Json) : List Json :=
  match (body.get "system").bind (·.asStr) with
  | some system => [chatMessage "system" (.string system)]
  | none => []

def inputMessages (body : Json) : List Json := ((body.get "messages").bind (·.asArray)).getD []

def translateMessage (msg : Json) : Json :=
  chatMessage (((msg.get "role").bind (·.asStr)).getD "user") ((msg.get "content").getD .null)

def copiedParams : List String := ["max_tokens", "temperature", "top_p", "stream"]

/-- The value of `source` goes to `target`, where there is one. -/
def copyField (body : Json) (source target : String) (openai : Fields) : Fields :=
  match body.get source with
  | some val => SortedAssoc.insert target val openai
  | none => openai

def copyParams (body : Json) (params : List String) (openai : Fields) : Fields :=
  params.foldl (fun openai field => copyField body field field openai) openai

def translateRequest (body : Json) : Json × String :=
  let model := requestModel body
  let openai : Fields :=
    [("messages", .array (systemMessages body ++ (inputMessages body).map translateMessage)), ("model", .string model)]
  let openai := copyParams body copiedParams openai
  let openai := copyField body "stop_sequences" "stop" openai
  (.object (SortedAssoc.insert "__anthropic_request" body openai), model)

/-- `path.ends_with("/v1/messages")` -/
def isAnthropicRequest (path : String) : Bool := decide ("/v1/messages".toList <:+ path.toList)

/-! ## What is sent on -/

/-- The value and the model name after the translation. -/
def Handler.translated (path : String) (json : Json) : Json × String :=
  if isAnthropicRequest path then translateRequest json else (json, requestModel json)

/-- `serde_json::to_vec(..).unwrap_or(body_bytes)`, twice: the translation and the replaced alias -/
def Handler.forwardedBody (toVec : Json → Option (List UInt8)) (cfg : AppConfig) (path : String)
    (bytes : List UInt8) (json : Json) : Except Panic (List UInt8) :=
  let t := Handler.translated path json
  let bytes := if isAnthropicRequest path then (toVec t.1).getD bytes else bytes
  let canonicalModel := cfg.canonicalModelName t.2
  if canonicalModel ≠ t.2 then
    (t.1.setIndex "model" (.string canonicalModel)).map fun json => (toVec json).getD bytes
  else .ok bytes

def sessionOf (json : Json) : Option String := (json.get "x-sticky-session-id").bind (·.asStr)

def getSessionId (deps : Externs) (body : List UInt8) : Option String := (deps.fromLossy body).bind sessionOf

/-! ## The fields of a translation -/

section
variable {body : Json} {key source target : String} {openai : Fields}

theorem lookup_copyField_self (h : openai.lookup target = none) :
    (copyField body source target openai).lookup target = body.get source := by
  unfold copyField
  split
  · rename_i val hval
    rw [SortedAssoc.lookup_insert_self, hval]
  · rename_i hnone
    rw [h, hnone]

theorem lookup_copyField_ne (h : key ≠ target) :
    (copyField body source target openai).lookup key = openai.lookup key := by
  unfold copyField
  split
  · exact SortedAssoc.lookup_insert_ne h _ _
  · rfl

theorem sorted_copyField (h : SortedAssoc.Sorted openai) :
    SortedAssoc.Sorted (copyField body source target openai) := by
  unfold copyField
  split
  · exact SortedAssoc.sorted_insert _ _ h
  · exact h

theorem lookup_copyParams_not_mem {params : List String} (h : key ∉ params) :
    (copyParams body params openai).lookup key = openai.lookup key := by
  unfold copyParams
  induction params generalizing openai with
  | nil => rfl
  | cons field params ih =>
    rw [List.mem_cons, not_or] at h
    rw [List.foldl_cons, ih h.2, lookup_copyField_ne h.1]

theorem lookup_copyParams_mem {params : List String} (hnodup : params.Nodup) (h : key ∈ params)
    (hnone : openai.lookup key = none) : (copyParams body params openai).lookup key = body.get key := by
  induction params generalizing openai with
  | nil => cases h
  | cons field params ih =>
    rw [List.nodup_cons] at hnodup
    change (copyParams body params (copyField body field field openai)).lookup key = _
    rcases List.mem_cons.1 h with rfl | hmem
    · -- the later ones leave it alone
      rw [lookup_copyParams_not_mem hnodup.1, lookup_copyField_self hnone]
    · have hne : key ≠ field := fun heq => hnodup.1 (heq ▸ hmem)
      exact ih hnodup.2 hmem (by rw [lookup_copyField_ne hne, hnone])

theorem sorted_copyParams {params : List String} (h : SortedAssoc.Sorted openai) :
    SortedAssoc.Sorted (copyParams body params openai) := by
  unfold copyParams
  induction params generalizing openai with
  | nil => exact h
  | cons field params ih => exact ih (sorted_copyField h)

end

/-- What the OpenAI request of `body` has under `key`, with these messages. -/
def openaiField (body : Json) (messages : List Json) (key : String) : Option Json :=
  if key = "model" then some (.string (requestModel body))
  else if key = "messages" then some (.array messages)
  else if key ∈ copiedParams then body.get key
  else if key = "stop" then body.get "stop_sequences"
  else none

/-- The translation is an OpenAI request and the original. -/
theorem translateRequest_fields (body : Json) :
    ∃ fields, translateRequest body = (.object fields, requestModel body) ∧ SortedAssoc.Sorted fields ∧
      ∀ key, fields.lookup key = if key = "__anthropic_request" then some body
        else openaiField body (systemMessages body ++ (inputMessages body).map translateMessage) key := by
  refine ⟨_, rfl, ?_, fun key => ?_⟩
  · refine SortedAssoc.sorted_insert _ _ (sorted_copyField (sorted_copyParams ?_))
    have hlt : "messages" < "model" := by decide
    exact List.pairwise_pair.2 hlt
  · split
    case isTrue horiginal =>
      rw [horiginal]
      exact SortedAssoc.lookup_insert_self _ _ _
    case isFalse horiginal =>
      rw [SortedAssoc.lookup_insert_ne horiginal]
      unfold openaiField
      split
      case isTrue hmodel =>
        subst hmodel
        rw [lookup_copyField_ne (by decide), lookup_copyParams_not_mem (by decide)]
        rfl
      case isFalse hmodel =>
        split
        case isTrue hmessages =>
          subst hmessages
          rw [lookup_copyField_ne (by decide), lookup_copyParams_not_mem (by decide)]
          rfl
        case isFalse hmessages =>
          have hnone : ([("messages", .array (systemMessages body ++ (inputMessages body).map translateMessage)),
              ("model", .string (requestModel body))] : Fields).lookup key = none := by
            rw [SortedAssoc.lookup_cons_ne hmessages, SortedAssoc.lookup_cons_ne hmodel]
            rfl
          split
          case isTrue hparam =>
            have hstop : key ≠ "stop" := by rintro rfl; exact absurd hparam (by decide)
            rw [lookup_copyField_ne hstop, lookup_copyParams_mem (by decide) hparam hnone]
          case isFalse hparam =>
            split
            case isTrue hstop =>
              subst hstop
              exact lookup_copyField_self (by rw [lookup_copyParams_not_mem hparam, hnone])
            case isFalse hstop => rw [lookup_copyField_ne hstop, lookup_copyParams_not_mem hparam, hnone]

/-- The translation has no session. -/
theorem sessionOf_translateRequest (body : Json) : sessionOf (translateRequest body).1 = none := by
  obtain ⟨fields, heq, _, hlookup⟩ := translateRequest_fields body
  have hnone := hlookup "x-sticky-session-id"
  rw [if_neg (by decide)] at hnone
  unfold sessionOf
  rw [heq]
  change (fields.lookup "x-sticky-session-id").bind _ = none
  rw [hnone]
  rfl

/-! ## The prompt -/

/-- A message with this role and content, where the input has them. -/
def SameMessage (msg out : Json) : Prop :=
  ∃ role content, out = chatMessage role content ∧ (∀ r, msg.get "role" = some (.string r) → role = r) ∧
    ∀ c, msg.get "content" = some c → content = c

/-- The system prompt first, then the input messages one by one. -/
structure Prompt (body : Json) (messages front rest : List Json) : Prop where
  split : messages = front ++ rest
  text : ∀ system, body.get "system" = some (.string system) → front = [chatMessage "system" (.string system)]
  absent : body.get "system" = none → front = []
  input : List.Forall₂ SameMessage (inputMessages body) rest

theorem translateMessage_same (msg : Json) : SameMessage msg (translateMessage msg) := by
  refine ⟨_, _, rfl, fun r hr => ?_, fun c hc => ?_⟩
  · rw [hr]
    rfl
  · rw [hc]
    rfl

theorem translated_prompt (body : Json) :
    Prompt body (systemMessages body ++ (inputMessages body).map translateMessage) (systemMessages body)
      ((inputMessages body).map translateMessage) where
  split := rfl
  text system h := by simp [systemMessages, h, Json.asStr]
  absent h := by simp [systemMessages, h]
  input := List.forall₂_map_right_iff.2 (List.forall₂_same.2 fun msg _ => translateMessage_same msg)

/-- **A translated request** has the model, the messages, the parameters that are present, the stop sequences and
the original, and nothing else. -/
theorem translateRequest_exact (body : Json) :
    ∃ fields messages front rest, translateRequest body = (.object fields, requestModel body) ∧
      SortedAssoc.Sorted fields ∧ Prompt body messages front rest ∧
      (∀ key, fields.lookup key = if key = "__anthropic_request" then some body else openaiField body messages key) ∧
      ∀ model, body.get "model" = some (.string model) → requestModel body = model := by
  obtain ⟨fields, heq, hsorted, hlookup⟩ := translateRequest_fields body
  refine ⟨fields, _, _, _, heq, hsorted, translated_prompt body, hlookup, fun model hmodel => ?_⟩
  unfold requestModel
  rw [hmodel]
  rfl

/-- A request of the Messages API. -/
structure MessagesRequest (body : Json) : Prop where
  model : ∃ model, body.get "model" = some (.string model)
  maxTokens : ∃ n, body.get "max_tokens" = some (.unsigned n)
  messages : ∃ messages, body.get "messages" = some (.array messages) ∧
    ∀ msg ∈ messages, (∃ role, msg.get "role" = some (.string role)) ∧ ∃ content, msg.get "content" = some content

def helloMessage : Json := chatMessage "user" (.string "Hello")

def helloRequest : Json :=
  .object [("max_tokens", .unsigned 100), ("messages", .array [helloMessage]), ("model", .string "claude-3-opus")]

/-- The same with a system prompt in blocks. -/
def blocksRequest : Json :=
  .object [("max_tokens", .unsigned 100), ("messages", .array [helloMessage]), ("model", .string "claude-3-opus"),
    ("system", .array [.object [("text", .string "You are helpful"), ("type", .string "text")]])]

/-- The original goes along under a name that no OpenAI request has, and a system prompt in blocks is not read. -/
theorem original_sent_along :
    (MessagesRequest helloRequest ∧
      ¬ ∃ messages, ∀ key, (translateRequest helloRequest).1.get key = openaiField helloRequest messages key) ∧
    MessagesRequest blocksRequest ∧
      (translateRequest blocksRequest).1.get "messages" = some (.array [helloMessage]) := by
  have hvalid : ∀ msg ∈ [helloMessage],
      (∃ role, msg.get "role" = some (.string role)) ∧ ∃ content, msg.get "content" = some content := by
    intro msg hmsg
    obtain rfl := List.mem_singleton.1 hmsg
    exact ⟨⟨"user", rfl⟩, .string "Hello", rfl⟩
  refine ⟨⟨⟨⟨_, rfl⟩, ⟨_, rfl⟩, _, rfl, hvalid⟩, ?_⟩, ⟨⟨_, rfl⟩, ⟨_, rfl⟩, _, rfl, hvalid⟩, rfl⟩
  rintro ⟨messages, h⟩
  have horiginal := h "__anthropic_request"
  have hsent : (translateRequest helloRequest).1.get "__anthropic_request" = some helloRequest := rfl
  rw [hsent] at horiginal
  cases horiginal

/-! ## The session -/

/-- The values that are written for this body. -/
inductive Handler.Writes (cfg : AppConfig) (path : String) (json : Json) : Json → Prop
  | translation (h : isAnthropicRequest path = true) : Writes cfg path json (translateRequest json).1
  | alias {value : Json} (h : (translated path json).1.setIndex "model"
      (.string (cfg.canonicalModelName (translated path json).2)) = .ok value) : Writes cfg path json value

/-- The value can be written, and its session is the same when it is read back. -/
def WritesSession (deps : Externs) (toVec : Json → Option (List UInt8)) (value : Json) : Prop :=
  ∃ text, toVec value = some text ∧ getSessionId deps text = sessionOf value

theorem sessionOf_setIndex {json value : Json} {model : String}
    (h : json.setIndex "model" (.string model) = .ok value) : sessionOf value = sessionOf json := by
  unfold sessionOf
  cases json with
  | object fields =>
    cases h
    change ((SortedAssoc.insert _ _ fields).lookup _).bind _ = _
    rw [SortedAssoc.lookup_insert_ne (by decide)]
    rfl
  | null =>
    cases h
    rfl
  | _ => cases h

/-- What is sent on has the session of the value after the translation. -/
theorem session_forwarded {deps : Externs} {toVec : Json → Option (List UInt8)} {cfg : AppConfig} {path : String}
    {bytes text : List UInt8} {json : Json} (hread : deps.fromLossy bytes = some json)
    (hwrites : ∀ value, Handler.Writes cfg path json value → WritesSession deps toVec value)
    (h : Handler.forwardedBody toVec cfg path bytes json = .ok text) :
    getSessionId deps text = sessionOf (Handler.translated path json).1 := by
  unfold Handler.forwardedBody at h
  dsimp only at h
  split at h
  · obtain ⟨value, hvalue, rfl⟩ : ∃ value, (Handler.translated path json).1.setIndex "model" (.string
        (cfg.canonicalModelName (Handler.translated path json).2)) = .ok value ∧ text = (toVec value).getD _ := by
      cases hv : (Handler.translated path json).1.setIndex "model" (.string
        (cfg.canonicalModelName (Handler.translated path json).2)) with
      | error p => rw [hv] at h; cases h
      | ok value => rw [hv] at h; exact ⟨value, rfl, (Except.ok.inj h).symm⟩
    obtain ⟨written, hwritten, hsession⟩ := hwrites value (.alias hvalue)
    rw [hwritten, Option.getD_some, hsession, sessionOf_setIndex hvalue]
  · obtain rfl := Except.ok.inj h
    unfold Handler.translated
    split
    · obtain ⟨written, hwritten, hsession⟩ := hwrites _ (.translation ‹_›)
      rw [hwritten, Option.getD_some, hsession]
    · unfold getSessionId
      rw [hread]
      rfl

/-- **The session that routing sees** is the client's, unless the request is an Anthropic one that has a session. -/
theorem session_kept_iff {deps : Externs} {toVec : Json → Option (List UInt8)} {cfg : AppConfig} {path : String}
    {bytes text : List UInt8} {json : Json} (hread : deps.fromLossy bytes = some json)
    (hwrites : ∀ value, Handler.Writes cfg path json value → WritesSession deps toVec value)
    (h : Handler.forwardedBody toVec cfg path bytes json = .ok text) :
    getSessionId deps text = getSessionId deps bytes ↔ isAnthropicRequest path = false ∨ sessionOf json = none := by
  have hsent := session_forwarded hread hwrites h
  have horiginal : getSessionId deps bytes = sessionOf json := by
    unfold getSessionId
    rw [hread]
    rfl
  rw [hsent, horiginal]
  unfold Handler.translated
  cases hpath : isAnthropicRequest path with
  | true =>
    rw [if_pos rfl, sessionOf_translateRequest]
    simp [eq_comm]
  | false => simp

def sessionRequest (model : String) : Json :=
  .object [("max_tokens", .unsigned 100), ("messages", .array [helloMessage]), ("model", .string model),
    ("x-sticky-session-id", .string "s")]

/-- The text of that request. -/
def sessionText (model : String) : List UInt8 :=
  asciiBytes "\x7b\"max_tokens\":100,\"messages\":[\x7b\"content\":\"Hello\",\"role\":\"user\"\x7d],\"model\":\"" ++
    asciiBytes model ++ asciiBytes "\",\"x-sticky-session-id\":\"s\"\x7d"

def translatedText (model : String) : List UInt8 :=
  asciiBytes "\x7b\"__anthropic_request\":" ++ sessionText "cheap" ++
    asciiBytes ",\"max_tokens\":100,\"messages\":[\x7b\"content\":\"Hello\",\"role\":\"user\"\x7d],\"model\":\"" ++
    asciiBytes model ++ asciiBytes "\"\x7d"

def translatedSession (model : String) : Json :=
  .object [("__anthropic_request", sessionRequest "cheap"), ("max_tokens", .unsigned 100),
    ("messages", .array [helloMessage]), ("model", .string model)]

def readSession (bytes : List UInt8) : Option Json :=
  if bytes = sessionText "cheap" then some (sessionRequest "cheap")
  else if bytes = sessionText "gpt-3.5" then some (sessionRequest "gpt-3.5")
  else if bytes = translatedText "gpt-3.5" then some (translatedSession "gpt-3.5")
  else none

/-- A parser of these texts. -/
def Externs.sessionTexts : Externs where
  fromSlice := readSession
  fromLossy := readSession
  hashToken := id

def writeSession (value : Json) : Option (List UInt8) :=
  some (if (value.get "__anthropic_request").isSome then translatedText (requestModel value)
    else sessionText (requestModel value))

/-- A replaced alias keeps the session. -/
theorem alias_keeps_session :
    getSessionId .sessionTexts (sessionText "gpt-3.5") = getSessionId .sessionTexts (sessionText "cheap") := by
  refine (@session_kept_iff .sessionTexts writeSession aliasConfig "/v1/chat/completions" _ _
    (sessionRequest "cheap") rfl ?_ rfl).2 (Or.inl (by decide))
  rintro value (hpath | hvalue)
  · cases hpath
  · cases hvalue
    exact ⟨sessionText "gpt-3.5", rfl, by decide⟩

theorem getSessionId_texts (bytes : List UInt8) :
    getSessionId .sessionTexts bytes = (readSession bytes).bind sessionOf := rfl

theorem read_translatedText :
    readSession (translatedText "gpt-3.5") = some (translatedSession "gpt-3.5") := by
  unfold readSession
  rw [if_neg (by decide +kernel), if_neg (by decide +kernel), if_pos rfl]

/-- The translation of an Anthropic request has lost it. -/
theorem translation_loses_session :
    isAnthropicRequest "/v1/messages" = true ∧ MessagesRequest (sessionRequest "cheap") ∧
      Externs.sessionTexts.fromSlice (sessionText "cheap") = some (sessionRequest "cheap") ∧
      Handler.forwardedBody writeSession aliasConfig "/v1/messages" (sessionText "cheap")
        (sessionRequest "cheap") = .ok (translatedText "gpt-3.5") ∧
      getSessionId .sessionTexts (sessionText "cheap") = some "s" ∧
      getSessionId .sessionTexts (translatedText "gpt-3.5") = none := by
  have htranslated : Handler.translated "/v1/messages" (sessionRequest "cheap")
      = (translatedSession "cheap", "cheap") := rfl
  have halias : (translatedSession "cheap").setIndex "model" (.string "gpt-3.5")
      = .ok (translatedSession "gpt-3.5") := rfl
  have hwritten : writeSession (translatedSession "gpt-3.5") = some (translatedText "gpt-3.5") := rfl
  have hforward : Handler.forwardedBody writeSession aliasConfig "/v1/messages" (sessionText "cheap")
      (sessionRequest "cheap") = .ok (translatedText "gpt-3.5") := by
    unfold Handler.forwardedBody
    rw [htranslated]
    dsimp only
    rw [if_pos (by decide), show aliasConfig.canonicalModelName "cheap" = "gpt-3.5" from rfl, halias]
    simp only [Except.map, hwritten, Option.getD_some]
  refine ⟨by decide, ⟨⟨_, rfl⟩, ⟨_, rfl⟩, _, rfl, ?_⟩, rfl, hforward, rfl, ?_⟩
  · intro msg hmsg
    obtain rfl := List.mem_singleton.1 hmsg
    exact ⟨⟨"user", rfl⟩, .string "Hello", rfl⟩
  · rw [getSessionId_texts, read_translatedText]
    rfl

end AiRouter
