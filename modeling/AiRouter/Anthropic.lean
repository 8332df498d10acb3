import AiRouter.Answers

/-
# Answers to Anthropic requests: `translate_response` (proxy/anthropic.rs:60-117) and who calls it

`proxy_handler` translates on one of its exits: a whole body that is JSON and settles the request. Streams,
other bodies and the last failure come out as the upstream sent them.

| here | there |
| --- | --- |
| `stopReason`         | the `match` on `finish_reason` (anthropic.rs:79-84) |
| `translateUsage`     | the `usage` of the message (anthropic.rs:108-113) |
| `translateResponse`  | `translate_response` (anthropic.rs:61); the UUID of the message is a parameter |
| `Handler.clientReply`| the exits of `proxy_handler` (handler.rs:601, 663-674, 765-775) for `is_anthropic` |
-/
namespace AiRouter

namespace Json

def asStr : Json → Option String
  | .string s => some s
  | _ => none

def asArray : Json → Option (List Json)
  | .array xs => some xs
  | _ => none

end Json

/-! ## The translation -/

/-- `choices[0]` -/
def firstChoice (value : Json) : Option Json := ((value.get "choices").bind (·.asArray)).bind (·.head?)

/-- `choices[0].message.content` -/
def contentOf (value : Json) : Option Json :=
  ((firstChoice value).bind (·.get "message")).bind (·.get "content")

/-- `choices[0].finish_reason`, `stop` where it is no string -/
def finishReasonOf (value : Json) : String :=
  (((firstChoice value).bind (·.get "finish_reason")).bind (·.asStr)).getD "stop"

def stopReason : String → String
  | "stop" => "end_turn"
  | "length" => "max_tokens"
  | "content_filter" => "content_filter"
  | _ => "end_turn"

def translateUsage (usage : Json) : Json :=
  .object [("input_tokens", (usage.get "prompt_tokens").getD (.unsigned 0)),
    ("output_tokens", (usage.get "completion_tokens").getD (.unsigned 0))]

/-- The message before its usage is put in. -/
def messageFields (uuid : String) (openaiResp : Json) : Fields :=
  [("content", .array [.object [("text", (contentOf openaiResp).getD .null), ("type", .string "text")]]),
    ("id", .string ("msg_" ++ uuid)),
    ("model", .string (((openaiResp.get "model").bind (·.asStr)).getD "unknown")),
    ("role", .string "assistant"),
    ("stop_reason", .string (stopReason (finishReasonOf openaiResp))),
    ("stop_sequence", .null),
    ("type", .string "message")]

def translateResponse (uuid : String) (openaiResp : Json) : Json :=
  match openaiResp.get "usage" with
  | some usage => .object (SortedAssoc.insert "usage" (translateUsage usage) (messageFields uuid openaiResp))
  | none => .object (messageFields uuid openaiResp)

/-! ## What the client gets -/

/-- A body: the serialization of a value, or chunks passed on. -/
inductive ClientBody where
  | json (value : Json)
  | raw (body : List Chunk)

/-- The value that the client reads out of it. -/
def ClientBody.value (deps : Externs) : ClientBody → Option Json
  | .json value => some value
  | .raw body => (readAll body).toOption.bind deps.fromSlice

structure ClientReply where
  status : Nat
  body : ClientBody

/-- The body that is put back, normalized where it is JSON, and then translated for an Anthropic request. -/
def Handler.rewrite (deps : Externs) (uuid : String) (req : ChatRequest) (bytes : List UInt8) : ClientBody :=
  match (deps.fromSlice bytes).map (normalizeOpenaiResponse · req.modelName) with
  | some json => .json (if req.isAnthropic then translateResponse uuid json else json)
  | none => .raw [.ok bytes]

/-- The reply to an upstream answer: only a whole body that settles the request is read. -/
def Handler.clientReply (deps : Externs) (uuid : String) (req : ChatRequest) : Response → Option ClientReply
  | .passedOn _ status body =>
    some { status := status, body := if req.isStream then .raw body else rewrite deps uuid req (toBytes body) }
  | .lastFailure _ status body => some { status := status, body := .raw body }
  | _ => none

/-! ## The Anthropic format -/

/-- The text of the message's first block. -/
def textOf (message : Json) : Option Json :=
  (((message.get "content").bind (·.asArray)).bind (·.head?)).bind (·.get "text")

/-- `error.message`, in both formats -/
def errorMessage (value : Json) : Option Json := (value.get "error").bind (·.get "message")

/-- The stop reasons of messages by the finish reasons of completions: those of the README's table, and a filtered
answer keeps its reason. -/
def statedStopReasons : List (String × String) :=
  [("stop", "end_turn"), ("length", "max_tokens"), ("content_filter", "content_filter")]

/-- Any other reason ends the turn. -/
def statedStopReason (finish : String) : String := (statedStopReasons.lookup finish).getD "end_turn"

/-- **The stop reasons** of the translation are those stated. -/
theorem stopReason_eq_stated (finish : String) : stopReason finish = statedStopReason finish := by
  unfold stopReason
  split
  · rfl
  · rfl
  · rfl
  · rename_i hstop hlength hfilter
    have hnone : statedStopReasons.lookup finish = none := by
      simp [statedStopReasons, List.lookup_cons, beq_eq_false_iff_ne.2 hstop, beq_eq_false_iff_ne.2 hlength,
        beq_eq_false_iff_ne.2 hfilter]
    rw [statedStopReason, hnone, Option.getD_none]

/-- A message with the text, the stop reason and the usage of a completion. -/
structure IsMessage (completion message : Json) : Prop where
  type : message.get "type" = some (.string "message")
  role : message.get "role" = some (.string "assistant")
  text : ∃ text, textOf message = some (.string text) ∧ ∀ t, contentOf completion = some (.string t) → text = t
  stop : message.get "stop_reason" = some (.string (statedStopReason (finishReasonOf completion)))
  input : ∀ n, (completion.get "usage").bind (·.get "prompt_tokens") = some n →
    (message.get "usage").bind (·.get "input_tokens") = some n
  output : ∀ n, (completion.get "usage").bind (·.get "completion_tokens") = some n →
    (message.get "usage").bind (·.get "output_tokens") = some n

/-- An error with the message of the upstream's. -/
structure IsError (upstream error : Json) : Prop where
  type : error.get "type" = some (.string "error")
  message : ∃ text, errorMessage error = some (.string text) ∧ ∀ t, errorMessage upstream = some (.string t) → text = t

/-- The payloads of an event stream. -/
def sseData (deps : Externs) (body : List Chunk) : List Json :=
  (lines (okBytes body).flatten).filterMap fun line => (stripData line).bind deps.fromLossy

def eventType (event : Json) : Option String := (event.get "type").bind (·.asStr)

/-- The piece of text in an event of either stream. -/
def chunkDelta (event : Json) : Option Json := ((firstChoice event).bind (·.get "delta")).bind (·.get "content")

def blockDelta (event : Json) : Option Json :=
  if eventType event = some "content_block_delta" then (event.get "delta").bind (·.get "text") else none

def streamText (delta : Json → Option Json) (events : List Json) : String :=
  String.join (events.filterMap fun event => (delta event).bind (·.asStr))

def chunkFinish (event : Json) : Option String := ((firstChoice event).bind (·.get "finish_reason")).bind (·.asStr)

/-- An Anthropic event stream with the text, the stop reason and the usage of a stream of completions. -/
structure IsMessageStream (completions events : List Json) : Prop where
  start : events.head?.bind eventType = some "message_start"
  stop : events.getLast?.bind eventType = some "message_stop"
  text : streamText blockDelta events = streamText chunkDelta completions
  stopReason : ∀ finish ∈ (completions.filterMap chunkFinish).getLast?,
    ∃ event ∈ events, eventType event = some "message_delta" ∧
      (event.get "delta").bind (·.get "stop_reason") = some (.string (statedStopReason finish))
  output : ∀ usage ∈ (completions.filterMap (·.get "usage")).getLast?, ∀ n, usage.get "completion_tokens" = some n →
    ∃ event ∈ events, eventType event = some "message_delta" ∧
      (event.get "usage").bind (·.get "output_tokens") = some n

/-- The reply has the upstream's status and is the Anthropic form of its content. -/
structure Conveys (deps : Externs) (isStream : Bool) (status : Nat) (body : List Chunk) (bytes : List UInt8)
    (reply : ClientReply) : Prop where
  status_eq : reply.status = status
  stream : isStream = true ∧ isSuccess status = true →
    ∃ chunks, reply.body = .raw chunks ∧ IsMessageStream (sseData deps body) (sseData deps chunks)
  whole : ¬ (isStream = true ∧ isSuccess status = true) → ∀ json, deps.fromSlice bytes = some json →
    ∃ value, reply.body.value deps = some value ∧ if status < 400 then IsMessage json value else IsError json value

/-- When a JSON body comes out in the Anthropic format: one that is passed on as it came must be in it already; one
that is translated must fit in 1 MiB, be no error and have a text. -/
def Handler.TranslatableJson (app : AppState) (isStream : Bool) (status : Nat) (bytes : List UInt8) (json : Json) :
    Prop :=
  if status < 400 then
    if isStream then IsMessage json json
    else bytes.length ≤ mebibyte ∧ ∃ text, contentOf json = some (.string text)
  else (isStream = true ∨ ¬ SettlesRequest app status) ∧ IsError json json

/-- When an answer does; an event stream is passed on as it came. -/
structure Handler.Translatable (deps : Externs) (app : AppState) (isStream : Bool) (status : Nat)
    (body : List Chunk) (bytes : List UInt8) : Prop where
  stream : isStream = true ∧ isSuccess status = true → IsMessageStream (sseData deps body) (sseData deps body)
  whole : ¬ (isStream = true ∧ isSuccess status = true) → ∀ json, deps.fromSlice bytes = some json →
    TranslatableJson app isStream status bytes json

/-! ## What normalization leaves -/

theorem normalizeMessage_content (msg : Json) : (normalizeMessage msg).get "content" = msg.get "content" := by
  cases msg with
  | object fields => exact SortedAssoc.lookup_erase_ne (by decide) fields
  | _ => rfl

theorem normalizeChoice_message (choice : Json) :
    (normalizeChoice choice).get "message" = (choice.get "message").map normalizeMessage := by
  cases choice with
  | object fields =>
    unfold normalizeChoice Json.mapObject Json.get
    dsimp only
    rw [SortedAssoc.lookup_adjust_self, lookup_removeAll_not_mem (by decide)]
  | _ => rfl

theorem normalizeChoice_finish (choice : Json) :
    (normalizeChoice choice).get "finish_reason" = choice.get "finish_reason" := by
  cases choice with
  | object fields =>
    unfold normalizeChoice Json.mapObject Json.get
    dsimp only
    rw [SortedAssoc.lookup_adjust_ne (by decide), lookup_removeAll_not_mem (by decide)]
  | _ => rfl

section
variable (value : Json) (model : String)

theorem normalize_choices :
    (normalizeOpenaiResponse value model).get "choices" = (value.get "choices").map (Json.mapArray normalizeChoice) := by
  cases value with
  | object fields =>
    unfold normalizeOpenaiResponse Json.mapObject Json.get
    dsimp only
    rw [SortedAssoc.lookup_adjust_self, lookup_removeAll_not_mem (by decide), SortedAssoc.lookup_insert_ne (by decide)]
  | _ => rfl

theorem normalize_firstChoice :
    firstChoice (normalizeOpenaiResponse value model) = (firstChoice value).map normalizeChoice := by
  unfold firstChoice
  rw [normalize_choices]
  cases value.get "choices" with
  | none => rfl
  | some choices =>
    cases choices with
    | array xs => cases xs <;> rfl
    | _ => rfl

theorem normalize_content : contentOf (normalizeOpenaiResponse value model) = contentOf value := by
  unfold contentOf
  rw [normalize_firstChoice]
  cases firstChoice value with
  | none => rfl
  | some choice =>
    simp only [Option.map_some, Option.bind_some, normalizeChoice_message]
    cases choice.get "message" with
    | none => rfl
    | some msg => exact normalizeMessage_content msg

theorem normalize_finishReason : finishReasonOf (normalizeOpenaiResponse value model) = finishReasonOf value := by
  unfold finishReasonOf
  rw [normalize_firstChoice]
  cases firstChoice value with
  | none => rfl
  | some choice => simp only [Option.map_some, Option.bind_some, normalizeChoice_finish]

end

/-! ## What the translation is -/

section
variable (uuid : String) (resp : Json)

/-- The usage is put beside the other fields, which are there whatever the body. -/
theorem translate_get {key : String} (h : key ≠ "usage") {value : Json}
    (hfield : (messageFields uuid resp).lookup key = some value) :
    (translateResponse uuid resp).get key = some value := by
  unfold translateResponse
  cases resp.get "usage" with
  | none => exact hfield
  | some usage => exact (SortedAssoc.lookup_insert_ne h _ _).trans hfield

theorem translate_type : (translateResponse uuid resp).get "type" = some (.string "message") :=
  translate_get uuid resp (by decide) rfl

theorem translate_role : (translateResponse uuid resp).get "role" = some (.string "assistant") :=
  translate_get uuid resp (by decide) rfl

theorem translate_stop :
    (translateResponse uuid resp).get "stop_reason" = some (.string (stopReason (finishReasonOf resp))) :=
  translate_get uuid resp (by decide) rfl

theorem translate_text : textOf (translateResponse uuid resp) = some ((contentOf resp).getD .null) := by
  unfold textOf
  rw [translate_get uuid resp (by decide) rfl]
  rfl

theorem translate_usage {usage : Json} (h : resp.get "usage" = some usage) :
    (translateResponse uuid resp).get "usage" = some (translateUsage usage) := by
  unfold translateResponse
  rw [h]
  exact SortedAssoc.lookup_insert_self _ _ _

theorem translateUsage_input (usage : Json) :
    (translateUsage usage).get "input_tokens" = some ((usage.get "prompt_tokens").getD (.unsigned 0)) := rfl

theorem translateUsage_output (usage : Json) :
    (translateUsage usage).get "output_tokens" = some ((usage.get "completion_tokens").getD (.unsigned 0)) := rfl

/-- A message is never an error. -/
theorem translate_no_error (json : Json) : ¬ IsError json (translateResponse uuid resp) := by
  intro h
  have htype := (translate_type uuid resp).symm.trans h.type
  exact absurd htype (by simp)

end

/-- **The translation of a whole body**, after its normalization. -/
theorem isMessage_translate_iff (uuid model : String) (json : Json) :
    IsMessage json (translateResponse uuid (normalizeOpenaiResponse json model)) ↔
      ∃ text, contentOf json = some (.string text) := by
  have htext := translate_text uuid (normalizeOpenaiResponse json model)
  rw [normalize_content] at htext
  have husage : (normalizeOpenaiResponse json model).get "usage" = json.get "usage" :=
    normalize_other json model (by decide)
  constructor
  · intro h
    obtain ⟨text, hmessage, _⟩ := h.text
    rw [htext] at hmessage
    cases hcontent : contentOf json with
    | none =>
      rw [hcontent] at hmessage
      cases hmessage
    | some content =>
      rw [hcontent] at hmessage
      exact ⟨text, hmessage⟩
  · rintro ⟨text, hcontent⟩
    rw [hcontent] at htext
    refine ⟨translate_type _ _, translate_role _ _, ⟨text, htext, fun t ht => ?_⟩, ?_, fun n hn => ?_, fun n hn => ?_⟩
    · rw [hcontent] at ht
      exact Json.string.inj (Option.some.inj ht)
    · rw [translate_stop, normalize_finishReason, stopReason_eq_stated]
    · obtain ⟨usage, hget, htokens⟩ := Option.bind_eq_some_iff.1 hn
      rw [translate_usage uuid _ (husage.trans hget), Option.bind_some, translateUsage_input, htokens]
      rfl
    · obtain ⟨usage, hget, htokens⟩ := Option.bind_eq_some_iff.1 hn
      rw [translate_usage uuid _ (husage.trans hget), Option.bind_some, translateUsage_output, htokens]
      rfl

/-! ## The exits -/

section
variable {deps : Externs} {uuid : String} {app : AppState} {req : ChatRequest} {ep : SelectedEndpoint} {status : Nat}
  {body : List Chunk} {bytes : List UInt8}

theorem value_raw (bytes : List UInt8) : (ClientBody.raw [.ok bytes]).value deps = deps.fromSlice bytes := by
  simp [ClientBody.value, Except.toOption]

theorem given_whole (h : ¬ (req.isStream = true ∧ isSuccess status = true)) (body : List Chunk) (bytes : List UInt8) :
    given req.isStream status body bytes = [.ok bytes] := if_neg h

/-- A stream comes out as it was given, whichever exit it takes. -/
theorem clientReply_stream (hstream : req.isStream = true) (app : AppState) (ep : SelectedEndpoint) (status : Nat)
    (body : List Chunk) (bytes : List UInt8) :
    Handler.clientReply deps uuid req (responseTo (SettlesRequest app status) req.isStream ep status body bytes)
      = some { status := status, body := .raw (given req.isStream status body bytes) } := by
  unfold responseTo
  by_cases hsettles : SettlesRequest app status
  · simp [hsettles, Handler.clientReply, hstream]
  · simp [hsettles, Handler.clientReply]

/-- A whole body that does not settle the request comes out as it is. -/
theorem clientReply_kept (hwhole : req.isStream = false) (hsettles : ¬ SettlesRequest app status) :
    Handler.clientReply deps uuid req (responseTo (SettlesRequest app status) req.isStream ep status body bytes)
      = some { status := status, body := .raw [.ok bytes] } := by
  unfold responseTo
  rw [if_neg hsettles, given_whole (by simp [hwhole])]
  rfl

/-- One that settles it is rewritten. -/
theorem clientReply_settled (hwhole : req.isStream = false) (hsettles : SettlesRequest app status) :
    Handler.clientReply deps uuid req (responseTo (SettlesRequest app status) req.isStream ep status body bytes)
      = some { status := status, body := Handler.rewrite deps uuid req (toBytes [.ok bytes]) } := by
  unfold responseTo
  rw [if_pos hsettles, given_whole (by simp [hwhole])]
  simp [Handler.clientReply, hwhole]

/-- What is read out of the rewritten body: nothing of a body over 1 MiB. -/
theorem rewrite_value (hempty : deps.fromSlice [] = none) (hreq : req.isAnthropic = true) {json : Json}
    (hjson : deps.fromSlice bytes = some json) :
    (Handler.rewrite deps uuid req (toBytes [.ok bytes])).value deps =
      if bytes.length ≤ mebibyte then some (translateResponse uuid (normalizeOpenaiResponse json req.modelName))
      else none := by
  unfold Handler.rewrite
  by_cases hlen : bytes.length ≤ mebibyte
  · rw [toBytes_short (readAll_singleton bytes) hlen, hjson, if_pos hlen]
    simp [ClientBody.value, hreq]
  · rw [toBytes_long (readAll_singleton bytes) (by omega), hempty, if_neg hlen]
    exact (value_raw []).trans hempty

/-- The two cases of a reply. -/
theorem conveys_iff {isStream : Bool} {replyBody : ClientBody}
    (hstream : isStream = true ∧ isSuccess status = true → replyBody = .raw body)
    (hwhole : ¬ (isStream = true ∧ isSuccess status = true) → ∀ json, deps.fromSlice bytes = some json →
      ((∃ value, replyBody.value deps = some value ∧ if status < 400 then IsMessage json value else IsError json value) ↔
        Handler.TranslatableJson app isStream status bytes json)) :
    Conveys deps isStream status body bytes { status := status, body := replyBody } ↔
      Handler.Translatable deps app isStream status body bytes := by
  constructor
  · intro h
    refine ⟨fun hs => ?_, fun hs json hjson => (hwhole hs json hjson).1 (h.whole hs json hjson)⟩
    obtain ⟨chunks, hchunks, hmessage⟩ := h.stream hs
    obtain rfl := ClientBody.raw.inj ((hstream hs).symm.trans hchunks)
    exact hmessage
  · intro h
    exact ⟨rfl, fun hs => ⟨body, hstream hs, h.stream hs⟩,
      fun hs json hjson => (hwhole hs json hjson).2 (h.whole hs json hjson)⟩

/-- A body that comes out as it came is its own form. -/
theorem raw_value_iff {isStream : Bool} {json : Json} (hexit : isStream = true ∨ ¬ SettlesRequest app status)
    (hjson : deps.fromSlice bytes = some json) :
    (∃ value, (ClientBody.raw [.ok bytes]).value deps = some value ∧
        if status < 400 then IsMessage json value else IsError json value) ↔
      Handler.TranslatableJson app isStream status bytes json := by
  rw [value_raw, hjson]
  simp only [Option.some.injEq, exists_eq_left']
  unfold Handler.TranslatableJson
  by_cases hstatus : status < 400
  · have hstream : isStream = true := hexit.resolve_right fun h => h (Or.inl hstatus)
    simp [hstatus, hstream]
  · simp [hstatus, hexit]

/-- A body that is rewritten. -/
theorem rewrite_value_iff (hempty : deps.fromSlice [] = none) (hreq : req.isAnthropic = true)
    (hsettles : SettlesRequest app status) {json : Json} (hjson : deps.fromSlice bytes = some json) :
    (∃ value, (Handler.rewrite deps uuid req (toBytes [.ok bytes])).value deps = some value ∧
        if status < 400 then IsMessage json value else IsError json value) ↔
      Handler.TranslatableJson app false status bytes json := by
  rw [rewrite_value hempty hreq hjson]
  unfold Handler.TranslatableJson
  by_cases hstatus : status < 400
  · by_cases hlen : bytes.length ≤ mebibyte
    · simp [hstatus, hlen, isMessage_translate_iff]
    · simp [hstatus, hlen]
  · by_cases hlen : bytes.length ≤ mebibyte
    · simp [hstatus, hlen, hsettles, translate_no_error]
    · simp [hstatus, hlen, hsettles]

end

/-- **What an Anthropic client gets.** For every answered run: the reply carries the upstream's content in the
Anthropic format exactly when the answer is translatable. -/
theorem clientReply_conveys_iff {deps : Externs} {env : Env} {fuel : Nat} {app : AppState} {req : ChatRequest}
    {ep : SelectedEndpoint} {status : Nat} {body : List Chunk} {bytes : List UInt8} {r : Response} (uuid : String)
    (hempty : deps.fromSlice [] = none) (henv : env.KeepsPatterns) (hreq : req.isAnthropic = true)
    (h : AnsweredWith (proxyHandler deps env fuel app req) ep status body bytes r) :
    (∃ reply, Handler.clientReply deps uuid req r = some reply ∧
        Conveys deps req.isStream status body bytes reply) ↔
      Handler.Translatable deps app req.isStream status body bytes := by
  rw [proxyHandler_answers henv h]
  cases hstream : req.isStream with
  | true =>
    rw [← hstream, clientReply_stream hstream]
    simp only [Option.some.injEq, exists_eq_left']
    refine conveys_iff (fun hs => congrArg ClientBody.raw (if_pos hs)) (fun hs json hjson => ?_)
    rw [given_whole hs]
    exact raw_value_iff (Or.inl hstream) hjson
  | false =>
    have hno : ¬ (false = true ∧ isSuccess status = true) := fun hs => Bool.noConfusion hs.1
    rw [← hstream]
    by_cases hsettles : SettlesRequest app status
    · rw [clientReply_settled hstream hsettles, hstream]
      simp only [Option.some.injEq, exists_eq_left']
      exact conveys_iff (fun hs => absurd hs hno) (fun _ json hjson => rewrite_value_iff hempty hreq hsettles hjson)
    · rw [clientReply_kept hstream hsettles, hstream]
      simp only [Option.some.injEq, exists_eq_left']
      exact conveys_iff (fun hs => absurd hs hno) (fun _ json hjson => raw_value_iff (Or.inr hsettles) hjson)

/-! ## An answer and an error -/

/-- `{"choices":[{"message":{"content":"Hello!"},"finish_reason":"length"}]}` -/
def helloJson : Json :=
  .object [("choices", .array [.object [("finish_reason", .string "length"),
    ("message", .object [("content", .string "Hello!")])]])]

/-- `{"error":{"message":"context is too long"}}` -/
def tooLongJson : Json := .object [("error", .object [("message", .string "context is too long")])]

/-- A parser to which one byte stands for each. -/
def Externs.twoTexts : Externs where
  fromSlice
    | [104] => some helloJson
    | [101] => some tooLongJson
    | _ => none
  fromLossy _ := none
  hashToken := id

def anthropicChat : ChatRequest := { limitedChat with isAnthropic := true }

def statusEnv (status : Nat) (bytes : List UInt8) : Env :=
  .quiet fun _ => { answeringTurn with reply := .response status [.ok bytes] }

/-- A completion arrives as a message. -/
theorem completion_is_conveyed :
    ∃ reply, Handler.clientReply .twoTexts "1" anthropicChat (.passedOn limitedSelected 200 [.ok [104]]) = some reply ∧
      Conveys .twoTexts false 200 [.ok [104]] [104] reply := by
  have hanswered : AnsweredWith (proxyHandler .twoTexts (statusEnv 200 [104]) 1 limitedApp anthropicChat)
      limitedSelected 200 [.ok [104]] [104] (.passedOn limitedSelected 200 [.ok [104]]) := ⟨rfl, rfl, rfl⟩
  refine (clientReply_conveys_iff "1" rfl ⟨fun _ => rfl, fun _ => rfl, fun _ => ⟨fun _ => rfl, fun _ => rfl⟩⟩ rfl
    hanswered).2 ⟨fun h => ?_, fun _ json hjson => ?_⟩
  · cases h.1
  · cases hjson
    exact ⟨by decide, "Hello!", rfl⟩

/-- A message without a text. -/
def nullMessage : Json :=
  .object [("content", .array [.object [("text", .null), ("type", .string "text")]]), ("id", .string "msg_1"),
    ("model", .string "gpt-4"), ("role", .string "assistant"), ("stop_reason", .string "end_turn"),
    ("stop_sequence", .null), ("type", .string "message")]

/-- An upstream's 400 arrives as that message. -/
theorem error_becomes_a_message :
    AnsweredWith (proxyHandler .twoTexts (statusEnv 400 [101]) 1 limitedApp anthropicChat) limitedSelected 400
        [.ok [101]] [101] (.passedOn limitedSelected 400 [.ok [101]]) ∧
      Handler.clientReply .twoTexts "1" anthropicChat (.passedOn limitedSelected 400 [.ok [101]])
        = some { status := 400, body := .json nullMessage } ∧
      textOf nullMessage = some .null ∧
      ¬ Conveys .twoTexts false 400 [.ok [101]] [101] { status := 400, body := .json nullMessage } := by
  have htype : nullMessage.get "type" = some (.string "message") := rfl
  refine ⟨⟨rfl, rfl, rfl⟩, rfl, rfl, fun h => ?_⟩
  obtain ⟨value, hvalue, hformat⟩ := h.whole (by simp) tooLongJson rfl
  cases hvalue
  rw [if_neg (by omega)] at hformat
  exact absurd (htype.symm.trans hformat.type) (by simp)

end AiRouter
