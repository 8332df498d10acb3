import AiRouter.RejectedRequests

/-
# The streaming tasks of the two handlers

Each reads the upstream body item by item, forwards every item to the client and charges the usage when the
body has ended. They are written alike but for the forwarding: `proxy_generic` maps a read error to a panic.

| here | there |
| --- | --- |
| `StreamTask.scan`    | the `match &chunk` of both loops (handler.rs:448-475, 1318-1345) |
| `StreamTask.send`    | `let _ = tx.send(..).await` (lines 476, 1346) |
| `Handler.streamTask` | handler.rs:442-493 |
| `Generic.streamTask` | handler.rs:1312-1360 |
-/
namespace AiRouter

/-! ## The two tasks -/

/-- An item of the upstream body, and whether the client is still there when it comes. -/
structure StreamItem where
  chunk : Chunk
  clientReads : Bool

structure StreamTask where
  buffer : List UInt8
  usage : Usage
  forwarded : List Chunk

namespace StreamTask

def start : StreamTask where
  buffer := []
  usage := .zero
  forwarded := []

def scan (deps : Externs) (t : StreamTask) : Chunk → StreamTask
  | .ok bytes =>
    let scanned := scanChunk deps (t.buffer, t.usage) bytes
    { t with buffer := scanned.1, usage := scanned.2 }
  | .error _ => t

/-- The error of a closed channel is dropped. -/
def send (t : StreamTask) (i : StreamItem) : StreamTask :=
  if i.clientReads then { t with forwarded := t.forwarded ++ [i.chunk] } else t

end StreamTask

/-- What a task has captured of its request. -/
structure StreamCall where
  team : String
  tokenKey : String
  epKey : String
  teamTpm : Nat
  tokenTpm : Nat
  endpointLimitsTpm : Nat

def StreamCall.charge (c : StreamCall) (s : Charged) (usage : Usage) (now : Nat) : Charged :=
  chargeUsage s c.team c.tokenKey c.epKey c.teamTpm c.tokenTpm c.endpointLimitsTpm usage.total now

def Handler.streamStep (deps : Externs) (t : StreamTask) (i : StreamItem) : StreamTask := (t.scan deps i.chunk).send i

def Handler.streamLoop (deps : Externs) (items : List StreamItem) : StreamTask :=
  items.foldl (Handler.streamStep deps) .start

/-- The budgets after the task; `none` where it ends before its accounting. -/
def Handler.streamTask (deps : Externs) (c : StreamCall) (items : List StreamItem) (s : Charged) (now : Nat) :
    Option Charged :=
  some (c.charge s (Handler.streamLoop deps items).usage now)

/-- The argument of `send` is evaluated before the channel is looked at: an error panics. -/
def Generic.streamStep (deps : Externs) (t : StreamTask) (i : StreamItem) : Option StreamTask :=
  let t := t.scan deps i.chunk
  match i.chunk with
  | .ok _ => some (t.send i)
  | .error _ => none

def Generic.streamLoop (deps : Externs) (items : List StreamItem) : Option StreamTask :=
  items.foldlM (Generic.streamStep deps) .start

def Generic.streamTask (deps : Externs) (c : StreamCall) (items : List StreamItem) (s : Charged) (now : Nat) :
    Option Charged :=
  (Generic.streamLoop deps items).map fun t => c.charge s t.usage now

/-- No read error. -/
def Unbroken (items : List StreamItem) : Prop := ∀ i ∈ items, i.chunk.isOk = true

/-- All arrive, and the client reads them all. -/
def delivered (chunks : List (List UInt8)) : List StreamItem :=
  chunks.map fun bytes => { chunk := .ok bytes, clientReads := true }

/-! ## What the loops come to -/

section
variable (deps : Externs)

theorem StreamTask.send_scanned (t : StreamTask) (i : StreamItem) :
    (t.send i).buffer = t.buffer ∧ (t.send i).usage = t.usage := by
  unfold send
  split <;> exact ⟨rfl, rfl⟩

theorem StreamTask.scan_scanned (t : StreamTask) (chunk : Chunk) :
    ((t.scan deps chunk).buffer, (t.scan deps chunk).usage)
      = (okBytes [chunk]).foldl (scanChunk deps) (t.buffer, t.usage) := by
  cases chunk <;> rfl

theorem handlerLoop_scanned (items : List StreamItem) : ∀ t : StreamTask,
    ((items.foldl (Handler.streamStep deps) t).buffer, (items.foldl (Handler.streamStep deps) t).usage)
      = (okBytes (items.map (·.chunk))).foldl (scanChunk deps) (t.buffer, t.usage) := by
  induction items with
  | nil => exact fun _ => rfl
  | cons i items ih =>
    intro t
    obtain ⟨hbuffer, husage⟩ := (t.scan deps i.chunk).send_scanned i
    have hsplit : okBytes ((i :: items).map (·.chunk)) = okBytes [i.chunk] ++ okBytes (items.map (·.chunk)) :=
      List.filterMap_append (l := [i.chunk])
    rw [List.foldl_cons, ih, hsplit, List.foldl_append, ← t.scan_scanned deps i.chunk]
    unfold Handler.streamStep
    rw [hbuffer, husage]

/-- The loop of `proxy_handler` ends with the usage of the chunks that arrived. -/
theorem handlerLoop_usage (items : List StreamItem) :
    (Handler.streamLoop deps items).usage = Handler.streamUsage deps (items.map (·.chunk)) :=
  congrArg Prod.snd (handlerLoop_scanned deps items .start)

theorem StreamTask.send_forwarded (t : StreamTask) (i : StreamItem) :
    (t.send i).forwarded = t.forwarded ++ ([i].filter (·.clientReads)).map (·.chunk) := by
  unfold send
  cases h : i.clientReads <;> simp [h]

theorem handlerLoop_forwarded (items : List StreamItem) : ∀ t : StreamTask,
    (items.foldl (Handler.streamStep deps) t).forwarded
      = t.forwarded ++ (items.filter (·.clientReads)).map (·.chunk) := by
  induction items with
  | nil => simp
  | cons i items ih =>
    intro t
    have hscan : (t.scan deps i.chunk).forwarded = t.forwarded := by
      unfold StreamTask.scan
      split <;> rfl
    have hsplit : (i :: items).filter (·.clientReads) = [i].filter (·.clientReads) ++ items.filter (·.clientReads) :=
      List.filter_append [i] items
    rw [List.foldl_cons, ih, hsplit, List.map_append, ← List.append_assoc]
    unfold Handler.streamStep
    rw [StreamTask.send_forwarded, hscan]

/-- **Without read errors the two loops are the same.** -/
theorem genericLoop_of_unbroken (items : List StreamItem) : ∀ t : StreamTask, Unbroken items →
    items.foldlM (Generic.streamStep deps) t = some (items.foldl (Handler.streamStep deps) t) := by
  induction items with
  | nil => exact fun _ _ => rfl
  | cons i items ih =>
    intro t h
    obtain ⟨hfirst, hrest⟩ := List.forall_mem_cons.1 h
    have hstep : Generic.streamStep deps t i = some (Handler.streamStep deps t i) := by
      unfold Generic.streamStep Handler.streamStep
      cases hchunk : i.chunk with
      | ok bytes => rfl
      | error e =>
        rw [hchunk] at hfirst
        cases hfirst
    rw [List.foldlM_cons, hstep]
    exact ih _ hrest

/-- A read error ends the task of `proxy_generic`, wherever it comes. -/
theorem genericLoop_of_error (items : List StreamItem) : ∀ t : StreamTask, ¬ Unbroken items →
    items.foldlM (Generic.streamStep deps) t = none := by
  induction items with
  | nil => exact fun _ h => absurd (by simp [Unbroken]) h
  | cons i items ih =>
    intro t h
    rw [List.foldlM_cons]
    cases hchunk : i.chunk with
    | ok bytes =>
      have hstep : Generic.streamStep deps t i = some ((t.scan deps i.chunk).send i) := by
        unfold Generic.streamStep
        rw [hchunk]
      rw [hstep]
      refine ih _ fun hrest => h (List.forall_mem_cons.2 ⟨?_, hrest⟩)
      rw [hchunk]
      rfl
    | error e =>
      have hstep : Generic.streamStep deps t i = none := by
        unfold Generic.streamStep
        rw [hchunk]
      rw [hstep]
      rfl

theorem genericLoop_eq (items : List StreamItem) (h : Unbroken items) :
    Generic.streamLoop deps items = some (Handler.streamLoop deps items) := genericLoop_of_unbroken deps items .start h

end

/-! ## Cutting the body -/

theorem okBytes_ok (chunks : List (List UInt8)) : okBytes (chunks.map .ok) = chunks := by
  unfold okBytes
  induction chunks with
  | nil => rfl
  | cons bytes chunks ih => exact congrArg (bytes :: ·) ih

theorem delivered_chunks (chunks : List (List UInt8)) : (delivered chunks).map (·.chunk) = chunks.map .ok := by
  simp [delivered]

theorem delivered_unbroken (chunks : List (List UInt8)) : Unbroken (delivered chunks) := by
  simp [Unbroken, delivered, Except.isOk, Except.toBool]

/-- What a loop makes of a body that is delivered whole: the usage its events state, and the bytes again. -/
theorem delivered_loop (deps : Externs) {body : List UInt8} {chunks : List (List UInt8)} (h : chunks.flatten = body) :
    (Handler.streamLoop deps (delivered chunks)).usage = (scanChunk deps ([], .zero) body).2 ∧
      (okBytes (Handler.streamLoop deps (delivered chunks)).forwarded).flatten = body := by
  constructor
  · rw [handlerLoop_usage, streamUsage_stated, delivered_chunks]
    unfold statedUsage
    rw [if_pos rfl, okBytes_ok, h]
  · have hall : (delivered chunks).filter (·.clientReads) = delivered chunks :=
      List.filter_eq_self.2 fun i hi => by
        obtain ⟨bytes, _, rfl⟩ := List.mem_map.1 hi
        rfl
    unfold Handler.streamLoop
    rw [handlerLoop_forwarded, hall, delivered_chunks]
    exact (congrArg List.flatten (okBytes_ok chunks)).trans h

/-- **However the body is cut**, both loops end with the same usage, and what they forward is the body. -/
theorem cuts_do_not_matter (deps : Externs) {body : List UInt8} {chunks chunks' : List (List UInt8)}
    (h : chunks.flatten = body) (h' : chunks'.flatten = body) :
    (Handler.streamLoop deps (delivered chunks)).usage = (Handler.streamLoop deps (delivered chunks')).usage ∧
      (okBytes (Handler.streamLoop deps (delivered chunks)).forwarded).flatten = body ∧
      ∃ t t', Generic.streamLoop deps (delivered chunks) = some t ∧
        Generic.streamLoop deps (delivered chunks') = some t' ∧ t.usage = t'.usage ∧
        (okBytes t.forwarded).flatten = body := by
  obtain ⟨husage, hforwarded⟩ := delivered_loop deps h
  have husage' := husage.trans (delivered_loop deps h').1.symm
  exact ⟨husage', hforwarded, _, _, genericLoop_eq deps _ (delivered_unbroken chunks),
    genericLoop_eq deps _ (delivered_unbroken chunks'), husage', hforwarded⟩

/-- An event with an `é` in it, cut inside the `é` and between the two line feeds. -/
theorem cut_inside_character :
    let body : List UInt8 := [100, 97, 116, 97, 58, 32, 34, 195, 169, 34, 10, 10]
    let chunks : List (List UInt8) := [[100, 97, 116, 97, 58, 32, 34, 195], [], [169, 34, 10], [10]]
    (Handler.streamLoop .reading (delivered chunks)).usage = (Handler.streamLoop .reading (delivered [body])).usage ∧
      (okBytes (Handler.streamLoop .reading (delivered chunks)).forwarded).flatten = body ∧
      ∃ t t', Generic.streamLoop .reading (delivered chunks) = some t ∧
        Generic.streamLoop .reading (delivered [body]) = some t' ∧ t.usage = t'.usage ∧
        (okBytes t.forwarded).flatten = body :=
  cuts_do_not_matter .reading rfl rfl

/-! ## Read errors -/

/-- Both tasks reach their accounting, and charge what the chunks that arrived state. -/
structure ChargeAlike (deps : Externs) (c : StreamCall) (items : List StreamItem) (s : Charged) (now : Nat) : Prop where
  handler : Handler.streamTask deps c items s now
    = some (c.charge s (statedUsage deps true (items.map (·.chunk))) now)
  generic : Generic.streamTask deps c items s now = Handler.streamTask deps c items s now

/-- **The two tasks charge alike exactly if there is no read error**, whether or not the client is still there. -/
theorem charge_alike_iff (deps : Externs) (c : StreamCall) (items : List StreamItem) (s : Charged) (now : Nat) :
    ChargeAlike deps c items s now ↔ Unbroken items := by
  constructor
  · intro h
    by_contra herror
    have hgeneric := h.generic
    unfold Generic.streamTask Generic.streamLoop at hgeneric
    rw [genericLoop_of_error deps items .start herror] at hgeneric
    cases hgeneric
  · intro h
    constructor
    · unfold Handler.streamTask
      rw [handlerLoop_usage, streamUsage_stated]
    · unfold Generic.streamTask
      rw [genericLoop_eq deps items h]
      rfl

/-- A parser for the one text in an event too. -/
def Externs.streaming : Externs := { Externs.reading with fromLossy := Externs.reading.fromSlice }

/-- `data: ` and the text. -/
def usageLine : List UInt8 := [100, 97, 116, 97, 58, 32] ++ usageText

/-- The usage has arrived, then the connection is reset. -/
def brokenStream : List StreamItem :=
  [{ chunk := .ok (usageLine ++ [newline, newline]), clientReads := true },
    { chunk := .error "connection reset", clientReads := true }]

def streamCall : StreamCall where
  team := "dev"
  tokenKey := "sk-dev"
  epKey := "https://api.openai.com:sk-u...am-1"
  teamTpm := 1000
  tokenTpm := 0
  endpointLimitsTpm := 0

/-- `proxy_handler` charges the 12 tokens, and the task of `proxy_generic` panics. -/
theorem read_error_loses_charge :
    (Handler.streamTask .streaming streamCall brokenStream freshCharged 0).map (·.ledger)
        = some [{ key := "team:dev", phase := .postFact, tokens := 11 }] ∧
      Generic.streamTask .streaming streamCall brokenStream freshCharged 0 = none ∧
      ¬ ChargeAlike .streaming streamCall brokenStream freshCharged 0 := by
  have hscan : (scanChunk .streaming ([], .zero) (usageLine ++ [newline, newline])).2 = ⟨5, 7⟩ := by
    have hframes := Framing.frames_pair newline newline (show Framing.findPair newline newline
      (usageLine ++ [newline]) = none by decide +kernel) []
    unfold scanChunk Framing.feed
    rw [List.nil_append, hframes, Framing.frames_none newline newline rfl]
    rfl
  have hgeneric : Generic.streamTask .streaming streamCall brokenStream freshCharged 0 = none := rfl
  refine ⟨?_, hgeneric, fun h => ?_⟩
  · have husage : (Handler.streamLoop .streaming brokenStream).usage = ⟨5, 7⟩ := hscan
    unfold Handler.streamTask
    rw [husage]
    rfl
  · have hnone := h.generic
    rw [hgeneric] at hnone
    cases hnone

/-! ## Usage in a stream and in a whole body -/

/-- The payloads of a stream that are JSON, in order. -/
def readJson (deps : Externs) (body : List UInt8) : List Json :=
  ((Framing.frames newline newline body).1.flatMap lines).filterMap fun line => (stripData line).bind deps.fromLossy

/-- The count of this name in the usage of an event. -/
def stated (name : String) (event : Json) : Option Nat := ((event.get "usage").bind (·.get name)).bind (·.asU64)

def lastStated (name : String) (events : List Json) : Nat := ((events.filterMap (stated name)).getLast?).getD 0

/-- A count of a usage object: under its name or, in its absence, under the other; 0 where that is no unsigned
integer. -/
def tokensBy (usage : Json) (name other : String) : Nat :=
  match usage.get name with
  | some n => n.asU64.getD 0
  | none => ((usage.get other).bind (·.asU64)).getD 0

def pairBy (usage : Json) : Usage where
  prompt := tokensBy usage "prompt_tokens" "input_tokens"
  completion := tokensBy usage "completion_tokens" "output_tokens"

def Json.isObject : Json → Bool
  | .object _ => true
  | _ => false

/-- The whole-body branches go by the rule. -/
theorem bodyUsage_pairBy {json usage : Json} (h : json.get "usage" = some usage) :
    bodyUsage (some json) = pairBy usage := by
  unfold bodyUsage pairBy tokensBy
  rw [Option.bind_some, h]
  dsimp only
  cases usage.get "prompt_tokens" <;> cases usage.get "completion_tokens" <;> rfl

theorem scanEvent_foldl (deps : Externs) (events : List (List UInt8)) (u : Usage) :
    events.foldl (scanEvent deps) u =
      ((events.flatMap lines).filterMap fun line => (stripData line).bind deps.fromLossy).foldl Usage.update u := by
  have hlines : ∀ (ls : List (List UInt8)) (u : Usage), ls.foldl (scanLine deps) u =
      (ls.filterMap fun line => (stripData line).bind deps.fromLossy).foldl Usage.update u := by
    intro ls
    induction ls with
    | nil => exact fun _ => rfl
    | cons line ls ih =>
      intro u
      rw [List.foldl_cons, ih, List.filterMap_cons]
      unfold scanLine
      cases (stripData line).bind deps.fromLossy <;> rfl
  induction events generalizing u with
  | nil => rfl
  | cons event events ih =>
    rw [List.foldl_cons, ih, List.flatMap_cons, List.filterMap_append, List.foldl_append]
    unfold scanEvent
    rw [hlines]

theorem foldl_update (events : List Json) (u : Usage) :
    events.foldl Usage.update u =
      { prompt := ((events.filterMap (stated "prompt_tokens")).getLast?).getD u.prompt
        completion := ((events.filterMap (stated "completion_tokens")).getLast?).getD u.completion } := by
  induction events generalizing u with
  | nil => rfl
  | cons event events ih =>
    have hupdate : u.update event =
        { prompt := (stated "prompt_tokens" event).getD u.prompt
          completion := (stated "completion_tokens" event).getD u.completion } := by
      unfold Usage.update stated
      cases event.get "usage" <;> rfl
    rw [List.foldl_cons, ih, hupdate, List.filterMap_cons, List.filterMap_cons]
    cases stated "prompt_tokens" event <;> cases stated "completion_tokens" event <;>
      simp [List.getLast?_cons]

/-- **A stream states the last of each count.** -/
theorem statedUsage_stream (deps : Externs) (body : List Chunk) :
    statedUsage deps true body =
      { prompt := lastStated "prompt_tokens" (readJson deps (okBytes body).flatten)
        completion := lastStated "completion_tokens" (readJson deps (okBytes body).flatten) } := by
  unfold statedUsage scanChunk Framing.feed
  rw [if_pos rfl, List.nil_append]
  dsimp only
  rw [scanEvent_foldl, foldl_update]
  rfl

/-- The stream gives the count that the rule gives: the usage states it under its own name, or it is what an
earlier event stated last. -/
def StreamAgrees (before : List Json) (usage : Json) (name other : String) : Prop :=
  (((usage.get name).bind (·.asU64)).isSome = true) ∨ tokensBy usage name other = lastStated name before

section
variable {before after : List Json} {event usage : Json}

theorem stated_of_usage (h : event.get "usage" = some usage) (name : String) :
    stated name event = (usage.get name).bind (·.asU64) := by
  unfold stated
  rw [h]
  rfl

/-- What carries no usage object states nothing. -/
theorem stated_none (h : ∀ u, event.get "usage" = some u → u.isObject = false) (name : String) :
    stated name event = none := by
  unfold stated
  cases husage : event.get "usage" with
  | none => rfl
  | some u =>
    have hno := h u husage
    cases u <;> first | rfl | cases hno

theorem lastStated_last (hevent : event.get "usage" = some usage)
    (hafter : ∀ e ∈ after, ∀ u, e.get "usage" = some u → u.isObject = false) (name : String) :
    lastStated name (before ++ event :: after) = ((usage.get name).bind (·.asU64)).getD (lastStated name before) := by
  have hnone : after.filterMap (stated name) = [] :=
    List.filterMap_eq_nil_iff.2 fun e he => stated_none (hafter e he) name
  unfold lastStated
  rw [List.filterMap_append, List.filterMap_cons, hnone, stated_of_usage hevent]
  cases (usage.get name).bind (·.asU64) <;> simp

/-- One count. -/
theorem lastStated_eq_iff (hevent : event.get "usage" = some usage)
    (hafter : ∀ e ∈ after, ∀ u, e.get "usage" = some u → u.isObject = false) (name other : String) :
    lastStated name (before ++ event :: after) = tokensBy usage name other
      ↔ StreamAgrees before usage name other := by
  rw [lastStated_last hevent hafter]
  unfold StreamAgrees
  cases hstated : (usage.get name).bind (·.asU64) with
  | none =>
    simp only [Option.getD_none, Option.isSome_none, Bool.false_eq_true, false_or]
    exact eq_comm
  | some n =>
    have hrule : tokensBy usage name other = n := by
      obtain ⟨v, hv, hn⟩ := Option.bind_eq_some_iff.1 hstated
      unfold tokensBy
      rw [hv]
      exact congrArg (·.getD 0) hn
    simp [hrule]

end

theorem readAll_isOk_iff (body : List Chunk) :
    (readAll body).isOk = true ↔ ∀ chunk ∈ body, chunk.isOk = true := by
  induction body with
  | nil => simp [readAll, Except.isOk, Except.toBool]
  | cons chunk body ih =>
    rw [List.forall_mem_cons, ← ih]
    cases chunk with
    | error e => simp [readAll, Except.isOk, Except.toBool]
    | ok bytes => cases hread : readAll body <;> simp [readAll, hread, Except.map, Except.isOk, Except.toBool]

theorem genericStreamUsage_eq_iff (deps : Externs) (body : List Chunk) (u : Usage) :
    Generic.streamUsage deps body = some u ↔ (∀ chunk ∈ body, chunk.isOk = true) ∧ statedUsage deps true body = u := by
  rw [← readAll_isOk_iff, ← streamUsage_stated]
  unfold Generic.streamUsage Handler.streamUsage
  cases readAll body <;> simp [Except.isOk, Except.toBool]

/-- **A usage object counts the same in a stream and in a whole body** exactly if there is no read error and each of
the two counts is stated under its own name or is what the stream stated before. -/
theorem stream_usage_iff (deps : Externs) {body whole : List Chunk} {before after : List Json}
    {event json usage : Json} (hread : readJson deps (okBytes body).flatten = before ++ event :: after)
    (hevent : event.get "usage" = some usage)
    (hafter : ∀ e ∈ after, ∀ u, e.get "usage" = some u → u.isObject = false)
    (hwhole : deps.fromSlice (toBytes whole) = some json) (husage : json.get "usage" = some usage) :
    (Handler.streamUsage deps body = bodyUsage (deps.fromSlice (toBytes whole)) ∧
      Generic.streamUsage deps body = some (bodyUsage (deps.fromSlice (toBytes whole))) ∧
      bodyUsage (deps.fromSlice (toBytes whole)) = pairBy usage) ↔
    (∀ chunk ∈ body, chunk.isOk = true) ∧ StreamAgrees before usage "prompt_tokens" "input_tokens" ∧
      StreamAgrees before usage "completion_tokens" "output_tokens" := by
  have hpair : statedUsage deps true body = pairBy usage ↔ StreamAgrees before usage "prompt_tokens" "input_tokens" ∧
      StreamAgrees before usage "completion_tokens" "output_tokens" := by
    rw [statedUsage_stream, hread, ← lastStated_eq_iff hevent hafter, ← lastStated_eq_iff hevent hafter]
    exact Usage.mk.injEq .. ▸ Iff.rfl
  rw [streamUsage_stated, hwhole, bodyUsage_pairBy husage, genericStreamUsage_eq_iff, hpair]
  constructor
  · rintro ⟨_, ⟨hok, _⟩, _⟩
    tauto
  · rintro ⟨hok, hagrees⟩
    tauto

/-- A stream of one event is read as its one line. -/
theorem readJson_event (deps : Externs) (text : List UInt8)
    (h : Framing.findPair newline newline ([100, 97, 116, 97, 58, 32] ++ text ++ [newline]) = none)
    (hline : lines ([100, 97, 116, 97, 58, 32] ++ text) = [[100, 97, 116, 97, 58, 32] ++ text]) :
    readJson deps ([100, 97, 116, 97, 58, 32] ++ text ++ [newline, newline]) = (deps.fromLossy text).toList := by
  have hframes := Framing.frames_pair newline newline h []
  unfold readJson
  rw [hframes, Framing.frames_none newline newline rfl, List.flatMap_singleton, hline]
  show [[100, 97, 116, 97, 58, 32] ++ text].filterMap _ = _
  cases hjson : deps.fromLossy text <;> simp [stripData, hjson]

/-- The usage of `usageText` counts 5 and 7 in a stream too. -/
theorem openai_usage_agrees :
    (Handler.streamUsage .streaming [.ok (usageLine ++ [newline, newline])]
        = bodyUsage (Externs.streaming.fromSlice (toBytes [.ok usageText])) ∧
      Generic.streamUsage .streaming [.ok (usageLine ++ [newline, newline])]
        = some (bodyUsage (Externs.streaming.fromSlice (toBytes [.ok usageText]))) ∧
      bodyUsage (Externs.streaming.fromSlice (toBytes [.ok usageText]))
        = pairBy (.object [("prompt_tokens", .unsigned 5), ("completion_tokens", .unsigned 7)])) := by
  let event : Json := .object [("usage", .object [("prompt_tokens", .unsigned 5), ("completion_tokens", .unsigned 7)])]
  have hread : readJson .streaming (okBytes [.ok (usageLine ++ [newline, newline])]).flatten = [] ++ event :: [] :=
    (readJson_event .streaming usageText (by decide +kernel) (by decide +kernel)).trans rfl
  exact (stream_usage_iff .streaming hread rfl (by simp) rfl rfl).2
    ⟨by simp [Except.isOk, Except.toBool], Or.inl rfl, Or.inl rfl⟩

/-- `{"usage":{"input_tokens":5,"output_tokens":7}}` -/
def inputUsageText : List UInt8 :=
  "\x7b\"usage\":\x7b\"input_tokens\":5,\"output_tokens\":7\x7d\x7d".toUTF8.data.toList

/-- A parser for that text. -/
def Externs.inputReading : Externs where
  fromSlice bytes :=
    if bytes = inputUsageText then
      some (.object [("usage", .object [("input_tokens", .unsigned 5), ("output_tokens", .unsigned 7)])])
    else none
  fromLossy bytes :=
    if bytes = inputUsageText then
      some (.object [("usage", .object [("input_tokens", .unsigned 5), ("output_tokens", .unsigned 7)])])
    else none
  hashToken := id

/-- Under the other names it is 12 tokens in a whole body and none in a stream. -/
theorem input_tokens_not_streamed :
    bodyUsage (Externs.inputReading.fromSlice (toBytes [.ok inputUsageText])) = ⟨5, 7⟩ ∧
      Handler.streamUsage .inputReading [.ok ([100, 97, 116, 97, 58, 32] ++ inputUsageText ++ [newline, newline])] = .zero ∧
      Generic.streamUsage .inputReading [.ok ([100, 97, 116, 97, 58, 32] ++ inputUsageText ++ [newline, newline])]
        = some .zero := by
  have hread := readJson_event .inputReading inputUsageText (by decide +kernel) (by decide +kernel)
  have hstated : statedUsage .inputReading true
      [.ok ([100, 97, 116, 97, 58, 32] ++ inputUsageText ++ [newline, newline])] = .zero := by
    rw [statedUsage_stream]
    simp only [okBytes, List.filterMap_cons, Except.toOption, List.filterMap_nil, List.flatten_cons, List.flatten_nil,
      List.append_nil, hread]
    rfl
  refine ⟨rfl, ?_, (genericStreamUsage_eq_iff _ _ _).2 ⟨by simp [Except.isOk, Except.toBool], hstated⟩⟩
  rw [streamUsage_stated]
  exact hstated

end AiRouter
