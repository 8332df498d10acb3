import AiRouter.Lib.EventStream
import AiRouter.Lib.LastOf
import AiRouter.Lib.Trim
import AiRouter.StreamTask

/-
# The scan against the event stream format

The streaming loops end an event at two line feeds and a line at one, and know `data: ` with its space only. The
format also has CR and CR LF, leaves the space out, and joins the `data` lines of an event.
-/
namespace AiRouter

/-! ## What a stream carries -/

/-- The usage carried by the events of a stream: each JSON payload in turn. -/
def carriedUsage (deps : Externs) (body : List UInt8) : Usage :=
  ((EventStream.payloads body).filterMap deps.fromLossy).foldl Usage.update .zero

/-- The white space of JSON. -/
def isJsonSpace (b : UInt8) : Bool := b == 32 || b == 9 || b == 10 || b == 13

/-- White space around a text does not matter, and a blank text is no JSON. -/
structure Externs.IgnoresSpace (deps : Externs) : Prop where
  trimmed : ∀ text, deps.fromLossy (Trim.ends isJsonSpace text) = deps.fromLossy text
  blank : deps.fromLossy [] = none

/-- Whatever the texts mean, however the stream is cut and whether or not the client reads it, the loops end with
the usage that its events carry, and the tasks charge it. -/
def ScannedAsCarried (body : List UInt8) : Prop :=
  ∀ deps : Externs, deps.IgnoresSpace → ∀ items, Unbroken items → (okBytes (items.map (·.chunk))).flatten = body →
    ((Handler.streamLoop deps items).usage = carriedUsage deps body ∧
      (Generic.streamLoop deps items).map (·.usage) = some (carriedUsage deps body)) ∧
    ∀ (c : StreamCall) (s : Charged) (now : Nat),
      Handler.streamTask deps c items s now = some (c.charge s (carriedUsage deps body) now) ∧
      Generic.streamTask deps c items s now = some (c.charge s (carriedUsage deps body) now)

/-- The values of the lines that end with a line feed and start with `data: `, in the events that end with two
line feeds. -/
def plainPayloads (body : List UInt8) : List (List UInt8) :=
  ((Framing.frames newline newline body).1.flatMap lines).filterMap stripData

/-- Without the white space around them and the blank ones. -/
def texts (payloads : List (List UInt8)) : List (List UInt8) :=
  (payloads.map (Trim.ends isJsonSpace)).filter (· ≠ [])

/-! ## What the loops come to -/

section
variable {deps : Externs} {body : List UInt8} {items : List StreamItem}

theorem readJson_plain (deps : Externs) (body : List UInt8) :
    readJson deps body = (plainPayloads body).filterMap deps.fromLossy := by
  unfold readJson plainPayloads
  rw [List.filterMap_filterMap]

/-- The loop ends with the usage of the plain payloads. -/
theorem handlerLoop_plain (hbody : (okBytes (items.map (·.chunk))).flatten = body) :
    (Handler.streamLoop deps items).usage
      = ((plainPayloads body).filterMap deps.fromLossy).foldl Usage.update .zero := by
  rw [handlerLoop_usage, streamUsage_stated, statedUsage_stream, hbody, readJson_plain, foldl_update]
  rfl

theorem Externs.IgnoresSpace.filterMap_texts {β : Type} (h : deps.IgnoresSpace) (g : Json → Option β)
    (payloads : List (List UInt8)) :
    (payloads.filterMap deps.fromLossy).filterMap g
      = (texts payloads).filterMap fun text => (deps.fromLossy text).bind g := by
  unfold texts
  rw [List.filterMap_filterMap, List.filterMap_filter, List.filterMap_map]
  refine List.filterMap_congr fun payload _ => ?_
  by_cases hblank : Trim.ends isJsonSpace payload = []
  · have hnone : deps.fromLossy payload = none := by rw [← h.trimmed, hblank, h.blank]
    simp [hblank, hnone]
  · simp [hblank, h.trimmed]

/-- The usage sees of the payloads the texts, and of these the last occurrences. -/
theorem Externs.IgnoresSpace.foldl_texts (h : deps.IgnoresSpace) (payloads : List (List UInt8)) :
    (payloads.filterMap deps.fromLossy).foldl Usage.update .zero =
      { prompt := LastOf.lastOf (fun text => (deps.fromLossy text).bind (stated "prompt_tokens")) 0
          (texts payloads).dedup
        completion := LastOf.lastOf (fun text => (deps.fromLossy text).bind (stated "completion_tokens")) 0
          (texts payloads).dedup } := by
  rw [foldl_update, h.filterMap_texts, h.filterMap_texts, LastOf.lastOf_dedup, LastOf.lastOf_dedup]
  rfl

end

/-! ## A parser for any reading of the texts -/

/-- `{"usage":{"prompt_tokens":..}}` with 1 for true. -/
def flagJson (b : Bool) : Json := .object [("usage", .object [("prompt_tokens", .unsigned (if b then 1 else 0))])]

/-- The texts are read by `f`. -/
def readFlag (f : List UInt8 → Option Bool) (text : List UInt8) : Option Json :=
  let text := Trim.ends isJsonSpace text
  if text = [] then none else (f text).map flagJson

def Externs.flags (f : List UInt8 → Option Bool) : Externs where
  fromSlice := readFlag f
  fromLossy := readFlag f
  hashToken := id

theorem flags_ignoresSpace (f : List UInt8 → Option Bool) : (Externs.flags f).IgnoresSpace := by
  constructor
  case trimmed =>
    intro text
    show readFlag f _ = readFlag f _
    unfold readFlag
    rw [Trim.ends_ends]
  case blank => rfl

theorem mem_texts {text : List UInt8} {payloads : List (List UInt8)} (h : text ∈ texts payloads) :
    Trim.ends isJsonSpace text = text ∧ text ≠ [] := by
  obtain ⟨hmem, hne⟩ := List.mem_filter.1 h
  obtain ⟨payload, _, rfl⟩ := List.mem_map.1 hmem
  exact ⟨Trim.ends_ends isJsonSpace payload, of_decide_eq_true hne⟩

/-- The prompt count is then the flag stated last. -/
theorem flags_prompt (f : List UInt8 → Option Bool) (payloads : List (List UInt8)) :
    (((payloads.filterMap (Externs.flags f).fromLossy).foldl Usage.update .zero).prompt)
      = (LastOf.lastOf f false (texts payloads)).toNat := by
  have hread : ∀ text ∈ texts payloads,
      ((Externs.flags f).fromLossy text).bind (stated "prompt_tokens") = (f text).map Bool.toNat := by
    intro text hmem
    obtain ⟨htrim, hne⟩ := mem_texts hmem
    show (readFlag f text).bind _ = _
    unfold readFlag
    rw [htrim, if_neg hne]
    cases f text with
    | none => rfl
    | some b => cases b <;> rfl
  rw [(flags_ignoresSpace f).foldl_texts, LastOf.lastOf_dedup]
  unfold LastOf.lastOf
  rw [List.filterMap_congr hread, ← List.map_filterMap, List.getLast?_map]
  cases ((texts payloads).filterMap f).getLast? <;> rfl

/-! ## Exactly the streams that are scanned as carried -/

section
variable {body : List UInt8}

theorem texts_of_scanned (h : ScannedAsCarried body) :
    (texts (plainPayloads body)).dedup = (texts (EventStream.payloads body)).dedup := by
  refine LastOf.dedup_eq_iff.2 fun f => ?_
  have hbody : (okBytes ((delivered [body]).map (·.chunk))).flatten = body := by
    rw [delivered_chunks, okBytes_ok, List.flatten_singleton]
  have husage := (h (.flags f) (flags_ignoresSpace f) _ (delivered_unbroken [body]) hbody).1.1
  rw [handlerLoop_plain hbody] at husage
  have hprompt := congrArg Usage.prompt husage
  unfold carriedUsage at hprompt
  rw [flags_prompt, flags_prompt] at hprompt
  cases hplain : LastOf.lastOf f false (texts (plainPayloads body)) <;>
    cases hcarried : LastOf.lastOf f false (texts (EventStream.payloads body)) <;> simp_all

theorem scanned_of_texts (h : (texts (plainPayloads body)).dedup = (texts (EventStream.payloads body)).dedup) :
    ScannedAsCarried body := by
  intro deps hdeps items hunbroken hbody
  have husage : (Handler.streamLoop deps items).usage = carriedUsage deps body := by
    unfold carriedUsage
    rw [handlerLoop_plain hbody, hdeps.foldl_texts, hdeps.foldl_texts, h]
  have hgeneric := genericLoop_eq deps items hunbroken
  refine ⟨⟨husage, ?_⟩, fun c s now => ⟨?_, ?_⟩⟩
  · rw [hgeneric, Option.map_some, husage]
  · unfold Handler.streamTask
    rw [husage]
  · unfold Generic.streamTask
    rw [hgeneric, Option.map_some, husage]

/-- **A stream is scanned as its events carry it exactly if** the plain payloads have the texts of the events, in
the order of their last occurrences. -/
theorem scanned_as_carried_iff (body : List UInt8) :
    ScannedAsCarried body ↔ (texts (plainPayloads body)).dedup = (texts (EventStream.payloads body)).dedup :=
  ⟨texts_of_scanned, scanned_of_texts⟩

end

/-! ## Line ends and the space -/

theorem findPair_skip {b b' : UInt8} (h : b' ≠ newline) (rest : List UInt8) :
    Framing.findPair newline newline (b :: b' :: rest) = (Framing.findPair newline newline (b' :: rest)).map (· + 1) := by
  rw [Framing.findPair, if_neg fun hpair => h hpair.2]

/-- There are no two line feeds in a row. -/
theorem findPair_crlf (body : List UInt8) (b : UInt8) :
    Framing.findPair newline newline (b :: EventStream.crlf body) = none := by
  induction body generalizing b with
  | nil => rfl
  | cons b' body ih =>
    by_cases hlf : b' = EventStream.lf
    · subst hlf
      have hend : Framing.findPair newline newline (EventStream.cr :: EventStream.lf :: EventStream.crlf body) = none := by
        rw [Framing.findPair, if_neg fun hpair => absurd hpair.1 (by decide), ih]
        rfl
      rw [EventStream.crlf_lf, findPair_skip (by decide), hend]
      rfl
    · rw [EventStream.crlf_cons hlf, findPair_skip hlf, ih]
      rfl

/-- **With CR LF for LF nothing is scanned.** -/
theorem plainPayloads_crlf (body : List UInt8) : plainPayloads (EventStream.crlf body) = [] := by
  have hnone : Framing.findPair newline newline (EventStream.crlf body) = none := by
    have hpair := findPair_crlf body EventStream.cr
    cases hbody : EventStream.crlf body with
    | nil => rfl
    | cons b rest =>
      have hb : b ≠ newline := by
        cases body with
        | nil => cases hbody
        | cons b' body =>
          by_cases hlf : b' = EventStream.lf
          · subst hlf
            rw [EventStream.crlf_lf] at hbody
            rw [← (List.cons.inj hbody).1]
            decide
          · rw [EventStream.crlf_cons hlf] at hbody
            rw [← (List.cons.inj hbody).1]
            exact hlf
      rw [hbody, findPair_skip hb] at hpair
      exact Option.map_eq_none_iff.1 hpair
  unfold plainPayloads
  rw [Framing.frames_none newline newline hnone]
  rfl

/-- **A stream rewritten to CR LF is scanned as carried exactly if it carries no text at all.** -/
theorem crlf_scanned_iff {body : List UInt8} (h : EventStream.cr ∉ body) :
    ScannedAsCarried (EventStream.crlf body) ↔ texts (EventStream.payloads body) = [] := by
  constructor
  · intro hscanned
    have htexts := texts_of_scanned hscanned
    rw [plainPayloads_crlf, EventStream.payloads_crlf h] at htexts
    exact (List.dedup_eq_nil _).1 htexts.symm
  · intro hnone
    refine scanned_of_texts ?_
    rw [plainPayloads_crlf, EventStream.payloads_crlf h, hnone]
    rfl

/-! ## Streams as one producer writes them -/

/-- An event of lines ended by line feeds, with at most one `data` line, and that spelled `data: `. -/
structure PlainEvent where
  lines : List (List UInt8)
  nonempty : lines ≠ []
  unbroken : ∀ line ∈ lines, line ≠ [] ∧ ∀ b ∈ line, b ≠ EventStream.lf ∧ b ≠ EventStream.cr
  unmarked : ∀ line ∈ lines, EventStream.withoutMark line = line
  spelled : ∀ line ∈ lines, EventStream.dataValue line = stripData line
  single : (lines.filterMap stripData).length ≤ 1

def PlainEvent.bytes (e : PlainEvent) : List UInt8 := e.lines.flatMap (· ++ [newline]) ++ [newline]

section
variable {line : List UInt8} {ls : List (List UInt8)}

theorem findPair_line (h : ∀ b ∈ line, b ≠ newline) (hne : line ≠ []) (b : UInt8) (rest : List UInt8)
    (hrest : Framing.findPair newline newline rest = none) :
    Framing.findPair newline newline (b :: (line ++ rest)) = none := by
  induction line generalizing b with
  | nil => exact absurd rfl hne
  | cons b' line ih =>
    obtain ⟨hb', hline⟩ := List.forall_mem_cons.1 h
    rw [List.cons_append, findPair_skip hb']
    by_cases hnil : line = []
    · subst hnil
      rw [List.nil_append]
      cases rest with
      | nil => rfl
      | cons c rest =>
        rw [Framing.findPair, if_neg fun hpair => hb' hpair.1, hrest]
        rfl
    · rw [ih hline hnil]
      rfl

/-- Lines that are not empty hold no two line feeds in a row. -/
theorem findPair_lines (h : ∀ line ∈ ls, line ≠ [] ∧ ∀ b ∈ line, b ≠ newline) (b : UInt8) :
    Framing.findPair newline newline (b :: ls.flatMap fun line => line ++ [newline]) = none := by
  induction ls generalizing b with
  | nil => rfl
  | cons line ls ih =>
    obtain ⟨⟨hne, hline⟩, hls⟩ := List.forall_mem_cons.1 h
    rw [List.flatMap_cons, List.append_assoc]
    exact findPair_line hline hne b _ (ih hls newline)

theorem splitInclusive_line (h : ∀ b ∈ line, b ≠ newline) (rest : List UInt8) :
    splitInclusive (line ++ newline :: rest) = (line ++ [newline]) :: splitInclusive rest := by
  induction line with
  | nil => rw [List.nil_append, splitInclusive, if_pos rfl]; rfl
  | cons b line ih =>
    obtain ⟨hb, hline⟩ := List.forall_mem_cons.1 h
    rw [List.cons_append, splitInclusive, if_neg hb, ih hline]
    rfl

theorem splitInclusive_last (h : ∀ b ∈ line, b ≠ newline) (hne : line ≠ []) : splitInclusive line = [line] := by
  induction line with
  | nil => exact absurd rfl hne
  | cons b line ih =>
    obtain ⟨hb, hline⟩ := List.forall_mem_cons.1 h
    rw [splitInclusive, if_neg hb]
    by_cases hnil : line = []
    · subst hnil
      rfl
    · rw [ih hline hnil]

theorem chomp_line (h : ∀ b ∈ line, b ≠ EventStream.lf ∧ b ≠ EventStream.cr) :
    chomp (line ++ [newline]) = line ∧ chomp line = line := by
  unfold chomp newline
  rw [List.reverse_append, List.reverse_singleton, List.singleton_append]
  cases hrev : line.reverse with
  | nil =>
    rw [List.reverse_eq_nil_iff.1 hrev]
    exact ⟨rfl, rfl⟩
  | cons b rest =>
    obtain ⟨hlf, hcr⟩ := h b (List.mem_reverse.1 (hrev ▸ List.mem_cons_self))
    have hline : (b :: rest).reverse = line := by rw [← hrev, List.reverse_reverse]
    constructor
    · split
      · rename_i heq
        exact absurd (List.cons.inj (List.cons.inj heq).2).1 hcr
      · rename_i heq
        rw [← (List.cons.inj heq).2, hline]
      · rename_i hno
        exact absurd rfl (hno _)
    · split
      · rename_i heq
        exact absurd (List.cons.inj heq).1 hlf
      · rename_i heq
        exact absurd (List.cons.inj heq).1 hlf
      · rfl

theorem flatMap_ended (hne : ls ≠ []) :
    ∃ event, ls.flatMap (fun line => line ++ [newline]) = event ++ [newline] := by
  obtain ⟨init, last, rfl⟩ := (List.eq_nil_or_concat ls).resolve_left hne
  exact ⟨init.flatMap (fun line => line ++ [newline]) ++ last, by simp⟩

/-- The lines of an event are those it was written from. -/
theorem lines_event (h : ∀ line ∈ ls, line ≠ [] ∧ ∀ b ∈ line, b ≠ EventStream.lf ∧ b ≠ EventStream.cr)
    {event : List UInt8} (hevent : ls.flatMap (fun line => line ++ [newline]) = event ++ [newline]) :
    lines event = ls := by
  induction ls generalizing event with
  | nil => simp at hevent
  | cons line ls ih =>
    obtain ⟨⟨hne, hline⟩, hls⟩ := List.forall_mem_cons.1 h
    have hlf : ∀ b ∈ line, b ≠ newline := fun b hb => (hline b hb).1
    obtain ⟨hended, hlast⟩ := chomp_line hline
    rw [List.flatMap_cons] at hevent
    by_cases hnil : ls = []
    · subst hnil
      rw [List.flatMap_nil, List.append_nil] at hevent
      rw [← List.append_cancel_right hevent]
      unfold lines
      rw [splitInclusive_last hlf hne]
      exact congrArg (fun line => [line]) hlast
    · obtain ⟨rest, hrest⟩ := flatMap_ended hnil
      rw [hrest, ← List.append_assoc] at hevent
      rw [← List.append_cancel_right hevent]
      unfold lines at ih ⊢
      rw [List.append_assoc, List.singleton_append, splitInclusive_line hlf, List.map_cons, hended, ih hls hrest]

end

section
variable (e : PlainEvent)

/-- The event comes first in the frames of the loop. -/
theorem PlainEvent.plainPayloads_append (rest : List UInt8) :
    plainPayloads (e.bytes ++ rest) = e.lines.filterMap stripData ++ plainPayloads rest := by
  obtain ⟨event, hevent⟩ := flatMap_ended e.nonempty
  have hlf : ∀ line ∈ e.lines, line ≠ [] ∧ ∀ b ∈ line, b ≠ newline := fun line hline =>
    ⟨(e.unbroken line hline).1, fun b hb => ((e.unbroken line hline).2 b hb).1⟩
  have hpair : Framing.findPair newline newline (event ++ [newline]) = none := by
    obtain ⟨line, ls, hlines⟩ := List.exists_cons_of_ne_nil e.nonempty
    rw [← hevent]
    have hskip := findPair_lines hlf EventStream.cr
    rw [hlines] at hlf hskip ⊢
    obtain ⟨⟨hne, hline⟩, _⟩ := List.forall_mem_cons.1 hlf
    obtain ⟨b, line', rfl⟩ := List.exists_cons_of_ne_nil hne
    rw [List.flatMap_cons, List.cons_append, List.cons_append, findPair_skip (hline b List.mem_cons_self)] at hskip
    rw [List.flatMap_cons, List.cons_append, List.cons_append]
    exact Option.map_eq_none_iff.1 hskip
  have hbytes : e.bytes ++ rest = event ++ newline :: newline :: rest := by
    unfold PlainEvent.bytes
    rw [hevent]
    simp
  unfold plainPayloads
  rw [hbytes, Framing.frames_pair newline newline hpair, List.flatMap_cons, List.filterMap_append,
    lines_event e.unbroken hevent]

theorem PlainEvent.completeLines_append (rest : List UInt8) :
    EventStream.completeLines (e.bytes ++ rest) = e.lines ++ [] :: EventStream.completeLines rest := by
  have hlines := EventStream.completeLines_event (fun line hline => (e.unbroken line hline).2) rest
  unfold PlainEvent.bytes
  rw [List.append_assoc]
  exact hlines

/-- The event carries what its one `data` line says. -/
theorem PlainEvent.dispatch_append (more : List (List UInt8)) :
    EventStream.dispatch [] (e.lines ++ [] :: more) = e.lines.filterMap stripData ++ EventStream.dispatch [] more := by
  have hspelled : e.lines.filterMap EventStream.dataValue = e.lines.filterMap stripData :=
    List.filterMap_congr e.spelled
  have hsingle := e.single
  rw [EventStream.dispatch_event fun line hline => (e.unbroken line hline).1, List.nil_append, hspelled]
  unfold EventStream.eventData
  cases hvalues : e.lines.filterMap stripData with
  | nil => rfl
  | cons value values =>
    rw [hvalues, List.length_cons] at hsingle
    rw [List.length_eq_zero_iff.1 (by omega : values.length = 0), if_neg (List.cons_ne_nil value []),
      List.intercalate_singleton]
    rfl

end

/-- **A stream written with line feeds and `data: ` is scanned as it is meant.** -/
theorem plain_stream_scanned (events : List PlainEvent) : ScannedAsCarried (events.flatMap PlainEvent.bytes) := by
  have hplain : ∀ events : List PlainEvent,
      plainPayloads (events.flatMap PlainEvent.bytes) = events.flatMap fun e => e.lines.filterMap stripData := by
    intro events
    induction events with
    | nil =>
      unfold plainPayloads
      rw [List.flatMap_nil, Framing.frames_none newline newline rfl]
      rfl
    | cons e events ih => rw [List.flatMap_cons, e.plainPayloads_append, ih, List.flatMap_cons]
  have hdispatch : ∀ events : List PlainEvent,
      EventStream.dispatch [] (EventStream.completeLines (events.flatMap PlainEvent.bytes))
        = events.flatMap fun e => e.lines.filterMap stripData := by
    intro events
    induction events with
    | nil => rfl
    | cons e events ih => rw [List.flatMap_cons, e.completeLines_append, e.dispatch_append, ih, List.flatMap_cons]
  have hmark : EventStream.streamLines (events.flatMap PlainEvent.bytes)
      = EventStream.completeLines (events.flatMap PlainEvent.bytes) := by
    unfold EventStream.streamLines
    cases events with
    | nil => rfl
    | cons e events =>
      obtain ⟨line, ls, hlines⟩ := List.exists_cons_of_ne_nil e.nonempty
      have hunmarked := e.unmarked line (hlines ▸ List.mem_cons_self)
      rw [List.flatMap_cons, e.completeLines_append, hlines, List.cons_append]
      exact congrArg (· :: _) hunmarked
  refine scanned_of_texts ?_
  unfold EventStream.payloads
  rw [hplain, hmark, hdispatch]

/-! ## Streams that are missed -/

/-- A parser for `usageText`. -/
def Externs.trimming : Externs :=
  { Externs.reading with fromLossy := fun text => Externs.reading.fromSlice (Trim.ends isJsonSpace text) }

theorem trimming_ignoresSpace : Externs.trimming.IgnoresSpace := by
  constructor
  case trimmed =>
    intro text
    exact congrArg Externs.reading.fromSlice (Trim.ends_ends isJsonSpace text)
  case blank => rfl

/-- One event with `usageText`; with CR LF for LF; without the space. -/
def usageStream : List UInt8 := usageLine ++ [newline, newline]

def tightStream : List UInt8 := [100, 97, 116, 97, 58] ++ usageText ++ [newline, newline]

/-- The same event carries 12 tokens however it is written, and with CR LF or without the space none is counted. -/
theorem rewritten_stream_unread :
    carriedUsage .trimming usageStream = ⟨5, 7⟩ ∧
      (carriedUsage .trimming (EventStream.crlf usageStream) = ⟨5, 7⟩ ∧
        (Handler.streamLoop .trimming (delivered [EventStream.crlf usageStream])).usage = .zero ∧
        ¬ ScannedAsCarried (EventStream.crlf usageStream)) ∧
      carriedUsage .trimming tightStream = ⟨5, 7⟩ ∧
        (Handler.streamLoop .trimming (delivered [tightStream])).usage = .zero ∧ ¬ ScannedAsCarried tightStream := by
  have hmissed : ∀ body, carriedUsage .trimming body = ⟨5, 7⟩ → plainPayloads body = [] →
      (Handler.streamLoop .trimming (delivered [body])).usage = .zero ∧ ¬ ScannedAsCarried body := by
    intro body hcarried hplain
    have hbody : (okBytes ((delivered [body]).map (·.chunk))).flatten = body := by
      rw [delivered_chunks, okBytes_ok, List.flatten_singleton]
    have husage := @handlerLoop_plain .trimming _ _ hbody
    rw [hplain] at husage
    refine ⟨husage, fun h => ?_⟩
    have hscanned := (h .trimming trimming_ignoresSpace _ (delivered_unbroken [body]) hbody).1.1
    rw [husage, hcarried] at hscanned
    cases hscanned
  have htight : plainPayloads tightStream = [] := by
    have hframes := Framing.frames_pair newline newline (show Framing.findPair newline newline
      ([100, 97, 116, 97, 58] ++ usageText ++ [newline]) = none by decide +kernel) []
    unfold plainPayloads tightStream
    rw [hframes, Framing.frames_none newline newline rfl]
    decide +kernel
  have hcrlf : carriedUsage .trimming (EventStream.crlf usageStream) = ⟨5, 7⟩ := by decide +kernel
  have hcarried : carriedUsage .trimming tightStream = ⟨5, 7⟩ := by decide +kernel
  exact ⟨by decide +kernel, ⟨hcrlf, hmissed _ hcrlf (plainPayloads_crlf usageStream)⟩, hcarried,
    hmissed _ hcarried htight⟩

end AiRouter
