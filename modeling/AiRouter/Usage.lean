import AiRouter.Lib.Framing
import AiRouter.Limiter

/-
# Upstream answers and the usage they state

| here | there |
| --- | --- |
| `Externs`                | `serde_json` and the token hash, which are not the router's code |
| `Reply`                  | what `send().await` and then the body give |
| `findDoubleNewline`      | `find_double_newline` (handler.rs:943) |
| `scanEvent`, `scanChunk` | the SSE loop, written out twice (handler.rs:443-476, 1311-1346) |
| `toBytes`                | `to_bytes(.., 1 MiB).unwrap_or_default()` (handler.rs:604, 1417) |
| `bodyUsage`              | usage of a whole body (handler.rs:612-627, 1423-1435) |
-/
namespace AiRouter

/-! ## JSON values -/

inductive Json where
  | null
  | bool (b : Bool)
  /-- an integer that fits `u64`: the only numbers `as_u64` accepts -/
  | unsigned (n : UInt64)
  | otherNumber (q : Rat)
  | string (s : String)
  | array (xs : List Json)
  | object (fields : List (String × Json))

namespace Json

/-- `get` with a string index. -/
def get : Json → String → Option Json
  | .object fields, key => fields.lookup key
  | _, _ => none

def asU64 : Json → Option Nat
  | .unsigned n => some n.toNat
  | _ => none

end Json

/-- The code outside the repository that request handling calls. -/
structure Externs where
  /-- `serde_json::from_slice` -/
  fromSlice : List UInt8 → Option Json
  /-- `serde_json::from_str` after `from_utf8_lossy` -/
  fromLossy : List UInt8 → Option Json
  /-- the hex digest of `DefaultHasher` -/
  hashToken : String → String

/-! ## Usage -/

structure Usage where
  prompt : Nat
  completion : Nat
deriving DecidableEq, Repr

def Usage.zero : Usage := ⟨0, 0⟩

/-- `prompt.saturating_add(completion)` -/
def Usage.total (u : Usage) : Nat := satAddU64 u.prompt u.completion

/-- The usage field of a whole body. -/
def bodyUsage (json : Option Json) : Usage :=
  match json.bind (·.get "usage") with
  | none => .zero
  | some usage =>
    { prompt := (((usage.get "prompt_tokens").orElse fun _ => usage.get "input_tokens").bind (·.asU64)).getD 0
      completion :=
        (((usage.get "completion_tokens").orElse fun _ => usage.get "output_tokens").bind (·.asU64)).getD 0 }

/-- What one SSE payload changes: a count it does not state stays. -/
def Usage.update (u : Usage) (json : Json) : Usage :=
  match json.get "usage" with
  | none => u
  | some usage =>
    { prompt := ((usage.get "prompt_tokens").bind (·.asU64)).getD u.prompt
      completion := ((usage.get "completion_tokens").bind (·.asU64)).getD u.completion }

/-! ## The event stream -/

def newline : UInt8 := 10

def findDoubleNewline (data : List UInt8) : Option Nat := Framing.findPair newline newline data

/-- `split_inclusive('\n')` -/
def splitInclusive : List UInt8 → List (List UInt8)
  | [] => []
  | b :: rest =>
    if b = newline then [b] :: splitInclusive rest
    else match splitInclusive rest with
      | [] => [[b]]
      | line :: lines => (b :: line) :: lines

/-- Drops a `\n` or `\r\n` at the end. -/
def chomp (line : List UInt8) : List UInt8 :=
  match line.reverse with
  | 10 :: 13 :: rest => rest.reverse
  | 10 :: rest => rest.reverse
  | _ => line

/-- `str::lines`, on bytes: line ends are ASCII, so decoding does not move them. -/
def lines (event : List UInt8) : List (List UInt8) := (splitInclusive event).map chomp

/-- `strip_prefix("data: ")` -/
def stripData : List UInt8 → Option (List UInt8)
  | 100 :: 97 :: 116 :: 97 :: 58 :: 32 :: rest => some rest
  | _ => none

def scanLine (deps : Externs) (u : Usage) (line : List UInt8) : Usage :=
  match (stripData line).bind deps.fromLossy with
  | some json => u.update json
  | none => u

def scanEvent (deps : Externs) (u : Usage) (event : List UInt8) : Usage :=
  (lines event).foldl (scanLine deps) u

/-- One `Ok` chunk: buffer it, then take every complete event out of the buffer. -/
def scanChunk (deps : Externs) (s : List UInt8 × Usage) (bytes : List UInt8) : List UInt8 × Usage :=
  Framing.feed newline newline (scanEvent deps) s bytes

/-! ## Replies -/

/-- One item of a body stream. -/
abbrev Chunk := Except String (List UInt8)

inductive Reply where
  | sendError (message : String)
  | response (status : Nat) (body : List Chunk)

/-- `status.is_success()` -/
def isSuccess (status : Nat) : Bool := 200 ≤ status && status < 300

/-- The bytes that arrived. -/
def okBytes (body : List Chunk) : List (List UInt8) := body.filterMap Except.toOption

/-- The whole body, unless reading it fails. -/
def readAll : List Chunk → Except String (List UInt8)
  | [] => .ok []
  | .error e :: _ => .error e
  | .ok bytes :: rest => (readAll rest).map (bytes ++ ·)

def mebibyte : Nat := 1024 * 1024

/-- The body up to 1 MiB; empty when it is longer or breaks off. -/
def toBytes (body : List Chunk) : List UInt8 :=
  match readAll body with
  | .ok bytes => if bytes.length ≤ mebibyte then bytes else []
  | .error _ => []

/-- The streaming task of `proxy_handler`: a read error is skipped. -/
def Handler.streamUsage (deps : Externs) (body : List Chunk) : Usage :=
  ((okBytes body).foldl (scanChunk deps) ([], .zero)).2

/-- The streaming task of `proxy_generic`: forwarding a read error panics, and a task that panics
charges nothing. -/
def Generic.streamUsage (deps : Externs) (body : List Chunk) : Option Usage :=
  match readAll body with
  | .ok _ => some ((okBytes body).foldl (scanChunk deps) ([], .zero)).2
  | .error _ => none

/-- The usage an answer states: in a stream, what its complete events say in the end; otherwise
what the whole body says. -/
def statedUsage (deps : Externs) (isStream : Bool) (body : List Chunk) : Usage :=
  if isStream then (scanChunk deps ([], .zero) (okBytes body).flatten).2
  else match readAll body with
    | .ok bytes => bodyUsage (deps.fromSlice bytes)
    | .error _ => .zero

/-- **The streaming loop reads what the stream states**, wherever the chunks were cut. -/
theorem streamUsage_stated (deps : Externs) (body : List Chunk) :
    Handler.streamUsage deps body = statedUsage deps true body := by
  unfold Handler.streamUsage statedUsage scanChunk
  rw [if_pos rfl, Framing.feed_chunks newline newline (scanEvent deps) (okBytes body)
    (s := ([], Usage.zero)) rfl]

theorem genericStreamUsage_stated {deps : Externs} {body : List Chunk} {u : Usage}
    (h : Generic.streamUsage deps body = some u) : u = statedUsage deps true body := by
  unfold Generic.streamUsage at h
  split at h
  · rw [← streamUsage_stated]; exact (Option.some.inj h).symm
  · cases h

/-- A body that is not too long is read as it stands. -/
theorem toBytes_stated (deps : Externs) {body : List Chunk} {bytes : List UInt8}
    (h : readAll body = .ok bytes) (hlen : bytes.length ≤ mebibyte) :
    bodyUsage (deps.fromSlice (toBytes body)) = statedUsage deps false body := by
  simp only [toBytes, statedUsage, h, if_pos hlen, Bool.false_eq_true, if_false]

/-! ## One text -/

/-- `{"usage":{"prompt_tokens":5,"completion_tokens":7}}` -/
def usageText : List UInt8 :=
  "\x7b\"usage\":\x7b\"prompt_tokens\":5,\"completion_tokens\":7\x7d\x7d".toUTF8.data.toList

/-- A parser for that text. -/
def Externs.reading : Externs where
  fromSlice bytes :=
    if bytes = usageText then
      some (.object [("usage", .object [("prompt_tokens", .unsigned 5), ("completion_tokens", .unsigned 7)])])
    else none
  fromLossy _ := none
  hashToken := id

/-- An endpoint answers with it. -/
def usageReply : Reply := .response 200 [.ok usageText]

end AiRouter
