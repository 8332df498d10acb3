import AiRouter.Keys
import AiRouter.Lib.KeyMap
import Mathlib.Data.Rat.Defs
import Mathlib.Algebra.Order.Ring.Rat

/-
# The circuit breaker: `fail2ban/breaker.rs`

| here | there |
| --- | --- |
| `parseFailPatterns`          | `parse_fail_patterns` (breaker.rs:171) |
| `Fail2ban.isBanned`          | `is_banned` (breaker.rs:48); expiry resets the entry, so it writes |
| `Fail2ban.isFailStatus`      | `is_fail_status` (breaker.rs:65) |
| `Fail2ban.recordSuccess`     | `record_success` (breaker.rs:76) |
| `Fail2ban.recordFailure`     | `record_failure` (breaker.rs:83), code 0 |
| `Fail2ban.recordFailureWithCode` | `record_failure_with_code` (breaker.rs:88), where the deadline of a ban is an `Instant` |
| `Fail2ban.recordFailureOrPanic` | the same for every `ban_duration_secs` that the configuration may have |
| `Fail2ban.reset`             | `reset` (breaker.rs:126) |
| `Fail2ban.bannedCount`       | `banned_count` (breaker.rs:135), `usize as i64` |
| `Fail2ban.banReason`         | `ban_reason` (breaker.rs:146) |

Instants are nanoseconds. The atomic counters wrap at their width. The error ratio is an exact
rational. The handlers and the health checker are modelled with `recordFailureWithCode`, that is for durations
whose deadlines an `Instant` can hold.
-/
namespace AiRouter

/-- State of a single endpoint (breaker.rs:6). -/
structure EndpointState where
  consecutiveFailures : Nat
  totalRequests : Nat
  totalFailures : Nat
  bannedUntil : Option Nat
  lastErrorCode : Nat
deriving DecidableEq, Repr

/-- What `ensure` inserts. -/
def EndpointState.fresh : EndpointState where
  consecutiveFailures := 0
  totalRequests := 0
  totalFailures := 0
  bannedUntil := none
  lastErrorCode := 0

inductive FailPattern where
  | range (min max : Nat)
  | exact (code : Nat)
deriving DecidableEq, Repr

def FailPattern.covers : FailPattern → Nat → Bool
  | .range min max, status => min ≤ status && status ≤ max
  | .exact code, status => status == code

structure Fail2ban where
  states : KeyMap String EndpointState
  maxFailures : Nat
  banDuration : Nat
  errorThreshold : Rat
  failPatterns : List FailPattern

/-- The counters after a success. -/
def EndpointState.succeeded (state : EndpointState) : EndpointState :=
  { state with totalRequests := (state.totalRequests + 1) % 2 ^ 64, consecutiveFailures := 0 }

/-- The counters after a failure. -/
def EndpointState.failed (state : EndpointState) (statusCode : Nat) : EndpointState :=
  { state with
    totalRequests := (state.totalRequests + 1) % 2 ^ 64
    totalFailures := (state.totalFailures + 1) % 2 ^ 64
    lastErrorCode := statusCode
    consecutiveFailures := (state.consecutiveFailures + 1) % 2 ^ 32 }

def EndpointState.bannedFor (state : EndpointState) (until_ : Nat) : EndpointState :=
  { state with bannedUntil := some until_ }

def EndpointState.unbanned (state : EndpointState) : EndpointState :=
  { state with consecutiveFailures := 0, bannedUntil := none }

/-- The ban condition on the counters just written: too many failures in a row, or an error
rate over the threshold. -/
def EndpointState.overLimit (state : EndpointState) (maxFailures : Nat) (errorThreshold : Rat) : Bool :=
  decide (maxFailures ≤ state.consecutiveFailures) ||
    (decide (10 ≤ state.totalRequests) &&
      decide (errorThreshold < (state.totalFailures : Rat) / (state.totalRequests : Rat)))

/-! ## Pattern parsing -/

/-- The characters `str::trim` removes (Unicode `White_Space`). -/
def isWhiteSpace (c : Char) : Bool :=
  let n := c.toNat
  (9 ≤ n && n ≤ 13) || (0x2000 ≤ n && n ≤ 0x200A) ||
    [0x20, 0x85, 0xA0, 0x1680, 0x2028, 0x2029, 0x202F, 0x205F, 0x3000].contains n

def trim (s : List Char) : List Char :=
  ((s.dropWhile isWhiteSpace).reverse.dropWhile isWhiteSpace).reverse

/-- `s.parse::<u16>()`: digits after an optional `+`, within range. -/
def parseU16 (s : List Char) : Option Nat :=
  let digits := match s with
    | '+' :: ds => ds
    | ds => ds
  if digits.isEmpty then none
  else if digits.all Char.isDigit then
    let n := digits.foldl (fun acc c => acc * 10 + (c.toNat - '0'.toNat)) 0
    if n < 2 ^ 16 then some n else none
  else none

def parseFailPattern (code : String) : Option FailPattern :=
  let s := trim code.toList
  if s.map Char.toLower = ['5', 'x', 'x'] then some (.range 500 599)
  else if s.map Char.toLower = ['4', 'x', 'x'] then some (.range 400 499)
  else (parseU16 s).map .exact

def parseFailPatterns (codes : List String) : List FailPattern := codes.filterMap parseFailPattern

namespace Fail2ban

def new (maxFailures banDurationSecs : Nat) (errorThresholdPct : Rat)
    (failStatusCodes : List String) : Fail2ban where
  states := ∅
  maxFailures := maxFailures
  banDuration := banDurationSecs * 10 ^ 9
  errorThreshold := errorThresholdPct
  failPatterns := parseFailPatterns failStatusCodes

def isBanned (fb : Fail2ban) (endpointKey : String) (now : Nat) : Fail2ban × Bool :=
  match fb.states.lookup endpointKey with
  | none => (fb, false)
  | some state =>
    match state.bannedUntil with
    | none => (fb, false)
    | some until_ =>
      if now < until_ then (fb, true)
      else
        -- expired: reset
        ({ fb with states := fb.states.insert endpointKey state.unbanned }, false)

def isFailStatus (fb : Fail2ban) (status : Nat) : Bool := fb.failPatterns.any (·.covers status)

def recordSuccess (fb : Fail2ban) (endpointKey : String) : Fail2ban :=
  { fb with states := fb.states.upsert endpointKey .fresh (·.succeeded) }

/-- Record an error; the flag says whether the endpoint was banned on it. This is the function where the deadline is an
`Instant` (`recordFailureOrPanic` has the other case). -/
def recordFailureWithCode (fb : Fail2ban) (endpointKey : String) (statusCode now : Nat) :
    Fail2ban × Bool :=
  let state := ((fb.states.lookup endpointKey).getD .fresh).failed statusCode
  if state.overLimit fb.maxFailures fb.errorThreshold then
    ({ fb with states := fb.states.insert endpointKey (state.bannedFor (now + fb.banDuration)) }, true)
  else ({ fb with states := fb.states.insert endpointKey state }, false)

/-- `Instant + Duration`: the seconds of an `Instant` are an `i64`. -/
def instantAdd (now duration : Nat) : Except Panic Nat :=
  if now + duration < 2 ^ 63 * 10 ^ 9 then .ok (now + duration) else .error .instantOverflow

/-- The counters are written before the deadline is computed, and the ban after it. -/
def recordFailureOrPanic (fb : Fail2ban) (endpointKey : String) (statusCode now : Nat) :
    Fail2ban × Except Panic Bool :=
  let state := ((fb.states.lookup endpointKey).getD .fresh).failed statusCode
  if state.overLimit fb.maxFailures fb.errorThreshold then
    match instantAdd now fb.banDuration with
    | .ok until_ => ({ fb with states := fb.states.insert endpointKey (state.bannedFor until_) }, .ok true)
    | .error p => ({ fb with states := fb.states.insert endpointKey state }, .error p)
  else ({ fb with states := fb.states.insert endpointKey state }, .ok false)

def recordFailure (fb : Fail2ban) (endpointKey : String) (now : Nat) : Fail2ban × Bool :=
  fb.recordFailureWithCode endpointKey 0 now

def reset (fb : Fail2ban) (endpointKey : String) : Fail2ban :=
  { fb with states := fb.states.adjust endpointKey (·.unbanned) }

end Fail2ban

/-- Banned and not run out: `guard.map(|u| Instant::now() < u).unwrap_or(false)`. -/
def EndpointState.bannedNow (state : EndpointState) (now : Nat) : Bool := state.bannedUntil.any (decide <| now < ·)

namespace Fail2ban

/-- The entries that are banned now, as the gauge has them. -/
def bannedCount (fb : Fail2ban) (now : Nat) : Int :=
  ((fb.states.entries.countP (·.2.bannedNow now) : Nat) : Int).bmod (2 ^ 64)

def banReason (fb : Fail2ban) (endpointKey : String) (now : Nat) : Option String :=
  match fb.states.lookup endpointKey with
  | none => none
  | some state =>
    if state.bannedNow now then
      some (if state.lastErrorCode = 0 then "network error" else "HTTP " ++ toString state.lastErrorCode)
    else none

/-! ## What the operations leave alone -/

variable (fb : Fail2ban) {k k' : String} (status now : Nat)

/-- The failure counter of an endpoint. -/
def failures (k : String) : Nat := ((fb.states.lookup k).map (·.totalFailures)).getD 0

theorem isBanned_patterns : (fb.isBanned k now).1.failPatterns = fb.failPatterns := by
  unfold isBanned
  split
  · rfl
  · split
    · rfl
    · split <;> rfl

@[simp] theorem recordSuccess_patterns : (fb.recordSuccess k).failPatterns = fb.failPatterns := rfl

@[simp] theorem recordFailureWithCode_patterns :
    (fb.recordFailureWithCode k status now).1.failPatterns = fb.failPatterns := by
  unfold recordFailureWithCode
  dsimp only
  split <;> rfl

@[simp] theorem reset_patterns : (fb.reset k).failPatterns = fb.failPatterns := rfl

theorem isBanned_lookup_ne (h : k' ≠ k) :
    (fb.isBanned k now).1.states.lookup k' = fb.states.lookup k' := by
  unfold isBanned
  split
  · rfl
  · split
    · rfl
    · split
      · rfl
      · exact AList.lookup_insert_ne h

theorem recordSuccess_lookup_ne (h : k' ≠ k) :
    (fb.recordSuccess k).states.lookup k' = fb.states.lookup k' := KeyMap.lookup_upsert_ne _ _ _ h

theorem recordFailureWithCode_lookup_ne (h : k' ≠ k) :
    (fb.recordFailureWithCode k status now).1.states.lookup k' = fb.states.lookup k' := by
  unfold recordFailureWithCode
  dsimp only
  split
  · exact AList.lookup_insert_ne h
  · exact AList.lookup_insert_ne h

theorem reset_lookup_ne (h : k' ≠ k) :
    (fb.reset k).states.lookup k' = fb.states.lookup k' := KeyMap.lookup_adjust_ne _ _ h

/-! ## What they do to the entry itself -/

/-- A deadline that an `Instant` can hold is no panic. -/
theorem recordFailureOrPanic_of_fits (h : now + fb.banDuration < 2 ^ 63 * 10 ^ 9) :
    fb.recordFailureOrPanic k status now
      = ((fb.recordFailureWithCode k status now).1, .ok (fb.recordFailureWithCode k status now).2) := by
  unfold recordFailureOrPanic recordFailureWithCode instantAdd
  dsimp only
  rw [if_pos h]
  split <;> rfl

/-- Any other is one, if the failure calls for a ban; then there is no ban. -/
theorem recordFailureOrPanic_of_overflow (h : 2 ^ 63 * 10 ^ 9 ≤ now + fb.banDuration)
    (hover : (((fb.states.lookup k).getD .fresh).failed status).overLimit fb.maxFailures fb.errorThreshold = true) :
    (fb.recordFailureOrPanic k status now).2 = .error .instantOverflow ∧
      ((fb.recordFailureOrPanic k status now).1.states.lookup k).bind (·.bannedUntil)
        = (fb.states.lookup k).bind (·.bannedUntil) := by
  unfold recordFailureOrPanic instantAdd
  dsimp only
  rw [if_pos hover, if_neg (Nat.not_lt.2 h)]
  refine ⟨rfl, ?_⟩
  dsimp only
  rw [AList.lookup_insert]
  cases fb.states.lookup k <;> rfl

/-- A failure is counted, whatever the code. -/
theorem recordFailureWithCode_failures :
    (fb.recordFailureWithCode k status now).1.failures k = (fb.failures k + 1) % 2 ^ 64 := by
  have hf : (((fb.states.lookup k).getD .fresh).failed status).totalFailures
      = (fb.failures k + 1) % 2 ^ 64 := by
    unfold failures EndpointState.failed
    cases fb.states.lookup k <;> rfl
  rw [← hf]
  unfold recordFailureWithCode
  dsimp only
  split <;> simp [failures, EndpointState.bannedFor]

theorem recordFailureWithCode_lastErrorCode :
    ((fb.recordFailureWithCode k status now).1.states.lookup k).map (·.lastErrorCode) = some status := by
  unfold recordFailureWithCode
  dsimp only
  split <;> simp [EndpointState.bannedFor, EndpointState.failed]

theorem recordSuccess_failures : (fb.recordSuccess k).failures k = fb.failures k := by
  unfold failures recordSuccess
  rw [KeyMap.lookup_upsert_self]
  cases fb.states.lookup k <;> rfl

theorem isBanned_failures : (fb.isBanned k now).1.failures k' = fb.failures k' := by
  by_cases hk : k' = k
  · subst hk
    unfold isBanned
    split
    · rfl
    · rename_i state hstate
      split
      · rfl
      · split
        · rfl
        · simp [failures, hstate, EndpointState.unbanned]
  · unfold failures
    rw [isBanned_lookup_ne fb now hk]

theorem reset_failures : (fb.reset k).failures k' = fb.failures k' := by
  by_cases hk : k' = k
  · subst hk
    unfold failures reset
    rw [KeyMap.lookup_adjust_self]
    cases fb.states.lookup k' <;> rfl
  · unfold failures
    rw [reset_lookup_ne fb hk]

/-- Only a recorded failure sets a ban: a banned endpoint was banned before the other
operations. -/
theorem recordSuccess_bannedUntil :
    ((fb.recordSuccess k).states.lookup k').bind (·.bannedUntil)
      = (fb.states.lookup k').bind (·.bannedUntil) := by
  by_cases hk : k' = k
  · subst hk
    unfold recordSuccess
    rw [KeyMap.lookup_upsert_self]
    cases fb.states.lookup k' <;> rfl
  · rw [recordSuccess_lookup_ne fb hk]

/-- An unexpired entry reports banned and is not touched. -/
theorem isBanned_of_until {state : EndpointState} {until_ : Nat}
    (hs : fb.states.lookup k = some state) (hu : state.bannedUntil = some until_)
    (hlt : now < until_) : fb.isBanned k now = (fb, true) := by
  simp only [isBanned, hs, hu, if_pos hlt]

theorem isBanned_unknown (hs : fb.states.lookup k = none) : fb.isBanned k now = (fb, false) := by
  simp only [isBanned, hs]

end Fail2ban

end AiRouter
