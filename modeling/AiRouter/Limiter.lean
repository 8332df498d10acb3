import Mathlib.Algebra.Order.Ring.Rat
import AiRouter.Lib.Gcra
import AiRouter.Lib.KeyMap

/-
# RPM and TPM budgets: `ratelimit/limiter.rs`

| here | there |
| --- | --- |
| `TpmLimiter`, `refill`, `checkN`, `consumeN`, `windowRemaining` | limiter.rs:32-136 |
| `RateLimitPair`                       | limiter.rs:142; the keyed governor limiter holds one key |
| `RateLimiterStore.getOrCreate`        | `get_or_create` (limiter.rs:187) |
| `RateLimiterStore.check`              | `check` (limiter.rs:195) |
| `RateLimiterStore.consumeTpm`         | `consume_tpm` (limiter.rs:242) |
| `RateLimiterStore.getTpmState`        | `get_tpm_state` (limiter.rs:255) |

Instants are nanoseconds and one clock serves `Instant` and `unix_now`. governor's limiter with
`Quota::per_minute(r)` is a GCRA with burst `r` and a cell every `60/r` seconds: time is scaled
by `r`, so that the emission interval is the integer `perMinute`. Sums in `i64` wrap.
-/
namespace AiRouter

/-- `x as i64` -/
def asI64 (x : Int) : Int := x.bmod (2 ^ 64)

theorem asI64_of_fits {x : Int} (hlo : -(2 ^ 63) ≤ x) (hhi : x < 2 ^ 63) : asI64 x = x := by
  unfold asI64
  apply Int.bmod_eq_of_le <;> omega

/-- `saturating_add` on `u64` -/
def satAddU64 (a b : Nat) : Nat := min (a + b) (2 ^ 64 - 1)

/-- `saturating_sub` on `i64` -/
def satSubI64 (a b : Int) : Int := max (-(2 ^ 63)) (min (2 ^ 63 - 1) (a - b))

inductive RateLimitScope where
  | token
  | endpoint
deriving DecidableEq, Repr

structure RateLimitResult where
  allowed : Bool
  /-- Limit (RPM or TPM) that was exceeded. 0 = unlimited. -/
  limit : Nat
  resetAfterSecs : Rat
  scope : RateLimitScope
deriving DecidableEq, Repr

/-! ## The token bucket -/

structure TpmState where
  tokens : Int
  lastUpdate : Nat
  windowStart : Nat
  windowConsumed : Nat
deriving DecidableEq, Repr

structure TpmLimiter where
  capacity : Nat
  state : TpmState
deriving DecidableEq, Repr

namespace TpmLimiter

def new (capacity now : Nat) : TpmLimiter where
  capacity := capacity
  state := { tokens := asI64 (max capacity 1), lastUpdate := now, windowStart := now, windowConsumed := 0 }

/-- Refill proportionally to the elapsed milliseconds; nothing is written below one token. -/
def refill (s : TpmState) (capacity now : Nat) : TpmState :=
  let elapsedMs := (now - s.lastUpdate) / 1000000 % 2 ^ 64
  let add := asI64 ((elapsedMs * capacity / 60000 : Nat) : Int)
  if 0 < elapsedMs ∧ 0 < add then
    { s with tokens := min (asI64 (s.tokens + add)) (asI64 capacity), lastUpdate := now }
  else s

/-- The 60 s window of the statistics, `n` tokens later. -/
def track (s : TpmState) (n now : Nat) : TpmState :=
  if 60 * 10 ^ 9 < now - s.windowStart then { s with windowStart := now, windowConsumed := n }
  else { s with windowConsumed := satAddU64 s.windowConsumed n }

/-- Check and deduct `n` tokens; a refusal carries the wait in seconds. -/
def checkN (l : TpmLimiter) (n now : Nat) : TpmLimiter × Except Rat Unit :=
  let s := refill l.state l.capacity now
  if asI64 n ≤ s.tokens then
    ({ l with state := track { s with tokens := asI64 (s.tokens - asI64 n) } n now }, .ok ())
  else
    let deficit := asI64 (asI64 n - s.tokens)
    ({ l with state := s },
      .error (if 0 < l.capacity then (deficit : Rat) * 60 / (l.capacity : Rat) else 60))

/-- Post-factum deduction; the balance may go negative. -/
def consumeN (l : TpmLimiter) (n now : Nat) : TpmLimiter :=
  let s := refill l.state l.capacity now
  { l with state := track { s with tokens := asI64 (s.tokens - asI64 n) } n now }

/-- `remaining`: the balance after a refill. -/
def remaining (l : TpmLimiter) (now : Nat) : Int := (refill l.state l.capacity now).tokens

/-- Capacity less what the current window consumed; expires the window. -/
def windowRemaining (l : TpmLimiter) (now : Nat) : TpmLimiter × Int :=
  let s := if 60 * 10 ^ 9 < now - l.state.windowStart then
    { l.state with windowStart := now, windowConsumed := 0 } else l.state
  ({ l with state := s }, satSubI64 (asI64 l.capacity) (asI64 s.windowConsumed))

@[simp] theorem track_tokens (s : TpmState) (n now : Nat) : (track s n now).tokens = s.tokens := by
  unfold track
  split <;> rfl

@[simp] theorem track_lastUpdate (s : TpmState) (n now : Nat) : (track s n now).lastUpdate = s.lastUpdate := by
  unfold track
  split <;> rfl

variable (l : TpmLimiter) (n now : Nat)

theorem checkN_capacity : (l.checkN n now).1.capacity = l.capacity := by
  unfold checkN
  dsimp only
  split <;> rfl

theorem consumeN_capacity : (l.consumeN n now).capacity = l.capacity := rfl

theorem windowRemaining_capacity : (l.windowRemaining now).1.capacity = l.capacity := rfl

end TpmLimiter

/-! ## Pairs of limiters -/

/-- One minute in nanoseconds: the emission interval on a clock that runs `r` times as fast. -/
def perMinute : Nat := 60 * 10 ^ 9

structure RateLimitPair where
  /-- The quota's cells per minute, at least 1. -/
  rpm : Nat
  /-- The GCRA state, on the clock scaled by `rpm`. -/
  tat : Option Nat
  tpm : TpmLimiter
  lastUsed : Nat
deriving DecidableEq, Repr

def quotaPerMinute (r : Nat) : Gcra.Quota where
  emission := perMinute
  burst := r

namespace RateLimitPair

/-- `RateLimitPair::new`: an RPM of 0 becomes the quota of 1. -/
def new (rpm tpm now : Nat) : RateLimitPair where
  rpm := if 0 < rpm then rpm else 1
  tat := none
  tpm := .new tpm now
  lastUsed := now / 10 ^ 9

def touch (p : RateLimitPair) (now : Nat) : RateLimitPair := { p with lastUsed := now / 10 ^ 9 }

/-- `rpm.check_key`: the verdict, or the wait in seconds. -/
def checkRpm (p : RateLimitPair) (now : Nat) : RateLimitPair × Except Rat Unit :=
  let c := (quotaPerMinute p.rpm).check p.tat (p.rpm * now)
  if c.2 then ({ p with tat := c.1 }, .ok ())
  else
    let wait := (quotaPerMinute p.rpm).wait p.tat (p.rpm * now)
    (p, .error ((wait : Rat) / ((p.rpm * 10 ^ 9 : Nat) : Rat)))

/-- The verdict and the mark of the cell the pair's quota sees. -/
theorem checkRpm_spec (p : RateLimitPair) (now : Nat) :
    (p.checkRpm now).1 = { p with tat := ((quotaPerMinute p.rpm).check p.tat (p.rpm * now)).1 } ∧
      (p.checkRpm now).2.isOk = ((quotaPerMinute p.rpm).check p.tat (p.rpm * now)).2 := by
  unfold checkRpm
  dsimp only
  split
  · rename_i h
    exact ⟨rfl, h.symm⟩
  · rename_i h
    have hrej : ((quotaPerMinute p.rpm).check p.tat (p.rpm * now)).2 = false := by simpa using h
    exact ⟨by rw [Gcra.check_rejected hrej], hrej.symm⟩

@[simp] theorem touch_tpm (p : RateLimitPair) (now : Nat) : (p.touch now).tpm = p.tpm := rfl

@[simp] theorem checkRpm_tpm (p : RateLimitPair) (now : Nat) : (p.checkRpm now).1.tpm = p.tpm := by
  rw [(checkRpm_spec p now).1]

end RateLimitPair

/-- The store: one pair for each key. -/
structure RateLimiterStore where
  limiters : KeyMap String RateLimitPair

namespace RateLimiterStore

/-- The pair of `key`; created with these limits when there is none. -/
def getOrCreate (s : RateLimiterStore) (key : String) (rpm tpm now : Nat) : RateLimitPair :=
  (s.limiters.lookup key).getD (.new rpm tpm now)

def put (s : RateLimiterStore) (key : String) (p : RateLimitPair) : RateLimiterStore :=
  { limiters := s.limiters.insert key p }

/-- The RPM half of `check`. -/
def checkRpm (s : RateLimiterStore) (key : String) (rpm tpm now : Nat) :
    RateLimiterStore × Except Rat Unit :=
  if 0 < rpm then
    let c := ((s.getOrCreate key rpm tpm now).touch now).checkRpm now
    (s.put key c.1, c.2)
  else (s, .ok ())

/-- The TPM half of `check`. -/
def checkTpm (s : RateLimiterStore) (key : String) (rpm tpm estimatedTokens now : Nat) :
    RateLimiterStore × Except Rat Unit :=
  if 0 < tpm ∧ 0 < estimatedTokens then
    let pair := (s.getOrCreate key rpm tpm now).touch now
    let c := pair.tpm.checkN estimatedTokens now
    (s.put key { pair with tpm := c.1 }, c.2)
  else (s, .ok ())

/-- Check RPM, then TPM. -/
def check (s : RateLimiterStore) (key : String) (rpm tpm estimatedTokens : Nat)
    (scope : RateLimitScope) (now : Nat) : RateLimiterStore × RateLimitResult :=
  match s.checkRpm key rpm tpm now with
  | (s, .error wait) =>
    (s, { allowed := false, limit := rpm, resetAfterSecs := wait, scope := scope })
  | (s, .ok ()) =>
    match s.checkTpm key rpm tpm estimatedTokens now with
    | (s, .error wait) =>
      (s, { allowed := false, limit := tpm, resetAfterSecs := wait, scope := scope })
    | (s, .ok ()) =>
      (s, { allowed := true, limit := if 0 < rpm then rpm else tpm, resetAfterSecs := 0, scope := scope })

def consumeTpm (s : RateLimiterStore) (key : String) (tpm tokens now : Nat) : RateLimiterStore :=
  if tpm = 0 ∨ tokens = 0 then s
  else
    let pair := (s.getOrCreate key 0 tpm now).touch now
    s.put key { pair with tpm := pair.tpm.consumeN tokens now }

/-- Current TPM state: limit and remaining. -/
def getTpmState (s : RateLimiterStore) (key : String) (tpm now : Nat) : RateLimiterStore × Nat × Int :=
  if tpm = 0 then (s, 0, 0)
  else
    let pair := s.getOrCreate key 0 tpm now
    let w := pair.tpm.windowRemaining now
    (s.put key { pair with tpm := w.1 }, tpm, w.2)

/-! ## Frame -/

variable (s : RateLimiterStore) {k k' : String}

@[simp] theorem put_lookup_self (p : RateLimitPair) : (s.put k p).limiters.lookup k = some p :=
  AList.lookup_insert _

theorem put_lookup_ne (p : RateLimitPair) (h : k' ≠ k) :
    (s.put k p).limiters.lookup k' = s.limiters.lookup k' := AList.lookup_insert_ne h

theorem checkRpm_lookup_ne (rpm tpm now : Nat) (h : k' ≠ k) :
    (s.checkRpm k rpm tpm now).1.limiters.lookup k' = s.limiters.lookup k' := by
  unfold checkRpm
  split
  · exact put_lookup_ne _ _ h
  · rfl

theorem checkTpm_lookup_ne (rpm tpm n now : Nat) (h : k' ≠ k) :
    (s.checkTpm k rpm tpm n now).1.limiters.lookup k' = s.limiters.lookup k' := by
  unfold checkTpm
  split
  · exact put_lookup_ne _ _ h
  · rfl

/-- `check` is its two halves, the second only after the first has passed. -/
theorem check_fst (rpm tpm n now : Nat) (scope : RateLimitScope) :
    (s.check k rpm tpm n scope now).1 =
      match (s.checkRpm k rpm tpm now).2 with
      | .error _ => (s.checkRpm k rpm tpm now).1
      | .ok () => ((s.checkRpm k rpm tpm now).1.checkTpm k rpm tpm n now).1 := by
  unfold check
  rcases s.checkRpm k rpm tpm now with ⟨s1, _ | _⟩
  · rfl
  · dsimp only
    rcases s1.checkTpm k rpm tpm n now with ⟨s2, _ | _⟩ <;> rfl

theorem check_allowed (rpm tpm n now : Nat) (scope : RateLimitScope) :
    (s.check k rpm tpm n scope now).2.allowed = true ↔
      (s.checkRpm k rpm tpm now).2 = .ok () ∧
        ((s.checkRpm k rpm tpm now).1.checkTpm k rpm tpm n now).2 = .ok () := by
  unfold check
  rcases s.checkRpm k rpm tpm now with ⟨s1, _ | _⟩
  · simp
  · dsimp only
    rcases s1.checkTpm k rpm tpm n now with ⟨s2, _ | _⟩ <;> simp

/-- A check touches no other key. -/
theorem check_lookup_ne (rpm tpm n now : Nat) (scope : RateLimitScope) (h : k' ≠ k) :
    (s.check k rpm tpm n scope now).1.limiters.lookup k' = s.limiters.lookup k' := by
  rw [check_fst]
  split
  · exact checkRpm_lookup_ne s rpm tpm now h
  · rw [checkTpm_lookup_ne _ rpm tpm n now h, checkRpm_lookup_ne s rpm tpm now h]

theorem consumeTpm_lookup_ne (tpm n now : Nat) (h : k' ≠ k) :
    (s.consumeTpm k tpm n now).limiters.lookup k' = s.limiters.lookup k' := by
  unfold consumeTpm
  split
  · rfl
  · exact put_lookup_ne _ _ h

theorem getTpmState_lookup_ne (tpm now : Nat) (h : k' ≠ k) :
    (s.getTpmState k tpm now).1.limiters.lookup k' = s.limiters.lookup k' := by
  unfold getTpmState
  split
  · rfl
  · exact put_lookup_ne _ _ h

/-! ## What an operation depends on -/

section
variable {s t : RateLimiterStore} {k : String}

/-- Two stores that hold the same under `k` create the same pair. -/
theorem getOrCreate_congr (h : s.limiters.lookup k = t.limiters.lookup k) (rpm tpm now : Nat) :
    s.getOrCreate k rpm tpm now = t.getOrCreate k rpm tpm now := by
  unfold getOrCreate
  rw [h]

theorem checkRpm_congr (h : s.limiters.lookup k = t.limiters.lookup k) (rpm tpm now : Nat) :
    (s.checkRpm k rpm tpm now).1.limiters.lookup k = (t.checkRpm k rpm tpm now).1.limiters.lookup k ∧
      (s.checkRpm k rpm tpm now).2 = (t.checkRpm k rpm tpm now).2 := by
  unfold checkRpm
  dsimp only
  rw [getOrCreate_congr h]
  split
  · exact ⟨by rw [put_lookup_self, put_lookup_self], rfl⟩
  · exact ⟨h, rfl⟩

theorem checkTpm_congr (h : s.limiters.lookup k = t.limiters.lookup k) (rpm tpm n now : Nat) :
    (s.checkTpm k rpm tpm n now).1.limiters.lookup k = (t.checkTpm k rpm tpm n now).1.limiters.lookup k ∧
      (s.checkTpm k rpm tpm n now).2 = (t.checkTpm k rpm tpm n now).2 := by
  unfold checkTpm
  dsimp only
  rw [getOrCreate_congr h]
  split
  · exact ⟨by rw [put_lookup_self, put_lookup_self], rfl⟩
  · exact ⟨h, rfl⟩

/-- **A check** depends on its own entry, and so does what it leaves there. -/
theorem check_congr (h : s.limiters.lookup k = t.limiters.lookup k) (rpm tpm n now : Nat) (scope : RateLimitScope) :
    (s.check k rpm tpm n scope now).1.limiters.lookup k = (t.check k rpm tpm n scope now).1.limiters.lookup k ∧
      (s.check k rpm tpm n scope now).2 = (t.check k rpm tpm n scope now).2 := by
  obtain ⟨hrpm, hverdict⟩ := checkRpm_congr h rpm tpm now
  unfold check
  generalize s.checkRpm k rpm tpm now = first at hrpm hverdict
  generalize t.checkRpm k rpm tpm now = first' at hrpm hverdict
  obtain ⟨s₁, v⟩ := first
  obtain ⟨t₁, v'⟩ := first'
  cases (show v = v' from hverdict)
  cases v with
  | error wait => exact ⟨hrpm, rfl⟩
  | ok _ =>
    obtain ⟨htpm, hverdict'⟩ := checkTpm_congr hrpm rpm tpm n now
    dsimp only
    generalize s₁.checkTpm k rpm tpm n now = second at htpm hverdict'
    generalize t₁.checkTpm k rpm tpm n now = second' at htpm hverdict'
    obtain ⟨s₂, w⟩ := second
    obtain ⟨t₂, w'⟩ := second'
    cases (show w = w' from hverdict')
    cases w with
    | error wait => exact ⟨htpm, rfl⟩
    | ok _ => exact ⟨htpm, rfl⟩

theorem consumeTpm_congr (h : s.limiters.lookup k = t.limiters.lookup k) (tpm n now : Nat) :
    (s.consumeTpm k tpm n now).limiters.lookup k = (t.consumeTpm k tpm n now).limiters.lookup k := by
  unfold consumeTpm
  split
  · exact h
  · dsimp only
    rw [getOrCreate_congr h, put_lookup_self, put_lookup_self]

theorem getTpmState_congr (h : s.limiters.lookup k = t.limiters.lookup k) (tpm now : Nat) :
    (s.getTpmState k tpm now).1.limiters.lookup k = (t.getTpmState k tpm now).1.limiters.lookup k ∧
      (s.getTpmState k tpm now).2 = (t.getTpmState k tpm now).2 := by
  unfold getTpmState
  split
  · exact ⟨h, rfl⟩
  · dsimp only
    rw [getOrCreate_congr h]
    exact ⟨by rw [put_lookup_self, put_lookup_self], rfl⟩

end

/-! ## What a bucket loses -/

/-- The balance an operation on `key` finds: refilled up to `now`, and full where there is no
entry yet. -/
def balance (s : RateLimiterStore) (key : String) (rpm tpm now : Nat) : Int :=
  (s.getOrCreate key rpm tpm now).tpm.remaining now

/-- The stored balance. -/
def tokens (s : RateLimiterStore) (key : String) : Option Int :=
  (s.limiters.lookup key).map (·.tpm.state.tokens)

theorem checkRpm_tpm (rpm tpm now : Nat) :
    ((s.checkRpm k rpm tpm now).1.getOrCreate k rpm tpm now).tpm = (s.getOrCreate k rpm tpm now).tpm := by
  unfold checkRpm
  split
  · simp only [getOrCreate, put_lookup_self, Option.getD_some, RateLimitPair.checkRpm_tpm,
      RateLimitPair.touch_tpm]
  · rfl

/-- An admitted check takes its estimate from the bucket. -/
theorem check_takes {rpm tpm n now : Nat} {scope : RateLimitScope} (htpm : 0 < tpm) (hn : 0 < n)
    (h : (s.check k rpm tpm n scope now).2.allowed = true) :
    (s.check k rpm tpm n scope now).1.tokens k = some (asI64 (s.balance k rpm tpm now - asI64 n)) := by
  obtain ⟨hrpm, htok⟩ := (check_allowed s rpm tpm n now scope).1 h
  rw [check_fst, hrpm]
  dsimp only
  have hbal : s.balance k rpm tpm now
      = (s.checkRpm k rpm tpm now).1.balance k rpm tpm now := by
    unfold balance; rw [checkRpm_tpm]
  rw [hbal]
  simp only [checkTpm, htpm, hn, and_self, if_true, TpmLimiter.checkN] at htok ⊢
  split at htok
  · rename_i hle
    rw [if_pos hle]
    simp [tokens, balance, TpmLimiter.remaining, RateLimitPair.touch]
  · cases htok

/-- A charge takes its tokens whatever the balance. -/
theorem consumeTpm_takes {tpm n now : Nat} (htpm : 0 < tpm) (hn : 0 < n) :
    (s.consumeTpm k tpm n now).tokens k = some (asI64 (s.balance k 0 tpm now - asI64 n)) := by
  unfold consumeTpm
  rw [if_neg (by omega)]
  simp [tokens, balance, TpmLimiter.remaining, RateLimitPair.touch, TpmLimiter.consumeN]

end RateLimiterStore

end AiRouter
