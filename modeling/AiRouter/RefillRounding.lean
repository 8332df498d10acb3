import AiRouter.TpmHistory
import Mathlib.Algebra.Order.Field.Basic
import Mathlib.Tactic.NormNum
import Mathlib.Tactic.Ring

/-
# What the roundings of `refill` cost (limiter.rs:60-71)

`refill` counts whole milliseconds and credits whole tokens. Each look that credits something moves
`last_update` to the time of the look and forgets the rest; and the wait that a rejected `check_n` is
given is exact, so that it may end inside the millisecond that completes the deficit.
-/
namespace AiRouter

namespace TpmLimiter

/-! ## Probes -/

/-- A call that only looks: `remaining`, or a `check_n` that is rejected. -/
def Probes (l : TpmLimiter) (c : Call) : Prop :=
  match c.op with
  | .checkN n => (l.checkN n c.now).2.isOk = false
  | .remaining => True
  | _ => False

instance (l : TpmLimiter) (c : Call) : Decidable (l.Probes c) :=
  match h : c.op with
  | .checkN n => decidable_of_iff ((l.checkN n c.now).2.isOk = false) (by simp [Probes, h])
  | .consumeN _ => isFalse (by simp [Probes, h])
  | .remaining => isTrue (by simp [Probes, h])
  | .windowRemaining => isFalse (by simp [Probes, h])

theorem Probes.call_bucket {l : TpmLimiter} {c : Call} (h : l.Probes c) (hfits : l.Fits c) :
    (l.call c).bucket = (plan l.capacity).refill l.bucket c.now := by
  obtain ⟨now, op⟩ := c
  cases op with
  | checkN n =>
    obtain ⟨hok, hafter⟩ := checkN_exact hfits
    have hrejected : (l.checkN n now).2.isOk = false := h
    rw [hrejected] at hok
    rw [← hok] at hafter
    exact hafter
  | consumeN n => exact absurd h id
  | remaining => exact hfits.refilled
  | windowRemaining => exact absurd h id

/-- **Run**: probes are looks. -/
theorem probes_bucket (probes : List Call) : ∀ l : TpmLimiter, Steps.Every call Probes l probes →
    Steps.Every call Fits l probes →
    (Steps.run call l probes).bucket = (plan l.capacity).looks l.bucket (probes.map (·.now)) ∧
      (Steps.run call l probes).capacity = l.capacity := by
  induction probes with
  | nil => exact fun l _ _ => ⟨rfl, rfl⟩
  | cons c probes ih =>
    intro l hprobes hfits
    obtain ⟨hbucket, hcapacity⟩ := ih (l.call c) hprobes.2 hfits.2
    rw [call_capacity, hprobes.1.call_bucket hfits.1] at hbucket
    exact ⟨hbucket, hcapacity.trans (call_capacity l c)⟩

/-- The balance after the probes is the one without them, and grows linearly. -/
def Linear (l : TpmLimiter) (probes : List Call) (final : Nat) : Prop :=
  (Steps.run call l probes).remaining final = l.remaining final ∧
    l.remaining final = min (l.state.tokens +
      (l.capacity * ((final - l.state.lastUpdate) / 1000000) / 60000 : Nat)) l.capacity

/-- The whole tokens that the probes and the last look credit. -/
def creditedAt (l : TpmLimiter) (probes : List Call) (final : Nat) : Nat :=
  (plan l.capacity).credited l.state.lastUpdate (probes.map (·.now) ++ [final])

/-- **Refill does not depend on the probes** exactly where what their roundings cut off stays below a whole
token, or where the bucket gets full all the same. -/
theorem linear_iff {l : TpmLimiter} {probes : List Call} {final : Nat}
    (htimes : (l.state.lastUpdate :: (probes.map (·.now) ++ [final])).Pairwise (· ≤ ·))
    (hprobes : Steps.Every call Probes l probes) (hfits : Steps.Every call Fits l probes)
    (hlast : (Steps.run call l probes).Fits { now := final, op := .remaining })
    (halone : l.Fits { now := final, op := .remaining }) :
    l.Linear probes final ↔
      (l.creditedAt probes final = 0 → l.state.tokens ≤ l.capacity) ∧
        (l.capacity * ((final - l.state.lastUpdate) / 1000000) / 60000 ≤ l.creditedAt probes final ∨
          l.capacity ≤ l.state.tokens + l.creditedAt probes final) := by
  obtain ⟨hbucket, hcapacity⟩ := probes_bucket probes l hprobes hfits
  have hprobed : (Steps.run call l probes).remaining final
      = ((plan l.capacity).looks l.bucket (probes.map (·.now) ++ [final])).level := by
    have hlevel := hlast.level_last.1
    rw [hbucket, hcapacity] at hlevel
    simp only [TokenBucket.Plan.looks, List.foldl_append, List.foldl_cons, List.foldl_nil] at hlevel ⊢
    rw [← hlevel, ← hcapacity]
    rfl
  have hdirect : l.remaining final = ((plan l.capacity).refill l.bucket final).level := halone.level_last.1
  have hearned : l.capacity * ((final - l.state.lastUpdate) / 1000000) / 60000
      = (plan l.capacity).earned (final - l.state.lastUpdate) := by
    rw [Nat.mul_comm]
    rfl
  unfold Linear creditedAt
  rw [hprobed, hdirect, hearned]
  exact TokenBucket.Plan.looks_linear_iff (p := plan l.capacity) (b := l.bucket) htimes

/-- An empty bucket of this capacity. -/
def empty (capacity : Nat) : TpmLimiter where
  capacity := capacity
  state := { tokens := 0, lastUpdate := 0, windowStart := 0, windowConsumed := 0 }

/-- One token a millisecond: nothing is cut off. -/
theorem linear_at_one_a_millisecond : (empty 60000).Linear [⟨1000000, .remaining⟩, ⟨2000000, .checkN 9⟩] 3000000 :=
  (linear_iff (by decide) (by decide) (by decide) (by decide) (by decide)).2 ⟨by decide, by decide⟩

/-- 100000 tokens a minute, looked at every millisecond: each look drops two thirds of a token. -/
theorem probes_cost_tokens :
    Steps.Every call Probes (empty 100000) [⟨1000000, .remaining⟩, ⟨2000000, .checkN 9⟩] ∧
      (Steps.run call (empty 100000) [⟨1000000, .remaining⟩, ⟨2000000, .checkN 9⟩]).remaining 3000000 = 3 ∧
      (empty 100000).remaining 3000000 = 5 ∧
      ¬ (empty 100000).Linear [⟨1000000, .remaining⟩, ⟨2000000, .checkN 9⟩] 3000000 := by
  refine ⟨by decide, by decide, by decide, fun h => absurd h.1 (by decide)⟩

/-! ## The wait -/

theorem isOk_iff {ε : Type} {r : Except ε Unit} : r.isOk = true ↔ r = .ok () := by
  cases r with
  | error e => simp [Except.isOk, Except.toBool]
  | ok u => simp [Except.isOk, Except.toBool]

/-- A rejected `check_n` says how long the deficit takes at the full rate. -/
theorem checkN_rejected {l : TpmLimiter} {n now : Nat} {w : Rat} (hcap : 0 < l.capacity)
    (hfits : l.Fits { now := now, op := .checkN n }) (h : (l.checkN n now).2 = .error w) :
    ((plan l.capacity).refill l.bucket now).level < n ∧
      (l.checkN n now).1.bucket = (plan l.capacity).refill l.bucket now ∧
      w = ((n - ((plan l.capacity).refill l.bucket now).level : Int) : Rat) * 60 / l.capacity := by
  obtain ⟨hok, hafter⟩ := checkN_exact hfits
  obtain ⟨hlevel, _⟩ := hfits.of_checkN.level_last
  have hn : asI64 n = n := asI64_eq_iff.2 (hfits.values _ (by simp [i64Values]))
  have hrefused : (plan l.capacity).grants l.bucket n now = false := by
    rw [← hok, h]
    rfl
  have hlt : ¬ (n : Int) ≤ ((plan l.capacity).refill l.bucket now).level := by
    simpa [TokenBucket.Plan.grants] using hrefused
  rw [hrefused] at hafter
  refine ⟨not_le.1 hlt, hafter, ?_⟩
  have hdeficit : asI64 (n - ((plan l.capacity).refill l.bucket now).level)
      = n - ((plan l.capacity).refill l.bucket now).level :=
    asI64_eq_iff.2 (hfits.values _ (by simp [i64Values, hlt]))
  unfold checkN at h
  simp only [hn, hlevel, if_neg hlt, hdeficit, if_pos hcap] at h
  exact (Except.error.inj h).symm

/-- **The next `check_n` after a rejection** succeeds exactly when the whole milliseconds since the last credit
come to the wait. -/
theorem retry_succeeds_iff {l : TpmLimiter} {n now later : Nat} {w : Rat} (hpos : 1 ≤ n) (hn : n ≤ l.capacity)
    (hrejected : (l.checkN n now).2 = .error w) (hfits : l.Fits { now := now, op := .checkN n })
    (hfits' : (l.checkN n now).1.Fits { now := later, op := .checkN n }) :
    ((l.checkN n now).1.checkN n later).2 = .ok () ↔
      w * 1000 ≤ ((later - (l.checkN n now).1.state.lastUpdate) / 1000000 : Nat) := by
  have hcap : 0 < l.capacity := by omega
  obtain ⟨hlt, hbucket, hwait⟩ := checkN_rejected hcap hfits hrejected
  have hcapacity := checkN_capacity l n now
  generalize hb : (plan l.capacity).refill l.bucket now = b at hlt hbucket hwait
  have hlast : (l.checkN n now).1.state.lastUpdate = b.last := congrArg TokenBucket.Bucket.last hbucket
  have hfull : b.level ≤ (plan l.capacity).capacity := by
    have : (n : Int) ≤ l.capacity := by exact_mod_cast hn
    exact le_trans hlt.le this
  have hearned : (plan l.capacity).earned (later - b.last) = (later - b.last) / 1000000 * l.capacity / 60000 := rfl
  rw [← isOk_iff, (checkN_exact hfits').1, hbucket, hcapacity, hlast, hwait]
  unfold TokenBucket.Plan.grants
  rw [TokenBucket.Plan.refill_level hfull, hearned, decide_eq_true_iff, le_min_iff]
  have hle : (n : Int) ≤ (plan l.capacity).capacity := by exact_mod_cast hn
  rw [and_iff_left hle]
  -- the deficit, in tokens
  obtain ⟨d, hd⟩ : ∃ d : Nat, (n : Int) - b.level = d := ⟨((n : Int) - b.level).toNat, by omega⟩
  rw [hd, show ((n : Int) ≤ b.level + ((later - b.last) / 1000000 * l.capacity / 60000 : Nat)) ↔
    d ≤ (later - b.last) / 1000000 * l.capacity / 60000 by omega, Nat.le_div_iff_mul_le (by decide)]
  have hcap' : (0 : Rat) < l.capacity := by exact_mod_cast hcap
  rw [div_mul_eq_mul_div, div_le_iff₀ hcap']
  have hcast : ((d : Int) : Rat) * 60 * 1000 = ((d * 60000 : Nat) : Rat) := by push_cast; ring
  rw [hcast]
  exact_mod_cast Iff.rfl

/-- The wait for one token. -/
theorem empty_rejects {capacity : Nat} (h : 0 < capacity) :
    ((empty capacity).checkN 1 0).2 = .error (60 / capacity) ∧ ((empty capacity).checkN 1 0).1 = empty capacity := by
  have hone : asI64 1 = 1 := by decide
  simp [empty, checkN, refill, hone, h]

/-- One token a second: the wait of a second is enough. -/
theorem retry_after_a_second : (((empty 60).checkN 1 0).1.checkN 1 1000000000).2 = .ok () := by
  refine (@retry_succeeds_iff (empty 60) 1 0 1000000000 (60 / (60 : Nat)) (by decide) (by decide)
    (empty_rejects (by decide)).1 (by decide) (by decide)).2 ?_
  rw [(empty_rejects (by decide)).2]
  norm_num [empty]

/-- Seven tokens a minute: the wait for one token is 60/7 s, and as soon as it is over the bucket has counted
8571 ms, which earn nothing. -/
theorem retry_too_early :
    ((empty 7).checkN 1 0).2 = .error (60 / (7 : Nat)) ∧
      ((0 : Nat) : Rat) + 60 / (7 : Nat) * 1000000000 ≤ (8571428572 : Nat) ∧
      (((empty 7).checkN 1 0).1.checkN 1 8571428572).2 ≠ .ok () := by
  refine ⟨(empty_rejects (by decide)).1, by norm_num, ?_⟩
  rw [(empty_rejects (by decide)).2, Ne, ← isOk_iff]
  decide

end TpmLimiter

end AiRouter
