import AiRouter.Lib.TokenBucket
import AiRouter.Limiter

/-
# One bucket over a whole history: `TpmLimiter` (limiter.rs:32-136)

The calls of a limiter in the order in which they take its mutex. Beside the code's `i64` bucket stands
the token bucket on unbounded integers (`plan`); the two agree while no cast or sum leaves `i64`.
-/
namespace AiRouter

/-- In the range of `i64`. -/
def FitsI64 (x : Int) : Prop := -(2 ^ 63) ≤ x ∧ x < 2 ^ 63

instance (x : Int) : Decidable (FitsI64 x) := inferInstanceAs (Decidable (-(2 ^ 63) ≤ x ∧ x < 2 ^ 63))

theorem asI64_eq_iff {x : Int} : asI64 x = x ↔ FitsI64 x := by
  constructor
  · intro h
    rw [← h]
    have hle := Int.le_bmod (x := x) (m := 2 ^ 64) (by decide)
    have hlt := Int.bmod_lt (x := x) (m := 2 ^ 64) (by decide)
    unfold FitsI64 asI64
    omega
  · rintro ⟨hlo, hhi⟩
    exact asI64_of_fits hlo hhi

theorem fitsI64_nat {n : Nat} : FitsI64 (n : Int) ↔ n < 2 ^ 63 := by
  unfold FitsI64
  omega

namespace TpmLimiter

/-- The capacity every minute, in milliseconds of a clock of nanoseconds. -/
def plan (capacity : Nat) : TokenBucket.Plan where
  capacity := capacity
  rate := capacity
  period := 60000
  tick := 1000000

theorem plan_period (capacity : Nat) : 0 < (plan capacity).period := Nat.succ_pos _

def bucket (l : TpmLimiter) : TokenBucket.Bucket where
  level := l.state.tokens
  last := l.state.lastUpdate

/-! ## Calls -/

inductive Op where
  | checkN (n : Nat)
  | consumeN (n : Nat)
  | remaining
  | windowRemaining
deriving DecidableEq, Repr

structure Call where
  now : Nat
  op : Op
deriving DecidableEq, Repr

/-- What `remaining` leaves behind. -/
def refilled (l : TpmLimiter) (now : Nat) : TpmLimiter := { l with state := refill l.state l.capacity now }

def call (l : TpmLimiter) (c : Call) : TpmLimiter :=
  match c.op with
  | .checkN n => (l.checkN n c.now).1
  | .consumeN n => l.consumeN n c.now
  | .remaining => l.refilled c.now
  | .windowRemaining => (l.windowRemaining c.now).1

theorem call_capacity (l : TpmLimiter) (c : Call) : (l.call c).capacity = l.capacity := by
  obtain ⟨now, op⟩ := c
  cases op with
  | checkN n => exact checkN_capacity l n now
  | _ => rfl

/-- Tokens charged: by `check_n` when it succeeds, by `consume_n` always. -/
structure Debit where
  now : Nat
  tokens : Nat
  checked : Bool
deriving DecidableEq, Repr

def debits (l : TpmLimiter) (c : Call) : List Debit :=
  match c.op with
  | .checkN n => if (l.checkN n c.now).2.isOk then [⟨c.now, n, true⟩] else []
  | .consumeN n => [⟨c.now, n, false⟩]
  | _ => []

/-- A limiter, the time of its last call, and what was charged to it. -/
structure History where
  limiter : TpmLimiter
  clock : Nat
  debits : List Debit
deriving DecidableEq, Repr

def History.start (capacity created : Nat) : History where
  limiter := .new capacity created
  clock := created
  debits := []

def History.call (h : History) (c : Call) : History where
  limiter := h.limiter.call c
  clock := c.now
  debits := h.debits ++ h.limiter.debits c

/-- What `check_n` admitted in the milliseconds `t₁` to `t₂`. -/
def History.admittedIn (t₁ t₂ : Nat) (h : History) : Nat :=
  ((h.debits.filter fun d => d.checked ∧ t₁ ≤ d.now / 1000000 ∧ d.now / 1000000 ≤ t₂).map (·.tokens)).sum

/-! ## Casts and sums -/

/-- What a call computes in `i64`, on unbounded integers. -/
def i64Values (l : TpmLimiter) (c : Call) : List Int :=
  let earned := (plan l.capacity).earned (c.now - l.state.lastUpdate)
  let level := ((plan l.capacity).refill l.bucket c.now).level
  let refilling : List Int := [l.capacity, earned, l.state.tokens + earned]
  match c.op with
  | .checkN n => refilling ++ [(n : Int), if n ≤ level then level - n else n - level]
  | .consumeN n => refilling ++ [(n : Int), level - n]
  | .remaining => refilling
  | .windowRemaining => [l.capacity, (l.windowRemaining c.now).1.state.windowConsumed]

/-- The milliseconds that a refill counts. -/
def elapsedMs (l : TpmLimiter) (c : Call) : Nat :=
  match c.op with
  | .windowRemaining => 0
  | _ => (c.now - l.state.lastUpdate) / 1000000

/-- No cast changes a value and no sum wraps. -/
structure NoWrap (l : TpmLimiter) (c : Call) : Prop where
  elapsed : l.elapsedMs c % 2 ^ 64 = l.elapsedMs c
  values : ∀ x ∈ l.i64Values c, asI64 x = x

/-- The values are in range. -/
structure Fits (l : TpmLimiter) (c : Call) : Prop where
  elapsed : l.elapsedMs c < 2 ^ 64
  values : ∀ x ∈ l.i64Values c, FitsI64 x

instance (l : TpmLimiter) (c : Call) : Decidable (l.Fits c) :=
  decidable_of_iff (l.elapsedMs c < 2 ^ 64 ∧ ∀ x ∈ l.i64Values c, FitsI64 x)
    ⟨fun h => ⟨h.1, h.2⟩, fun h => ⟨h.elapsed, h.values⟩⟩

theorem noWrap_iff {l : TpmLimiter} {c : Call} : l.NoWrap c ↔ l.Fits c := by
  constructor
  · rintro ⟨helapsed, hvalues⟩
    exact ⟨by omega, fun x hx => asI64_eq_iff.1 (hvalues x hx)⟩
  · rintro ⟨helapsed, hvalues⟩
    exact ⟨Nat.mod_eq_of_lt helapsed, fun x hx => asI64_eq_iff.2 (hvalues x hx)⟩

/-! ## The code's bucket is the token bucket -/

/-- **A new bucket is full** where its capacity is in range. -/
theorem new_tokens_iff {capacity : Nat} (hcap : 1 ≤ capacity) (created : Nat) :
    (new capacity created).state.tokens = capacity ↔ capacity < 2 ^ 63 := by
  have hmax : max (capacity : Int) 1 = capacity := max_eq_left (by omega)
  simp only [new, hmax, asI64_eq_iff, fitsI64_nat]

section
variable {l : TpmLimiter} {n now : Nat}

theorem refill_exact (hms : (now - l.state.lastUpdate) / 1000000 < 2 ^ 64)
    (hvalues : ∀ x ∈ ([(l.capacity : Int), ((plan l.capacity).earned (now - l.state.lastUpdate) : Int),
      l.state.tokens + (plan l.capacity).earned (now - l.state.lastUpdate)] : List Int), FitsI64 x) :
    (l.refilled now).bucket = (plan l.capacity).refill l.bucket now := by
  simp only [List.forall_mem_cons, ← asI64_eq_iff] at hvalues
  obtain ⟨hcap, hearned, hsum, _⟩ := hvalues
  have hadd : (now - l.state.lastUpdate) / 1000000 * l.capacity / 60000
      = (plan l.capacity).earned (now - l.state.lastUpdate) := rfl
  have hidle : (now - l.state.lastUpdate) / 1000000 = 0 → (plan l.capacity).earned (now - l.state.lastUpdate) = 0 := by
    intro h
    rw [← hadd, h, Nat.zero_mul, Nat.zero_div]
  unfold refilled refill bucket TokenBucket.Plan.refill
  dsimp only
  rw [Nat.mod_eq_of_lt hms, hadd, hearned, hsum, hcap]
  by_cases h : 0 < (plan l.capacity).earned (now - l.state.lastUpdate)
  · rw [if_pos h, if_pos ⟨by omega, by omega⟩]
    rfl
  · rw [if_neg h, if_neg (by omega)]

theorem Fits.refilled (h : l.Fits { now := now, op := .remaining }) :
    (l.refilled now).bucket = (plan l.capacity).refill l.bucket now := refill_exact h.elapsed h.values

theorem Fits.level_last (h : l.Fits { now := now, op := .remaining }) :
    (refill l.state l.capacity now).tokens = ((plan l.capacity).refill l.bucket now).level ∧
      (refill l.state l.capacity now).lastUpdate = ((plan l.capacity).refill l.bucket now).last :=
  ⟨congrArg TokenBucket.Bucket.level h.refilled, congrArg TokenBucket.Bucket.last h.refilled⟩

theorem Fits.of_checkN (h : l.Fits { now := now, op := .checkN n }) : l.Fits { now := now, op := .remaining } :=
  ⟨h.elapsed, fun x hx => h.values x (List.mem_append_left _ hx)⟩

theorem Fits.of_consumeN (h : l.Fits { now := now, op := .consumeN n }) : l.Fits { now := now, op := .remaining } :=
  ⟨h.elapsed, fun x hx => h.values x (List.mem_append_left _ hx)⟩

/-- **`check_n`** is a request. -/
theorem checkN_exact (h : l.Fits { now := now, op := .checkN n }) :
    (l.checkN n now).2.isOk = (plan l.capacity).grants l.bucket n now ∧
      (l.checkN n now).1.bucket = if (plan l.capacity).grants l.bucket n now
        then (plan l.capacity).take l.bucket n now else (plan l.capacity).refill l.bucket now := by
  obtain ⟨hlevel, hlast⟩ := h.of_checkN.level_last
  have hn : asI64 n = n := asI64_eq_iff.2 (h.values _ (by simp [i64Values]))
  unfold checkN TokenBucket.Plan.grants
  dsimp only
  rw [hn, hlevel]
  by_cases hle : (n : Int) ≤ ((plan l.capacity).refill l.bucket now).level
  · have hspent : asI64 (((plan l.capacity).refill l.bucket now).level - n)
        = ((plan l.capacity).refill l.bucket now).level - n :=
      asI64_eq_iff.2 (h.values _ (by simp [i64Values, hle]))
    simp only [hle, decide_true, if_true, hspent]
    refine ⟨rfl, ?_⟩
    simp [TokenBucket.Plan.take, bucket, hlast]
  · simp only [hle, decide_false, if_false]
    exact ⟨rfl, h.of_checkN.refilled⟩

/-- **`consume_n`** takes. -/
theorem consumeN_exact (h : l.Fits { now := now, op := .consumeN n }) :
    (l.consumeN n now).bucket = (plan l.capacity).take l.bucket n now := by
  obtain ⟨hlevel, hlast⟩ := h.of_consumeN.level_last
  have hn : asI64 n = n := asI64_eq_iff.2 (h.values _ (by simp [i64Values]))
  have hspent : asI64 (((plan l.capacity).refill l.bucket now).level - n)
      = ((plan l.capacity).refill l.bucket now).level - n := asI64_eq_iff.2 (h.values _ (by simp [i64Values]))
  have hafter : (l.consumeN n now).bucket = { level := asI64 ((refill l.state l.capacity now).tokens - asI64 n)
                                              last := (refill l.state l.capacity now).lastUpdate } := by
    simp [consumeN, bucket]
  rw [hafter, hn, hlevel, hlast, hspent]
  rfl

theorem windowRemaining_bucket (l : TpmLimiter) (now : Nat) : (l.windowRemaining now).1.bucket = l.bucket := by
  unfold windowRemaining bucket
  dsimp only
  split <;> rfl

end

/-! ## Simulation -/

/-- What a call is to the token bucket; the statistics do not look at it. -/
def Op.act : Op → Option TokenBucket.Act
  | .checkN n => some (.request n)
  | .consumeN n => some (.take n)
  | .remaining => some .look
  | .windowRemaining => none

/-- A history and the account of the token bucket beside it. -/
structure Twin where
  history : History
  account : TokenBucket.Account
deriving DecidableEq, Repr

namespace Twin

def start (capacity created : Nat) : Twin where
  history := .start capacity created
  account := { bucket := { level := capacity, last := created }, clock := created, granted := [] }

def call (t : Twin) (c : Call) : Twin where
  history := t.history.call c
  account := match c.op.act with
    | some act => t.account.call (plan t.history.limiter.capacity) { now := c.now, act := act }
    | none => t.account

/-- The two buckets hold the same, and have granted the same. -/
structure Agrees (capacity : Nat) (t : Twin) : Prop where
  capacity_eq : t.history.limiter.capacity = capacity
  bucket_eq : t.history.limiter.bucket = t.account.bucket
  granted_eq : t.account.granted = (t.history.debits.filter (·.checked)).map fun d => (d.now, d.tokens)

theorem Agrees.start {capacity : Nat} (hcap : 1 ≤ capacity) (hfits : capacity < 2 ^ 63) (created : Nat) :
    (start capacity created).Agrees capacity := by
  have hnew := (new_tokens_iff hcap created).2 hfits
  refine ⟨rfl, ?_, rfl⟩
  unfold Twin.start History.start bucket
  rw [hnew]
  rfl

/-- **Step**: a call whose values are in range keeps them together. -/
theorem Agrees.call {capacity : Nat} {t : Twin} {c : Call} (h : t.Agrees capacity) (hfits : t.history.limiter.Fits c) :
    (t.call c).Agrees capacity := by
  obtain ⟨hcapacity, hbucket, hgranted⟩ := h
  obtain ⟨now, op⟩ := c
  cases op with
  | checkN n =>
    obtain ⟨hok, hafter⟩ := checkN_exact hfits
    rw [hbucket, hcapacity] at hok hafter
    refine ⟨(checkN_capacity _ _ _).trans hcapacity, ?_, ?_⟩
    · simp only [Twin.call, History.call, TpmLimiter.call, Op.act, TokenBucket.Account.call, hafter, hcapacity]
      split <;> rfl
    · simp only [Twin.call, History.call, TpmLimiter.debits, Op.act, TokenBucket.Account.call, hok, hcapacity]
      split <;> simp [hgranted]
  | consumeN n =>
    have hafter := consumeN_exact hfits
    rw [hbucket, hcapacity] at hafter
    refine ⟨hcapacity, ?_, ?_⟩
    · simp only [Twin.call, History.call, TpmLimiter.call, Op.act, TokenBucket.Account.call, hafter, hcapacity]
    · simp [Twin.call, History.call, TpmLimiter.debits, Op.act, TokenBucket.Account.call, hgranted]
  | remaining =>
    have hafter := hfits.refilled
    rw [hbucket, hcapacity] at hafter
    refine ⟨hcapacity, ?_, ?_⟩
    · simp only [Twin.call, History.call, TpmLimiter.call, Op.act, TokenBucket.Account.call, hafter, hcapacity]
    · simp [Twin.call, History.call, TpmLimiter.debits, Op.act, TokenBucket.Account.call, hgranted]
  | windowRemaining =>
    refine ⟨hcapacity, ?_, ?_⟩
    · simp only [Twin.call, History.call, TpmLimiter.call, Op.act, ← hbucket]
      exact windowRemaining_bucket _ _
    · simp [Twin.call, History.call, TpmLimiter.debits, Op.act, hgranted]

theorem call_le_capacity {capacity : Nat} {t : Twin} {c : Call} (hcapacity : t.history.limiter.capacity = capacity)
    (h : t.account.bucket.level ≤ capacity) : (t.call c).account.bucket.level ≤ capacity := by
  simp only [Twin.call, hcapacity]
  split
  · exact TokenBucket.Account.call_le_capacity (p := plan capacity) h
  · exact h

theorem Agrees.admittedIn {capacity : Nat} {t : Twin} (h : t.Agrees capacity) (t₁ t₂ : Nat) :
    t.history.admittedIn t₁ t₂ = t.account.grantedIn (plan capacity).tick t₁ t₂ := by
  unfold History.admittedIn TokenBucket.Account.grantedIn
  rw [h.granted_eq, List.filter_map, List.filter_filter, List.map_map]
  have hsame : ∀ d ∈ t.history.debits, decide (d.checked ∧ t₁ ≤ d.now / 1000000 ∧ d.now / 1000000 ≤ t₂)
      = (decide (t₁ ≤ d.now / 1000000 ∧ d.now / 1000000 ≤ t₂) && d.checked) := by
    intro d _
    cases d.checked <;> simp
  rw [List.filter_congr hsame]
  rfl

/-! ## What is admitted in a span of time -/

/-- The account keeps its own invariant, and its clock behind the history's. -/
structure Bounded (capacity t₁ t₂ : Nat) (t : Twin) : Prop where
  agrees : t.Agrees capacity
  account : TokenBucket.Account.Inv (plan capacity) t₁ t₂ t.account
  clock_le : t.account.clock ≤ t.history.clock

theorem Bounded.call {capacity t₁ t₂ : Nat} {t : Twin} {c : Call} (h : t.Bounded capacity t₁ t₂)
    (hfits : t.history.limiter.Fits c) (hclock : t.history.clock ≤ c.now) : (t.call c).Bounded capacity t₁ t₂ := by
  have hnow := h.clock_le.trans hclock
  refine ⟨h.agrees.call hfits, ?_, ?_⟩
  · simp only [Twin.call, h.agrees.capacity_eq]
    split
    · exact h.account.call (plan_period capacity) hnow
    · exact h.account
  · simp only [Twin.call, h.agrees.capacity_eq, History.call]
    split
    · obtain ⟨_, _, _, hafter, _⟩ := TokenBucket.Account.call_spec (plan capacity) t.account { now := c.now, act := _ }
      exact le_of_eq hafter
    · exact hnow

end Twin

/-- **What `check_n` admits** in the milliseconds `t₁` to `t₂` is a full bucket and what they refill, rounded
up; the balance never exceeds the capacity. -/
theorem admissions_bounded {capacity created : Nat} (hcap : 1 ≤ capacity) (hcapacity : capacity < 2 ^ 63)
    {calls : List Call}
    (htimes : Steps.Every History.call (fun h c => h.clock ≤ c.now) (.start capacity created) calls)
    (hfits : Steps.Every History.call (fun h c => h.limiter.Fits c) (.start capacity created) calls) (t₁ t₂ : Nat) :
    (Steps.run History.call (.start capacity created) calls).admittedIn t₁ t₂
        ≤ capacity + (capacity * (t₂ - t₁ + 1)) ⌈/⌉ 60000 ∧
      (Steps.run History.call (.start capacity created) calls).limiter.state.tokens ≤ capacity := by
  have hview : ∀ (t : Twin) (c : Call), (t.call c).history = t.history.call c := fun _ _ => rfl
  have hsteps := ((Steps.every_map (P := fun h c => h.limiter.Fits c) hview calls (.start capacity created)).2 hfits).and
    ((Steps.every_map (P := fun h c => h.clock ≤ c.now) hview calls (.start capacity created)).2 htimes)
  have hrun := Steps.run_keeps (I := Twin.Bounded capacity t₁ t₂)
    (fun t c hgood h => h.call hgood.1 hgood.2) calls (.start capacity created) hsteps
    ⟨.start hcap hcapacity created, .of_none (le_refl _) (le_refl _) rfl, le_refl _⟩
  have hhistory := Steps.run_map hview calls (.start capacity created)
  have hbucket := hrun.agrees.bucket_eq
  have hadmitted := hrun.account.granted (plan_period capacity)
  rw [← hrun.agrees.admittedIn, hhistory] at hadmitted
  rw [hhistory] at hbucket
  have hstart : (Twin.start capacity created).history = .start capacity created := rfl
  rw [hstart] at hadmitted hbucket
  refine ⟨?_, ?_⟩
  · rw [Nat.mul_comm]
    exact hadmitted
  · have hlevel := hrun.account.level
    rw [← hbucket] at hlevel
    exact hlevel

/-- Five tokens a minute: three of six are admitted at once, and none for two minutes after an overdraft. -/
def overdraftCalls : List Call :=
  [⟨0, .checkN 3⟩, ⟨0, .checkN 3⟩, ⟨1000000000, .consumeN 10⟩, ⟨60000000000, .checkN 1⟩, ⟨180000000000, .checkN 2⟩]

theorem overdraft_bounded :
    (Steps.run History.call (.start 5 0) overdraftCalls).admittedIn 0 180000 ≤ 5 + (5 * (180000 - 0 + 1)) ⌈/⌉ 60000 ∧
      (Steps.run History.call (.start 5 0) overdraftCalls).limiter.state.tokens ≤ (5 : Nat) :=
  admissions_bounded (by decide) (by decide) (by decide) (by decide) 0 180000

/-! ## What holds without casts -/

/-- A call does to the balance what it would do on unbounded integers. -/
structure AsIntegers (t : Twin) (c : Call) : Prop where
  noWrap : t.history.limiter.NoWrap c
  refill : c.op ≠ .windowRemaining → t.history.limiter.state.tokens ≤ (t.history.limiter.refilled c.now).state.tokens
  consume : ∀ n, c.op = .consumeN n →
    (t.history.limiter.call c).state.tokens = (t.history.limiter.refilled c.now).state.tokens - n
  check : ∀ n, c.op = .checkN n → (t.history.limiter.checkN n c.now).2.isOk = true →
    (n : Int) ≤ ((plan t.history.limiter.capacity).refill t.account.bucket c.now).level

theorem asIntegers_of_fits {capacity : Nat} {t : Twin} {c : Call} (h : t.Agrees capacity)
    (hlevel : t.account.bucket.level ≤ capacity) (hfits : t.history.limiter.Fits c) : AsIntegers t c := by
  obtain ⟨now, op⟩ := c
  have hfull : t.history.limiter.bucket.level ≤ (plan t.history.limiter.capacity).capacity := by
    rw [h.bucket_eq, h.capacity_eq]
    exact hlevel
  have hrefill : ∀ hop : t.history.limiter.Fits { now := now, op := .remaining },
      t.history.limiter.state.tokens ≤ (t.history.limiter.refilled now).state.tokens := by
    intro hop
    have hle : t.history.limiter.bucket.level
        ≤ ((plan t.history.limiter.capacity).refill t.history.limiter.bucket now).level :=
      TokenBucket.Plan.le_refill hfull
    rw [← hop.refilled] at hle
    exact hle
  refine ⟨noWrap_iff.2 hfits, fun hop => ?_, ?_, ?_⟩
  · cases op with
    | checkN n => exact hrefill hfits.of_checkN
    | consumeN n => exact hrefill hfits.of_consumeN
    | remaining => exact hrefill hfits
    | windowRemaining => exact absurd rfl hop
  · rintro n rfl
    have htake := congrArg TokenBucket.Bucket.level (consumeN_exact hfits)
    have hlevel' := congrArg TokenBucket.Bucket.level hfits.of_consumeN.refilled
    exact htake.trans (congrArg (· - (n : Int)) hlevel'.symm)
  · rintro n rfl hok
    rw [(checkN_exact hfits).1, h.bucket_eq] at hok
    simpa [TokenBucket.Plan.grants] using hok

/-- **The bucket of the code is the bucket of the integers**, over a whole history, exactly where the capacity
and every value computed are in range. -/
theorem integers_iff {capacity : Nat} (hcap : 1 ≤ capacity) (created : Nat) (calls : List Call) :
    ((new capacity created).state.tokens = capacity ∧
        Steps.Every Twin.call AsIntegers (.start capacity created) calls) ↔
      (capacity < 2 ^ 63 ∧
        Steps.Every Twin.call (fun t c => t.history.limiter.Fits c) (.start capacity created) calls) := by
  constructor
  · rintro ⟨hnew, hsteps⟩
    exact ⟨(new_tokens_iff hcap created).1 hnew, Steps.Every.mono (fun t c h => noWrap_iff.1 h.noWrap) calls _ hsteps⟩
  · rintro ⟨hcapacity, hsteps⟩
    refine ⟨(new_tokens_iff hcap created).2 hcapacity, ?_⟩
    refine Steps.every_keeps (I := fun t => t.Agrees capacity ∧ t.account.bucket.level ≤ (capacity : Int))
      (fun t c hfits h => ⟨h.1.call hfits, Twin.call_le_capacity h.1.capacity_eq h.2⟩)
      (fun t c hfits h => asIntegers_of_fits h.1 h.2 hfits) calls _ hsteps ⟨.start hcap hcapacity created, le_refl _⟩

theorem small_amounts_are_integers :
    (new 5 0).state.tokens = (5 : Nat) ∧ Steps.Every Twin.call AsIntegers (.start 5 0) overdraftCalls :=
  (integers_iff (by decide) 0 overdraftCalls).2 ⟨by decide, by decide⟩

/-- A usage of `u64::MAX` tokens less the reserved one raises the balance by two, and a request for
`u64::MAX` tokens is admitted; a capacity of `2^63` starts at `-2^63`; a full bucket of `2^62` tokens is
empty and in debt after a minute. -/
theorem huge_amounts_are_not_integers :
    ¬ Steps.Every Twin.call AsIntegers (.start 10 0) [⟨0, .consumeN (2 ^ 64 - 2)⟩] ∧
      ((new 10 0).consumeN (2 ^ 64 - 2) 0).state.tokens = 12 ∧
      ((new 10 0).checkN (2 ^ 64 - 1) 0).2.isOk = true ∧ (new (2 ^ 63) 0).state.tokens = -(2 ^ 63) ∧
      ((new (2 ^ 62) 0).refilled 60000000000).state.tokens = -(2 ^ 63) := by
  refine ⟨fun h => ?_, by decide, by decide, by decide, by decide⟩
  exact absurd (h.1.consume _ rfl) (by decide)

end TpmLimiter

end AiRouter
