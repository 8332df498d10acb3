import AiRouter.Lib.Steps
import Mathlib.Algebra.Order.Floor.Div
import Mathlib.Data.Nat.ModEq

/-
# Token buckets that are filled when they are looked at

A bucket earns `rate` tokens in `period` ticks of a clock that runs `tick` units to the tick. Nothing
happens between two calls: a call counts the whole ticks since the bucket was last filled, adds the
whole tokens they have earned, up to the capacity, and moves the mark. A call that finds less than one
token leaves the mark where it was. Levels are unbounded integers.
-/
namespace TokenBucket

structure Plan where
  capacity : Nat
  rate : Nat
  period : Nat
  tick : Nat
deriving DecidableEq, Repr

structure Bucket where
  level : Int
  last : Nat
deriving DecidableEq, Repr

namespace Plan

variable (p : Plan)

/-- Whole tokens for whole ticks. -/
def earned (d : Nat) : Nat := d / p.tick * p.rate / p.period

def refill (b : Bucket) (now : Nat) : Bucket :=
  if 0 < p.earned (now - b.last) then
    { level := min (b.level + p.earned (now - b.last)) p.capacity, last := now }
  else b

/-- `n` tokens out of the bucket, whatever it holds. -/
def take (b : Bucket) (n now : Nat) : Bucket :=
  { p.refill b now with level := (p.refill b now).level - n }

/-- Does the bucket hold `n` tokens? -/
def grants (b : Bucket) (n now : Nat) : Bool := n ≤ (p.refill b now).level

/-! ## What is earned -/

variable {p} {a d : Nat}

theorem earned_mono (h : a ≤ d) : p.earned a ≤ p.earned d :=
  Nat.div_le_div_right (Nat.mul_le_mul_right _ (Nat.div_le_div_right h))

/-- Rounding twice earns no more than rounding once. -/
theorem earned_add (a d : Nat) : p.earned a + p.earned d ≤ p.earned (a + d) := by
  calc p.earned a + p.earned d
      ≤ (a / p.tick * p.rate + d / p.tick * p.rate) / p.period := Nat.div_add_div_le_add_div
    _ = (a / p.tick + d / p.tick) * p.rate / p.period := by rw [Nat.add_mul]
    _ ≤ p.earned (a + d) :=
      Nat.div_le_div_right (Nat.mul_le_mul_right _ Nat.div_add_div_le_add_div)

/-- Time in which nothing was earned brings what comes later at most to the next whole token. -/
theorem earned_after_idle (hp : 0 < p.period) (ha : p.earned a = 0) (d : Nat) :
    p.earned (a + d) ≤ ((d / p.tick + 1) * p.rate) ⌈/⌉ p.period := by
  have hidle : a / p.tick * p.rate < p.period := (Nat.div_eq_zero_iff_lt hp).1 ha
  have hticks : (a + d) / p.tick ≤ a / p.tick + (d / p.tick + 1) := Nat.add_div_le_div_add_div_add_one a d p.tick
  rw [Nat.ceilDiv_eq_add_pred_div]
  refine Nat.div_le_div_right ?_
  calc (a + d) / p.tick * p.rate
      ≤ (a / p.tick + (d / p.tick + 1)) * p.rate := Nat.mul_le_mul_right _ hticks
    _ = a / p.tick * p.rate + (d / p.tick + 1) * p.rate := Nat.add_mul _ _ _
    _ ≤ (d / p.tick + 1) * p.rate + p.period - 1 := by omega

/-! ## What a refill does -/

variable {b : Bucket} {now : Nat}

theorem refill_of_earned (h : 0 < p.earned (now - b.last)) :
    p.refill b now = { level := min (b.level + p.earned (now - b.last)) p.capacity, last := now } := if_pos h

theorem refill_idle (h : p.earned (now - b.last) = 0) : p.refill b now = b := if_neg (by omega)

/-- Either way the level is the one the mark's time has earned. -/
theorem refill_level (hb : b.level ≤ p.capacity) :
    (p.refill b now).level = min (b.level + p.earned (now - b.last)) p.capacity := by
  unfold refill
  split
  · rfl
  · rw [min_eq_left] <;> omega

theorem refill_le_capacity (hb : b.level ≤ p.capacity) : (p.refill b now).level ≤ p.capacity := by
  rw [refill_level hb]
  exact min_le_right _ _

/-- A refill never lowers the level. -/
theorem le_refill (hb : b.level ≤ p.capacity) : b.level ≤ (p.refill b now).level := by
  rw [refill_level hb]
  exact le_min (by omega) hb

theorem last_le_refill (h : b.last ≤ now) : b.last ≤ (p.refill b now).last ∧ (p.refill b now).last ≤ now := by
  unfold refill
  split
  · exact ⟨h, le_refl _⟩
  · exact ⟨le_refl _, h⟩

/-- After a refill the mark's time has earned nothing yet. -/
theorem earned_refilled (p : Plan) (b : Bucket) (now : Nat) : p.earned (now - (p.refill b now).last) = 0 := by
  unfold refill
  split
  · simp [earned]
  · omega

/-- The level gains no more than the mark's move has earned. -/
theorem refill_gain (p : Plan) (b : Bucket) (h : b.last ≤ now) {base : Nat} (hbase : base ≤ b.last) :
    (p.refill b now).level + p.earned (b.last - base) ≤ b.level + p.earned ((p.refill b now).last - base) := by
  unfold refill
  split
  · have hadd := p.earned_add (b.last - base) (now - b.last)
    rw [show b.last - base + (now - b.last) = now - base by omega] at hadd
    have hmin := min_le_left (b.level + p.earned (now - b.last)) (p.capacity : Int)
    dsimp only
    omega
  · exact le_refl _

/-! ## Looking in between -/

/-- A bucket that is looked at again and again. -/
def looks (b : Bucket) (times : List Nat) : Bucket := times.foldl p.refill b

/-- The whole tokens those looks credit: a look that finds one rounds down and moves the mark. -/
def credited : Nat → List Nat → Nat
  | _, [] => 0
  | last, t :: times =>
    if 0 < p.earned (t - last) then p.earned (t - last) + credited t times else credited last times

theorem looks_level (times : List Nat) : ∀ b : Bucket, (p.looks b times).level =
    if p.credited b.last times = 0 then b.level else min (b.level + p.credited b.last times) p.capacity := by
  induction times with
  | nil => simp [looks, credited]
  | cons t times ih =>
    intro b
    have hstep : p.looks b (t :: times) = p.looks (p.refill b t) times := rfl
    rw [hstep, ih]
    by_cases h : 0 < p.earned (t - b.last)
    · have hpos : ¬ p.earned (t - b.last) + p.credited t times = 0 := by omega
      simp only [refill_of_earned h, credited, if_pos h, if_neg hpos]
      split <;> omega
    · rw [refill_idle (by omega), credited, if_neg h]

theorem credited_le {final : Nat} (times : List Nat) : ∀ last : Nat, (last :: times).Pairwise (· ≤ ·) →
    (∀ t ∈ times, t ≤ final) → p.credited last times ≤ p.earned (final - last) := by
  induction times with
  | nil => intro last _ _; exact Nat.zero_le _
  | cons t times ih =>
    intro last hsorted hfinal
    obtain ⟨hfirst, hrest⟩ := List.pairwise_cons.1 hsorted
    have hlast := hfirst t List.mem_cons_self
    have ht := hfinal t List.mem_cons_self
    have hlater := fun u hu => hfinal u (List.mem_cons_of_mem t hu)
    rw [credited]
    split
    · have hadd := p.earned_add (t - last) (final - t)
      have hih := ih t hrest hlater
      rw [show t - last + (final - t) = final - last by omega] at hadd
      omega
    · exact ih last (List.pairwise_cons.2 ⟨fun u hu => hfirst u (List.mem_cons_of_mem t hu),
        (List.pairwise_cons.1 hrest).2⟩) hlater

/-- **Looking in between changes nothing** exactly where the roundings do not cost a whole token, or the
bucket is full all the same. -/
theorem looks_linear_iff {times : List Nat} {final : Nat} (hsorted : (b.last :: (times ++ [final])).Pairwise (· ≤ ·)) :
    ((p.looks b (times ++ [final])).level = (p.refill b final).level ∧
        (p.refill b final).level = min (b.level + p.earned (final - b.last)) p.capacity) ↔
      (p.credited b.last (times ++ [final]) = 0 → b.level ≤ p.capacity) ∧
        (p.earned (final - b.last) ≤ p.credited b.last (times ++ [final]) ∨
          p.capacity ≤ b.level + p.credited b.last (times ++ [final])) := by
  have hle : p.credited b.last (times ++ [final]) ≤ p.earned (final - b.last) := by
    refine credited_le _ _ hsorted fun t ht => ?_
    have hbefore := (List.pairwise_append.1 (List.pairwise_cons.1 hsorted).2).2.2
    rcases List.mem_append.1 ht with ht | ht
    · exact hbefore t ht final (List.mem_singleton_self _)
    · exact le_of_eq (List.mem_singleton.1 ht)
  have hfinal : (p.refill b final).level = if 0 < p.earned (final - b.last)
      then min (b.level + p.earned (final - b.last)) p.capacity else b.level := by
    unfold refill
    split <;> rfl
  rw [looks_level, hfinal]
  split <;> split <;> omega

end Plan

/-! ## What a bucket grants -/

inductive Act where
  /-- granted if the bucket holds that much -/
  | request (n : Nat)
  | take (n : Nat)
  | look
deriving DecidableEq, Repr

structure Call where
  now : Nat
  act : Act
deriving DecidableEq, Repr

/-- A bucket, the time of the last call, and the granted requests with their times. -/
structure Account where
  bucket : Bucket
  clock : Nat
  granted : List (Nat × Nat)
deriving DecidableEq, Repr

namespace Account

def call (p : Plan) (s : Account) (c : Call) : Account :=
  match c.act with
  | .request n =>
    if p.grants s.bucket n c.now then
      { bucket := p.take s.bucket n c.now, clock := c.now, granted := s.granted ++ [(c.now, n)] }
    else { s with bucket := p.refill s.bucket c.now, clock := c.now }
  | .take n => { s with bucket := p.take s.bucket n c.now, clock := c.now }
  | .look => { s with bucket := p.refill s.bucket c.now, clock := c.now }

/-- The sum of the grants made in the ticks `t₁` to `t₂`. -/
def grantedIn (tick t₁ t₂ : Nat) (s : Account) : Nat :=
  ((s.granted.filter fun g => t₁ ≤ g.1 / tick ∧ g.1 / tick ≤ t₂).map (·.2)).sum

variable {p : Plan} {s : Account} {c : Call} {t₁ t₂ : Nat}

/-- **A call** refills and spends; a grant is spent out of what is there. -/
theorem call_spec (p : Plan) (s : Account) (c : Call) :
    ∃ spent grant : Nat,
      (s.call p c).bucket = { p.refill s.bucket c.now with level := (p.refill s.bucket c.now).level - spent } ∧
      (s.call p c).clock = c.now ∧
      (∀ t₁ t₂, (s.call p c).grantedIn p.tick t₁ t₂ = s.grantedIn p.tick t₁ t₂ +
        if t₁ ≤ c.now / p.tick ∧ c.now / p.tick ≤ t₂ then grant else 0) ∧
      (grant = 0 ∨ grant = spent ∧ (spent : Int) ≤ (p.refill s.bucket c.now).level) := by
  rcases c with ⟨now, act⟩
  cases act with
  | request n =>
    by_cases h : p.grants s.bucket n now = true
    · refine ⟨n, n, by simp [call, h, Plan.take], by simp [call, h], fun t₁ t₂ => ?_, Or.inr ⟨rfl, ?_⟩⟩
      · by_cases hin : t₁ ≤ now / p.tick ∧ now / p.tick ≤ t₂ <;>
          simp [call, h, grantedIn, List.filter_append, hin]
      · simpa [Plan.grants] using h
    · exact ⟨0, 0, by simp [call, h], by simp [call, h], fun t₁ t₂ => by simp [call, h, grantedIn], Or.inl rfl⟩
  | take n => exact ⟨n, 0, rfl, rfl, fun t₁ t₂ => by simp [call, grantedIn], Or.inl rfl⟩
  | look => exact ⟨0, 0, by simp [call], rfl, fun t₁ t₂ => by simp [call, grantedIn], Or.inl rfl⟩

theorem call_le_capacity (h : s.bucket.level ≤ p.capacity) : (s.call p c).bucket.level ≤ p.capacity := by
  obtain ⟨spent, _, hbucket, _⟩ := call_spec p s c
  have hfull : (p.refill s.bucket c.now).level ≤ p.capacity := Plan.refill_le_capacity h
  rw [hbucket]
  dsimp only
  omega

/-- Inside the ticks `t₁` to `t₂`: the first call there came at `first`, with the mark at `base` after
it, and whatever was granted since is covered by a full bucket and what was earned from `base` on. -/
structure Within (p : Plan) (t₁ t₂ : Nat) (s : Account) (base first : Nat) : Prop where
  first_ge : t₁ ≤ first / p.tick
  clock_le : s.clock / p.tick ≤ t₂
  base_first : base ≤ first
  first_clock : first ≤ s.clock
  idle : p.earned (first - base) = 0
  base_last : base ≤ s.bucket.last
  granted_le : s.grantedIn p.tick t₁ t₂ ≤ p.capacity + p.earned (s.bucket.last - base)
  balance : s.grantedIn p.tick t₁ t₂ + s.bucket.level ≤ p.capacity + p.earned (s.bucket.last - base)

/-- What may be granted in the ticks `t₁` to `t₂`. -/
def allowance (p : Plan) (t₁ t₂ : Nat) : Nat := p.capacity + ((t₂ - t₁ + 1) * p.rate) ⌈/⌉ p.period

/-- Nothing granted in those ticks yet, inside them, or after them. -/
structure Inv (p : Plan) (t₁ t₂ : Nat) (s : Account) : Prop where
  level : s.bucket.level ≤ p.capacity
  last : s.bucket.last ≤ s.clock
  phase : s.grantedIn p.tick t₁ t₂ = 0 ∨
    (∃ base first, Within p t₁ t₂ s base first) ∨
    (t₂ < s.clock / p.tick ∧ s.grantedIn p.tick t₁ t₂ ≤ allowance p t₁ t₂)

theorem Within.granted {base first : Nat} (hp : 0 < p.period) (hlast : s.bucket.last ≤ s.clock)
    (h : Within p t₁ t₂ s base first) : s.grantedIn p.tick t₁ t₂ ≤ allowance p t₁ t₂ := by
  refine le_trans h.granted_le (Nat.add_le_add_left ?_ _)
  -- the mark lies after `base` by the idle time and at most the rest of the window
  have hspan : s.bucket.last - base ≤ (first - base) + (s.clock - first) := by
    have := h.base_first
    have := h.first_clock
    omega
  have hticks : (s.clock - first) / p.tick ≤ t₂ - t₁ := by
    have hsum := Nat.div_add_div_le_add_div (x := first) (y := s.clock - first) (z := p.tick)
    rw [Nat.add_sub_cancel' h.first_clock] at hsum
    have := h.first_ge
    have := h.clock_le
    omega
  calc p.earned (s.bucket.last - base)
      ≤ p.earned ((first - base) + (s.clock - first)) := Plan.earned_mono hspan
    _ ≤ (((s.clock - first) / p.tick + 1) * p.rate) ⌈/⌉ p.period := Plan.earned_after_idle hp h.idle _
    _ ≤ ((t₂ - t₁ + 1) * p.rate) ⌈/⌉ p.period := by
      rw [Nat.ceilDiv_eq_add_pred_div, Nat.ceilDiv_eq_add_pred_div]
      refine Nat.div_le_div_right ?_
      have := Nat.mul_le_mul_right p.rate (Nat.add_le_add_right hticks 1)
      omega

theorem Inv.granted (hp : 0 < p.period) (h : Inv p t₁ t₂ s) : s.grantedIn p.tick t₁ t₂ ≤ allowance p t₁ t₂ := by
  rcases h.phase with h0 | ⟨base, first, hin⟩ | ⟨_, hle⟩
  · omega
  · exact hin.granted hp h.last
  · exact hle

theorem Inv.of_none (hlevel : s.bucket.level ≤ p.capacity) (hlast : s.bucket.last ≤ s.clock)
    (hnone : s.granted = []) : Inv p t₁ t₂ s :=
  ⟨hlevel, hlast, Or.inl (by simp [grantedIn, hnone])⟩

/-- **Step**: a call that does not come before the last one. -/
theorem Inv.call (hp : 0 < p.period) (h : Inv p t₁ t₂ s) (hnow : s.clock ≤ c.now) :
    Inv p t₁ t₂ (s.call p c) := by
  obtain ⟨spent, grant, hbucket, hclock, hgranted, hgrant⟩ := call_spec p s c
  have hlast := h.last.trans hnow
  have hmark := Plan.last_le_refill (p := p) hlast
  have hfull : (p.refill s.bucket c.now).level ≤ p.capacity := Plan.refill_le_capacity h.level
  have hticks : s.clock / p.tick ≤ c.now / p.tick := Nat.div_le_div_right hnow
  have hsum := hgranted t₁ t₂
  refine ⟨by rw [hbucket]; dsimp only; omega, by rw [hbucket, hclock]; exact hmark.2, ?_⟩
  rw [hclock]
  by_cases hbefore : c.now / p.tick < t₁
  · -- still before the window
    rw [if_neg (by omega), Nat.add_zero] at hsum
    rcases h.phase with h0 | ⟨base, first, hin⟩ | ⟨hafter, hle⟩
    · exact Or.inl (by rw [hsum, h0])
    · have := Nat.div_le_div_right (c := p.tick) hin.first_clock
      have := hin.first_ge
      omega
    · exact Or.inr (Or.inr ⟨by omega, by rw [hsum]; exact hle⟩)
  by_cases hafter : t₂ < c.now / p.tick
  · -- what comes after the window is not counted
    rw [if_neg (by omega), Nat.add_zero] at hsum
    exact Or.inr (Or.inr ⟨hafter, by rw [hsum]; exact h.granted hp⟩)
  · rw [if_pos ⟨by omega, by omega⟩] at hsum
    rcases h.phase with h0 | ⟨base, first, hin⟩ | ⟨hpast, _⟩
    · -- the first grant of the window may be this one
      refine Or.inr (Or.inl ⟨(p.refill s.bucket c.now).last, c.now, ?_⟩)
      refine ⟨by omega, by rw [hclock]; omega, hmark.2, by rw [hclock], p.earned_refilled _ _, ?_, ?_, ?_⟩
      · rw [hbucket]
      · rw [hsum, hbucket, h0]
        rcases hgrant with h0 | ⟨rfl, hspent⟩ <;> omega
      · rw [hsum, hbucket, h0]
        dsimp only
        rcases hgrant with h0 | ⟨rfl, hspent⟩ <;> push_cast <;> omega
    · have hgain := Plan.refill_gain p s.bucket hlast hin.base_last
      have hbalance := hin.balance
      have hle := hin.granted_le
      have hmono : p.earned (s.bucket.last - base) ≤ p.earned ((p.refill s.bucket c.now).last - base) :=
        Plan.earned_mono (by omega)
      refine Or.inr (Or.inl ⟨base, first, hin.first_ge, by rw [hclock]; omega, hin.base_first,
        by rw [hclock]; exact hin.first_clock.trans hnow, hin.idle, ?_, ?_, ?_⟩)
      · rw [hbucket]
        exact hin.base_last.trans hmark.1
      · rw [hsum, hbucket]
        dsimp only
        rcases hgrant with h0 | ⟨rfl, hspent⟩ <;> omega
      · rw [hsum, hbucket]
        dsimp only
        rcases hgrant with h0 | ⟨rfl, hspent⟩ <;> push_cast <;> omega
    · omega

end Account

end TokenBucket
