import Mathlib.Algebra.Order.Field.Basic
import Mathlib.Algebra.Order.Ring.Rat
import Mathlib.Tactic.Linarith
import AiRouter.Lib.Gcra

/-
# Leaky buckets

A bucket leaks at a rate of its own, and a cell that is admitted adds one to it. What went in since some
moment is still there or has leaked out since, so that a bound on the level bounds the cells of every span
of time (`Log.Inv`). The cell rate algorithm is a leaky bucket that keeps, in place of the level, the time at
which it will be empty (`level`).
-/
namespace LeakyBucket

/-- The level at the time `clock`, and the times of the cells admitted so far. -/
structure Log (K : Type*) where
  level : K
  clock : Nat
  admitted : List Nat

namespace Log

variable {K : Type*}

/-- The cells admitted in the span `t₁` to `t₂`. -/
def admittedIn (l : Log K) (t₁ t₂ : Nat) : Nat := l.admitted.countP fun t => decide (t₁ ≤ t ∧ t ≤ t₂)

/-- Time passes, and leaves `level` in the bucket. -/
def wait (l : Log K) (level : K) (now : Nat) : Log K := { l with level := level, clock := now }

/-- A cell is admitted. -/
def pour [Add K] [One K] (l : Log K) : Log K := { l with level := l.level + 1, admitted := l.admitted ++ [l.clock] }

section
variable {l : Log K}

/-- Past the last cell a span gains nothing. -/
theorem admittedIn_past {t₁ t₂ : Nat} (h : ∀ t ∈ l.admitted, t ≤ l.clock) (hle : l.clock ≤ t₂) :
    l.admittedIn t₁ t₂ = l.admittedIn t₁ l.clock := by
  refine List.countP_congr fun t ht => ?_
  have := h t ht
  simp only [decide_eq_true_eq]
  omega

theorem admittedIn_later {t₁ : Nat} (h : ∀ t ∈ l.admitted, t ≤ l.clock) (hlt : l.clock < t₁) (t₂ : Nat) :
    l.admittedIn t₁ t₂ = 0 := by
  refine List.countP_eq_zero.2 fun t ht => ?_
  have := h t ht
  simp only [decide_eq_true_eq]
  omega

theorem admittedIn_pour [Add K] [One K] (l : Log K) (t₁ t₂ : Nat) :
    l.pour.admittedIn t₁ t₂ = l.admittedIn t₁ t₂ + if t₁ ≤ l.clock ∧ l.clock ≤ t₂ then 1 else 0 := by
  unfold admittedIn pour
  rw [List.countP_append, List.countP_singleton]
  simp only [decide_eq_true_eq]

end

variable [Field K] [LinearOrder K] [IsStrictOrderedRing K]

/-- The bucket has leaked at `rate` at the most, and was never filled above `burst`. -/
structure Inv (rate burst : K) (l : Log K) : Prop where
  level_nonneg : 0 ≤ l.level
  admitted_le : ∀ t ∈ l.admitted, t ≤ l.clock
  covers : ∀ t₁ ≤ l.clock, (l.admittedIn t₁ l.clock : K) ≤ l.level + rate * (l.clock - t₁)
  bounded : ∀ t₁ t₂, t₁ ≤ t₂ → (l.admittedIn t₁ t₂ : K) ≤ burst + rate * (t₂ - t₁)

variable {rate burst : K} {l : Log K}

theorem Inv.start (hrate : 0 ≤ rate) (hburst : 0 ≤ burst) (clock : Nat) :
    Inv rate burst { level := 0, clock := clock, admitted := [] } := by
  refine ⟨le_refl _, fun t ht => absurd ht List.not_mem_nil, fun t₁ ht => ?_, fun t₁ t₂ ht => ?_⟩
  · have hspan : (t₁ : K) ≤ clock := Nat.cast_le.2 ht
    have := mul_nonneg hrate (sub_nonneg.2 hspan)
    simpa [admittedIn] using this
  · have hspan : (t₁ : K) ≤ t₂ := Nat.cast_le.2 ht
    have := mul_nonneg hrate (sub_nonneg.2 hspan)
    simp only [admittedIn, List.countP_nil, Nat.cast_zero]
    linarith

/-- **A leak** of at most `rate`. -/
theorem Inv.wait {level : K} {now : Nat} (h : Inv rate burst l) (hrate : 0 ≤ rate) (hnow : l.clock ≤ now)
    (hnonneg : 0 ≤ level) (hleak : l.level - rate * (now - l.clock) ≤ level) : Inv rate burst (l.wait level now) := by
  refine ⟨hnonneg, fun t ht => (h.admitted_le t ht).trans hnow, fun t₁ ht => ?_, h.bounded⟩
  have ht' : t₁ ≤ now := ht
  change ((l.admittedIn t₁ now : Nat) : K) ≤ level + rate * ((now : K) - t₁)
  by_cases hbefore : t₁ ≤ l.clock
  · have hcovers := h.covers t₁ hbefore
    rw [admittedIn_past h.admitted_le hnow]
    linarith
  · -- no cell since `t₁`
    rw [admittedIn_later h.admitted_le (not_le.1 hbefore), Nat.cast_zero]
    have hspan : (t₁ : K) ≤ now := Nat.cast_le.2 ht'
    have := mul_nonneg hrate (sub_nonneg.2 hspan)
    linarith

/-- **A cell** that finds room for one. -/
theorem Inv.pour (h : Inv rate burst l) (hrate : 0 ≤ rate) (hroom : l.level + 1 ≤ burst) : Inv rate burst l.pour := by
  refine ⟨by have := h.level_nonneg; change 0 ≤ l.level + 1; linarith, fun t ht => ?_, fun t₁ ht => ?_,
    fun t₁ t₂ ht => ?_⟩
  · rcases List.mem_append.1 ht with hold | hnew
    · exact h.admitted_le t hold
    · exact le_of_eq (List.mem_singleton.1 hnew)
  · have ht' : t₁ ≤ l.clock := ht
    have hcovers := h.covers t₁ ht'
    rw [show l.pour.clock = l.clock from rfl, admittedIn_pour, if_pos ⟨ht', le_refl _⟩]
    change ((l.admittedIn t₁ l.clock + 1 : Nat) : K) ≤ l.level + 1 + rate * ((l.clock : K) - t₁)
    push_cast
    linarith
  · rw [admittedIn_pour]
    split
    · rename_i hin
      -- the span's cells are those up to now
      have hcovers := h.covers t₁ hin.1
      rw [admittedIn_past h.admitted_le hin.2]
      have hspan : (l.clock : K) ≤ t₂ := Nat.cast_le.2 hin.2
      have := mul_le_mul_of_nonneg_left (sub_le_sub_right hspan (t₁ : K)) hrate
      push_cast
      linarith
    · rw [Nat.add_zero]
      exact h.bounded t₁ t₂ ht

/-! ### A bucket that leaks at its rate -/

/-- No less has leaked than `rate` lets: the level comes from the cells since some moment. -/
def Exact (rate : K) (l : Log K) : Prop :=
  l.level ≤ 0 ∨ ∃ t₁ ≤ l.clock, l.level ≤ l.admittedIn t₁ l.clock - rate * (l.clock - t₁)

theorem Exact.wait {level : K} {now : Nat} (h : Exact rate l) (hadmitted : ∀ t ∈ l.admitted, t ≤ l.clock)
    (hnow : l.clock ≤ now) (hrate : 0 ≤ rate) (hleak : level ≤ max 0 (l.level - rate * (now - l.clock))) :
    Exact rate (l.wait level now) := by
  have hspan : (0 : K) ≤ rate * ((now : K) - l.clock) := mul_nonneg hrate (sub_nonneg.2 (Nat.cast_le.2 hnow))
  rcases le_max_iff.1 hleak with hempty | hlevel
  · exact Or.inl hempty
  rcases h with hzero | ⟨t₁, ht, hcells⟩
  · refine Or.inl (?_ : level ≤ 0)
    linarith
  · refine Or.inr ⟨t₁, ht.trans hnow, ?_⟩
    change level ≤ ((l.admittedIn t₁ now : Nat) : K) - rate * ((now : K) - t₁)
    rw [admittedIn_past hadmitted hnow]
    linarith

theorem Exact.pour (h : Exact rate l) : Exact rate l.pour := by
  rcases h with hzero | ⟨t₁, ht, hcells⟩
  · refine Or.inr ⟨l.clock, le_refl _, ?_⟩
    rw [show l.pour.clock = l.clock from rfl, admittedIn_pour, if_pos ⟨le_refl _, le_refl _⟩]
    change l.level + 1 ≤ ((l.admittedIn l.clock l.clock + 1 : Nat) : K) - rate * ((l.clock : K) - l.clock)
    have : (0 : K) ≤ (l.admittedIn l.clock l.clock : K) := Nat.cast_nonneg _
    push_cast
    rw [sub_self, mul_zero, sub_zero]
    linarith
  · refine Or.inr ⟨t₁, ht, ?_⟩
    rw [show l.pour.clock = l.clock from rfl, admittedIn_pour, if_pos ⟨ht, le_refl _⟩]
    change l.level + 1 ≤ ((l.admittedIn t₁ l.clock + 1 : Nat) : K) - rate * ((l.clock : K) - t₁)
    push_cast
    linarith

/-- **Room for a cell** is room in every span that ends now. -/
theorem room_iff (h : Inv rate burst l) (hexact : Exact rate l) :
    l.level + 1 ≤ burst ↔ ∀ t₁ ≤ l.clock, (l.admittedIn t₁ l.clock : K) + 1 ≤ burst + rate * (l.clock - t₁) := by
  constructor
  · intro hroom t₁ ht
    have := h.covers t₁ ht
    linarith
  · intro hspans
    rcases hexact with hzero | ⟨t₁, ht, hcells⟩
    · have hnow := hspans l.clock (le_refl _)
      have : (0 : K) ≤ (l.admittedIn l.clock l.clock : K) := Nat.cast_nonneg _
      rw [sub_self, mul_zero, add_zero] at hnow
      linarith
    · have := hspans t₁ ht
      linarith

end Log

end LeakyBucket

namespace Gcra

/-! ## The cell rate algorithm as a leaky bucket -/

/-- The cells in the bucket at `t`. -/
def Quota.level (q : Quota) (tat : Option Nat) (t : Nat) : ℚ := max 0 (((tat.getD t : ℚ) - t) / q.emission)

variable {q : Quota} {tat : Option Nat} {t : Nat}

theorem level_nonneg : 0 ≤ q.level tat t := le_max_left _ _

theorem level_none : q.level none t = 0 := by
  simp [Quota.level]

/-- An idle limiter's bucket is empty. -/
theorem level_idle (h : tat.getD t ≤ t) : q.level tat t = 0 := by
  have hle : ((tat.getD t : ℚ) - t) / q.emission ≤ 0 :=
    div_nonpos_of_nonpos_of_nonneg (sub_nonpos.2 (Nat.cast_le.2 h)) (Nat.cast_nonneg _)
  exact max_eq_left hle

/-- It leaks one cell in an emission interval, until it is empty. -/
theorem level_later {t' : Nat} (h : t ≤ t') :
    q.level tat t' = max 0 (q.level tat t - ((t' : ℚ) - t) / q.emission) := by
  cases tat with
  | none =>
    have hspan : (0 : ℚ) ≤ ((t' : ℚ) - t) / q.emission :=
      div_nonneg (sub_nonneg.2 (Nat.cast_le.2 h)) (Nat.cast_nonneg _)
    rw [level_none, level_none, zero_sub, max_eq_left (neg_nonpos.2 hspan)]
  | some m =>
    have hsplit : ((m : ℚ) - t) / q.emission = ((m : ℚ) - t') / q.emission + ((t' : ℚ) - t) / q.emission := by
      rw [← add_div, sub_add_sub_cancel]
    have hspan : (0 : ℚ) ≤ ((t' : ℚ) - t) / q.emission :=
      div_nonneg (sub_nonneg.2 (Nat.cast_le.2 h)) (Nat.cast_nonneg _)
    unfold Quota.level
    rw [Option.getD_some, Option.getD_some, hsplit]
    refine le_antisymm (max_le_max_left 0 ?_) (max_le (le_max_left _ _) ?_)
    · have := le_max_right (0 : ℚ) (((m : ℚ) - t') / q.emission + ((t' : ℚ) - t) / q.emission)
      linarith
    · rw [sub_le_iff_le_add]
      refine max_le (add_nonneg (le_max_left _ _) hspan) (add_le_add_left (le_max_right _ _) _)

/-- A cell conforms where there is room for it. -/
theorem conforms_iff_level (he : 0 < q.emission) (hb : 1 ≤ q.burst) :
    q.conforms tat t = true ↔ q.level tat t + 1 ≤ q.burst := by
  have he' : (0 : ℚ) < q.emission := Nat.cast_pos.2 he
  have hb' : (1 : ℚ) ≤ q.burst := by exact_mod_cast hb
  have htol : ((q.tolerance : Nat) : ℚ) = (q.burst - 1) * q.emission := by
    unfold Quota.tolerance
    rw [Nat.cast_mul, Nat.cast_sub hb, Nat.cast_one]
  have hroom : q.level tat t + 1 ≤ q.burst ↔ ((tat.getD t : ℚ) - t) / q.emission ≤ q.burst - 1 := by
    rw [← le_sub_iff_add_le]
    exact max_le_iff.trans (and_iff_right (sub_nonneg.2 hb'))
  rw [conforms_iff, hroom, div_le_iff₀ he', ← htol, sub_le_iff_le_add, add_comm, ← Nat.cast_add, Nat.cast_le]

/-- A cell that conforms adds one. -/
theorem check_level (he : 0 < q.emission) (h : (q.check tat t).2 = true) :
    q.level (q.check tat t).1 t = q.level tat t + 1 := by
  have he' : (0 : ℚ) < q.emission := Nat.cast_pos.2 he
  have hmark : (q.check tat t).1 = some (max (tat.getD t) t + q.emission) := by
    unfold Quota.check at h ⊢
    split at h
    · rename_i hc
      rw [if_pos hc]
    · cases h
  have hmax : max (0 : ℚ) (((tat.getD t : ℚ) - t) / q.emission) = (max (tat.getD t : ℚ) t - t) / q.emission := by
    rcases le_total (tat.getD t : ℚ) t with hle | hle
    · rw [max_eq_left (div_nonpos_of_nonpos_of_nonneg (sub_nonpos.2 hle) he'.le), max_eq_right hle, sub_self, zero_div]
    · rw [max_eq_right (div_nonneg (sub_nonneg.2 hle) he'.le), max_eq_left hle]
  have hlevel : (((max (tat.getD t) t + q.emission : Nat) : ℚ) - t) / q.emission
      = max 0 (((tat.getD t : ℚ) - t) / q.emission) + 1 := by
    rw [hmax, Nat.cast_add, Nat.cast_max, add_sub_right_comm, add_div, div_self he'.ne']
  unfold Quota.level
  rw [hmark, Option.getD_some, hlevel]
  exact max_eq_right (add_nonneg (le_max_left _ _) zero_le_one)

end Gcra
