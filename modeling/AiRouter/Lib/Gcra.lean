/-
# The generic cell rate algorithm

A limiter with quota `q` admits cells against a theoretical arrival time (`tat`). A cell at
time `t` conforms when `tat` is at most `tolerance` ahead of `t`, and pushes `tat` on by one
emission interval. A limiter that has seen nothing has no `tat`, which acts as `tat = t`.
-/
namespace Gcra

/-- A quota: the emission interval of one cell and the burst size. -/
structure Quota where
  emission : Nat
  burst : Nat
deriving DecidableEq, Repr

/-- How far `tat` may run ahead of the clock: a burst of `burst` cells and no more. -/
def Quota.tolerance (q : Quota) : Nat := (q.burst - 1) * q.emission

/-- Does a cell at time `t` conform? -/
def Quota.conforms (q : Quota) (tat : Option Nat) (t : Nat) : Bool :=
  decide (tat.getD t ≤ t + q.tolerance)

/-- One cell at time `t`: the new `tat` and the verdict. A rejected cell leaves no mark. -/
def Quota.check (q : Quota) (tat : Option Nat) (t : Nat) : Option Nat × Bool :=
  if q.conforms tat t then (some (max (tat.getD t) t + q.emission), true) else (tat, false)

/-- How long a rejected cell has to wait. -/
def Quota.wait (q : Quota) (tat : Option Nat) (t : Nat) : Nat := tat.getD t - (t + q.tolerance)

theorem conforms_iff {q : Quota} {tat : Option Nat} {t : Nat} :
    q.conforms tat t = true ↔ tat.getD t ≤ t + q.tolerance := by
  unfold Quota.conforms; exact decide_eq_true_iff

theorem tolerance_burst_one {q : Quota} (hb : q.burst ≤ 1) : q.tolerance = 0 := by
  unfold Quota.tolerance
  rw [Nat.sub_eq_zero_of_le hb, Nat.zero_mul]

theorem emission_le_tolerance {q : Quota} (hb : 2 ≤ q.burst) : q.emission ≤ q.tolerance := by
  unfold Quota.tolerance
  exact Nat.le_mul_of_pos_left _ (by omega)

theorem check_snd (q : Quota) (tat : Option Nat) (t : Nat) : (q.check tat t).2 = q.conforms tat t := by
  unfold Quota.check
  cases q.conforms tat t <;> rfl

theorem check_rejected {q : Quota} {tat : Option Nat} {t : Nat} (h : (q.check tat t).2 = false) :
    (q.check tat t).1 = tat := by
  unfold Quota.check at h ⊢
  split at h
  · cases h
  · rename_i hc; rw [if_neg hc]

/-- The mark a cell leaves: the old one, or at most a burst ahead of the cell. -/
theorem check_mark {q : Quota} {tat : Option Nat} {t mark : Nat} (h : (q.check tat t).1 = some mark) :
    tat = some mark ∨ mark ≤ t + q.tolerance + q.emission := by
  unfold Quota.check at h
  split at h
  · rename_i hc
    have hle := conforms_iff.1 hc
    have hmark : max (tat.getD t) t + q.emission = mark := Option.some.inj h
    omega
  · exact Or.inl h

/-- An idle limiter admits. -/
theorem check_idle (q : Quota) {tat : Option Nat} {t : Nat} (h : tat.getD t ≤ t) :
    q.check tat t = (some (t + q.emission), true) := by
  have hc : q.conforms tat t = true := conforms_iff.2 (by omega)
  rw [Quota.check, if_pos hc, Nat.max_eq_right h]

/-- A burst of one: right after an idle limiter has admitted a cell, the next is rejected. -/
theorem check_burst_one {q : Quota} (hb : q.burst ≤ 1) (he : 0 < q.emission) (t : Nat) :
    q.check (some (t + q.emission)) t = (some (t + q.emission), false) := by
  have hc : ¬ q.conforms (some (t + q.emission)) t = true := by
    rw [conforms_iff, tolerance_burst_one hb, Option.getD_some]
    omega
  rw [Quota.check, if_neg hc]

/-- A burst of two or more admits that second cell. -/
theorem check_burst_two {q : Quota} (hb : 2 ≤ q.burst) (t : Nat) :
    (q.check (some (t + q.emission)) t).2 = true := by
  have hc : q.conforms (some (t + q.emission)) t = true := by
    have := emission_le_tolerance hb
    rw [conforms_iff, Option.getD_some]
    omega
  rw [Quota.check, if_pos hc]

end Gcra
