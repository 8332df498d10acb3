import Mathlib.Algebra.BigOperators.Group.List.Basic
import Mathlib.Order.Interval.Finset.Nat
import AiRouter.Lib.RoundRobin

/-
# Intervals of a running sum

A list of weights cuts the numbers below its sum into one interval for each index. `locate` walks the list to the
interval that holds a number; over as many consecutive numbers as the sum, modulo the sum, every index is found as
often as its weight says.
-/
namespace PrefixSum

open RoundRobin (window window_of_periodic)

/-- The interval of index `i`. -/
def Holds (ws : List Nat) (i x : Nat) : Prop := (ws.take i).sum ≤ x ∧ x < (ws.take (i + 1)).sum

/-- The index whose interval holds `x`. -/
def locate : List Nat → Nat → Option Nat
  | [], _ => none
  | w :: ws, x => if x < w then some 0 else (locate ws (x - w)).map (· + 1)

variable {ws : List Nat} {w x i : Nat}

theorem holds_zero : Holds (w :: ws) 0 x ↔ x < w := by simp [Holds]

theorem holds_succ : Holds (w :: ws) (i + 1) x ↔ w ≤ x ∧ Holds ws i (x - w) := by
  unfold Holds
  rw [List.take_succ_cons, List.take_succ_cons, List.sum_cons, List.sum_cons]
  omega

/-- **`locate` is right.** -/
theorem locate_eq_some_iff : locate ws x = some i ↔ Holds ws i x := by
  induction ws generalizing x i with
  | nil => simp [locate, Holds]
  | cons w ws ih =>
    unfold locate
    cases i with
    | zero =>
      rw [holds_zero]
      by_cases h : x < w <;> simp [h]
    | succ i =>
      rw [holds_succ]
      by_cases h : x < w
      · simp [h]
      · rw [if_neg h, Option.map_eq_some_iff]
        simp [ih, Nat.le_of_not_lt h]

theorem locate_isSome_iff : (locate ws x).isSome = true ↔ x < ws.sum := by
  induction ws generalizing x with
  | nil => simp [locate]
  | cons w ws ih =>
    unfold locate
    rw [List.sum_cons]
    by_cases h : x < w
    · simp only [if_pos h, Option.isSome_some, true_iff]
      omega
    · rw [if_neg h, Option.isSome_map, ih]
      omega

/-- Every number below the sum lies in an interval. -/
theorem exists_holds (h : x < ws.sum) : ∃ i, Holds ws i x := by
  obtain ⟨i, hi⟩ := Option.isSome_iff_exists.1 (locate_isSome_iff.2 h)
  exact ⟨i, locate_eq_some_iff.1 hi⟩

theorem Holds.lt_length (h : Holds ws i x) : i < ws.length := by
  by_contra hlen
  have hall : ws.take i = ws ∧ ws.take (i + 1) = ws :=
    ⟨List.take_of_length_le (by omega), List.take_of_length_le (by omega)⟩
  unfold Holds at h
  rw [hall.1, hall.2] at h
  omega

/-- An index of positive weight is found at the sum of the weights before it. -/
theorem holds_start (hi : i < ws.length) (hpos : 0 < ws[i]) : Holds ws i (ws.take i).sum := by
  refine ⟨le_rfl, ?_⟩
  rw [List.sum_take_succ ws i hi]
  omega

theorem sum_take_le (ws : List Nat) (i : Nat) : (ws.take i).sum ≤ ws.sum := by
  conv_rhs => rw [← List.take_append_drop i ws, List.sum_append]
  omega

/-- **Shares**: over `ws.sum` consecutive numbers index `i` is found `ws[i]` times. -/
theorem window_locate (hi : i < ws.length) (start : Nat) :
    window (fun k => locate ws (k % ws.sum) = some i) start ws.sum = ws[i] := by
  have hperiod : ∀ k, locate ws ((k + ws.sum) % ws.sum) = some i ↔ locate ws (k % ws.sum) = some i :=
    fun k => by rw [Nat.add_mod_right]
  rw [window_of_periodic hperiod]
  unfold window
  rw [Nat.count_eq_card_filter_range]
  have hinterval : (Finset.range ws.sum).filter (fun k => locate ws ((0 + k) % ws.sum) = some i)
      = Finset.Ico (ws.take i).sum (ws.take (i + 1)).sum := by
    ext k
    rw [Finset.mem_filter, Finset.mem_range, Finset.mem_Ico, Nat.zero_add]
    constructor
    · rintro ⟨hk, hfound⟩
      rw [Nat.mod_eq_of_lt hk] at hfound
      exact locate_eq_some_iff.1 hfound
    · intro hholds
      have hk : k < ws.sum := hholds.2.trans_le (sum_take_le ws (i + 1))
      rw [Nat.mod_eq_of_lt hk]
      exact ⟨hk, locate_eq_some_iff.2 hholds⟩
  rw [hinterval, Nat.card_Ico, List.sum_take_succ ws i hi, Nat.add_sub_cancel_left]

end PrefixSum
