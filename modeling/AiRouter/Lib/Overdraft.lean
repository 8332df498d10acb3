import AiRouter.Lib.TokenBucket

/-
# Overdrafts of a token bucket

A visitor is let in when the bucket holds what it asks for, and takes what it has used, whatever the bucket
holds, when it leaves. With at most `room` visitors inside and at most `most` taken by each, the bucket is
never more than `room * most` in debt (`Visitors.Inv`): it spends what a bucket that is larger by that much
grants (`Visitors.step_widened`).
-/
namespace TokenBucket

inductive Passage where
  /-- let in if the bucket holds `n` tokens -/
  | enter (n : Nat)
  /-- out, with `n` tokens -/
  | leave (n : Nat)
  | look
deriving DecidableEq, Repr

/-- A bucket, the time it was last used, how many are inside, and what was taken, with the times. -/
structure Visitors where
  bucket : Bucket
  clock : Nat
  inside : Nat
  spent : List (Nat × Nat)
deriving DecidableEq, Repr

namespace Visitors

def step (p : Plan) (v : Visitors) (now : Nat) : Passage → Visitors
  | .enter n =>
    if p.grants v.bucket n now then
      { bucket := p.take v.bucket n now, clock := now, inside := v.inside + 1, spent := v.spent ++ [(now, n)] }
    else { v with bucket := p.refill v.bucket now, clock := now }
  | .leave n =>
    { bucket := p.take v.bucket n now, clock := now, inside := v.inside - 1, spent := v.spent ++ [(now, n)] }
  | .look => { v with bucket := p.refill v.bucket now, clock := now }

/-- Out without taking any more. -/
def gone (v : Visitors) : Visitors := { v with inside := v.inside - 1 }

/-- What was taken in the ticks `t₁` to `t₂`. -/
def spentIn (tick t₁ t₂ : Nat) (v : Visitors) : Nat :=
  ((v.spent.filter fun g => t₁ ≤ g.1 / tick ∧ g.1 / tick ≤ t₂).map (·.2)).sum

/-- There is room for one more; one that is inside takes at most `most`. -/
def Fair (room most : Nat) (v : Visitors) : Passage → Prop
  | .enter _ => v.inside < room
  | .leave n => 0 < v.inside ∧ n ≤ most
  | .look => True

instance (room most : Nat) (v : Visitors) : ∀ a : Passage, Decidable (v.Fair room most a)
  | .enter _ => inferInstanceAs (Decidable (v.inside < room))
  | .leave _ => inferInstanceAs (Decidable (_ ∧ _))
  | .look => isTrue trivial

/-- The debt is at most what those who have left again can have taken. -/
structure Inv (p : Plan) (room most : Nat) (v : Visitors) : Prop where
  inside_le : v.inside ≤ room
  level_le : v.bucket.level ≤ p.capacity
  debt_le : -(((room - v.inside) * most : Nat) : Int) ≤ v.bucket.level

variable {p : Plan} {room most now : Nat} {v : Visitors} {a : Passage}

theorem Inv.full (h : v.inside ≤ room) (hlevel : v.bucket.level = p.capacity) : Inv p room most v :=
  ⟨h, hlevel.le, by rw [hlevel]; exact le_trans (Int.neg_nonpos_of_nonneg (Int.natCast_nonneg _)) (Int.natCast_nonneg _)⟩

/-- Whoever leaves lets the debt grow by at most `most`. -/
theorem room_left {inside : Nat} (hin : 0 < inside) (hle : inside ≤ room) :
    (room - (inside - 1)) * most = (room - inside) * most + most := by
  have hone : room - (inside - 1) = room - inside + 1 := by omega
  rw [hone, Nat.add_mul, Nat.one_mul]

theorem Inv.gone (h : Inv p room most v) : Inv p room most v.gone := by
  refine ⟨(Nat.sub_le _ _).trans h.inside_le, h.level_le, le_trans ?_ h.debt_le⟩
  have hless : (room - v.inside) * most ≤ (room - (v.inside - 1)) * most :=
    Nat.mul_le_mul_right _ (by omega)
  change -(((room - (v.inside - 1)) * most : Nat) : Int) ≤ _
  omega

/-- **Step**: the debt stays bounded. -/
theorem Inv.step (h : Inv p room most v) (hfair : v.Fair room most a) : Inv p room most (v.step p now a) := by
  have hrefill : v.bucket.level ≤ (p.refill v.bucket now).level := Plan.le_refill h.level_le
  have hfull : (p.refill v.bucket now).level ≤ p.capacity := Plan.refill_le_capacity h.level_le
  have hdebt := h.debt_le
  cases a with
  | enter n =>
    have hroom : v.inside < room := hfair
    unfold Visitors.step
    dsimp only
    split
    · rename_i hgrants
      -- one who is let in leaves the bucket out of debt
      have hholds : (n : Int) ≤ (p.refill v.bucket now).level := of_decide_eq_true hgrants
      refine ⟨hroom, ?_, ?_⟩
      · change (p.refill v.bucket now).level - n ≤ p.capacity
        omega
      · change -(((room - (v.inside + 1)) * most : Nat) : Int) ≤ (p.refill v.bucket now).level - n
        omega
    · exact ⟨h.inside_le, hfull, hdebt.trans hrefill⟩
  | leave n =>
    obtain ⟨hin, hn⟩ := hfair
    refine ⟨(Nat.sub_le _ _).trans h.inside_le, ?_, ?_⟩
    · change (p.refill v.bucket now).level - n ≤ p.capacity
      omega
    · change -(((room - (v.inside - 1)) * most : Nat) : Int) ≤ (p.refill v.bucket now).level - n
      rw [room_left hin h.inside_le]
      omega
  | look => exact ⟨h.inside_le, hfull, hdebt.trans hrefill⟩

/-! ## What is taken in a span of time -/

/-- The same plan with room for the debt. -/
def widen (p : Plan) (debt : Nat) : Plan := { p with capacity := p.capacity + debt }

/-- The account of the wider bucket: what was taken was granted. -/
def widened (debt : Nat) (v : Visitors) : Account where
  bucket := { v.bucket with level := v.bucket.level + debt }
  clock := v.clock
  granted := v.spent

theorem refill_widened (p : Plan) (debt : Nat) (b : Bucket) (now : Nat) :
    (widen p debt).refill { b with level := b.level + debt } now
      = { p.refill b now with level := (p.refill b now).level + debt } := by
  have hearned : (widen p debt).earned (now - b.last) = p.earned (now - b.last) := rfl
  unfold Plan.refill
  dsimp only
  rw [hearned]
  split
  · have hlevel : min (b.level + debt + p.earned (now - b.last)) (((p.capacity + debt : Nat)) : Int)
        = min (b.level + p.earned (now - b.last)) p.capacity + debt := by omega
    exact congrArg (Bucket.mk · now) hlevel
  · rfl

/-- What the passage is to the wider bucket. -/
def act (p : Plan) (v : Visitors) (now : Nat) : Passage → Act
  | .enter n => if p.grants v.bucket n now then .request n else .look
  | .leave n => .request n
  | .look => .look

/-- **The wider bucket grants** whatever is taken. -/
theorem step_widened (h : Inv p room most v) (hfair : v.Fair room most a) :
    (v.step p now a).widened (room * most)
      = (v.widened (room * most)).call (widen p (room * most)) { now := now, act := v.act p now a } := by
  have hrefill := refill_widened p (room * most) v.bucket now
  have hraised : v.bucket.level ≤ (p.refill v.bucket now).level := Plan.le_refill h.level_le
  have hlow := h.debt_le.trans hraised
  -- a request that leaves no more than the debt is granted
  have hgranted : ∀ n : Nat, (n : Int) ≤ (p.refill v.bucket now).level + (room * most : Nat) →
      (widen p (room * most)).grants (v.widened (room * most)).bucket n now = true := by
    intro n hn
    unfold Plan.grants widened
    rw [hrefill]
    exact decide_eq_true hn
  have htake : ∀ n : Nat, { p.take v.bucket n now with level := (p.take v.bucket n now).level + (room * most : Nat) }
      = (widen p (room * most)).take (v.widened (room * most)).bucket n now := by
    intro n
    unfold Plan.take widened
    dsimp only
    rw [hrefill]
    dsimp only
    congr 1
    omega
  cases a with
  | enter n =>
    by_cases hgrants : p.grants v.bucket n now = true
    · have hholds : (n : Int) ≤ (p.refill v.bucket now).level := of_decide_eq_true hgrants
      unfold Visitors.step act Account.call
      dsimp only
      rw [if_pos hgrants, if_pos hgrants]
      dsimp only
      rw [if_pos (hgranted n (by omega)), ← htake]
      rfl
    · unfold Visitors.step act Account.call
      dsimp only
      rw [if_neg hgrants, if_neg hgrants]
      dsimp only
      unfold widened
      rw [hrefill]
  | leave n =>
    obtain ⟨hin, hn⟩ := hfair
    have hall : (room - v.inside) * most + most ≤ room * most := by
      rw [← room_left hin h.inside_le]
      exact Nat.mul_le_mul_right _ (Nat.sub_le _ _)
    unfold Visitors.step act Account.call
    dsimp only
    rw [if_pos (hgranted n (by omega)), ← htake]
    rfl
  | look =>
    unfold Visitors.step act Account.call widened
    dsimp only
    rw [hrefill]

end Visitors

/-- Time passes without a call. -/
theorem Account.Inv.wait {p : Plan} {t₁ t₂ now : Nat} {s : Account} (hp : 0 < p.period) (h : Account.Inv p t₁ t₂ s)
    (hnow : s.clock ≤ now) : Account.Inv p t₁ t₂ { s with clock := now } := by
  have hticks : s.clock / p.tick ≤ now / p.tick := Nat.div_le_div_right hnow
  refine ⟨h.level, h.last.trans hnow, ?_⟩
  rcases h.phase with hnone | ⟨base, first, hin⟩ | ⟨hafter, hle⟩
  · exact Or.inl hnone
  · have hgranted : s.grantedIn p.tick t₁ t₂ ≤ allowance p t₁ t₂ := hin.granted hp h.last
    by_cases hpast : t₂ < now / p.tick
    · exact Or.inr (Or.inr ⟨hpast, hgranted⟩)
    · exact Or.inr (Or.inl ⟨base, first, hin.first_ge, not_lt.1 hpast, hin.base_first, hin.first_clock.trans hnow,
        hin.idle, hin.base_last, hin.granted_le, hin.balance⟩)
  · exact Or.inr (Or.inr ⟨hafter.trans_le hticks, hle⟩)

end TokenBucket
