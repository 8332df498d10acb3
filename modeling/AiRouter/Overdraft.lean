import AiRouter.Eviction
import AiRouter.Lib.Overdraft

/-
# How far the requests in progress overdraw a TPM budget

A request is let in while the bucket of its key holds the tokens it reserves, and is charged for what it has
used when it is over, whatever the bucket holds by then. What is overdrawn is bounded by the requests that are
let in at once; so is what is charged in a span of time, as long as a debt is paid before the cleanup drops
the pair.

| here | there |
| --- | --- |
| `StoreEvent.toll` | an admitted `check` (limiter.rs:195-240), `consume_tpm` (limiter.rs:242-252) |
| `Traffic.inside`  | requests between their check and their charge (handler.rs:311-319, 478-491) |
-/
namespace AiRouter

open TokenBucket (Passage Visitors)

/-- What an event takes from the bucket of `key`: the reservation of a request that is let in, or the charge of
one that leaves. -/
def StoreEvent.toll (limits : String → LimitsConfig) (key : String) (s : RateLimiterStore) : StoreEvent → Option Passage
  | .op (.check k n scope now) =>
    if k = key ∧ 0 < n ∧ (s.check k (limits k).rpm (limits k).tpm n scope now).2.allowed then some (.enter n) else none
  | .op (.consumeTpm k n _) => if k = key ∧ 0 < n then some (.leave n) else none
  | _ => none

/-- An event on the store, or the end of a request that is not charged any more. -/
inductive TrafficEvent where
  | store (e : StoreEvent)
  | finished
deriving DecidableEq, Repr

/-- The store, and of one key the requests that are let in and what was taken from its bucket. -/
structure Traffic where
  store : RateLimiterStore
  clock : Nat
  inside : Nat
  spent : List (Nat × Nat)

namespace Traffic

def start : Traffic where
  store := { limiters := ∅ }
  clock := 0
  inside := 0
  spent := []

variable (limits : String → LimitsConfig) (key : String)

def step (t : Traffic) : TrafficEvent → Traffic
  | .store e =>
    let after := { t with store := e.apply limits t.store, clock := e.now }
    match e.toll limits key t.store with
    | some (.enter n) => { after with inside := t.inside + 1, spent := t.spent ++ [(e.now, n)] }
    | some (.leave n) => { after with inside := t.inside - 1, spent := t.spent ++ [(e.now, n)] }
    | _ => after
  | .finished => { t with inside := t.inside - 1 }

/-- What was taken in the milliseconds `t₁` to `t₂`. -/
def spentIn (t : Traffic) (t₁ t₂ : Nat) : Nat :=
  ((t.spent.filter fun g => t₁ ≤ g.1 / 1000000 ∧ g.1 / 1000000 ≤ t₂).map (·.2)).sum

/-- A request that is let in finds at most `room` inside with itself, and each is charged at most `most` tokens. -/
def Fair (room most : Nat) (t : Traffic) : TrafficEvent → Prop
  | .store (.op (.check k n scope now)) =>
    t.clock ≤ now ∧ now < 2 ^ 64 ∧ (k = key → n < 2 ^ 61 ∧
      (0 < n → (t.store.check k (limits k).rpm (limits k).tpm n scope now).2.allowed = true → t.inside < room))
  | .store (.op (.consumeTpm k n now)) => t.clock ≤ now ∧ now < 2 ^ 64 ∧ (k = key → 0 < n → 0 < t.inside ∧ n ≤ most)
  | .store e => t.clock ≤ e.now ∧ e.now < 2 ^ 64
  | .finished => True

instance (room most : Nat) (t : Traffic) : ∀ e : TrafficEvent, Decidable (t.Fair limits key room most e)
  | .store (.op (.check k n scope now)) =>
    inferInstanceAs (Decidable (t.clock ≤ now ∧ now < 2 ^ 64 ∧ (k = key → n < 2 ^ 61 ∧
      (0 < n → (t.store.check k (limits k).rpm (limits k).tpm n scope now).2.allowed = true → t.inside < room))))
  | .store (.op (.consumeTpm k n now)) =>
    inferInstanceAs (Decidable (t.clock ≤ now ∧ now < 2 ^ 64 ∧ (k = key → 0 < n → 0 < t.inside ∧ n ≤ most)))
  | .store (.op (.getTpmState _ now)) => inferInstanceAs (Decidable (t.clock ≤ now ∧ now < 2 ^ 64))
  | .store (.cleanup now) => inferInstanceAs (Decidable (t.clock ≤ now ∧ now < 2 ^ 64))
  | .finished => isTrue trivial

end Traffic

/-! ## Values in range -/

namespace TpmLimiter

/-- A limiter whose values stay far inside `i64`. -/
structure Small (l : TpmLimiter) : Prop where
  capacity_pos : 0 < l.capacity
  capacity_lt : l.capacity < 2 ^ 32
  low : -(2 ^ 61) ≤ l.state.tokens
  high : l.state.tokens ≤ l.capacity

variable {l : TpmLimiter} {now n : Nat}

/-- Six centuries earn less than `2 ^ 61` tokens. -/
theorem Small.earned_lt (h : l.Small) (hnow : now < 2 ^ 64) : (plan l.capacity).earned (now - l.state.lastUpdate) < 2 ^ 61 := by
  have hms : (now - l.state.lastUpdate) / 1000000 ≤ 18446744073709 := by omega
  have hproduct : (now - l.state.lastUpdate) / 1000000 * l.capacity ≤ 18446744073709 * 4294967295 :=
    Nat.mul_le_mul hms (by have := h.capacity_lt; omega)
  change (now - l.state.lastUpdate) / 1000000 * l.capacity / 60000 < 2 ^ 61
  omega

theorem Small.fits (h : l.Small) (hnow : now < 2 ^ 64) : l.Fits { now := now, op := .remaining } := by
  have hearned := h.earned_lt hnow
  have hcap := h.capacity_lt
  have hlow := h.low
  have hhigh := h.high
  refine ⟨?_, fun x hx => ?_⟩
  · change (now - l.state.lastUpdate) / 1000000 < 2 ^ 64
    omega
  · simp only [i64Values, List.mem_cons, List.not_mem_nil, or_false] at hx
    unfold FitsI64
    rcases hx with rfl | rfl | rfl <;> omega

/-- The level after a refill. -/
theorem Small.refilled (h : l.Small) (now : Nat) :
    -(2 ^ 61) ≤ ((plan l.capacity).refill l.bucket now).level ∧
      ((plan l.capacity).refill l.bucket now).level ≤ l.capacity := by
  have hfull : l.bucket.level ≤ (plan l.capacity).capacity := h.high
  exact ⟨h.low.trans (TokenBucket.Plan.le_refill hfull), TokenBucket.Plan.refill_le_capacity hfull⟩

theorem Small.fits_checkN (h : l.Small) (hnow : now < 2 ^ 64) (hn : n < 2 ^ 61) : l.Fits { now := now, op := .checkN n } := by
  have hrefilled := h.refilled now
  have hcap := h.capacity_lt
  refine ⟨(h.fits hnow).elapsed, fun x hx => ?_⟩
  rcases List.mem_append.1 hx with hx | hx
  · exact (h.fits hnow).values x hx
  · simp only [List.mem_cons, List.not_mem_nil, or_false] at hx
    unfold FitsI64
    rcases hx with rfl | rfl
    · omega
    · split <;> omega

theorem Small.fits_consumeN (h : l.Small) (hnow : now < 2 ^ 64) (hn : n < 2 ^ 61) :
    l.Fits { now := now, op := .consumeN n } := by
  have hrefilled := h.refilled now
  have hcap := h.capacity_lt
  refine ⟨(h.fits hnow).elapsed, fun x hx => ?_⟩
  rcases List.mem_append.1 hx with hx | hx
  · exact (h.fits hnow).values x hx
  · simp only [List.mem_cons, List.not_mem_nil, or_false] at hx
    unfold FitsI64
    rcases hx with rfl | rfl <;> omega

end TpmLimiter

/-! ## What an operation does to the bucket of its key -/

/-- The bucket before and after an event, and what the event took from it. -/
inductive Moves (p : TokenBucket.Plan) (now : Nat) (b : TokenBucket.Bucket) :
    Option Passage → TokenBucket.Bucket → Prop where
  | enter {n : Nat} (hgrants : p.grants b n now = true) : Moves p now b (some (.enter n)) (p.take b n now)
  | leave (n : Nat) : Moves p now b (some (.leave n)) (p.take b n now)
  | look : Moves p now b none (p.refill b now)
  | idle : Moves p now b none b

namespace RateLimitPair

variable {p : RateLimitPair} {l : LimitsConfig} {n now : Nat} {scope : RateLimitScope}

/-- A check goes to the bucket after it has passed the RPM limit. -/
theorem check_moves (htpm : 0 < l.tpm) (hcap : p.tpm.capacity = l.tpm) (hsmall : p.tpm.Small) (hnow : now < 2 ^ 64)
    (hn : n < 2 ^ 61) :
    Moves (TpmLimiter.plan l.tpm) now p.tpm.bucket
      (if 0 < n ∧ (p.check l n scope now).2.allowed then some (.enter n) else none) (p.check l n scope now).1.tpm.bucket := by
  have hverdict : (∃ wait, (p.enter l.rpm now).2 = .error wait) ∨ (p.enter l.rpm now).2 = .ok () := by
    cases (p.enter l.rpm now).2 with
    | error wait => exact Or.inl ⟨wait, rfl⟩
    | ok _ => exact Or.inr rfl
  unfold RateLimitPair.check
  dsimp only
  rcases hverdict with ⟨wait, henter⟩ | henter
  · have hrefused : (answer l scope (.error wait) ((p.enter l.rpm now).1.spend l.tpm n now).2).allowed = false := rfl
    simp only [henter, hrefused, Bool.false_eq_true, and_false, if_false, Except.isOk, Except.toBool, enter_tpm]
    exact .idle
  · simp only [henter, Except.isOk, Except.toBool, if_true]
    by_cases hpos : 0 < n
    · have hspend : (p.enter l.rpm now).1.spend l.tpm n now
          = ({ (p.enter l.rpm now).1.touch now with tpm := (p.tpm.checkN n now).1 }, (p.tpm.checkN n now).2) := by
        unfold RateLimitPair.spend
        rw [if_pos ⟨htpm, hpos⟩, enter_tpm]
      obtain ⟨hok, hafter⟩ := TpmLimiter.checkN_exact (hsmall.fits_checkN hnow hn)
      rw [hcap] at hok hafter
      have hallowed : (answer l scope (.ok ()) (p.tpm.checkN n now).2).allowed
          = (TpmLimiter.plan l.tpm).grants p.tpm.bucket n now := by
        rw [← hok]
        cases (p.tpm.checkN n now).2 <;> rfl
      simp only [hspend, hallowed, hpos, true_and, hafter]
      by_cases hgrants : (TpmLimiter.plan l.tpm).grants p.tpm.bucket n now = true
      · rw [if_pos hgrants, if_pos hgrants]
        exact .enter hgrants
      · rw [if_neg hgrants, if_neg hgrants]
        exact .look
    · simp only [RateLimitPair.spend, hpos, false_and, and_false, if_false, enter_tpm]
      exact .idle

end RateLimitPair

namespace LimiterOp

variable {limits : String → LimitsConfig} {o : LimiterOp} {s : RateLimiterStore}

/-- The tokens of an operation. -/
def tokens : LimiterOp → Nat
  | check _ n _ _ => n
  | consumeTpm _ n _ => n
  | getTpmState _ _ => 0

/-- **An operation** on the bucket of its key. -/
theorem serve_moves (htpm : 0 < (limits o.key).tpm) (hcap : (o.pair limits s).tpm.capacity = (limits o.key).tpm)
    (hsmall : (o.pair limits s).tpm.Small) (hnow : o.now < 2 ^ 64) (hn : o.tokens < 2 ^ 61) :
    Moves (TpmLimiter.plan (limits o.key).tpm) o.now (o.pair limits s).tpm.bucket
      ((StoreEvent.op o).toll limits o.key s) (o.serve limits (o.pair limits s)).1.tpm.bucket := by
  cases o with
  | check key n scope now =>
    dsimp only [LimiterOp.key, LimiterOp.now, LimiterOp.tokens] at *
    have hmoves := @RateLimitPair.check_moves _ _ _ _ scope htpm hcap hsmall hnow hn
    have hresult := (s.check_pair (k := key) n now (limits key) scope).1
    simp only [StoreEvent.toll, true_and, hresult]
    exact hmoves
  | consumeTpm key n now =>
    dsimp only [LimiterOp.key, LimiterOp.now, LimiterOp.tokens] at *
    simp only [StoreEvent.toll, true_and, serve]
    by_cases hpos : 0 < n
    · rw [if_pos hpos, if_pos ⟨htpm, hpos⟩]
      have hafter := TpmLimiter.consumeN_exact (hsmall.fits_consumeN hnow hn)
      rw [hcap] at hafter
      dsimp only
      rw [hafter]
      exact .leave n
    · rw [if_neg hpos, if_neg fun hand => hpos hand.2]
      exact .idle
  | getTpmState key now =>
    dsimp only [LimiterOp.key, LimiterOp.now, LimiterOp.tokens] at *
    simp only [StoreEvent.toll, serve]
    rw [if_pos htpm]
    dsimp only
    rw [TpmLimiter.windowRemaining_bucket]
    exact .idle

theorem serve_capacity (p : RateLimitPair) : (o.serve limits p).1.tpm.capacity = p.tpm.capacity := by
  have hspend : ∀ (q : RateLimitPair) (tpm n now : Nat), (q.spend tpm n now).1.tpm.capacity = q.tpm.capacity := by
    intro q tpm n now
    unfold RateLimitPair.spend
    split
    · exact TpmLimiter.checkN_capacity _ _ _
    · rfl
  cases o with
  | check key n scope now =>
    simp only [serve, RateLimitPair.check]
    split
    · rw [hspend, RateLimitPair.enter_tpm]
    · rw [RateLimitPair.enter_tpm]
  | consumeTpm key n now =>
    simp only [serve]
    split <;> rfl
  | getTpmState key now =>
    simp only [serve]
    split <;> rfl

end LimiterOp

/-! ## What passes through the bucket -/

/-- What an event leaves of the visitors, with the bucket it leaves. -/
def after (v : Visitors) (now : Nat) (toll : Option Passage) (b : TokenBucket.Bucket) : Visitors :=
  match toll with
  | some (.enter n) => { bucket := b, clock := now, inside := v.inside + 1, spent := v.spent ++ [(now, n)] }
  | some (.leave n) => { bucket := b, clock := now, inside := v.inside - 1, spent := v.spent ++ [(now, n)] }
  | _ => { v with bucket := b, clock := now }

/-- An event that takes nothing is fair to anyone. -/
def FairToll (room most : Nat) (v : Visitors) (toll : Option Passage) : Prop := ∀ a ∈ toll, v.Fair room most a

section
variable {p : TokenBucket.Plan} {room most now : Nat} {v : Visitors} {toll : Option Passage} {b : TokenBucket.Bucket}

/-- An event is a passage, or leaves everything but the clock. -/
theorem Moves.step (h : Moves p now v.bucket toll b) (hfair : FairToll room most v toll) :
    after v now toll b = { v with clock := now } ∨ ∃ a, after v now toll b = v.step p now a ∧ v.Fair room most a := by
  cases h with
  | @enter n hgrants =>
    refine Or.inr ⟨.enter n, ?_, hfair _ rfl⟩
    unfold Visitors.step
    dsimp only
    rw [if_pos hgrants]
    rfl
  | leave n => exact Or.inr ⟨.leave n, rfl, hfair _ rfl⟩
  | look => exact Or.inr ⟨.look, rfl, trivial⟩
  | idle => exact Or.inl rfl

theorem Moves.inv (h : Moves p now v.bucket toll b) (hfair : FairToll room most v toll) (hi : v.Inv p room most) :
    (after v now toll b).Inv p room most := by
  rcases h.step hfair with heq | ⟨a, heq, hfair'⟩
  · rw [heq]
    exact ⟨hi.inside_le, hi.level_le, hi.debt_le⟩
  · rw [heq]
    exact hi.step hfair'

/-- The account of the wider bucket keeps its bound. -/
theorem Moves.account {t₁ t₂ : Nat} (hp : 0 < p.period) (h : Moves p now v.bucket toll b)
    (hfair : FairToll room most v toll) (hi : v.Inv p room most) (hnow : v.clock ≤ now)
    (ha : TokenBucket.Account.Inv (Visitors.widen p (room * most)) t₁ t₂ (v.widened (room * most))) :
    TokenBucket.Account.Inv (Visitors.widen p (room * most)) t₁ t₂ ((after v now toll b).widened (room * most)) := by
  have hperiod : 0 < (Visitors.widen p (room * most)).period := hp
  rcases h.step hfair with heq | ⟨a, heq, hfair'⟩
  · rw [heq]
    exact ha.wait hperiod hnow
  · rw [heq, Visitors.step_widened hi hfair']
    exact ha.call hperiod hnow

end

namespace Traffic

variable {limits : String → LimitsConfig} {key : String} {room most : Nat} {t : Traffic}

/-- The visitors of the key's bucket. -/
def view (t : Traffic) (b : TokenBucket.Bucket) : Visitors where
  bucket := b
  clock := t.clock
  inside := t.inside
  spent := t.spent

theorem view_step (t : Traffic) (e : StoreEvent) (b b' : TokenBucket.Bucket) :
    (t.step limits key (.store e)).view b' = after (t.view b) e.now (e.toll limits key t.store) b' := by
  unfold step after
  dsimp only
  rcases e.toll limits key t.store with _ | a
  · rfl
  · cases a <;> rfl

theorem store_step (t : Traffic) (e : StoreEvent) :
    (t.step limits key (.store e)).store = e.apply limits t.store ∧ (t.step limits key (.store e)).clock = e.now := by
  unfold step
  dsimp only
  rcases e.toll limits key t.store with _ | a
  · exact ⟨rfl, rfl⟩
  · cases a <;> exact ⟨rfl, rfl⟩

/-- The debt of the key's bucket is bounded, where it has one. -/
structure DebtInv (limits : String → LimitsConfig) (key : String) (room most : Nat) (t : Traffic) : Prop where
  inside_le : t.inside ≤ room
  pair : ∀ p, t.store.limiters.lookup key = some p → p.tpm.capacity = (limits key).tpm ∧
    (t.view p.tpm.bucket).Inv (TpmLimiter.plan (limits key).tpm) room most

theorem DebtInv.start : start.DebtInv limits key room most := ⟨Nat.zero_le _, fun _ hp => by cases hp⟩

theorem fair_toll {e : StoreEvent} (hfair : t.Fair limits key room most (.store e)) (b : TokenBucket.Bucket) :
    FairToll room most (t.view b) (e.toll limits key t.store) := by
  intro a ha
  cases e with
  | cleanup now => cases ha
  | op o =>
    cases o with
    | check k n scope now =>
      simp only [StoreEvent.toll, Option.mem_def, Option.ite_none_right_eq_some] at ha
      obtain ⟨⟨hk, hn, hallowed⟩, heq⟩ := ha
      cases heq
      exact (hfair.2.2 hk).2 hn hallowed
    | consumeTpm k n now =>
      simp only [StoreEvent.toll, Option.mem_def, Option.ite_none_right_eq_some] at ha
      obtain ⟨⟨hk, hn⟩, heq⟩ := ha
      cases heq
      exact hfair.2.2 hk hn
    | getTpmState k now => cases ha

/-- The requests let in have room. -/
theorem inside_step {e : StoreEvent} (hin : t.inside ≤ room) (hfair : t.Fair limits key room most (.store e)) :
    (t.step limits key (.store e)).inside ≤ room := by
  have htoll : FairToll room most (t.view ⟨0, 0⟩) (e.toll limits key t.store) := fair_toll hfair ⟨0, 0⟩
  unfold step
  dsimp only
  generalize e.toll limits key t.store = toll at htoll ⊢
  rcases toll with _ | a
  · exact hin
  · cases a with
    | enter n => exact (show t.inside < room from htoll _ rfl)
    | leave n => exact (Nat.sub_le _ _).trans hin
    | look => exact hin

/-- The clock and the time of an event. -/
theorem Fair.now {e : StoreEvent} (hfair : t.Fair limits key room most (.store e)) : t.clock ≤ e.now ∧ e.now < 2 ^ 64 := by
  cases e with
  | cleanup now => exact hfair
  | op o =>
    cases o with
    | check k n scope now => exact ⟨hfair.1, hfair.2.1⟩
    | consumeTpm k n now => exact ⟨hfair.1, hfair.2.1⟩
    | getTpmState k now => exact hfair

/-- An event elsewhere takes nothing here. -/
theorem toll_ne {o : LimiterOp} (h : key ≠ o.key) (s : RateLimiterStore) : (StoreEvent.op o).toll limits key s = none := by
  cases o with
  | check k n scope now => exact if_neg fun hand => h hand.1.symm
  | consumeTpm k n now => exact if_neg fun hand => h hand.1.symm
  | getTpmState k now => rfl

/-- The pair that an operation makes has a full bucket. -/
theorem fresh_bucket {o : LimiterOp} (htpm : 0 < (limits o.key).tpm) (hcap : (limits o.key).tpm < 2 ^ 32) :
    (o.fresh limits).tpm.capacity = (limits o.key).tpm ∧
      (o.fresh limits).tpm.bucket = { level := (limits o.key).tpm, last := o.now } := by
  have hfull : ∀ now, (TpmLimiter.new (limits o.key).tpm now).bucket = { level := (limits o.key).tpm, last := now } := by
    intro now
    have hnew := (TpmLimiter.new_tokens_iff htpm now).2 (by omega)
    unfold TpmLimiter.bucket
    rw [hnew]
    rfl
  cases o with
  | check k n scope now => exact ⟨rfl, hfull now⟩
  | consumeTpm k n now => exact ⟨rfl, hfull now⟩
  | getTpmState k now => exact ⟨rfl, hfull now⟩

/-- A bucket within its debt is far inside `i64`. -/
theorem small_of_inv {p : RateLimitPair} (hcap : p.tpm.capacity = (limits key).tpm) (htpm : 0 < (limits key).tpm)
    (hlt : (limits key).tpm < 2 ^ 32) (hdebt : room * most < 2 ^ 61)
    (hi : (t.view p.tpm.bucket).Inv (TpmLimiter.plan (limits key).tpm) room most) : p.tpm.Small := by
  have hless : (room - t.inside) * most ≤ room * most := Nat.mul_le_mul_right _ (Nat.sub_le _ _)
  have hlow : -(((room - t.inside) * most : Nat) : Int) ≤ p.tpm.state.tokens := hi.debt_le
  have hhigh : p.tpm.state.tokens ≤ ((limits key).tpm : Int) := hi.level_le
  refine ⟨by rw [hcap]; exact htpm, by rw [hcap]; exact hlt, ?_, by rw [hcap]; exact hhigh⟩
  omega

/-- An operation that makes no pair takes nothing. -/
theorem toll_closed {o : LimiterOp} (htpm : 0 < (limits o.key).tpm) (h : o.opens limits = false)
    (s : RateLimiterStore) : (StoreEvent.op o).toll limits o.key s = none := by
  cases o with
  | check k n scope now =>
    simp only [LimiterOp.opens, decide_eq_false_iff_not, not_or, not_and] at h
    exact if_neg fun hand => h.2 htpm hand.2.1
  | consumeTpm k n now =>
    simp only [LimiterOp.opens, decide_eq_false_iff_not, not_and] at h
    exact if_neg fun hand => h htpm hand.2
  | getTpmState k now => rfl

/-- What an operation takes is fair to take, and small. -/
theorem Fair.tokens_lt {o : LimiterOp} (hfair : t.Fair limits o.key room most (.store (.op o))) (hin : t.inside ≤ room)
    (hdebt : room * most < 2 ^ 61) : o.tokens < 2 ^ 61 := by
  cases o with
  | check k n scope now => exact (hfair.2.2 rfl).1
  | consumeTpm k n now =>
    change n < 2 ^ 61
    by_cases hpos : 0 < n
    · obtain ⟨hinside, hn⟩ := hfair.2.2 rfl hpos
      have hmost : most ≤ room * most := Nat.le_mul_of_pos_left most (by omega)
      omega
    · omega
  | getTpmState k now => exact Nat.two_pow_pos 61

/-- **An operation of the key** finds or makes a pair within its debt, and moves its bucket. -/
theorem DebtInv.op {o : LimiterOp} (hi : t.DebtInv limits o.key room most)
    (hfair : t.Fair limits o.key room most (.store (.op o))) (htpm : 0 < (limits o.key).tpm)
    (hlt : (limits o.key).tpm < 2 ^ 32) (hdebt : room * most < 2 ^ 61) :
    (o.pair limits t.store).tpm.capacity = (limits o.key).tpm ∧
      (t.view (o.pair limits t.store).tpm.bucket).Inv (TpmLimiter.plan (limits o.key).tpm) room most ∧
      Moves (TpmLimiter.plan (limits o.key).tpm) o.now (o.pair limits t.store).tpm.bucket
        ((StoreEvent.op o).toll limits o.key t.store) (o.serve limits (o.pair limits t.store)).1.tpm.bucket := by
  have hfound : (o.pair limits t.store).tpm.capacity = (limits o.key).tpm ∧
      (t.view (o.pair limits t.store).tpm.bucket).Inv (TpmLimiter.plan (limits o.key).tpm) room most := by
    rw [o.pair_eq]
    cases hp : t.store.limiters.lookup o.key with
    | some p => exact hi.pair p hp
    | none =>
      obtain ⟨hcap, hbucket⟩ := fresh_bucket htpm hlt
      refine ⟨hcap, ?_⟩
      rw [Option.getD_none, hbucket]
      exact .full hi.inside_le rfl
  have hsmall := small_of_inv hfound.1 htpm hlt hdebt hfound.2
  exact ⟨hfound.1, hfound.2, LimiterOp.serve_moves htpm hfound.1 hsmall hfair.now.2
    (hfair.tokens_lt hi.inside_le hdebt)⟩

/-- **Step**: the debt stays bounded. -/
theorem DebtInv.step {e : TrafficEvent} (hi : t.DebtInv limits key room most) (hfair : t.Fair limits key room most e)
    (htpm : 0 < (limits key).tpm) (hlt : (limits key).tpm < 2 ^ 32) (hdebt : room * most < 2 ^ 61) :
    (t.step limits key e).DebtInv limits key room most := by
  cases e with
  | finished =>
    refine ⟨(Nat.sub_le _ _).trans hi.inside_le, fun p hp => ?_⟩
    obtain ⟨hcap, hinv⟩ := hi.pair p hp
    exact ⟨hcap, hinv.gone⟩
  | store e =>
    -- a pair that is not touched stays within its debt
    have hkept : ∀ p, t.store.limiters.lookup key = some p → e.toll limits key t.store = none →
        p.tpm.capacity = (limits key).tpm ∧
          ((t.step limits key (.store e)).view p.tpm.bucket).Inv (TpmLimiter.plan (limits key).tpm) room most := by
      intro p hp htoll
      obtain ⟨hcap, hinv⟩ := hi.pair p hp
      rw [view_step t e p.tpm.bucket, htoll]
      exact ⟨hcap, Moves.inv .idle (fun a ha => by cases ha) hinv⟩
    refine ⟨inside_step hi.inside_le hfair, fun p hp => ?_⟩
    rw [(t.store_step e).1] at hp
    cases e with
    | cleanup now => exact hkept p (KeyMap.lookup_of_retain hp) rfl
    | op o =>
      by_cases hkey : key = o.key
      · subst hkey
        rw [show StoreEvent.apply limits t.store (.op o) = o.apply limits t.store from rfl, o.apply_lookup_self] at hp
        split at hp
        · obtain rfl := Option.some.inj hp
          obtain ⟨hcap, hinv, hmoves⟩ := hi.op hfair htpm hlt hdebt
          refine ⟨(LimiterOp.serve_capacity _).trans hcap, ?_⟩
          rw [view_step t (.op o) (o.pair limits t.store).tpm.bucket]
          exact hmoves.inv (fair_toll hfair _) hinv
        · rename_i hclosed
          exact hkept p hp (toll_closed htpm (Bool.eq_false_of_not_eq_true hclosed) _)
      · rw [show StoreEvent.apply limits t.store (.op o) = o.apply limits t.store from rfl,
          LimiterOp.apply_lookup_ne hkey] at hp
        exact hkept p hp (toll_ne hkey _)

end Traffic

/-- Requests of the key are let in and charged in the order of time. -/
def Traffic.FairRun (limits : String → LimitsConfig) (key : String) (room most : Nat) (events : List TrafficEvent) : Prop :=
  Steps.Every (Traffic.step limits key) (Traffic.Fair limits key room most) .start events

/-- **A TPM budget is overdrawn** by no more than the requests that were let in at once are charged, and those of
them that are still inside count as nothing yet. -/
theorem debt_bounded {limits : String → LimitsConfig} {key : String} {room most : Nat} (htpm : 0 < (limits key).tpm)
    (hlt : (limits key).tpm < 2 ^ 32) (hdebt : room * most < 2 ^ 61) {events : List TrafficEvent}
    (hevents : Traffic.FairRun limits key room most events) {p : RateLimitPair}
    (hp : (Steps.run (Traffic.step limits key) .start events).store.limiters.lookup key = some p) :
    -(((room - (Steps.run (Traffic.step limits key) .start events).inside) * most : Nat) : Int) ≤ p.tpm.state.tokens ∧
      p.tpm.state.tokens ≤ ((limits key).tpm : Int) := by
  have hrun : (Steps.run (Traffic.step limits key) .start events).DebtInv limits key room most :=
    Steps.run_keeps (fun t e hfair hi => hi.step hfair htpm hlt hdebt) events _ hevents .start
  obtain ⟨-, hinv⟩ := hrun.pair p hp
  exact ⟨hinv.debt_le, hinv.level_le⟩

/-! ## What is charged in a span of time -/

/-- An operation that makes or finds a pair marks it as used, or leaves its bucket alone. -/
theorem LimiterOp.serve_used {limits : String → LimitsConfig} {o : LimiterOp} (hopens : o.opens limits = true)
    (p : RateLimitPair) :
    (o.serve limits p).1.lastUsed = o.now / 10 ^ 9 ∨
      (o.serve limits p).1.lastUsed = p.lastUsed ∧ (o.serve limits p).1.tpm.bucket = p.tpm.bucket := by
  cases o with
  | check key n scope now =>
    simp only [LimiterOp.opens, decide_eq_true_eq] at hopens
    simp only [serve, RateLimitPair.check, LimiterOp.now]
    refine Or.inl ?_
    by_cases hspend : 0 < (limits key).tpm ∧ 0 < n
    · split
      · unfold RateLimitPair.spend
        rw [if_pos hspend]
        rfl
      · rename_i hrefused
        by_cases hrpm : 0 < (limits key).rpm
        · rw [RateLimitPair.enter_lastUsed, if_pos hrpm]
        · refine absurd ?_ hrefused
          unfold RateLimitPair.enter
          rw [if_neg hrpm]
          rfl
    · have hrpm : 0 < (limits key).rpm := hopens.resolve_right hspend
      have hsame : ∀ q : RateLimitPair, q.spend (limits key).tpm n now = (q, .ok ()) := fun q => if_neg hspend
      rw [hsame, ite_self, RateLimitPair.enter_lastUsed, if_pos hrpm]
  | consumeTpm key n now =>
    simp only [LimiterOp.opens, decide_eq_true_eq] at hopens
    simp only [serve]
    rw [if_pos hopens]
    exact Or.inl rfl
  | getTpmState key now =>
    simp only [serve]
    refine Or.inr ?_
    split
    · exact ⟨rfl, TpmLimiter.windowRemaining_bucket _ _⟩
    · exact ⟨rfl, rfl⟩

theorem Moves.last_le {p : TokenBucket.Plan} {now : Nat} {b b' : TokenBucket.Bucket} {toll : Option Passage}
    (h : Moves p now b toll b') (hlast : b.last ≤ now) : b'.last ≤ now := by
  have hrefill := (TokenBucket.Plan.last_le_refill (p := p) hlast).2
  cases h with
  | enter _ => exact hrefill
  | leave n => exact hrefill
  | look => exact hrefill
  | idle => exact hlast

/-- From `clock` on a refill fills the bucket. -/
def FullFrom (p : TokenBucket.Plan) (clock : Nat) (b : TokenBucket.Bucket) : Prop :=
  ∀ now, clock ≤ now → p.refill b now = { level := p.capacity, last := now }

/-- Nine minutes pay a debt of eight. -/
theorem fullFrom_of_idle {capacity debt clock : Nat} {b : TokenBucket.Bucket} (hcap : 0 < capacity)
    (hdebt : debt ≤ 8 * capacity) (hlow : -(debt : Int) ≤ b.level) (hidle : b.last + 599 * 10 ^ 9 ≤ clock) :
    FullFrom (TpmLimiter.plan capacity) clock b := by
  intro now hnow
  have hms : 599000 ≤ (now - b.last) / 1000000 := by omega
  have hearned : 9 * capacity ≤ (TpmLimiter.plan capacity).earned (now - b.last) := by
    have hproduct := Nat.mul_le_mul_right capacity hms
    change 9 * capacity ≤ (now - b.last) / 1000000 * capacity / 60000
    omega
  rw [TokenBucket.Plan.refill_of_earned (by omega)]
  refine congrArg (TokenBucket.Bucket.mk · now) (min_eq_right ?_)
  change (capacity : Int) ≤ _
  omega

namespace Traffic

variable {limits : String → LimitsConfig} {key : String} {room most t₁ t₂ : Nat} {t : Traffic} {b : TokenBucket.Bucket}

/-- The account of the wider bucket is within its bound. -/
def Covered (limits : String → LimitsConfig) (key : String) (room most t₁ t₂ : Nat) (v : Visitors) : Prop :=
  v.Inv (TpmLimiter.plan (limits key).tpm) room most ∧
    TokenBucket.Account.Inv (Visitors.widen (TpmLimiter.plan (limits key).tpm) (room * most)) t₁ t₂ (v.widened (room * most))

/-- What was charged is bounded; a pair that was dropped had paid its debt. -/
structure SpendInv (limits : String → LimitsConfig) (key : String) (room most t₁ t₂ : Nat) (t : Traffic) : Prop where
  debt : t.DebtInv limits key room most
  pair : ∀ p, t.store.limiters.lookup key = some p →
    p.tpm.bucket.last < (p.lastUsed + 1) * 10 ^ 9 ∧ Covered limits key room most t₁ t₂ (t.view p.tpm.bucket)
  dropped : t.store.limiters.lookup key = none → t.spent = [] ∨
    ∃ b, FullFrom (TpmLimiter.plan (limits key).tpm) t.clock b ∧ Covered limits key room most t₁ t₂ (t.view b)

theorem SpendInv.start : start.SpendInv limits key room most t₁ t₂ :=
  ⟨.start, fun _ hp => (by cases hp), fun _ => Or.inl rfl⟩

theorem Covered.wait {v : Visitors} {now : Nat} (h : Covered limits key room most t₁ t₂ v) (hnow : v.clock ≤ now) :
    Covered limits key room most t₁ t₂ { v with clock := now } := by
  have hperiod : 0 < (Visitors.widen (TpmLimiter.plan (limits key).tpm) (room * most)).period :=
    TpmLimiter.plan_period (limits key).tpm
  exact ⟨⟨h.1.inside_le, h.1.level_le, h.1.debt_le⟩, h.2.wait hperiod hnow⟩

theorem Covered.moves {v : Visitors} {now : Nat} {toll : Option Passage} {b : TokenBucket.Bucket}
    (h : Covered limits key room most t₁ t₂ v) (hnow : v.clock ≤ now)
    (hmoves : Moves (TpmLimiter.plan (limits key).tpm) now v.bucket toll b) (hfair : FairToll room most v toll) :
    Covered limits key room most t₁ t₂ (after v now toll b) :=
  ⟨hmoves.inv hfair h.1, hmoves.account (TpmLimiter.plan_period _) hfair h.1 hnow h.2⟩

/-- A full bucket from which nothing was taken. -/
theorem covered_of_unspent {v : Visitors} (hin : v.inside ≤ room) (hspent : v.spent = [])
    (hlevel : v.bucket.level = ((limits key).tpm : Int)) (hlast : v.bucket.last ≤ v.clock) :
    Covered limits key room most t₁ t₂ v := by
  refine ⟨.full hin hlevel, .of_none ?_ hlast hspent⟩
  change v.bucket.level + (room * most : Nat) ≤ ((limits key).tpm + room * most : Nat)
  rw [hlevel]
  push_cast
  exact le_refl _

/-- **An operation of the key** finds a bucket that is covered, or makes one. -/
theorem SpendInv.found {o : LimiterOp} (hi : t.SpendInv limits o.key room most t₁ t₂) (hnow : t.clock ≤ o.now)
    (htpm : 0 < (limits o.key).tpm) (hlt : (limits o.key).tpm < 2 ^ 32) :
    ∃ v : Visitors, v.bucket = (o.pair limits t.store).tpm.bucket ∧ v.inside = t.inside ∧ v.clock ≤ o.now ∧
      v.bucket.last ≤ o.now ∧ (∀ toll b, after v o.now toll b = after (t.view v.bucket) o.now toll b) ∧
      Covered limits o.key room most t₁ t₂ v := by
  have hafter : ∀ (w : Visitors) b, w = { t.view b with clock := o.now } →
      ∀ toll b', after w o.now toll b' = after (t.view w.bucket) o.now toll b' := by
    rintro w b rfl toll b'
    rcases toll with _ | a
    · rfl
    · cases a <;> rfl
  rw [o.pair_eq]
  cases hp : t.store.limiters.lookup o.key with
  | some p =>
    obtain ⟨-, hcovered⟩ := hi.pair p hp
    exact ⟨t.view p.tpm.bucket, rfl, rfl, hnow, (hcovered.2.last).trans hnow, fun _ _ => rfl, hcovered⟩
  | none =>
    obtain ⟨hcap, hbucket⟩ := fresh_bucket (o := o) htpm hlt
    rw [Option.getD_none, hbucket]
    refine ⟨{ t.view { level := (limits o.key).tpm, last := o.now } with clock := o.now }, rfl, rfl, le_refl _,
      le_refl _, hafter _ _ rfl, ?_⟩
    rcases hi.dropped hp with hunspent | ⟨b, hfull, hcovered⟩
    · exact covered_of_unspent hi.debt.inside_le hunspent rfl (le_refl _)
    · -- a look at the dropped bucket finds what the new one holds
      have hlook := @Covered.moves _ _ _ _ _ _ _ o.now _ _ hcovered hnow .look (fun a ha => by cases ha)
      rw [show (t.view b).bucket = b from rfl, hfull o.now hnow] at hlook
      exact hlook

theorem Covered.gone (h : Covered limits key room most t₁ t₂ (t.view b)) :
    Covered limits key room most t₁ t₂ ((t.step limits key .finished).view b) := ⟨h.1.gone, h.2⟩

/-- An event that takes nothing from a bucket and leaves it where it is. -/
theorem Covered.untouched {e : StoreEvent} (h : Covered limits key room most t₁ t₂ (t.view b)) (hnow : t.clock ≤ e.now)
    (htoll : e.toll limits key t.store = none) :
    Covered limits key room most t₁ t₂ ((t.step limits key (.store e)).view b) := by
  rw [view_step t e b, htoll]
  exact h.wait hnow

theorem spent_step {e : StoreEvent} (htoll : e.toll limits key t.store = none) :
    (t.step limits key (.store e)).spent = t.spent := by
  unfold step
  dsimp only
  rw [htoll]

/-- A dropped bucket stays dropped. -/
theorem SpendInv.still_dropped {e : StoreEvent} (hi : t.SpendInv limits key room most t₁ t₂) (hnow : t.clock ≤ e.now)
    (htoll : e.toll limits key t.store = none) (hnone : t.store.limiters.lookup key = none) :
    (t.step limits key (.store e)).spent = [] ∨
      ∃ b, FullFrom (TpmLimiter.plan (limits key).tpm) (t.step limits key (.store e)).clock b ∧
        Covered limits key room most t₁ t₂ ((t.step limits key (.store e)).view b) := by
  rw [spent_step htoll, (t.store_step e).2]
  refine (hi.dropped hnone).imp id ?_
  rintro ⟨b, hfull, hcovered⟩
  exact ⟨b, fun now hle => hfull now (hnow.trans hle), hcovered.untouched hnow htoll⟩

/-- **Step**: an operation of the key. -/
theorem SpendInv.op {o : LimiterOp} (hi : t.SpendInv limits o.key room most t₁ t₂)
    (hfair : t.Fair limits o.key room most (.store (.op o))) (htpm : 0 < (limits o.key).tpm)
    (hlt : (limits o.key).tpm < 2 ^ 32) (hdebt : room * most < 2 ^ 61) (hopens : o.opens limits = true) :
    (o.serve limits (o.pair limits t.store)).1.tpm.bucket.last
        < ((o.serve limits (o.pair limits t.store)).1.lastUsed + 1) * 10 ^ 9 ∧
      Covered limits o.key room most t₁ t₂
        ((t.step limits o.key (.store (.op o))).view (o.serve limits (o.pair limits t.store)).1.tpm.bucket) := by
  obtain ⟨hcap, hinv, hmoves⟩ := hi.debt.op hfair htpm hlt hdebt
  obtain ⟨v, hbucket, hin, hclock, hlast, hafter, hcovered⟩ := hi.found hfair.now.1 htpm hlt
  rw [hbucket] at hlast hafter
  have htoll : FairToll room most v ((StoreEvent.op o).toll limits o.key t.store) := by
    intro a ha
    have hview := fair_toll hfair v.bucket a ha
    unfold Visitors.Fair at hview ⊢
    rw [hin]
    exact hview
  refine ⟨?_, ?_⟩
  · rcases LimiterOp.serve_used hopens (o.pair limits t.store) with hused | ⟨hused, hsame⟩
    · have := hmoves.last_le hlast
      omega
    · rw [hused, hsame, o.pair_eq]
      cases hp : t.store.limiters.lookup o.key with
      | some p => exact (hi.pair p hp).1
      | none =>
        have hfresh := (fresh_bucket (o := o) htpm hlt).2
        have hnew : (o.fresh limits).lastUsed = o.now / 10 ^ 9 := by cases o <;> rfl
        rw [Option.getD_none, hfresh, hnew]
        change o.now < _
        omega
  · rw [← hbucket] at hmoves
    have hmoved := hcovered.moves hclock hmoves htoll
    rw [hafter] at hmoved
    rw [view_step t (.op o) (o.pair limits t.store).tpm.bucket]
    exact hmoved

/-- **Step**: what is charged stays bounded. -/
theorem SpendInv.step {e : TrafficEvent} (hi : t.SpendInv limits key room most t₁ t₂) (hfair : t.Fair limits key room most e)
    (htpm : 0 < (limits key).tpm) (hlt : (limits key).tpm < 2 ^ 32) (hdebt : room * most ≤ 8 * (limits key).tpm) :
    (t.step limits key e).SpendInv limits key room most t₁ t₂ := by
  have hsmall : room * most < 2 ^ 61 := by omega
  have hdebtInv := hi.debt.step hfair htpm hlt hsmall
  cases e with
  | finished =>
    refine ⟨hdebtInv, fun p hp => ⟨(hi.pair p hp).1, (hi.pair p hp).2.gone⟩, fun hnone => ?_⟩
    refine (hi.dropped hnone).imp id ?_
    rintro ⟨b, hfull, hcovered⟩
    exact ⟨b, hfull, hcovered.gone⟩
  | store e =>
    have hnow := hfair.now.1
    cases e with
    | op o =>
      have hlookup : (t.step limits key (.store (.op o))).store = o.apply limits t.store := (t.store_step _).1
      by_cases hkey : key = o.key
      · subst hkey
        cases hopens : o.opens limits with
        | true =>
          have hafter : (o.apply limits t.store).limiters.lookup o.key
              = some (o.serve limits (o.pair limits t.store)).1 := by
            rw [o.apply_lookup_self, hopens, if_pos rfl]
          refine ⟨hdebtInv, fun p hp => ?_, fun hnone => ?_⟩
          · rw [hlookup, hafter] at hp
            obtain rfl := Option.some.inj hp
            exact hi.op hfair htpm hlt hsmall hopens
          · rw [hlookup, hafter] at hnone
            cases hnone
        | false =>
          have htoll := toll_closed (o := o) htpm hopens t.store
          have hafter : (o.apply limits t.store).limiters.lookup o.key = t.store.limiters.lookup o.key := by
            rw [o.apply_lookup_self, hopens]
            rfl
          refine ⟨hdebtInv, fun p hp => ?_, fun hnone => ?_⟩
          · rw [hlookup, hafter] at hp
            exact ⟨(hi.pair p hp).1, (hi.pair p hp).2.untouched hnow htoll⟩
          · rw [hlookup, hafter] at hnone
            exact hi.still_dropped hnow htoll hnone
      · have htoll : (StoreEvent.op o).toll limits key t.store = none := toll_ne hkey t.store
        have hafter : (o.apply limits t.store).limiters.lookup key = t.store.limiters.lookup key :=
          LimiterOp.apply_lookup_ne hkey
        refine ⟨hdebtInv, fun p hp => ?_, fun hnone => ?_⟩
        · rw [hlookup, hafter] at hp
          exact ⟨(hi.pair p hp).1, (hi.pair p hp).2.untouched hnow htoll⟩
        · rw [hlookup, hafter] at hnone
          exact hi.still_dropped hnow htoll hnone
    | cleanup now =>
      have hlookup : (t.step limits key (.store (.cleanup now))).store.limiters.lookup key
          = (t.store.limiters.lookup key).filter fun p => now / 10 ^ 9 - p.lastUsed < 600 := by
        rw [(t.store_step _).1]
        exact KeyMap.lookup_retain _ _ _
      refine ⟨hdebtInv, fun p hp => ?_, fun hnone => ?_⟩
      · rw [hlookup, Option.filter_eq_some_iff] at hp
        exact ⟨(hi.pair p hp.1).1, (hi.pair p hp.1).2.untouched hnow rfl⟩
      · rw [hlookup] at hnone
        cases hp : t.store.limiters.lookup key with
        | none => exact hi.still_dropped hnow rfl hp
        | some p =>
          obtain ⟨hused, hcovered⟩ := hi.pair p hp
          have hidle : ¬ now / 10 ^ 9 - p.lastUsed < 600 := by
            intro hkeep
            rw [hp, Option.filter_some, if_pos (by simpa using hkeep)] at hnone
            cases hnone
          -- a pair that is dropped has been paid
          refine Or.inr ⟨p.tpm.bucket, fullFrom_of_idle htpm hdebt ?_ ?_, hcovered.untouched hnow rfl⟩
          · have hless : (room - t.inside) * most ≤ room * most := Nat.mul_le_mul_right _ (Nat.sub_le _ _)
            have hlow : -(((room - t.inside) * most : Nat) : Int) ≤ p.tpm.bucket.level := hcovered.1.debt_le
            omega
          · rw [(t.store_step _).2]
            change p.tpm.bucket.last + 599 * 10 ^ 9 ≤ now
            omega

end Traffic

/-- **What is charged** to a TPM budget in the milliseconds `t₁` to `t₂`, over all requests and whatever the
cleanup drops: the capacity, what the requests let in at once can overdraw, and what the time refills. -/
theorem spending_bounded {limits : String → LimitsConfig} {key : String} {room most : Nat} (htpm : 0 < (limits key).tpm)
    (hlt : (limits key).tpm < 2 ^ 32) (hdebt : room * most ≤ 8 * (limits key).tpm) {events : List TrafficEvent}
    (hevents : Traffic.FairRun limits key room most events) (t₁ t₂ : Nat) :
    (Steps.run (Traffic.step limits key) .start events).spentIn t₁ t₂
      ≤ (limits key).tpm + room * most + ((limits key).tpm * (t₂ - t₁ + 1)) ⌈/⌉ 60000 := by
  have hrun : (Steps.run (Traffic.step limits key) .start events).SpendInv limits key room most t₁ t₂ :=
    Steps.run_keeps (fun t e hfair hi => hi.step hfair htpm hlt hdebt) events _ hevents .start
  generalize Steps.run (Traffic.step limits key) .start events = t at hrun ⊢
  have hcovered : t.spent = [] ∨ ∃ b, Traffic.Covered limits key room most t₁ t₂ (t.view b) := by
    cases hp : t.store.limiters.lookup key with
    | some p => exact Or.inr ⟨p.tpm.bucket, (hrun.pair p hp).2⟩
    | none => exact (hrun.dropped hp).imp id fun ⟨b, _, hb⟩ => ⟨b, hb⟩
  rcases hcovered with hunspent | ⟨b, hb⟩
  · unfold Traffic.spentIn
    rw [hunspent]
    exact Nat.zero_le _
  · have hperiod : 0 < (Visitors.widen (TpmLimiter.plan (limits key).tpm) (room * most)).period :=
      TpmLimiter.plan_period (limits key).tpm
    have hgranted := hb.2.granted hperiod
    rw [Nat.mul_comm (limits key).tpm]
    exact hgranted

/-- Two requests at once, of up to forty tokens each, on a budget of ten a minute. -/
def tenTokens : String → LimitsConfig := fun _ => { rpm := 0, tpm := 10 }

def overdrawing : List TrafficEvent :=
  [.store (.op (.check "k" 1 .token 0)), .store (.op (.check "k" 1 .token 0)), .store (.op (.consumeTpm "k" 39 1000000)),
    .store (.op (.consumeTpm "k" 39 2000000)), .store (.op (.check "k" 1 .token 60000000000)),
    .store (.cleanup 700000000000), .store (.op (.check "k" 1 .token 700000000000)), .finished]

theorem overdrawing_debt :
    -(((2 - (Steps.run (Traffic.step tenTokens "k") .start (overdrawing.take 4)).inside) * 40 : Nat) : Int) ≤ -70 ∧
      (-70 : Int) ≤ ((tenTokens "k").tpm : Int) :=
  debt_bounded (p := { rpm := 1, tat := none, lastUsed := 0
                       tpm := { capacity := 10
                                state := { tokens := -70, lastUpdate := 0, windowStart := 0, windowConsumed := 80 } } })
    (by decide) (by decide) (by decide) (show Traffic.FairRun tenTokens "k" 2 40 _ from by unfold Traffic.FairRun; decide)
    (by decide)

theorem overdrawing_spent :
    (Steps.run (Traffic.step tenTokens "k") .start overdrawing).spentIn 0 1000
        ≤ (tenTokens "k").tpm + 2 * 40 + ((tenTokens "k").tpm * (1000 - 0 + 1)) ⌈/⌉ 60000 ∧
      (Steps.run (Traffic.step tenTokens "k") .start overdrawing).spentIn 0 1000 = 80 :=
  ⟨spending_bounded (by decide) (by decide) (by decide)
    (show Traffic.FairRun tenTokens "k" 2 40 _ from by unfold Traffic.FairRun; decide) 0 1000, by decide⟩

end AiRouter
