import AiRouter.Reload
import AiRouter.TpmHistory

/-
# The cleanup of idle limiters (limiter.rs:438-456)

`start_cleanup` drops the pairs not used for ten minutes, and the next operation on such a key makes a new
one. Two runs side by side: one with the cleanups and one without.

| here | there |
| --- | --- |
| `RateLimitPair.enter`, `RateLimitPair.spend` | the two halves of `check` (limiter.rs:197-230) on the key's pair |
| `StoreEvent.cleanup` | one round of the loop (limiter.rs:443-450) |
-/
namespace AiRouter

/-! ## An operation on one pair -/

namespace RateLimitPair

def enter (p : RateLimitPair) (rpm now : Nat) : RateLimitPair × Except Rat Unit :=
  if 0 < rpm then (p.touch now).checkRpm now else (p, .ok ())

def spend (p : RateLimitPair) (tpm n now : Nat) : RateLimitPair × Except Rat Unit :=
  if 0 < tpm ∧ 0 < n then
    ({ p.touch now with tpm := (p.tpm.checkN n now).1 }, (p.tpm.checkN n now).2)
  else (p, .ok ())

/-- What a check answers from the verdicts of its halves. -/
def answer (l : LimitsConfig) (scope : RateLimitScope) (admitted spent : Except Rat Unit) : RateLimitResult :=
  match admitted, spent with
  | .error wait, _ => { allowed := false, limit := l.rpm, resetAfterSecs := wait, scope := scope }
  | .ok (), .error wait => { allowed := false, limit := l.tpm, resetAfterSecs := wait, scope := scope }
  | .ok (), .ok () =>
    { allowed := true, limit := if 0 < l.rpm then l.rpm else l.tpm, resetAfterSecs := 0, scope := scope }

def check (p : RateLimitPair) (l : LimitsConfig) (n : Nat) (scope : RateLimitScope) (now : Nat) :
    RateLimitPair × RateLimitResult :=
  let admitted := p.enter l.rpm now
  let spent := admitted.1.spend l.tpm n now
  (if admitted.2.isOk then spent.1 else admitted.1, answer l scope admitted.2 spent.2)

end RateLimitPair

namespace RateLimiterStore

variable (s : RateLimiterStore) {k : String} (rpm tpm n now : Nat)

theorem getOrCreate_put (p : RateLimitPair) : (s.put k p).getOrCreate k rpm tpm now = p := by
  unfold getOrCreate
  rw [put_lookup_self, Option.getD_some]

theorem checkRpm_pair :
    (s.checkRpm k rpm tpm now).2 = ((s.getOrCreate k rpm tpm now).enter rpm now).2 ∧
      (s.checkRpm k rpm tpm now).1.getOrCreate k rpm tpm now = ((s.getOrCreate k rpm tpm now).enter rpm now).1 ∧
      (s.checkRpm k rpm tpm now).1.limiters.lookup k =
        if 0 < rpm then some ((s.getOrCreate k rpm tpm now).enter rpm now).1 else s.limiters.lookup k := by
  unfold checkRpm RateLimitPair.enter
  by_cases h : 0 < rpm
  · simp only [if_pos h, true_and]
    exact ⟨getOrCreate_put _ _ _ _ _, put_lookup_self _ _⟩
  · simp only [if_neg h, and_self]

theorem checkTpm_pair :
    (s.checkTpm k rpm tpm n now).2 = ((s.getOrCreate k rpm tpm now).spend tpm n now).2 ∧
      (s.checkTpm k rpm tpm n now).1.limiters.lookup k =
        if 0 < tpm ∧ 0 < n then some ((s.getOrCreate k rpm tpm now).spend tpm n now).1 else s.limiters.lookup k := by
  unfold checkTpm RateLimitPair.spend
  by_cases h : 0 < tpm ∧ 0 < n
  · simp only [if_pos h]
    exact ⟨rfl, put_lookup_self _ _⟩
  · simp only [if_neg h, and_self]

theorem check_snd (l : LimitsConfig) (scope : RateLimitScope) :
    (s.check k l.rpm l.tpm n scope now).2 = RateLimitPair.answer l scope (s.checkRpm k l.rpm l.tpm now).2
      ((s.checkRpm k l.rpm l.tpm now).1.checkTpm k l.rpm l.tpm n now).2 := by
  unfold check
  rcases s.checkRpm k l.rpm l.tpm now with ⟨s1, _ | _⟩
  · rfl
  · dsimp only
    rcases s1.checkTpm k l.rpm l.tpm n now with ⟨s2, _ | _⟩ <;> rfl

/-- A check works on the key's pair, and leaves it there if it has looked at it. -/
theorem check_pair (l : LimitsConfig) (scope : RateLimitScope) :
    (s.check k l.rpm l.tpm n scope now).2 = ((s.getOrCreate k l.rpm l.tpm now).check l n scope now).2 ∧
      (s.check k l.rpm l.tpm n scope now).1.limiters.lookup k =
        if 0 < l.rpm ∨ 0 < l.tpm ∧ 0 < n then some ((s.getOrCreate k l.rpm l.tpm now).check l n scope now).1
        else s.limiters.lookup k := by
  obtain ⟨hverdict, hpair, hlookup⟩ := s.checkRpm_pair (k := k) l.rpm l.tpm now
  obtain ⟨hverdict', hlookup'⟩ := (s.checkRpm k l.rpm l.tpm now).1.checkTpm_pair (k := k) l.rpm l.tpm n now
  rw [hpair] at hverdict' hlookup'
  rw [check_snd, check_fst, hverdict, hverdict']
  refine ⟨rfl, ?_⟩
  unfold RateLimitPair.check
  dsimp only
  rcases henter : ((s.getOrCreate k l.rpm l.tpm now).enter l.rpm now).2 with wait | _
  · -- a refusal comes from a limit
    have hrpm : 0 < l.rpm := by
      by_contra h
      simp [RateLimitPair.enter, h] at henter
    simp only [hlookup, hrpm, true_or, if_true]
    rfl
  · simp only [Except.isOk, Except.toBool, if_true]
    rw [hlookup', hlookup]
    by_cases htpm : 0 < l.tpm ∧ 0 < n
    · rw [if_pos htpm, if_pos (Or.inr htpm)]
    · simp only [htpm, if_false, or_false, RateLimitPair.spend]

end RateLimiterStore

namespace LimiterOp

variable (limits : String → LimitsConfig)

def now : LimiterOp → Nat
  | check _ _ _ now => now
  | consumeTpm _ _ now => now
  | getTpmState _ now => now

/-- What a check answers; the other operations answer nothing. -/
def result (s : RateLimiterStore) : LimiterOp → Option RateLimitResult
  | check key n scope now => some (s.check key (limits key).rpm (limits key).tpm n scope now).2
  | _ => none

/-- The operation on a pair. -/
def serve (p : RateLimitPair) : LimiterOp → RateLimitPair × Option RateLimitResult
  | check key n scope now => ((p.check (limits key) n scope now).1, some (p.check (limits key) n scope now).2)
  | consumeTpm key n now =>
    (if 0 < (limits key).tpm ∧ 0 < n then { p.touch now with tpm := p.tpm.consumeN n now } else p, none)
  | getTpmState key now =>
    (if 0 < (limits key).tpm then { p with tpm := (p.tpm.windowRemaining now).1 } else p, none)

variable {limits} (s : RateLimiterStore) (op : LimiterOp)

theorem result_eq : op.result limits s = (op.serve limits (op.pair limits s)).2 := by
  cases op with
  | check key n scope now => exact congrArg some (s.check_pair n now (limits key) scope).1
  | consumeTpm key n now => rfl
  | getTpmState key now => rfl

theorem apply_lookup_self :
    (op.apply limits s).limiters.lookup op.key =
      if op.opens limits then some (op.serve limits (op.pair limits s)).1 else s.limiters.lookup op.key := by
  cases op with
  | check key n scope now =>
    simp only [apply, opens, decide_eq_true_eq]
    exact (s.check_pair n now (limits key) scope).2
  | consumeTpm key n now =>
    simp only [apply, opens, decide_eq_true_eq, RateLimiterStore.consumeTpm, serve]
    by_cases h : 0 < (limits key).tpm ∧ 0 < n
    · rw [if_neg (by omega), if_pos h, if_pos h]
      exact RateLimiterStore.put_lookup_self _ _
    · rw [if_pos (by omega), if_neg h]
  | getTpmState key now =>
    simp only [apply, opens, decide_eq_true_eq, RateLimiterStore.getTpmState, serve]
    by_cases h : 0 < (limits key).tpm
    · rw [if_neg (by omega), if_pos h, if_pos h]
      exact RateLimiterStore.put_lookup_self _ _
    · rw [if_pos (by omega), if_neg h]

/-- The pair it makes, where there is none. -/
def fresh (limits : String → LimitsConfig) : LimiterOp → RateLimitPair
  | check key _ _ now => .new (limits key).rpm (limits key).tpm now
  | consumeTpm key _ now => .new 0 (limits key).tpm now
  | getTpmState key now => .new 0 (limits key).tpm now

theorem pair_eq : op.pair limits s = (s.limiters.lookup op.key).getD (op.fresh limits) := by
  cases op <;> rfl

/-- An operation that makes no pair answers the same whatever the pair. -/
theorem serve_closed (hopens : op.opens limits = false) (p q : RateLimitPair) :
    (op.serve limits p).2 = (op.serve limits q).2 := by
  cases op with
  | check key n scope now =>
    simp only [opens, decide_eq_false_iff_not, not_or] at hopens
    have hanswer : ∀ p : RateLimitPair, (p.check (limits key) n scope now).2
        = RateLimitPair.answer (limits key) scope (.ok ()) (.ok ()) := by
      intro p
      simp only [RateLimitPair.check, RateLimitPair.enter, RateLimitPair.spend, if_neg hopens.1, if_neg hopens.2]
    exact congrArg some ((hanswer p).trans (hanswer q).symm)
  | consumeTpm key n now => rfl
  | getTpmState key now => rfl

/-- Does it look at the bucket, where the key has one? -/
def charges : LimiterOp → Bool
  | check _ n _ _ => decide (0 < n)
  | consumeTpm _ n _ => decide (0 < n)
  | getTpmState _ _ => false

end LimiterOp

/-! ## Pairs that answer alike -/

namespace RateLimitPair

/-- The quota has nothing outstanding. -/
def Idle (p : RateLimitPair) (now : Nat) : Prop := p.tat.getD (p.rpm * now) ≤ p.rpm * now

theorem Idle.mono {p : RateLimitPair} {now later : Nat} (h : p.Idle now) (hle : now ≤ later) : p.Idle later := by
  unfold Idle at *
  cases htat : p.tat with
  | none => exact le_refl _
  | some t =>
    rw [htat] at h
    exact le_trans h (Nat.mul_le_mul_left _ hle)

/-- The capacity is the key's, and the quota's mark lies at most a minute after the last use. -/
structure Sound (l : LimitsConfig) (clock : Nat) (p : RateLimitPair) : Prop where
  capacity : p.tpm.capacity = l.tpm
  rpm_pos : 0 < p.rpm
  used_le : p.lastUsed ≤ clock / 10 ^ 9
  tat_le : ∀ t, p.tat = some t → t ≤ p.rpm * ((p.lastUsed + 61) * 10 ^ 9)

theorem Sound.mono {l : LimitsConfig} {p : RateLimitPair} {clock later : Nat} (h : p.Sound l clock)
    (hle : clock ≤ later) : p.Sound l later :=
  ⟨h.capacity, h.rpm_pos, h.used_le.trans (Nat.div_le_div_right hle), h.tat_le⟩

/-- Ten minutes after its last use a pair's quota is idle. -/
theorem Sound.idle {l : LimitsConfig} {p : RateLimitPair} {clock now : Nat} (h : p.Sound l clock)
    (hidle : 600 ≤ now / 10 ^ 9 - p.lastUsed) : p.Idle now := by
  unfold Idle
  cases htat : p.tat with
  | none => exact le_refl _
  | some t =>
    have hsecs : (p.lastUsed + 61) * 10 ^ 9 ≤ now := by omega
    exact le_trans (h.tat_le t htat) (Nat.mul_le_mul_left _ hsecs)

theorem Sound.new (l : LimitsConfig) (rpm now : Nat) : (new rpm l.tpm now).Sound l now := by
  refine ⟨rfl, ?_, le_refl _, fun t ht => ?_⟩
  · unfold RateLimitPair.new
    dsimp only
    split <;> omega
  · cases ht

/-- The same quota, standing at the same mark or at none that matters. -/
structure SameQuota (clock : Nat) (a b : RateLimitPair) : Prop where
  rpm_eq : a.rpm = b.rpm
  tat : a.tat = b.tat ∨ a.Idle clock ∧ b.Idle clock

/-- And the same bucket; the windows of the statistics may differ. -/
structure Alike (l : LimitsConfig) (clock : Nat) (a b : RateLimitPair) : Prop where
  quota : SameQuota clock a b
  used_eq : a.lastUsed = b.lastUsed
  bucket : 0 < l.tpm → a.tpm.bucket = b.tpm.bucket

theorem Alike.refl (l : LimitsConfig) (clock : Nat) (p : RateLimitPair) : Alike l clock p p :=
  ⟨⟨rfl, Or.inl rfl⟩, rfl, fun _ => rfl⟩

theorem SameQuota.mono {clock later : Nat} {a b : RateLimitPair} (h : SameQuota clock a b) (hle : clock ≤ later) :
    SameQuota later a b :=
  ⟨h.rpm_eq, h.tat.imp id fun hidle => ⟨hidle.1.mono hle, hidle.2.mono hle⟩⟩

/-! ### The RPM half -/

section
variable {p a b : RateLimitPair} {rpm now : Nat}

theorem enter_tpm (p : RateLimitPair) (rpm now : Nat) : (p.enter rpm now).1.tpm = p.tpm := by
  unfold enter
  split
  · rw [checkRpm_tpm, touch_tpm]
  · rfl

theorem enter_rpm (p : RateLimitPair) (rpm now : Nat) : (p.enter rpm now).1.rpm = p.rpm := by
  unfold enter
  split
  · rw [((p.touch now).checkRpm_spec now).1]
    rfl
  · rfl

theorem enter_lastUsed (p : RateLimitPair) (rpm now : Nat) :
    (p.enter rpm now).1.lastUsed = if 0 < rpm then now / 10 ^ 9 else p.lastUsed := by
  unfold enter
  split
  · rw [((p.touch now).checkRpm_spec now).1]
    rfl
  · rfl

/-- An idle quota admits. -/
theorem Idle.enter (h : p.Idle now) (rpm : Nat) :
    (p.enter rpm now).2 = .ok () ∧
      (p.enter rpm now).1.tat = if 0 < rpm then some (p.rpm * now + perMinute) else p.tat := by
  unfold RateLimitPair.enter
  split
  · have hcheck := Gcra.check_idle (quotaPerMinute p.rpm) h
    unfold checkRpm touch
    dsimp only
    rw [hcheck]
    exact ⟨rfl, rfl⟩
  · exact ⟨rfl, rfl⟩

theorem SameQuota.enter (h : SameQuota now a b) (rpm : Nat) :
    (a.enter rpm now).2 = (b.enter rpm now).2 ∧ SameQuota now (a.enter rpm now).1 (b.enter rpm now).1 := by
  obtain ⟨hrpm, htat⟩ := h
  have hrpm' : (a.enter rpm now).1.rpm = (b.enter rpm now).1.rpm := by rw [enter_rpm, enter_rpm, hrpm]
  rcases htat with htat | ⟨ha, hb⟩
  · have hcheck : (a.enter rpm now).2 = (b.enter rpm now).2 ∧ (a.enter rpm now).1.tat = (b.enter rpm now).1.tat := by
      unfold RateLimitPair.enter checkRpm touch
      dsimp only
      rw [hrpm, htat]
      split
      · split <;> exact ⟨rfl, rfl⟩
      · exact ⟨rfl, htat⟩
    exact ⟨hcheck.1, hrpm', Or.inl hcheck.2⟩
  · obtain ⟨hoka, htata⟩ := ha.enter rpm
    obtain ⟨hokb, htatb⟩ := hb.enter rpm
    refine ⟨hoka.trans hokb.symm, hrpm', ?_⟩
    by_cases h : 0 < rpm
    · rw [htata, htatb, if_pos h, if_pos h, hrpm]
      exact Or.inl rfl
    · have hsame : ∀ p : RateLimitPair, p.enter rpm now = (p, .ok ()) := fun p => if_neg h
      rw [hsame, hsame]
      exact Or.inr ⟨ha, hb⟩

theorem Sound.enter {l : LimitsConfig} {clock : Nat} (h : p.Sound l clock) (hnow : clock ≤ now) (rpm : Nat) :
    (p.enter rpm now).1.Sound l now := by
  by_cases hrpm : 0 < rpm
  · have hused : p.lastUsed ≤ now / 10 ^ 9 := h.used_le.trans (Nat.div_le_div_right hnow)
    have hlast := enter_lastUsed p rpm now
    rw [if_pos hrpm] at hlast
    refine ⟨?_, ?_, hlast.le, fun t ht => ?_⟩
    · rw [enter_tpm]
      exact h.capacity
    · rw [enter_rpm]
      exact h.rpm_pos
    · have hcheck : (p.enter rpm now).1.tat = ((quotaPerMinute p.rpm).check p.tat (p.rpm * now)).1 := by
        unfold RateLimitPair.enter
        rw [if_pos hrpm, ((p.touch now).checkRpm_spec now).1]
        rfl
      rw [hlast, enter_rpm]
      rcases Gcra.check_mark (hcheck.symm.trans ht) with hold | hmark
      · exact (h.tat_le t hold).trans (Nat.mul_le_mul_left _ (by omega))
      · -- a burst of the quota is a minute of it
        have hburst : (quotaPerMinute p.rpm).tolerance + (quotaPerMinute p.rpm).emission = p.rpm * perMinute := by
          have hsucc : p.rpm - 1 + 1 = p.rpm := Nat.sub_add_cancel h.rpm_pos
          calc (p.rpm - 1) * perMinute + perMinute = (p.rpm - 1 + 1) * perMinute := (Nat.succ_mul _ _).symm
            _ = p.rpm * perMinute := by rw [hsucc]
        have hsecs : now + perMinute ≤ (now / 10 ^ 9 + 61) * 10 ^ 9 := by
          unfold perMinute
          omega
        calc t ≤ p.rpm * now + p.rpm * perMinute := by omega
          _ = p.rpm * (now + perMinute) := (Nat.mul_add _ _ _).symm
          _ ≤ p.rpm * ((now / 10 ^ 9 + 61) * 10 ^ 9) := Nat.mul_le_mul_left _ hsecs
  · have hsame : p.enter rpm now = (p, .ok ()) := if_neg hrpm
    rw [hsame]
    exact h.mono hnow

end

/-! ### The TPM half -/

/-- Refilled up to `now`, the bucket is that of a new limiter. -/
def FullAgain (p : RateLimitPair) (now : Nat) : Prop :=
  (p.tpm.refilled now).bucket = (TpmLimiter.new p.tpm.capacity now).bucket

instance (p : RateLimitPair) (now : Nat) : Decidable (p.FullAgain now) :=
  inferInstanceAs (Decidable ((p.tpm.refilled now).bucket = (TpmLimiter.new p.tpm.capacity now).bucket))

end RateLimitPair

namespace TpmLimiter

variable {l l' : TpmLimiter} {now : Nat}

theorem refilled_congr (hcapacity : l.capacity = l'.capacity) (h : l.bucket = l'.bucket) :
    (l.refilled now).bucket = (l'.refilled now).bucket := by
  have htokens : l.state.tokens = l'.state.tokens := congrArg TokenBucket.Bucket.level h
  have hlast : l.state.lastUpdate = l'.state.lastUpdate := congrArg TokenBucket.Bucket.last h
  unfold refilled refill bucket
  dsimp only
  rw [hcapacity, htokens, hlast]
  split <;> simp [htokens, hlast]

theorem refilled_fields (h : (l.refilled now).bucket = (l'.refilled now).bucket) :
    (refill l.state l.capacity now).tokens = (refill l'.state l'.capacity now).tokens ∧
      (refill l.state l.capacity now).lastUpdate = (refill l'.state l'.capacity now).lastUpdate :=
  ⟨congrArg TokenBucket.Bucket.level h, congrArg TokenBucket.Bucket.last h⟩

/-- What a charge does depends on the refilled bucket alone. -/
theorem checkN_congr (hcapacity : l.capacity = l'.capacity)
    (h : (l.refilled now).bucket = (l'.refilled now).bucket) (n : Nat) :
    (l.checkN n now).2 = (l'.checkN n now).2 ∧ (l.checkN n now).1.bucket = (l'.checkN n now).1.bucket := by
  obtain ⟨htokens, hlast⟩ := refilled_fields h
  unfold checkN bucket
  dsimp only
  rw [htokens]
  split
  · simp [hlast]
  · refine ⟨?_, ?_⟩
    · rw [hcapacity]
    · simp only [htokens, hlast]

theorem consumeN_congr (h : (l.refilled now).bucket = (l'.refilled now).bucket) (n : Nat) :
    (l.consumeN n now).bucket = (l'.consumeN n now).bucket := by
  obtain ⟨htokens, hlast⟩ := refilled_fields h
  simp [consumeN, bucket, htokens, hlast]

/-- A new limiter is full. -/
theorem new_refilled (capacity now : Nat) : ((new capacity now).refilled now).bucket = (new capacity now).bucket := by
  simp [refilled, refill, new]

end TpmLimiter

namespace RateLimitPair

section
variable {p a b : RateLimitPair} {l : LimitsConfig} {n clock now : Nat}

/-- A charge refreshes the last use. -/
theorem Sound.charge (h : p.Sound l clock) (hnow : clock ≤ now) {t : TpmLimiter} (ht : t.capacity = p.tpm.capacity) :
    ({ p.touch now with tpm := t } : RateLimitPair).Sound l now := by
  refine ⟨ht.trans h.capacity, h.rpm_pos, le_refl _, fun t ht => ?_⟩
  have hused : p.lastUsed ≤ now / 10 ^ 9 := h.used_le.trans (Nat.div_le_div_right hnow)
  exact (h.tat_le t ht).trans (Nat.mul_le_mul_left _ (by dsimp only [RateLimitPair.touch]; omega))

theorem Sound.spend (h : p.Sound l clock) (hnow : clock ≤ now) (tpm n : Nat) : (p.spend tpm n now).1.Sound l now := by
  unfold RateLimitPair.spend
  split
  · exact h.charge hnow (TpmLimiter.checkN_capacity _ _ _)
  · exact h.mono hnow

theorem Sound.check (h : p.Sound l clock) (hnow : clock ≤ now) (n : Nat) (scope : RateLimitScope) :
    (p.check l n scope now).1.Sound l now := by
  unfold RateLimitPair.check
  dsimp only
  split
  · exact (h.enter hnow l.rpm).spend (le_refl _) l.tpm n
  · exact h.enter hnow l.rpm

theorem Sound.serve {limits : String → LimitsConfig} {op : LimiterOp} (h : p.Sound (limits op.key) clock)
    (hnow : clock ≤ op.now) : (op.serve limits p).1.Sound (limits op.key) op.now := by
  cases op with
  | check key n scope now => exact h.check hnow n scope
  | consumeTpm key n now =>
    unfold LimiterOp.serve
    dsimp only
    split
    · exact h.charge hnow (TpmLimiter.consumeN_capacity _ _ _)
    · exact h.mono hnow
  | getTpmState key now =>
    unfold LimiterOp.serve
    dsimp only
    split
    · have hlater := h.mono hnow
      exact ⟨hlater.capacity, hlater.rpm_pos, hlater.used_le, hlater.tat_le⟩
    · exact h.mono hnow

end

/-! ### Answers -/

section
variable {a b : RateLimitPair} {l : LimitsConfig} {n now : Nat}

/-- Enough alike for what looks at them at `now`: a bucket that is about to be charged may lag behind by a
refill. -/
structure Ready (l : LimitsConfig) (n now : Nat) (a b : RateLimitPair) : Prop where
  quota : SameQuota now a b
  capacity_eq : a.tpm.capacity = b.tpm.capacity
  bucket : 0 < l.tpm → a.tpm.bucket = b.tpm.bucket ∨ 0 < n ∧ (a.tpm.refilled now).bucket = (b.tpm.refilled now).bucket

theorem Ready.refilled (h : Ready l n now a b) (htpm : 0 < l.tpm) :
    (a.tpm.refilled now).bucket = (b.tpm.refilled now).bucket := by
  rcases h.bucket htpm with hsame | ⟨_, hrefilled⟩
  · exact TpmLimiter.refilled_congr h.capacity_eq hsame
  · exact hrefilled

theorem Ready.enter (h : Ready l n now a b) (rpm : Nat) : Ready l n now (a.enter rpm now).1 (b.enter rpm now).1 := by
  refine ⟨(h.quota.enter rpm).2, ?_, ?_⟩
  · rw [enter_tpm, enter_tpm]
    exact h.capacity_eq
  · rw [enter_tpm, enter_tpm]
    exact h.bucket

theorem Ready.spend (h : Ready l n now a b) (hused : a.lastUsed = b.lastUsed ∨ 0 < l.tpm ∧ 0 < n) :
    (a.spend l.tpm n now).2 = (b.spend l.tpm n now).2 ∧
      Alike l now (a.spend l.tpm n now).1 (b.spend l.tpm n now).1 := by
  unfold RateLimitPair.spend
  by_cases htpm : 0 < l.tpm ∧ 0 < n
  · obtain ⟨hverdict, hbucket⟩ := TpmLimiter.checkN_congr h.capacity_eq (h.refilled htpm.1) n
    rw [if_pos htpm, if_pos htpm]
    exact ⟨hverdict, ⟨h.quota.rpm_eq, h.quota.tat⟩, rfl, fun _ => hbucket⟩
  · rw [if_neg htpm, if_neg htpm]
    refine ⟨rfl, h.quota, hused.resolve_right htpm, fun hpos => ?_⟩
    exact (h.bucket hpos).resolve_right fun hcharged => htpm ⟨hpos, hcharged.1⟩

/-- A bucket that lags behind must not be passed by: an idle quota admits. -/
theorem Ready.check (h : Ready l n now a b) (hused : a.lastUsed = b.lastUsed ∨ 0 < l.rpm ∨ 0 < l.tpm ∧ 0 < n)
    (hlag : (0 < l.tpm → a.tpm.bucket = b.tpm.bucket) ∨ a.Idle now) (scope : RateLimitScope) :
    (a.check l n scope now).2 = (b.check l n scope now).2 ∧
      Alike l now (a.check l n scope now).1 (b.check l n scope now).1 := by
  obtain ⟨hverdict, hquota⟩ := h.quota.enter l.rpm
  have hused' : (a.enter l.rpm now).1.lastUsed = (b.enter l.rpm now).1.lastUsed ∨ 0 < l.tpm ∧ 0 < n := by
    rw [enter_lastUsed, enter_lastUsed]
    by_cases hrpm : 0 < l.rpm
    · exact Or.inl (by rw [if_pos hrpm, if_pos hrpm])
    · rw [if_neg hrpm, if_neg hrpm]
      exact hused.imp id fun hright => hright.resolve_left hrpm
  obtain ⟨hspent, halike⟩ := (h.enter l.rpm).spend hused'
  unfold RateLimitPair.check
  dsimp only
  rw [← hverdict, ← hspent]
  refine ⟨rfl, ?_⟩
  rcases henter : (a.enter l.rpm now).2 with wait | _
  · -- refused for its RPM, so that the last use is now and the buckets are the same
    have hrpm : 0 < l.rpm := by
      by_contra hzero
      simp [RateLimitPair.enter, hzero] at henter
    refine ⟨hquota, ?_, fun htpm => ?_⟩
    · simp only [Except.isOk, Except.toBool, Bool.false_eq_true, if_false]
      rw [enter_lastUsed, enter_lastUsed, if_pos hrpm, if_pos hrpm]
    · simp only [Except.isOk, Except.toBool, Bool.false_eq_true, if_false]
      rw [enter_tpm, enter_tpm]
      refine (hlag.resolve_right fun hidle => ?_) htpm
      rw [(hidle.enter l.rpm).1] at henter
      cases henter
  · exact halike

end

section
variable {limits : String → LimitsConfig} {op : LimiterOp} {a b : RateLimitPair} {clock : Nat}

/-- **Step**: an operation answers alike on pairs that are alike, and keeps them so. -/
theorem Alike.serve (h : Alike (limits op.key) clock a b) (hnow : clock ≤ op.now)
    (hcapacity : a.tpm.capacity = b.tpm.capacity) :
    (op.serve limits a).2 = (op.serve limits b).2 ∧
      Alike (limits op.key) op.now (op.serve limits a).1 (op.serve limits b).1 := by
  have hquota := h.quota.mono hnow
  cases op with
  | check key n scope now =>
    have hready : Ready (limits key) n now a b := ⟨hquota, hcapacity, fun htpm => Or.inl (h.bucket htpm)⟩
    obtain ⟨hanswer, halike⟩ := hready.check (Or.inl h.used_eq) (Or.inl h.bucket) scope
    exact ⟨congrArg some hanswer, halike⟩
  | consumeTpm key n now =>
    refine ⟨rfl, ?_⟩
    unfold LimiterOp.serve
    dsimp only
    split
    · refine ⟨⟨hquota.rpm_eq, hquota.tat⟩, rfl, fun htpm => ?_⟩
      exact TpmLimiter.consumeN_congr (TpmLimiter.refilled_congr hcapacity (h.bucket htpm)) n
    · exact ⟨hquota, h.used_eq, h.bucket⟩
  | getTpmState key now =>
    refine ⟨rfl, ?_⟩
    unfold LimiterOp.serve
    dsimp only
    split
    · refine ⟨⟨hquota.rpm_eq, hquota.tat⟩, h.used_eq, fun htpm => ?_⟩
      dsimp only
      rw [TpmLimiter.windowRemaining_bucket, TpmLimiter.windowRemaining_bucket]
      exact h.bucket htpm
    · exact ⟨hquota, h.used_eq, h.bucket⟩

end

end RateLimitPair

/-! ## A pair that is made anew -/

theorem RateLimitPair.FullAgain.new_refilled {p : RateLimitPair} {capacity now : Nat} (h : p.FullAgain now)
    (hcapacity : p.tpm.capacity = capacity) :
    ((TpmLimiter.new capacity now).refilled now).bucket = (p.tpm.refilled now).bucket := by
  rw [show (p.tpm.refilled now).bucket = (TpmLimiter.new p.tpm.capacity now).bucket from h, hcapacity]
  exact TpmLimiter.new_refilled capacity now

/-- **Full again**, where the values are in range: at least a token has been earned, and no more was missing than
has been. -/
theorem RateLimitPair.fullAgain_iff {p : RateLimitPair} {now : Nat} (hcap : 1 ≤ p.tpm.capacity)
    (hfits : p.tpm.Fits { now := now, op := .remaining }) :
    p.FullAgain now ↔
      0 < (TpmLimiter.plan p.tpm.capacity).earned (now - p.tpm.state.lastUpdate) ∧
          (p.tpm.capacity : Int)
            ≤ p.tpm.state.tokens + (TpmLimiter.plan p.tpm.capacity).earned (now - p.tpm.state.lastUpdate) ∨
        (TpmLimiter.plan p.tpm.capacity).earned (now - p.tpm.state.lastUpdate) = 0 ∧
          p.tpm.state.tokens = p.tpm.capacity ∧ p.tpm.state.lastUpdate = now := by
  have hcapacity : p.tpm.capacity < 2 ^ 63 :=
    fitsI64_nat.1 (hfits.values _ (by simp [TpmLimiter.i64Values]))
  have hnew := (TpmLimiter.new_tokens_iff hcap now).2 hcapacity
  have hfull : (TpmLimiter.new p.tpm.capacity now).bucket = { level := p.tpm.capacity, last := now } := by
    unfold TpmLimiter.bucket
    rw [hnew]
    rfl
  unfold FullAgain
  rw [hfits.refilled, hfull]
  by_cases h : 0 < (TpmLimiter.plan p.tpm.capacity).earned (now - p.tpm.state.lastUpdate)
  · rw [TokenBucket.Plan.refill_of_earned h]
    simp [TpmLimiter.bucket, TpmLimiter.plan] at h ⊢
    omega
  · have hzero : (TpmLimiter.plan p.tpm.capacity).earned (now - p.tpm.state.lastUpdate) = 0 := by omega
    rw [TokenBucket.Plan.refill_idle hzero]
    simp [hzero, TpmLimiter.bucket]

/-- What the operation makes of a removed pair is what was removed: it passes the quota that the pair had, and
it charges the bucket, which is full again. -/
def LimiterOp.Restores (limits : String → LimitsConfig) (op : LimiterOp) (p : RateLimitPair) : Prop :=
  p.rpm = (op.fresh limits).rpm ∧ (0 < (limits op.key).tpm → op.charges = true ∧ p.FullAgain op.now)

instance (limits : String → LimitsConfig) (op : LimiterOp) (p : RateLimitPair) : Decidable (op.Restores limits p) :=
  inferInstanceAs (Decidable (_ ∧ (_ → _ ∧ _)))

/-- **Step**, where the pair was removed. -/
theorem LimiterOp.Restores.serve {limits : String → LimitsConfig} {op : LimiterOp} {p : RateLimitPair} {clock : Nat}
    (h : op.Restores limits p) (hsound : p.Sound (limits op.key) clock) (hidle : p.Idle op.now)
    (hopens : op.opens limits = true) :
    (op.serve limits (op.fresh limits)).2 = (op.serve limits p).2 ∧
      RateLimitPair.Alike (limits op.key) op.now (op.serve limits (op.fresh limits)).1 (op.serve limits p).1 := by
  obtain ⟨hrpm, hfull⟩ := h
  cases op with
  | check key n scope now =>
    simp only [LimiterOp.opens, decide_eq_true_eq] at hopens
    have hnew : (RateLimitPair.new (limits key).rpm (limits key).tpm now).Idle now := le_refl _
    have hready : RateLimitPair.Ready (limits key) n now (.new (limits key).rpm (limits key).tpm now) p := by
      refine ⟨⟨hrpm.symm, Or.inr ⟨hnew, hidle⟩⟩, hsound.capacity.symm, fun htpm => Or.inr ?_⟩
      obtain ⟨hcharges, hagain⟩ := hfull htpm
      exact ⟨of_decide_eq_true hcharges, hagain.new_refilled hsound.capacity⟩
    obtain ⟨hanswer, halike⟩ := hready.check (Or.inr hopens) (Or.inr hnew) scope
    exact ⟨congrArg some hanswer, halike⟩
  | consumeTpm key n now =>
    simp only [LimiterOp.opens, decide_eq_true_eq] at hopens
    have hagain : p.FullAgain now := (hfull hopens.1).2
    have hnew : (RateLimitPair.new 0 (limits key).tpm now).Idle now := le_refl _
    refine ⟨rfl, ?_⟩
    unfold LimiterOp.serve
    dsimp only
    rw [if_pos hopens, if_pos hopens]
    exact ⟨⟨hrpm.symm, Or.inr ⟨hnew, hidle⟩⟩, rfl,
      fun htpm => TpmLimiter.consumeN_congr (hagain.new_refilled hsound.capacity) n⟩
  | getTpmState key now =>
    simp only [LimiterOp.opens, decide_eq_true_eq] at hopens
    cases (hfull hopens).1

/-! ## Two runs -/

inductive StoreEvent where
  | op (o : LimiterOp)
  | cleanup (now : Nat)
deriving DecidableEq, Repr

namespace StoreEvent

variable (limits : String → LimitsConfig)

def now : StoreEvent → Nat
  | op o => o.now
  | cleanup now => now

def apply (s : RateLimiterStore) : StoreEvent → RateLimiterStore
  | op o => o.apply limits s
  | cleanup now => s.cleanup now

/-- The same without the cleanups. -/
def applyKept (s : RateLimiterStore) : StoreEvent → RateLimiterStore
  | op o => o.apply limits s
  | cleanup _ => s

end StoreEvent

/-- A store after operations and cleanups in the order of time, with the time of the last. -/
inductive RateLimiterStore.Reachable (limits : String → LimitsConfig) : RateLimiterStore → Nat → Prop where
  | start : Reachable limits { limiters := ∅ } 0
  | step {s : RateLimiterStore} {clock : Nat} (e : StoreEvent) (h : Reachable limits s clock) (hnow : clock ≤ e.now) :
    Reachable limits (e.apply limits s) e.now

/-- A run with the cleanups and a run without. -/
structure Runs where
  cleaned : RateLimiterStore
  kept : RateLimiterStore
  clock : Nat

namespace Runs

variable (limits : String → LimitsConfig)

def step (r : Runs) (e : StoreEvent) : Runs where
  cleaned := e.apply limits r.cleaned
  kept := e.applyKept limits r.kept
  clock := e.now

/-- The check answers the same in both. -/
def SameAnswer (r : Runs) : StoreEvent → Prop
  | .op o => o.result limits r.cleaned = o.result limits r.kept
  | .cleanup _ => True

/-- The operation does not make a removed pair anew, or restores it. -/
def Restored (r : Runs) : StoreEvent → Prop
  | .op o =>
    r.cleaned.limiters.lookup o.key = none → o.opens limits = true →
      ∀ p ∈ r.kept.limiters.lookup o.key, o.Restores limits p
  | .cleanup _ => True

instance (r : Runs) : ∀ e : StoreEvent, Decidable (r.Restored limits e)
  | .op o => inferInstanceAs (Decidable (r.cleaned.limiters.lookup o.key = none → o.opens limits = true →
      ∀ p ∈ r.kept.limiters.lookup o.key, o.Restores limits p))
  | .cleanup _ => isTrue trivial

/-- What the two runs hold for a key: nothing, pairs that are alike, or a pair that was removed. -/
inductive Beside (l : LimitsConfig) (clock : Nat) : Option RateLimitPair → Option RateLimitPair → Prop where
  | absent : Beside l clock none none
  | both {a b : RateLimitPair} (ha : a.Sound l clock) (hb : b.Sound l clock) (h : RateLimitPair.Alike l clock a b) :
    Beside l clock (some a) (some b)
  | removed {b : RateLimitPair} (hb : b.Sound l clock) (hidle : b.Idle clock) : Beside l clock none (some b)

def Inv (r : Runs) : Prop :=
  ∀ key, Beside (limits key) r.clock (r.cleaned.limiters.lookup key) (r.kept.limiters.lookup key)

variable {limits} {r : Runs} {e : StoreEvent}

theorem Beside.mono {l : LimitsConfig} {clock later : Nat} {a b : Option RateLimitPair} (h : Beside l clock a b)
    (hle : clock ≤ later) : Beside l later a b := by
  cases h with
  | absent => exact .absent
  | both ha hb h => exact .both (ha.mono hle) (hb.mono hle) ⟨h.quota.mono hle, h.used_eq, h.bucket⟩
  | removed hb hidle => exact .removed (hb.mono hle) (hidle.mono hle)

/-- A cleanup removes pairs that have been idle for ten minutes. -/
theorem Beside.cleanup {l : LimitsConfig} {clock now : Nat} {a b : Option RateLimitPair} (h : Beside l clock a b)
    (hnow : clock ≤ now) : Beside l now (a.filter fun p => now / 10 ^ 9 - p.lastUsed < 600) b := by
  cases h with
  | absent => exact .absent
  | @both a b ha hb h =>
    by_cases hkeep : now / 10 ^ 9 - a.lastUsed < 600
    · rw [Option.filter_some, if_pos (by simpa using hkeep)]
      exact Beside.mono (.both ha hb h) hnow
    · rw [Option.filter_some, if_neg (by simpa using hkeep)]
      refine .removed (hb.mono hnow) (hb.idle ?_)
      rw [← h.used_eq]
      exact not_lt.1 hkeep
  | removed hb hidle => exact .removed (hb.mono hnow) (hidle.mono hnow)

theorem Sound.fresh (limits : String → LimitsConfig) (op : LimiterOp) :
    (op.fresh limits).Sound (limits op.key) op.now := by
  cases op with
  | check key n scope now => exact .new (limits key) _ now
  | consumeTpm key n now => exact .new (limits key) 0 now
  | getTpmState key now => exact .new (limits key) 0 now

/-- **Step** for the key of an operation. -/
theorem Inv.op {o : LimiterOp} (h : r.Inv limits) (hnow : r.clock ≤ o.now) (hrestored : r.Restored limits (.op o)) :
    o.result limits r.cleaned = o.result limits r.kept ∧
      Beside (limits o.key) o.now ((o.apply limits r.cleaned).limiters.lookup o.key)
        ((o.apply limits r.kept).limiters.lookup o.key) := by
  have hbeside := h o.key
  simp only [Restored] at hrestored
  rw [o.result_eq, o.result_eq, o.apply_lookup_self, o.apply_lookup_self, o.pair_eq, o.pair_eq]
  generalize r.cleaned.limiters.lookup o.key = a at hbeside hrestored ⊢
  generalize r.kept.limiters.lookup o.key = b at hbeside hrestored ⊢
  cases hopens : o.opens limits with
  | false => exact ⟨LimiterOp.serve_closed o hopens _ _, hbeside.mono hnow⟩
  | true =>
    simp only [if_true]
    cases hbeside with
    | absent =>
      have hsound := (Sound.fresh limits o).serve (le_refl _)
      exact ⟨rfl, .both hsound hsound (.refl _ _ _)⟩
    | both ha hb halike =>
      obtain ⟨hanswer, halike'⟩ := halike.serve hnow (ha.capacity.trans hb.capacity.symm)
      exact ⟨hanswer, .both (ha.serve hnow) (hb.serve hnow) halike'⟩
    | removed hb hidle =>
      obtain ⟨hanswer, halike⟩ := (hrestored rfl hopens _ rfl).serve hb (hidle.mono hnow) hopens
      exact ⟨hanswer, .both ((Sound.fresh limits o).serve (le_refl _)) (hb.serve hnow) halike⟩

theorem Inv.step (h : r.Inv limits) (hnow : r.clock ≤ e.now) (hrestored : r.Restored limits e) :
    (r.step limits e).Inv limits := by
  intro key
  cases e with
  | op o =>
    by_cases hkey : key = o.key
    · subst hkey
      exact (h.op hnow hrestored).2
    · have hcleaned : (o.apply limits r.cleaned).limiters.lookup key = r.cleaned.limiters.lookup key :=
        LimiterOp.apply_lookup_ne hkey
      have hkept : (o.apply limits r.kept).limiters.lookup key = r.kept.limiters.lookup key :=
        LimiterOp.apply_lookup_ne hkey
      have hbeside := (h key).mono hnow
      rw [← hcleaned, ← hkept] at hbeside
      exact hbeside
  | cleanup now =>
    have hbeside := (h key).cleanup hnow
    unfold Runs.step StoreEvent.apply StoreEvent.applyKept RateLimiterStore.cleanup
    dsimp only
    rw [KeyMap.lookup_retain]
    exact hbeside

end Runs

theorem Runs.Beside.self_iff {l : LimitsConfig} {clock : Nat} {a : Option RateLimitPair} :
    Runs.Beside l clock a a ↔ ∀ p, a = some p → p.Sound l clock := by
  constructor
  · rintro h p rfl
    cases h with
    | both ha _ _ => exact ha
  · intro h
    cases a with
    | none => exact .absent
    | some p => exact .both (h p rfl) (h p rfl) (.refl l clock p)

/-- A store that is reached is beside itself. -/
theorem RateLimiterStore.Reachable.inv {limits : String → LimitsConfig} {s : RateLimiterStore} {clock : Nat}
    (h : Reachable limits s clock) : Runs.Inv limits ⟨s, s, clock⟩ := by
  induction h with
  | start => exact fun key => .absent
  | @step s clock e h hnow ih =>
    cases e with
    | op o =>
      refine ih.step (e := .op o) hnow fun hnone _ p hp => ?_
      rw [hnone] at hp
      cases hp
    | cleanup now =>
      intro key
      refine Runs.Beside.self_iff.2 fun p hp => ?_
      exact (Runs.Beside.self_iff.1 (ih key) p (KeyMap.lookup_of_retain hp)).mono hnow

/-- **A cleanup changes no answer** of a later check in a run in which every removed pair that is made anew is
made by an operation that restores it. -/
theorem cleanup_changes_no_answer {limits : String → LimitsConfig} {s : RateLimiterStore} {clock : Nat}
    (hs : s.Reachable limits clock) {later : List StoreEvent}
    (hsteps : Steps.Every (Runs.step limits) (fun r e => r.clock ≤ e.now ∧ r.Restored limits e) ⟨s, s, clock⟩ later) :
    Steps.Every (Runs.step limits) (Runs.SameAnswer limits) ⟨s, s, clock⟩ later := by
  refine Steps.every_keeps (I := Runs.Inv limits) (fun r e hgood h => h.step hgood.1 hgood.2)
    (fun r e hgood h => ?_) later _ hsteps hs.inv
  cases e with
  | op o => exact (h.op hgood.1 hgood.2).1
  | cleanup now => trivial

/-- Five tokens a minute. -/
def fiveTokens : String → LimitsConfig := fun _ => { rpm := 0, tpm := 5 }

/-- A debt of 45 tokens is paid in the ten minutes. -/
theorem cleanup_after_the_debt :
    Steps.Every (Runs.step fiveTokens) (Runs.SameAnswer fiveTokens) ⟨{ limiters := ∅ }, { limiters := ∅ }, 0⟩
      [.op (.consumeTpm "k" 50 0), .cleanup 600000000000, .op (.check "k" 1 .token 600000000000)] :=
  cleanup_changes_no_answer .start (by decide)

/-- A debt of 995 is not, and the next check makes a full bucket. -/
theorem cleanup_forgives :
    ¬ Steps.Every (Runs.step fiveTokens) (Runs.SameAnswer fiveTokens) ⟨{ limiters := ∅ }, { limiters := ∅ }, 0⟩
        [.op (.consumeTpm "k" 1000 0), .cleanup 600000000000, .op (.check "k" 1 .token 600000000000)] := by
  rintro ⟨_, _, hsame, _⟩
  have hallowed := congrArg (Option.map (·.allowed)) (show LimiterOp.result _ _ _ = LimiterOp.result _ _ _ from hsame)
  exact absurd hallowed (by decide)

end AiRouter
