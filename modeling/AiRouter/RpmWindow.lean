import AiRouter.Eviction
import AiRouter.Lib.LeakyBucket

/-
# What an RPM limit admits in a span of time

A key's pair is made, used, dropped by the cleanup and made anew, by callers that have read their limits at
different times, and it may hold a quota of one. Whatever the order, the key is a leaky bucket: an admitted
check pours one cell into it, and it never leaks faster than the limit says.

| here | there |
| --- | --- |
| `StoreCall.admits` | the RPM half of `check` passes (limiter.rs:197-214) |
| `RateLimitResult.resetAfterSecs` of a refusal | `wait_time_from` (limiter.rs:204-211) |
-/
namespace AiRouter

/-- An event on the store, with the limits that its caller has read. -/
structure StoreCall where
  limits : String → LimitsConfig
  event : StoreEvent

namespace StoreCall

def now (c : StoreCall) : Nat := c.event.now

def apply (s : RateLimiterStore) (c : StoreCall) : RateLimiterStore := c.event.apply c.limits s

/-- The key that the call checks against a positive RPM, with the limits of the key. -/
def checks (c : StoreCall) : Option (String × LimitsConfig) :=
  match c.event with
  | .op (.check key _ _ _) => if 0 < (c.limits key).rpm then some (key, c.limits key) else none
  | _ => none

/-- The key that the call takes one cell of. -/
def admits (s : RateLimiterStore) (c : StoreCall) : Option String :=
  c.checks.bind fun k => if (s.checkRpm k.1 k.2.rpm k.2.tpm c.now).2.isOk then some k.1 else none

end StoreCall

/-- A store, the time of the last call, and the keys and times of the cells taken. -/
structure RpmHistory where
  store : RateLimiterStore
  clock : Nat
  admitted : List (String × Nat)

namespace RpmHistory

def start : RpmHistory where
  store := { limiters := ∅ }
  clock := 0
  admitted := []

def step (h : RpmHistory) (c : StoreCall) : RpmHistory where
  store := c.apply h.store
  clock := c.now
  admitted := h.admitted ++ (c.admits h.store).toList.map fun key => (key, c.now)

/-- The checks of `key` that passed the RPM limit from `t₁` to `t₂`. -/
def admittedIn (h : RpmHistory) (key : String) (t₁ t₂ : Nat) : Nat :=
  h.admitted.countP fun a => decide (a.1 = key ∧ t₁ ≤ a.2 ∧ a.2 ≤ t₂)

end RpmHistory

/-! ## A key as a leaky bucket -/

namespace RateLimiterStore

variable (s : RateLimiterStore) {key : String} {now : Nat}

/-- What is in the bucket of `key`: nothing, where there is no pair. -/
def level (s : RateLimiterStore) (key : String) (now : Nat) : ℚ :=
  (s.quotaOf key).elim 0 fun q => (quotaPerMinute q.1).level q.2 (q.1 * now)

theorem level_nonneg : 0 ≤ s.level key now := by
  unfold level
  cases s.quotaOf key with
  | none => exact le_refl _
  | some q => exact Gcra.level_nonneg

/-- A pair that is made by the next call is as empty as none. -/
theorem level_getD (r : Nat) :
    s.level key now = (quotaPerMinute ((s.quotaOf key).getD (r, none)).1).level
      ((s.quotaOf key).getD (r, none)).2 (((s.quotaOf key).getD (r, none)).1 * now) := by
  unfold level
  cases s.quotaOf key with
  | none => exact Gcra.level_none.symm
  | some q => rfl

theorem level_later (s : RateLimiterStore) (key : String) {clock : Nat} (h : clock ≤ now) :
    s.level key now = max 0 (s.level key clock
      - ((s.quotaOf key).elim 0 fun q => (q.1 : ℚ)) / perMinute * ((now : ℚ) - clock)) := by
  unfold level
  cases s.quotaOf key with
  | none => simp
  | some q =>
    have hleak : (quotaPerMinute q.1).level q.2 (q.1 * now) = _ := Gcra.level_later (Nat.mul_le_mul_left q.1 h)
    have hspan : (((q.1 * now : Nat) : ℚ) - (q.1 * clock : Nat)) / (quotaPerMinute q.1).emission
        = (q.1 : ℚ) / perMinute * ((now : ℚ) - clock) := by
      change (((q.1 * now : Nat) : ℚ) - (q.1 * clock : Nat)) / (perMinute : ℚ) = _
      rw [Nat.cast_mul, Nat.cast_mul, ← mul_sub, mul_div_right_comm]
    simp only [Option.elim_some]
    rw [hleak, hspan]

end RateLimiterStore

/-- The quota of the key's pair, or the one that a check of `rpm` makes. -/
def RateLimiterStore.burst (s : RateLimiterStore) (key : String) (rpm : Nat) : Nat :=
  ((s.quotaOf key).getD (rpm, none)).1

theorem perMinute_pos : 0 < perMinute := by decide

/-- **A check** against a positive RPM passes where there is room for a cell. -/
theorem RateLimiterStore.checkRpm_isOk_iff (s : RateLimiterStore) {key : String} {rpm : Nat} (tpm now : Nat)
    (hrpm : 0 < rpm) (hburst : 0 < s.burst key rpm) :
    (s.checkRpm key rpm tpm now).2.isOk = true ↔ s.level key now + 1 ≤ s.burst key rpm := by
  obtain ⟨-, hok⟩ := s.checkRpm_quotaOf (k := key) tpm now hrpm
  unfold burst at hburst ⊢
  rw [hok, s.level_getD rpm]
  generalize (s.quotaOf key).getD (rpm, none) = q at *
  rw [Gcra.check_snd]
  exact Gcra.conforms_iff_level perMinute_pos hburst

namespace StoreCall

variable {s : RateLimiterStore} {c : StoreCall} {key : String} {l : LimitsConfig}

theorem checks_eq_some (h : c.checks = some (key, l)) :
    ∃ n scope, c.event = .op (.check key n scope c.now) ∧ l = c.limits key ∧ 0 < l.rpm := by
  obtain ⟨limits, event⟩ := c
  cases event with
  | cleanup now => cases h
  | op o =>
    cases o with
    | check k n scope now =>
      unfold checks at h
      dsimp only at h
      split at h
      · rename_i hrpm
        cases h
        exact ⟨n, scope, rfl, rfl, hrpm⟩
      · cases h
    | consumeTpm k n now => cases h
    | getTpmState k now => cases h

/-- Any other operation has no RPM to check. -/
theorem checks_eq_none {o : LimiterOp} (hevent : c.event = .op o) (h : c.checks = none) :
    o.isCheck = true → (c.limits o.key).rpm = 0 := by
  obtain ⟨limits, event⟩ := c
  cases hevent
  intro hcheck
  cases o with
  | check k n scope now =>
    unfold checks at h
    dsimp only at h
    split at h
    · cases h
    · rename_i hrpm
      exact Nat.eq_zero_of_not_pos hrpm
  | consumeTpm k n now => cases hcheck
  | getTpmState k now => cases hcheck

/-- An operation that does not check `key` leaves its quota alone. -/
theorem checks_low {limits : String → LimitsConfig} {o : LimiterOp}
    (h : ∀ l, (⟨limits, .op o⟩ : StoreCall).checks ≠ some (o.key, l)) : o.isCheck = true → (limits o.key).rpm = 0 := by
  cases hc : (⟨limits, .op o⟩ : StoreCall).checks with
  | none => exact checks_eq_none rfl hc
  | some k =>
    obtain ⟨n, scope, hevent, -⟩ := checks_eq_some hc
    have hk : o.key = k.1 := congrArg LimiterOp.key (StoreEvent.op.inj hevent)
    exact absurd (hc.trans (by rw [hk])) (h k.2)

theorem admits_eq_some (h : c.admits s = some key) : ∃ l, c.checks = some (key, l) := by
  obtain ⟨⟨k, l⟩, hchecks, hok⟩ := Option.bind_eq_some_iff.1 h
  dsimp only at hok
  split at hok
  · cases hok
    exact ⟨l, hchecks⟩
  · cases hok

/-- A check that is admitted pours a cell. -/
theorem level_check (hchecks : c.checks = some (key, l)) (hburst : 0 < s.burst key l.rpm) :
    (c.admits s = some key ↔ s.level key c.now + 1 ≤ s.burst key l.rpm) ∧
      (c.apply s).level key c.now = s.level key c.now + if c.admits s = some key then 1 else 0 := by
  obtain ⟨n, scope, hevent, rfl, hrpm⟩ := checks_eq_some hchecks
  have hadmits : c.admits s = some key ↔ (s.checkRpm key (c.limits key).rpm (c.limits key).tpm c.now).2.isOk = true := by
    simp [admits, hchecks]
  refine ⟨hadmits.trans (s.checkRpm_isOk_iff _ _ hrpm hburst), ?_⟩
  have hafter := s.check_quotaOf (k := key) (c.limits key).tpm n c.now scope hrpm
  have hok := (s.checkRpm_quotaOf (k := key) (c.limits key).tpm c.now hrpm).2
  have happly : c.apply s = (s.check key (c.limits key).rpm (c.limits key).tpm n scope c.now).1 := by
    unfold apply
    rw [hevent]
    rfl
  dsimp only at hok hafter
  simp only [hadmits, hok, happly]
  rw [s.level_getD (c.limits key).rpm]
  generalize (s.quotaOf key).getD ((c.limits key).rpm, none) = q at *
  have hquota : (s.check key (c.limits key).rpm (c.limits key).tpm n scope c.now).1.level key c.now
      = (quotaPerMinute q.1).level ((quotaPerMinute q.1).check q.2 (q.1 * c.now)).1 (q.1 * c.now) := by
    unfold RateLimiterStore.level
    rw [hafter]
    rfl
  rw [hquota]
  split
  · rename_i h
    exact Gcra.check_level perMinute_pos h
  · rename_i h
    rw [Gcra.check_rejected (Bool.eq_false_of_not_eq_true h), add_zero]

/-- Any other call leaves what is in the bucket; the cleanup drops empty ones. -/
theorem level_other (hchecks : ∀ l, c.checks ≠ some (key, l))
    (hidle : ∀ p, s.limiters.lookup key = some p → 600 ≤ c.now / 10 ^ 9 - p.lastUsed → p.Idle c.now) :
    (c.apply s).level key c.now = s.level key c.now := by
  obtain ⟨limits, event⟩ := c
  cases event with
  | op o =>
    by_cases hkey : key = o.key
    · subst hkey
      have hquota := LimiterOp.apply_quotaOf_low (s := s) (checks_low hchecks)
      change (o.apply limits s).level o.key o.now = _
      rw [s.level_getD 1]
      unfold RateLimiterStore.level
      rw [hquota]
      split
      · rfl
      · cases s.quotaOf o.key with
        | none => exact Gcra.level_none.symm
        | some q => rfl
    · have hquota : (o.apply limits s).quotaOf key = s.quotaOf key := LimiterOp.apply_quotaOf_ne hkey
      change (o.apply limits s).level key o.now = _
      unfold RateLimiterStore.level
      rw [hquota]
      rfl
  | cleanup now =>
    have hlookup : (s.cleanup now).limiters.lookup key
        = (s.limiters.lookup key).filter fun p => now / 10 ^ 9 - p.lastUsed < 600 := KeyMap.lookup_retain _ _ _
    change (s.cleanup now).level key now = s.level key now
    unfold RateLimiterStore.level RateLimiterStore.quotaOf
    rw [hlookup]
    cases hp : s.limiters.lookup key with
    | none => rfl
    | some p =>
      by_cases hkeep : now / 10 ^ 9 - p.lastUsed < 600
      · rw [Option.filter_some, if_pos (by simpa using hkeep)]
      · rw [Option.filter_some, if_neg (by simpa using hkeep)]
        exact (Gcra.level_idle (hidle p hp (not_lt.1 hkeep))).symm

end StoreCall

/-! ## What a step keeps -/

namespace LimiterOp

variable {limits : String → LimitsConfig} {op : LimiterOp} {p : RateLimitPair}

theorem serve_rpm : (op.serve limits p).1.rpm = p.rpm := by
  have hspend : ∀ (p : RateLimitPair) (tpm n now : Nat), (p.spend tpm n now).1.rpm = p.rpm := by
    intro p tpm n now
    unfold RateLimitPair.spend
    split <;> rfl
  cases op with
  | check key n scope now =>
    simp only [serve, RateLimitPair.check]
    split
    · rw [hspend, RateLimitPair.enter_rpm]
    · rw [RateLimitPair.enter_rpm]
  | consumeTpm key n now =>
    simp only [serve]
    split <;> rfl
  | getTpmState key now =>
    simp only [serve]
    split <;> rfl

/-- Under any limits an operation leaves a pair sound. -/
theorem serve_sound {l : LimitsConfig} {clock : Nat} (h : p.Sound l clock) (hnow : clock ≤ op.now) :
    (op.serve limits p).1.Sound l op.now := by
  cases op with
  | check key n scope now =>
    simp only [serve, RateLimitPair.check]
    split
    · exact (h.enter hnow (limits key).rpm).spend (le_refl _) (limits key).tpm n
    · exact h.enter hnow (limits key).rpm
  | consumeTpm key n now =>
    simp only [serve]
    split
    · exact h.charge hnow (TpmLimiter.consumeN_capacity _ _ _)
    · exact h.mono hnow
  | getTpmState key now =>
    simp only [serve]
    split
    · have hlater := h.mono hnow
      exact ⟨hlater.capacity, hlater.rpm_pos, hlater.used_le, hlater.tat_le⟩
    · exact h.mono hnow

theorem fresh_sound (limits : String → LimitsConfig) (op : LimiterOp) : ∃ l, (op.fresh limits).Sound l op.now := by
  cases op with
  | check key n scope now => exact ⟨limits key, .new (limits key) _ now⟩
  | consumeTpm key n now => exact ⟨limits key, .new (limits key) 0 now⟩
  | getTpmState key now => exact ⟨limits key, .new (limits key) 0 now⟩

theorem fresh_rpm {rpm : Nat} (hrpm : 0 < rpm) (hlimit : (limits op.key).rpm ≤ rpm) : (op.fresh limits).rpm ≤ rpm := by
  have hnew : ∀ r tpm now, r ≤ rpm → (RateLimitPair.new r tpm now).rpm ≤ rpm := by
    intro r tpm now hr
    unfold RateLimitPair.new
    dsimp only
    split <;> omega
  cases op with
  | check key n scope now => exact hnew _ _ _ hlimit
  | consumeTpm key n now => exact hnew _ _ _ (Nat.zero_le _)
  | getTpmState key now => exact hnew _ _ _ (Nat.zero_le _)

end LimiterOp

namespace RpmHistory

/-- The pair of `key` is sound, and its quota at most `rpm`. -/
def Sound (key : String) (rpm : Nat) (h : RpmHistory) : Prop :=
  ∀ p, h.store.limiters.lookup key = some p → (∃ l, p.Sound l h.clock) ∧ p.rpm ≤ rpm

variable {h : RpmHistory} {c : StoreCall} {key : String} {rpm : Nat}

theorem Sound.start : start.Sound key rpm := fun _ hp => by cases hp

theorem Sound.step (hs : h.Sound key rpm) (hnow : h.clock ≤ c.now) (hrpm : 0 < rpm) (hlimit : (c.limits key).rpm ≤ rpm) :
    (h.step c).Sound key rpm := by
  intro p hp
  obtain ⟨limits, event⟩ := c
  cases event with
  | op o =>
    change (o.apply limits h.store).limiters.lookup key = some p at hp
    change (∃ l, p.Sound l o.now) ∧ p.rpm ≤ rpm
    have hold : ∀ p, h.store.limiters.lookup key = some p → (∃ l, p.Sound l o.now) ∧ p.rpm ≤ rpm := by
      intro p hp
      obtain ⟨⟨l, hl⟩, hle⟩ := hs p hp
      exact ⟨⟨l, hl.mono hnow⟩, hle⟩
    by_cases hkey : key = o.key
    · subst hkey
      rw [o.apply_lookup_self] at hp
      split at hp
      · obtain rfl := Option.some.inj hp
        rw [o.pair_eq, LimiterOp.serve_rpm]
        cases hlookup : h.store.limiters.lookup o.key with
        | none =>
          obtain ⟨l, hl⟩ := LimiterOp.fresh_sound limits o
          exact ⟨⟨l, LimiterOp.serve_sound hl (le_refl _)⟩, LimiterOp.fresh_rpm hrpm hlimit⟩
        | some q =>
          obtain ⟨⟨l, hl⟩, hle⟩ := hs q hlookup
          exact ⟨⟨l, LimiterOp.serve_sound hl hnow⟩, hle⟩
      · exact hold p hp
    · rw [LimiterOp.apply_lookup_ne hkey] at hp
      exact hold p hp
  | cleanup now =>
    obtain ⟨⟨l, hl⟩, hle⟩ := hs p (KeyMap.lookup_of_retain hp)
    exact ⟨⟨l, hl.mono hnow⟩, hle⟩

theorem Sound.burst_pos (hs : h.Sound key rpm) {r : Nat} (hr : 0 < r) : 0 < h.store.burst key r := by
  unfold RateLimiterStore.burst RateLimiterStore.quotaOf
  cases hp : h.store.limiters.lookup key with
  | none => exact hr
  | some p =>
    obtain ⟨⟨l, hl⟩, -⟩ := hs p hp
    exact hl.rpm_pos

theorem Sound.burst_le (hs : h.Sound key rpm) {r : Nat} (hle : r ≤ rpm) : h.store.burst key r ≤ rpm := by
  unfold RateLimiterStore.burst RateLimiterStore.quotaOf
  cases hp : h.store.limiters.lookup key with
  | none => exact hle
  | some p => exact (hs p hp).2

/-- The key's bucket with the times of its cells. -/
def log (h : RpmHistory) (key : String) : LeakyBucket.Log ℚ where
  level := h.store.level key h.clock
  clock := h.clock
  admitted := (h.admitted.filter fun a => a.1 = key).map (·.2)

theorem log_admittedIn (h : RpmHistory) (key : String) (t₁ t₂ : Nat) :
    (h.log key).admittedIn t₁ t₂ = h.admittedIn key t₁ t₂ := by
  unfold LeakyBucket.Log.admittedIn log admittedIn
  rw [List.countP_map, List.countP_filter]
  refine List.countP_congr fun a _ => ?_
  simp only [Function.comp_apply, decide_eq_true_eq, Bool.and_eq_true]
  exact and_comm

/-- **Step**: an admitted check pours a cell. -/
theorem level_step (hs : h.Sound key rpm) :
    (h.step c).store.level key c.now = h.store.level key c.now + if c.admits h.store = some key then 1 else 0 := by
  by_cases hchecks : ∃ l, c.checks = some (key, l)
  · obtain ⟨l, hl⟩ := hchecks
    obtain ⟨_, _, _, rfl, hpos⟩ := StoreCall.checks_eq_some hl
    exact (StoreCall.level_check hl (hs.burst_pos hpos)).2
  · push Not at hchecks
    have hnone : c.admits h.store ≠ some key := fun hc =>
      (StoreCall.admits_eq_some hc).elim fun l hl => hchecks l hl
    rw [if_neg hnone, add_zero]
    refine StoreCall.level_other hchecks fun p hp hidle => ?_
    obtain ⟨⟨l, hl⟩, -⟩ := hs p hp
    exact hl.idle hidle

theorem log_step (hs : h.Sound key rpm) :
    (h.step c).log key =
      if c.admits h.store = some key then ((h.log key).wait (h.store.level key c.now) c.now).pour
      else (h.log key).wait (h.store.level key c.now) c.now := by
  have hlevel : (c.apply h.store).level key c.now
      = h.store.level key c.now + if c.admits h.store = some key then 1 else 0 := level_step hs
  unfold log step
  dsimp only
  rw [hlevel]
  cases hadmits : c.admits h.store with
  | none => simp [LeakyBucket.Log.wait]
  | some k =>
    by_cases hk : k = key
    · subst hk
      simp [LeakyBucket.Log.wait, LeakyBucket.Log.pour, List.filter_append]
    · have hk' : some k ≠ some key := fun he => hk (Option.some.inj he)
      simp [LeakyBucket.Log.wait, List.filter_append, hk]

/-! ## What is admitted in a span of time -/

/-- A call that comes no earlier than the last one, and whose caller has read an RPM of at most `rpm`. -/
structure Within (key : String) (rpm : Nat) (h : RpmHistory) (c : StoreCall) : Prop where
  clock_le : h.clock ≤ c.now
  limit_le : (c.limits key).rpm ≤ rpm

instance (key : String) (rpm : Nat) (h : RpmHistory) (c : StoreCall) : Decidable (h.Within key rpm c) :=
  decidable_of_iff (h.clock ≤ c.now ∧ (c.limits key).rpm ≤ rpm) ⟨fun hw => ⟨hw.1, hw.2⟩, fun hw => ⟨hw.1, hw.2⟩⟩

/-- A minute's worth of cells leaks out in a minute, and no more fit in. -/
structure Inv (key : String) (rpm : Nat) (h : RpmHistory) : Prop where
  sound : h.Sound key rpm
  log : LeakyBucket.Log.Inv ((rpm : ℚ) / perMinute) rpm (h.log key)

theorem rate_nonneg (rpm : Nat) : (0 : ℚ) ≤ (rpm : ℚ) / perMinute := div_nonneg (Nat.cast_nonneg _) (Nat.cast_nonneg _)

theorem Inv.start : start.Inv key rpm := ⟨.start, .start (rate_nonneg rpm) (Nat.cast_nonneg _) 0⟩

/-- No pair leaks faster than the limit. -/
theorem Sound.leak (hs : h.Sound key rpm) {now : Nat} (hnow : h.clock ≤ now) :
    h.store.level key h.clock - (rpm : ℚ) / perMinute * ((now : ℚ) - h.clock) ≤ h.store.level key now := by
  have hquota : ((h.store.quotaOf key).elim 0 fun q => (q.1 : ℚ)) ≤ rpm := by
    unfold RateLimiterStore.quotaOf
    cases hp : h.store.limiters.lookup key with
    | none => exact Nat.cast_nonneg _
    | some p => exact Nat.cast_le.2 (hs p hp).2
  have hspan : (0 : ℚ) ≤ (now : ℚ) - h.clock := sub_nonneg.2 (Nat.cast_le.2 hnow)
  have hrate := mul_le_mul_of_nonneg_right (div_le_div_of_nonneg_right hquota (Nat.cast_nonneg perMinute)) hspan
  rw [h.store.level_later key hnow]
  exact le_max_of_le_right (sub_le_sub_left hrate _)

theorem Inv.wait (hi : h.Inv key rpm) {now : Nat} (hnow : h.clock ≤ now) :
    LeakyBucket.Log.Inv ((rpm : ℚ) / perMinute) rpm ((h.log key).wait (h.store.level key now) now) :=
  hi.log.wait (rate_nonneg rpm) hnow h.store.level_nonneg (hi.sound.leak hnow)

theorem Inv.step (hi : h.Inv key rpm) (hrpm : 0 < rpm) (hw : h.Within key rpm c) : (h.step c).Inv key rpm := by
  refine ⟨hi.sound.step hw.clock_le hrpm hw.limit_le, ?_⟩
  have hwait := hi.wait hw.clock_le
  rw [log_step hi.sound]
  split
  · rename_i hadmits
    obtain ⟨l, hl⟩ := StoreCall.admits_eq_some hadmits
    obtain ⟨_, _, _, rfl, hpos⟩ := StoreCall.checks_eq_some hl
    have hroom := (StoreCall.level_check hl (hi.sound.burst_pos hpos)).1.1 hadmits
    exact hwait.pour (rate_nonneg rpm) (hroom.trans (Nat.cast_le.2 (hi.sound.burst_le hw.limit_le)))
  · exact hwait

end RpmHistory

/-- A burst and what the span gives, in whole cells. -/
theorem cells_le_iff {n rpm t₁ t₂ : Nat} (h : t₁ ≤ t₂) :
    (n : ℚ) ≤ rpm + (rpm : ℚ) / perMinute * ((t₂ : ℚ) - t₁) ↔ n * perMinute ≤ rpm * (perMinute + (t₂ - t₁)) := by
  have hmin : (0 : ℚ) < perMinute := Nat.cast_pos.2 perMinute_pos
  have hscale : ((rpm : ℚ) + (rpm : ℚ) / perMinute * ((t₂ : ℚ) - t₁)) * perMinute
      = ((rpm * (perMinute + (t₂ - t₁)) : Nat) : ℚ) := by
    rw [← Nat.cast_sub h, add_mul, mul_right_comm, div_mul_cancel₀ _ hmin.ne', ← mul_add]
    push_cast
    rfl
  rw [← mul_le_mul_iff_of_pos_right hmin, hscale, ← Nat.cast_mul, Nat.cast_le]

/-- In a span of time a key is admitted a burst and what the time gives. -/
theorem RpmHistory.Inv.admittedIn_le {h : RpmHistory} {key : String} {rpm : Nat} (hi : h.Inv key rpm) (t₁ t₂ : Nat) :
    h.admittedIn key t₁ t₂ ≤ rpm + rpm * (t₂ - t₁) / perMinute := by
  by_cases hspan : t₁ ≤ t₂
  · have hbound := hi.log.bounded t₁ t₂ hspan
    rw [RpmHistory.log_admittedIn, cells_le_iff hspan] at hbound
    rw [← Nat.sub_le_iff_le_add', Nat.le_div_iff_mul_le perMinute_pos, Nat.sub_mul]
    rw [Nat.mul_add] at hbound
    omega
  · have hnone : h.admittedIn key t₁ t₂ = 0 :=
      List.countP_eq_zero.2 fun a _ => by simp only [decide_eq_true_eq]; omega
    rw [hnone]
    exact Nat.zero_le _

/-- **What an RPM limit admits** from `t₁` to `t₂` is a burst of it and what the time between them gives. -/
theorem rpm_admissions_bounded {key : String} {rpm : Nat} (hrpm : 0 < rpm) {calls : List StoreCall}
    (hcalls : Steps.Every RpmHistory.step (RpmHistory.Within key rpm) .start calls) (t₁ t₂ : Nat) :
    (Steps.run RpmHistory.step .start calls).admittedIn key t₁ t₂ ≤ rpm + rpm * (t₂ - t₁) / perMinute := by
  have hrun : (Steps.run RpmHistory.step .start calls).Inv key rpm :=
    Steps.run_keeps (fun h c hw hi => hi.step hrpm hw) calls _ hcalls .start
  exact hrun.admittedIn_le t₁ t₂

/-- Two a minute, and a TPM limit beside it. -/
def twoPerMinute : String → LimitsConfig := fun _ => { rpm := 2, tpm := 5 }

/-- A burst, a refusal, a cleanup, and a charge that makes the pair anew with a quota of one. -/
def burstCalls : List StoreCall :=
  [⟨twoPerMinute, .op (.check "k" 1 .token 0)⟩, ⟨twoPerMinute, .op (.check "k" 1 .token 0)⟩,
    ⟨twoPerMinute, .op (.check "k" 1 .token 0)⟩, ⟨twoPerMinute, .op (.check "k" 1 .token 30000000000)⟩,
    ⟨twoPerMinute, .cleanup 700000000000⟩, ⟨twoPerMinute, .op (.consumeTpm "k" 3 700000000000)⟩,
    ⟨twoPerMinute, .op (.check "k" 1 .token 700000000000)⟩]

/-- The bound is met. -/
theorem burst_bounded :
    (Steps.run RpmHistory.step .start burstCalls).admittedIn "k" 0 30000000000
        ≤ 2 + 2 * (30000000000 - 0) / perMinute ∧
      (Steps.run RpmHistory.step .start burstCalls).admittedIn "k" 0 30000000000 = 3 :=
  ⟨rpm_admissions_bounded (by decide) (by decide) 0 30000000000, by decide⟩

/-! ## When a check is admitted -/

/-- Where a pair is made, it is made with the quota of `rpm`. -/
def StoreCall.MakesOwn (key : String) (rpm : Nat) (s : RateLimiterStore) (c : StoreCall) : Prop :=
  match c.event with
  | .op o => o.key = key → s.quotaOf key = none → o.opens c.limits = true → o.isCheck = true ∨ rpm = 1
  | .cleanup _ => True

instance (key : String) (rpm : Nat) (s : RateLimiterStore) (c : StoreCall) : Decidable (c.MakesOwn key rpm s) :=
  match h : c.event with
  | .op o => decidable_of_iff
      (o.key = key → s.quotaOf key = none → o.opens c.limits = true → o.isCheck = true ∨ rpm = 1)
      (by rw [StoreCall.MakesOwn, h])
  | .cleanup _ => isTrue (by rw [StoreCall.MakesOwn, h]; trivial)

namespace RpmHistory

/-- A call that comes no earlier than the last one, under an RPM of `rpm`, and makes no other quota. -/
structure OwnQuota (key : String) (rpm : Nat) (h : RpmHistory) (c : StoreCall) : Prop where
  clock_le : h.clock ≤ c.now
  limit_eq : (c.limits key).rpm = rpm
  makes_own : c.MakesOwn key rpm h.store

instance (key : String) (rpm : Nat) (h : RpmHistory) (c : StoreCall) : Decidable (h.OwnQuota key rpm c) :=
  decidable_of_iff (h.clock ≤ c.now ∧ (c.limits key).rpm = rpm ∧ c.MakesOwn key rpm h.store)
    ⟨fun hw => ⟨hw.1, hw.2.1, hw.2.2⟩, fun hw => ⟨hw.1, hw.2, hw.3⟩⟩

/-- The bucket holds no more than the cells since some moment less what has leaked. -/
structure ExactInv (key : String) (rpm : Nat) (h : RpmHistory) : Prop where
  inv : h.Inv key rpm
  own : ∀ q, h.store.quotaOf key = some q → q.1 = rpm
  exact : LeakyBucket.Log.Exact ((rpm : ℚ) / perMinute) (h.log key)

variable {h : RpmHistory} {c : StoreCall} {key : String} {rpm : Nat}

theorem ExactInv.start : start.ExactInv key rpm := ⟨.start, fun _ hq => (by cases hq), Or.inl (le_refl _)⟩

/-- A pair keeps its quota, and a new one has the quota of `rpm`. -/
theorem own_step (hown : ∀ q, h.store.quotaOf key = some q → q.1 = rpm) (hrpm : 0 < rpm) (hc : h.OwnQuota key rpm c) :
    ∀ q, (h.step c).store.quotaOf key = some q → q.1 = rpm := by
  obtain ⟨limits, event⟩ := c
  intro q hq
  cases event with
  | cleanup now =>
    change (h.store.cleanup now).quotaOf key = some q at hq
    obtain ⟨p, hp, rfl⟩ := Option.map_eq_some_iff.1 hq
    refine hown _ ?_
    unfold RateLimiterStore.quotaOf
    rw [KeyMap.lookup_of_retain hp, Option.map_some]
  | op o =>
    change (o.apply limits h.store).quotaOf key = some q at hq
    cases hbefore : h.store.quotaOf key with
    | some q₀ =>
      have hstays : ∃ tat, (o.apply limits h.store).quotaOf key = some (q₀.1, tat) := LimiterOp.apply_quotaOf_some hbefore
      obtain ⟨tat, htat⟩ := hstays
      rw [htat] at hq
      rw [← Option.some.inj hq]
      exact hown q₀ hbefore
    | none =>
      by_cases hkey : key = o.key
      · subst hkey
        have hlimit : (limits o.key).rpm = rpm := hc.limit_eq
        by_cases hlow : o.isCheck = true → (limits o.key).rpm = 0
        · rw [LimiterOp.apply_quotaOf_low hlow, hbefore] at hq
          split at hq
          · rename_i hopens
            rcases hc.makes_own rfl hbefore hopens with hcheck | hone
            · have := hlow hcheck
              omega
            · rw [← Option.some.inj hq, hone]
              rfl
          · cases hq
        · cases o with
          | check k n scope now =>
            have hpos : 0 < (limits k).rpm := Nat.pos_of_ne_zero fun hz => hlow fun _ => hz
            have hafter := h.store.check_quotaOf (k := k) (limits k).tpm n now scope hpos
            have hmade : (h.store.quotaOf k).getD ((limits k).rpm, none) = ((limits k).rpm, none) := by
              rw [show h.store.quotaOf k = none from hbefore, Option.getD_none]
            rw [hmade] at hafter
            rw [← Option.some.inj (hafter.symm.trans hq)]
            exact hlimit
          | consumeTpm k n now => exact absurd (fun hcheck => by cases hcheck) hlow
          | getTpmState k now => exact absurd (fun hcheck => by cases hcheck) hlow
      · rw [LimiterOp.apply_quotaOf_ne hkey, hbefore] at hq
        cases hq

theorem ExactInv.wait (hi : h.ExactInv key rpm) {now : Nat} (hnow : h.clock ≤ now) :
    LeakyBucket.Log.Exact ((rpm : ℚ) / perMinute) ((h.log key).wait (h.store.level key now) now) := by
  have hleak : h.store.level key now
      ≤ max 0 (h.store.level key h.clock - (rpm : ℚ) / perMinute * ((now : ℚ) - h.clock)) := by
    rw [h.store.level_later key hnow]
    cases hq : h.store.quotaOf key with
    | none =>
      have hempty : h.store.level key h.clock = 0 := by
        unfold RateLimiterStore.level
        rw [hq, Option.elim_none]
      rw [hempty, Option.elim_none, zero_div, zero_mul, sub_zero, max_self]
      exact le_max_left _ _
    | some q => rw [Option.elim_some, hi.own q hq]
  exact hi.exact.wait hi.inv.log.admitted_le hnow (rate_nonneg rpm) hleak

theorem ExactInv.step (hi : h.ExactInv key rpm) (hrpm : 0 < rpm) (hc : h.OwnQuota key rpm c) :
    (h.step c).ExactInv key rpm := by
  have hwithin : h.Within key rpm c := ⟨hc.clock_le, hc.limit_eq.le⟩
  refine ⟨hi.inv.step hrpm hwithin, own_step hi.own hrpm hc, ?_⟩
  have hwait := hi.wait hc.clock_le
  rw [log_step hi.inv.sound]
  split
  · exact hwait.pour
  · exact hwait

end RpmHistory

/-- **A check is admitted** exactly where, with it, no span that ends with it has more than a burst and what the
span gives. -/
theorem rpm_admitted_iff {key : String} {rpm : Nat} (hrpm : 0 < rpm) {calls : List StoreCall}
    (hcalls : Steps.Every RpmHistory.step (RpmHistory.OwnQuota key rpm) .start calls) {now : Nat}
    (hnow : (Steps.run RpmHistory.step .start calls).clock ≤ now) (tpm : Nat) :
    ((Steps.run RpmHistory.step .start calls).store.checkRpm key rpm tpm now).2.isOk = true ↔
      ∀ t₁ ≤ now, ((Steps.run RpmHistory.step .start calls).admittedIn key t₁ now + 1) * perMinute
        ≤ rpm * (perMinute + (now - t₁)) := by
  have hrun : (Steps.run RpmHistory.step .start calls).ExactInv key rpm :=
    Steps.run_keeps (fun h c hc hi => hi.step hrpm hc) calls _ hcalls .start
  generalize Steps.run RpmHistory.step .start calls = h at hnow hrun ⊢
  have hroom : h.store.level key now + 1 ≤ rpm ↔
      ∀ t₁ ≤ now, (h.admittedIn key t₁ now : ℚ) + 1 ≤ rpm + (rpm : ℚ) / perMinute * ((now : ℚ) - t₁) := by
    simp only [← h.log_admittedIn]
    exact LeakyBucket.Log.room_iff (hrun.inv.wait hnow) (hrun.wait hnow)
  have hown : h.store.burst key rpm = rpm := by
    unfold RateLimiterStore.burst
    cases hq : h.store.quotaOf key with
    | none => rfl
    | some q => exact hrun.own q hq
  have hcheck := @RateLimiterStore.checkRpm_isOk_iff h.store key rpm tpm now hrpm (by rw [hown]; exact hrpm)
  rw [hcheck, hown, hroom]
  refine forall₂_congr fun t₁ ht => ?_
  rw [← cells_le_iff ht]
  push_cast
  rfl

/-- The third check in a minute waits for half of it. -/
theorem third_admitted_iff :
    ((Steps.run RpmHistory.step .start (burstCalls.take 3)).store.checkRpm "k" 2 5 30000000000).2.isOk = true ↔
      ∀ t₁ ≤ 30000000000, ((Steps.run RpmHistory.step .start (burstCalls.take 3)).admittedIn "k" t₁ 30000000000 + 1)
          * perMinute ≤ 2 * (perMinute + (30000000000 - t₁)) :=
  rpm_admitted_iff (by decide) (by decide) (by decide) 5

/-! ## How long a refused check has to wait -/

/-- The bucket of `key` stands at `mark` under a quota of `r`, or has leaked out since. -/
def RateLimiterStore.Waits (s : RateLimiterStore) (key : String) (r mark clock : Nat) : Prop :=
  s.quotaOf key = some (r, some mark) ∨ mark ≤ r * clock ∧ s.level key clock = 0

namespace RateLimiterStore

variable {s : RateLimiterStore} {key : String} {rpm tpm now r mark : Nat}

/-- A refusal carries the time from now to the mark, less the burst. -/
theorem checkRpm_wait {wait : ℚ} (h : (s.checkRpm key rpm tpm now).2 = .error wait) :
    ∃ r mark, s.quotaOf key = some (r, some mark) ∧ r * now + (quotaPerMinute r).tolerance < mark ∧
      wait = ((mark - (r * now + (quotaPerMinute r).tolerance) : Nat) : ℚ) / ((r * 10 ^ 9 : Nat) : ℚ) := by
  unfold checkRpm at h
  split at h
  · have hpair : ∀ p : RateLimitPair, ((p.touch now).checkRpm now).2 = .error wait →
        ∃ mark, p.tat = some mark ∧ p.rpm * now + (quotaPerMinute p.rpm).tolerance < mark ∧
          wait = ((mark - (p.rpm * now + (quotaPerMinute p.rpm).tolerance) : Nat) : ℚ) / ((p.rpm * 10 ^ 9 : Nat) : ℚ) := by
      intro p hp
      unfold RateLimitPair.checkRpm RateLimitPair.touch at hp
      dsimp only at hp
      split at hp
      · cases hp
      · rename_i hrejected
        rw [Gcra.check_snd, Gcra.conforms_iff] at hrejected
        have hwait := (Except.error.inj hp).symm
        cases htat : p.tat with
        | none =>
          rw [htat] at hrejected
          exact absurd (Nat.le_add_right _ _) hrejected
        | some mark =>
          rw [htat] at hrejected hwait
          exact ⟨mark, rfl, not_le.1 hrejected, hwait⟩
    obtain ⟨mark, htat, hlate, hwait⟩ := hpair _ h
    unfold getOrCreate at htat hlate hwait
    cases hp : s.limiters.lookup key with
    | none =>
      rw [hp] at htat
      cases htat
    | some p =>
      rw [hp] at htat hlate hwait
      refine ⟨p.rpm, mark, ?_, hlate, hwait⟩
      unfold quotaOf
      rw [hp, Option.map_some, show p.tat = some mark from htat]
  · cases h

/-- Until the mark is a burst away a check is refused; from then on it passes. -/
theorem Waits.isOk_iff (h : s.Waits key r mark now) (hrpm : 0 < rpm) (hburst : 0 < s.burst key rpm) :
    (s.checkRpm key rpm tpm now).2.isOk = true ↔ mark ≤ r * now + (quotaPerMinute r).tolerance := by
  rcases h with hstands | ⟨hmark, hempty⟩
  · obtain ⟨-, hok⟩ := s.checkRpm_quotaOf (k := key) tpm now hrpm
    rw [hstands, Option.getD_some] at hok
    rw [hok, Gcra.check_snd, Gcra.conforms_iff, Option.getD_some]
  · rw [s.checkRpm_isOk_iff tpm now hrpm hburst, hempty, zero_add]
    have hone : (1 : ℚ) ≤ s.burst key rpm := by exact_mod_cast hburst
    exact iff_of_true hone (hmark.trans (Nat.le_add_right _ _))

theorem Waits.later {clock : Nat} (h : s.Waits key r mark clock) (hnow : clock ≤ now) : s.Waits key r mark now := by
  refine h.imp id fun hempty => ⟨hempty.1.trans (Nat.mul_le_mul_left _ hnow), ?_⟩
  have hspan : (0 : ℚ) ≤ (now : ℚ) - clock := sub_nonneg.2 (Nat.cast_le.2 hnow)
  have hquota : (0 : ℚ) ≤ (s.quotaOf key).elim 0 fun q => (q.1 : ℚ) := by
    cases s.quotaOf key with
    | none => exact le_refl _
    | some q => exact Nat.cast_nonneg _
  rw [s.level_later key hnow, hempty.2, zero_sub]
  exact max_eq_left (neg_nonpos.2 (mul_nonneg (div_nonneg hquota (Nat.cast_nonneg _)) hspan))

end RateLimiterStore

/-- A call that is not an admitted check leaves the mark; the cleanup drops it when it has passed. -/
theorem StoreCall.quotaOf_stays {s : RateLimiterStore} {c : StoreCall} {key : String} {q : Nat × Option Nat}
    (hadmits : c.admits s ≠ some key) (hq : s.quotaOf key = some q)
    (hidle : ∀ p, s.limiters.lookup key = some p → 600 ≤ c.now / 10 ^ 9 - p.lastUsed → p.Idle c.now) :
    (c.apply s).quotaOf key = some q ∨ q.2.getD (q.1 * c.now) ≤ q.1 * c.now ∧ (c.apply s).quotaOf key = none := by
  by_cases hchecks : ∃ l, c.checks = some (key, l)
  · obtain ⟨l, hl⟩ := hchecks
    obtain ⟨n, scope, hevent, rfl, hrpm⟩ := checks_eq_some hl
    have hafter := s.check_quotaOf (k := key) (c.limits key).tpm n c.now scope hrpm
    have hok := (s.checkRpm_quotaOf (k := key) (c.limits key).tpm c.now hrpm).2
    have hrejected : (s.checkRpm key (c.limits key).rpm (c.limits key).tpm c.now).2.isOk = false := by
      refine Bool.eq_false_of_not_eq_true fun hpass => hadmits ?_
      simp [admits, hl, hpass]
    rw [hq, Option.getD_some] at hafter hok
    dsimp only at hafter
    rw [hok] at hrejected
    rw [Gcra.check_rejected hrejected] at hafter
    unfold apply
    rw [hevent]
    exact Or.inl hafter
  · push Not at hchecks
    obtain ⟨limits, event⟩ := c
    cases event with
    | op o =>
      refine Or.inl (?_ : (o.apply limits s).quotaOf key = some q)
      by_cases hkey : key = o.key
      · subst hkey
        rw [LimiterOp.apply_quotaOf_low (checks_low hchecks), hq, Option.getD_some, ite_self]
      · rw [LimiterOp.apply_quotaOf_ne hkey]
        exact hq
    | cleanup now =>
      obtain ⟨p, hp, rfl⟩ := Option.map_eq_some_iff.1 hq
      have hlookup : (s.cleanup now).limiters.lookup key
          = (s.limiters.lookup key).filter fun p => now / 10 ^ 9 - p.lastUsed < 600 := KeyMap.lookup_retain _ _ _
      change (s.cleanup now).quotaOf key = _ ∨ _ ∧ (s.cleanup now).quotaOf key = none
      unfold RateLimiterStore.quotaOf
      rw [hlookup, hp]
      by_cases hkeep : now / 10 ^ 9 - p.lastUsed < 600
      · rw [Option.filter_some, if_pos (by simpa using hkeep)]
        exact Or.inl rfl
      · rw [Option.filter_some, if_neg (by simpa using hkeep)]
        exact Or.inr ⟨hidle p hp (not_lt.1 hkeep), rfl⟩

theorem RpmHistory.Sound.waits {h : RpmHistory} {c : StoreCall} {key : String} {rpm r mark : Nat}
    (hs : h.Sound key rpm) (hnow : h.clock ≤ c.now) (hadmits : c.admits h.store ≠ some key)
    (hwaits : h.store.Waits key r mark h.clock) :
    (h.step c).store.Waits key r mark c.now := by
  rcases hwaits.later hnow with hstands | ⟨hmark, hempty⟩
  · have hstays := StoreCall.quotaOf_stays hadmits hstands fun p hp hidle => by
      obtain ⟨⟨l, hl⟩, -⟩ := hs p hp
      exact hl.idle hidle
    refine hstays.imp id fun hgone => ⟨hgone.1, ?_⟩
    change (c.apply h.store).level key c.now = 0
    unfold RateLimiterStore.level
    rw [hgone.2, Option.elim_none]
  · refine Or.inr ⟨hmark, ?_⟩
    rw [RpmHistory.level_step hs, hempty, if_neg hadmits, add_zero]

/-- **The wait of a refusal** is exact: with no check of the key admitted in between, a check passes from then on
and not before. -/
theorem rpm_wait_exact {key : String} {rpm : Nat} (hrpm : 0 < rpm) {calls later : List StoreCall} {c : StoreCall}
    {l : LimitsConfig} {wait : ℚ}
    (hcalls : Steps.Every RpmHistory.step (RpmHistory.Within key rpm) .start (calls ++ c :: later))
    (hchecks : c.checks = some (key, l))
    (hrefused : ((Steps.run RpmHistory.step .start calls).store.checkRpm key l.rpm l.tpm c.now).2 = .error wait)
    (hlater : Steps.Every RpmHistory.step (fun h c => c.admits h.store ≠ some key)
      (Steps.run RpmHistory.step .start (calls ++ [c])) later)
    {r t : Nat} (tpm : Nat) (hr : 0 < r) (ht : (Steps.run RpmHistory.step .start (calls ++ c :: later)).clock ≤ t) :
    ((Steps.run RpmHistory.step .start (calls ++ c :: later)).store.checkRpm key r tpm t).2.isOk = true ↔
      (c.now : ℚ) + wait * 10 ^ 9 ≤ t := by
  rw [Steps.run_append, Steps.run_cons, Steps.run_nil] at hlater
  rw [Steps.run_append, Steps.run_cons] at ht ⊢
  obtain ⟨hbefore, hwithin, hafter⟩ := (Steps.every_append _ _ _).1 hcalls
  have hsound : (Steps.run RpmHistory.step .start calls).Sound key rpm :=
    Steps.run_keeps (fun h c hw hs => hs.step hw.clock_le hrpm hw.limit_le) calls _ hbefore .start
  generalize Steps.run RpmHistory.step .start calls = h at *
  obtain ⟨r₀, mark, hstands, hlate, rfl⟩ := RateLimiterStore.checkRpm_wait hrefused
  have hr₀ : 0 < r₀ := by
    have hburst := hsound.burst_pos (r := 1) Nat.one_pos
    unfold RateLimiterStore.burst at hburst
    rw [hstands] at hburst
    exact hburst
  have hadmits : c.admits h.store ≠ some key := by
    simp [StoreCall.admits, hchecks, hrefused, Except.isOk, Except.toBool]
  have hwaits : (h.step c).store.Waits key r₀ mark c.now :=
    hsound.waits hwithin.clock_le hadmits (Or.inl hstands)
  -- the mark stands through what comes later
  have hrun : (Steps.run RpmHistory.step (h.step c) later).Sound key rpm ∧
      (Steps.run RpmHistory.step (h.step c) later).store.Waits key r₀ mark
        (Steps.run RpmHistory.step (h.step c) later).clock :=
    Steps.run_keeps (I := fun h => h.Sound key rpm ∧ h.store.Waits key r₀ mark h.clock)
      (fun h c hstep hi => ⟨hi.1.step hstep.1.clock_le hrpm hstep.1.limit_le,
        hi.1.waits hstep.1.clock_le hstep.2 hi.2⟩)
      later _ (hafter.and hlater) ⟨hsound.step hwithin.clock_le hrpm hwithin.limit_le, hwaits⟩
  rw [(hrun.2.later ht).isOk_iff hr (hrun.1.burst_pos hr)]
  have hscale : (0 : ℚ) < r₀ := Nat.cast_pos.2 hr₀
  have hwait : ((mark - (r₀ * c.now + (quotaPerMinute r₀).tolerance) : Nat) : ℚ) / ((r₀ * 10 ^ 9 : Nat) : ℚ) * 10 ^ 9
      = ((mark - (r₀ * c.now + (quotaPerMinute r₀).tolerance) : Nat) : ℚ) / r₀ := by
    have hbillion : ((10 ^ 9 : Nat) : ℚ) = 10 ^ 9 := by norm_cast
    rw [Nat.cast_mul, ← div_div, hbillion]
    exact div_mul_cancel₀ _ (pow_ne_zero 9 (by norm_num))
  rw [hwait, ← le_sub_iff_add_le', div_le_iff₀ hscale, sub_mul, le_sub_iff_add_le]
  have hcast : ∀ a b : Nat, (a : ℚ) + (c.now : ℚ) * r₀ ≤ (b : ℚ) * r₀ ↔ a + r₀ * c.now ≤ r₀ * b := by
    intro a b
    rw [mul_comm (c.now : ℚ), mul_comm (b : ℚ), ← Nat.cast_mul, ← Nat.cast_mul, ← Nat.cast_add, Nat.cast_le]
  rw [hcast]
  omega

/-- The third check waits for half a minute, whatever is charged meanwhile. -/
theorem third_waits :
    ((Steps.run RpmHistory.step .start (burstCalls.take 2 ++ ⟨twoPerMinute, .op (.check "k" 1 .token 0)⟩ ::
        [⟨twoPerMinute, .op (.consumeTpm "k" 3 7000000000)⟩])).store.checkRpm "k" 2 5 30000000000).2.isOk = true ↔
      ((0 : Nat) : ℚ) + (60000000000 : Nat) / (2 * 10 ^ 9 : Nat) * 10 ^ 9 ≤ (30000000000 : Nat) :=
  @rpm_wait_exact "k" 2 (by decide) _ _ _ { rpm := 2, tpm := 5 } _ (by decide) rfl rfl (by decide) _ _ 5
    (by decide) (by decide)

end AiRouter
