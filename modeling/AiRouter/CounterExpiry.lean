import AiRouter.SharedCounters

/-
# The counters that instances share run out

A counter gets its expiry from the second command of the call that creates it.

| here | there |
| --- | --- |
| `Event.Completes` | the `INCR` that creates a counter is answered, and its `EXPIRE` executed |
| `Dated`           | a counter whose expiry is set, as later calls see it |
-/
namespace AiRouter.SharedCounters

/-- Whatever the instances do from here on, there is a time before which the counter has gone. -/
def Frees (s : Service) (k : String) : Prop :=
  ∃ x, ∀ es, x ≤ (Steps.run Event.apply s es).now →
    ∃ es₁, es₁ <+: es ∧
      (Steps.run Event.apply s es₁).redis.live k (Steps.run Event.apply s es₁).now = none

/-- With no call in progress, every counter has an expiry, and none stays for ever. -/
def Expires (s : Service) : Prop :=
  s.expiring = [] → ∀ scope key,
    (∀ e, s.redis.live (s.rateKey scope key) s.now = some e → e.expireAt.isSome = true) ∧
      Frees s (s.rateKey scope key)

def Event.Completes (s : Service) : Event → Prop
  | call i scope key limit fate =>
    s.sends i limit = true → s.redis.live (s.rateKey scope key) s.now = none → fate = .answered ∨ fate = .refused
  | expire k fate => k ∈ s.expiring → fate ≠ .refused
  | _ => True

instance (s : Service) : (e : Event) → Decidable (e.Completes s)
  | .tick _ => isTrue trivial
  | .start _ _ => isTrue trivial
  | .call i scope key limit fate => inferInstanceAs (Decidable
      (s.sends i limit = true → s.redis.live (s.rateKey scope key) s.now = none → fate = .answered ∨ fate = .refused))
  | .expire k fate => inferInstanceAs (Decidable (k ∈ s.expiring → fate ≠ .refused))

/-- The counter has counted, and has its expiry or has an `EXPIRE` on the way. -/
def Covered (s : Service) (k : String) : Prop :=
  ∀ e, s.redis.live k s.now = some e → 0 < e.value ∧ (e.expireAt = none → k ∈ s.expiring ∧ s.redis.up = true)

section
variable {s : Service} {i : Nat} {scope key : String} {limit : Nat} {fate : Fate} {k : String}

theorem call_expiring_mono (h : k ∈ s.expiring) : k ∈ (s.call i scope key limit fate).expiring := by
  unfold Service.call
  dsimp only
  split
  · exact List.mem_cons_of_mem _ h
  · exact h

theorem call_up : (s.call i scope key limit fate).redis.up = s.redis.up := by
  have hcall : (s.call i scope key limit fate).redis = (s.incr i scope key limit fate).1 := rfl
  rw [hcall]
  obtain hsame | ⟨-, -, n, hincr⟩ := incr_cases s i scope key limit fate
  · rw [hsame]
  · have hup := s.redis.incr_up (s.rateKey scope key) s.now
    rw [hincr] at hup
    exact hup

/-- **Step**, a call. A counter that there was keeps its expiry; one that is created has its `EXPIRE` coming. -/
theorem Covered.call (h : Covered s k) (hmeets : Event.Completes s (.call i scope key limit fate)) :
    Covered (s.call i scope key limit fate) k := by
  have hkeep : ∀ e, s.redis.live k s.now = some e → 0 < e.value ∧
      (e.expireAt = none → k ∈ (s.call i scope key limit fate).expiring ∧
        (s.call i scope key limit fate).redis.up = true) := by
    intro e he
    obtain ⟨hpos, hnone⟩ := h e he
    refine ⟨hpos, fun hx => ⟨call_expiring_mono (hnone hx).1, ?_⟩⟩
    rw [call_up]
    exact (hnone hx).2
  intro e he
  by_cases hk : k = s.rateKey scope key
  · subst hk
    obtain hsame | ⟨hsends, hsent, n, hincr⟩ := incr_cases s i scope key limit fate
    · refine hkeep e ?_
      rw [← hsame]
      exact he
    · obtain ⟨hentry, hn⟩ := Redis.incr_live hincr
      obtain rfl := Option.some.inj (hentry.symm.trans he)
      refine ⟨by dsimp only; omega, fun hx => ?_⟩
      cases hbefore : s.redis.live (s.rateKey scope key) s.now with
      | some e =>
        rw [hbefore] at hx
        exact (hkeep e hbefore).2 hx
      | none =>
        rw [hbefore] at hn
        obtain rfl : n = 1 := hn
        have hup : s.redis.up = true := Redis.up_of_incr (by rw [hincr])
        obtain rfl : fate = .answered := (hmeets hsends hbefore).resolve_right hsent
        have hcount : (s.incr i scope key limit .answered).2 = some 1 := by
          rw [incr_answered hsends] at hincr ⊢
          rw [hincr]
        refine ⟨?_, ?_⟩
        · unfold Service.call
          dsimp only
          rw [if_pos hcount]
          exact List.mem_cons_self
        · rw [call_up]
          exact hup
  · exact hkeep e ((incr_live_ne hk i limit fate).symm.trans he)

/-- **Step**, an `EXPIRE`. -/
theorem Covered.expire (h : Covered s k) {k' : String} (hmeets : Event.Completes s (.expire k' fate)) :
    Covered (s.expire fate k') k := by
  unfold Service.expire
  split
  · rename_i hdue
    rw [if_neg (hmeets hdue)]
    intro e he
    dsimp only at he ⊢
    by_cases hk : k = k'
    · subst hk
      obtain ⟨e', he', hvalue⟩ := Redis.expire_live he
      refine ⟨hvalue ▸ (h e' he').1, fun hx => ?_⟩
      have hnever := Redis.expire_expires (fun e' he' hx => ((h e' he').2 hx).2) he
      rw [hx] at hnever
      cases hnever
    · rw [Redis.live_congr (Redis.expire_lookup_ne s.redis 60 s.now hk)] at he
      obtain ⟨hpos, hnone⟩ := h e he
      refine ⟨hpos, fun hx => ⟨(List.mem_erase_of_ne hk).2 (hnone hx).1, ?_⟩⟩
      rw [Redis.expire_up]
      exact (hnone hx).2
  · exact h

/-- **Step**: where calls complete, every counter stays covered. -/
theorem Covered.apply {e : Event} (h : Covered s k) (hmeets : e.Completes s) : Covered (e.apply s) k := by
  cases e with
  | tick duration => exact fun e he => h e (Redis.live_of_later (Nat.le_add_right _ _) he)
  | start i connected => exact h
  | call i scope key limit fate => exact h.call hmeets
  | expire k' fate => exact h.expire hmeets

end

/-! ## A counter with an expiry goes -/

/-- The counter ends at `x`, and no `EXPIRE` for it is due. -/
def Dated (s : Service) (k : String) (x : Nat) : Prop :=
  k ∉ s.expiring ∧ ∃ e, s.redis.live k s.now = some e ∧ 0 < e.value ∧ e.expireAt = some x

section
variable {s : Service} {i : Nat} {scope key : String} {limit : Nat} {fate : Fate} {k : String} {x : Nat}

/-- A call on another counter, or one that does not create it, leaves no `EXPIRE` to be sent. -/
theorem not_mem_call_expiring (hk : k ∉ s.expiring)
    (hcount : k = s.rateKey scope key → (s.incr i scope key limit fate).2 ≠ some 1) :
    k ∉ (s.call i scope key limit fate).expiring := by
  unfold Service.call
  dsimp only
  split
  · rename_i hone
    rw [List.mem_cons, not_or]
    exact ⟨fun h => hcount h hone, hk⟩
  · exact hk

theorem Dated.call (h : Dated s k x) (i : Nat) (scope key : String) (limit : Nat) (fate : Fate) :
    Dated (s.call i scope key limit fate) k x := by
  obtain ⟨hk, e, he, hpos, hx⟩ := h
  by_cases hkey : k = s.rateKey scope key
  · subst hkey
    refine ⟨not_mem_call_expiring hk fun _ hone => ?_, ?_⟩
    · have hn := (Redis.incr_live (incr_counted hone).2).2
      rw [he] at hn
      have : 1 = e.value + 1 := hn
      omega
    · obtain hsame | ⟨-, -, n, hincr⟩ := incr_cases s i scope key limit fate
      · refine ⟨e, ?_, hpos, hx⟩
        rw [← hsame] at he
        exact he
      · obtain ⟨hentry, hn⟩ := Redis.incr_live hincr
        rw [he] at hentry
        exact ⟨_, hentry, by dsimp only; omega, hx⟩
  · refine ⟨not_mem_call_expiring hk fun h => absurd h hkey, e, ?_, hpos, hx⟩
    exact (incr_live_ne hkey i limit fate).trans he

/-- **Step**: a counter with an expiry keeps it, or has gone. -/
theorem Dated.apply (h : Dated s k x) (e : Event) :
    Dated (e.apply s) k x ∨ (e.apply s).redis.live k (e.apply s).now = none := by
  cases e with
  | tick duration =>
    obtain ⟨hk, e, he, hpos, hx⟩ := h
    cases hlater : s.redis.live k (s.now + duration) with
    | none => exact Or.inr hlater
    | some e' =>
      have hsame := Redis.live_of_later (Nat.le_add_right s.now duration) hlater
      obtain rfl := Option.some.inj (he.symm.trans hsame)
      exact Or.inl ⟨hk, e, hlater, hpos, hx⟩
  | start i connected => exact Or.inl h
  | call i scope key limit fate => exact Or.inl (h.call i scope key limit fate)
  | expire k' fate =>
    unfold Event.apply Service.expire
    dsimp only
    split
    · rename_i hdue
      obtain ⟨hk, e, he, hpos, hx⟩ := h
      have hne : k ≠ k' := fun heq => hk (heq ▸ hdue)
      refine Or.inl ⟨fun hmem => hk (List.mem_of_mem_erase hmem), e, ?_, hpos, hx⟩
      dsimp only
      split
      · exact he
      · rw [Redis.live_congr (Redis.expire_lookup_ne s.redis 60 s.now hne)]
        exact he
    · exact Or.inl h

/-- **Run**: the counter goes no later than at its end. -/
theorem Dated.frees (es : List Event) : ∀ {s : Service}, Dated s k x →
    x ≤ (Steps.run Event.apply s es).now →
    ∃ es₁, es₁ <+: es ∧ (Steps.run Event.apply s es₁).redis.live k (Steps.run Event.apply s es₁).now = none := by
  induction es with
  | nil =>
    intro s h hpast
    obtain ⟨-, e, he, -, hx⟩ := h
    have hlive := (Option.filter_eq_some_iff.1 he).2
    rw [hx] at hlive
    have hbefore : s.now < x := by simpa using hlive
    exact absurd hpast (Nat.not_le.2 hbefore)
  | cons e es ih =>
    intro s h hpast
    obtain hstill | hgone := h.apply e
    · obtain ⟨es₁, hsameKey, hnone⟩ := ih hstill hpast
      exact ⟨e :: es₁, List.cons_prefix_cons.2 ⟨rfl, hsameKey⟩, hnone⟩
    · exact ⟨[e], List.cons_prefix_cons.2 ⟨rfl, List.nil_prefix⟩, hgone⟩

theorem Covered.frees (h : Covered s k) (hidle : s.expiring = []) : Frees s k := by
  cases hlive : s.redis.live k s.now with
  | none => exact ⟨0, fun _ _ => ⟨[], List.nil_prefix, hlive⟩⟩
  | some e =>
    obtain ⟨hpos, hnone⟩ := h e hlive
    cases hx : e.expireAt with
    | none =>
      have hdue := (hnone hx).1
      rw [hidle] at hdue
      cases hdue
    | some x =>
      have hdated : Dated s k x := ⟨by simp [hidle], e, hlive, hpos, hx⟩
      exact ⟨x, fun es => hdated.frees es⟩

end

theorem apply_keyPrefix (s : Service) (e : Event) : (e.apply s).keyPrefix = s.keyPrefix := by
  cases e with
  | tick | start | call => rfl
  | expire k fate =>
    unfold Event.apply Service.expire
    dsimp only
    split <;> rfl

/-- The start: no call is in progress, and the counters that there are have counted and have an expiry. -/
structure Started (s : Service) : Prop where
  idle : s.expiring = []
  counters : ∀ scope key e, s.redis.live (s.rateKey scope key) s.now = some e → 0 < e.value ∧ e.expireAt.isSome = true

/-- **The shared counters run out**: where the `INCR` that creates a counter is answered and its `EXPIRE`
executed, every counter has an expiry in every state that is reached with no call in progress. -/
theorem counters_expire {s : Service} (hstart : Started s) (es : List Event)
    (hmeets : Steps.Every Event.apply Event.Completes s es) : Expires (Steps.run Event.apply s es) := by
  intro hidle scope key
  have hsameKeys : ∀ s' e, Event.Completes s' e → s'.keyPrefix = s.keyPrefix → (e.apply s').keyPrefix = s.keyPrefix :=
    fun s' e _ h => (apply_keyPrefix s' e).trans h
  have hsameKey := Steps.run_keeps hsameKeys es s hmeets rfl
  have hkey : (Steps.run Event.apply s es).rateKey scope key = s.rateKey scope key := by
    unfold Service.rateKey SyncStore.rateKey Service.store
    rw [hsameKey]
  have hfirst : Covered s (s.rateKey scope key) := by
    intro e he
    obtain ⟨hpos, hsome⟩ := hstart.counters scope key e he
    exact ⟨hpos, fun hx => by simp [hx] at hsome⟩
  have hsteps : ∀ s' e, Event.Completes s' e → Covered s' (s.rateKey scope key) →
      Covered (e.apply s') (s.rateKey scope key) := fun _ _ hm h => h.apply hm
  have hcovered := Steps.run_keeps hsteps es s hmeets hfirst
  rw [hkey]
  refine ⟨fun e he => ?_, hcovered.frees hidle⟩
  by_contra hx
  rw [Option.not_isSome_iff_eq_none] at hx
  have hdue := ((hcovered e he).2 hx).1
  rw [hidle] at hdue
  cases hdue

/-! ## A counter that stays -/

theorem service_started : Started service := by
  refine ⟨rfl, fun scope key e he => ?_⟩
  cases he

theorem two_instances_leave_an_expiry : Expires (Steps.run Event.apply service twoInstances) :=
  counters_expire service_started twoInstances (by decide)

/-- An instance that goes down between its two commands, or whose `EXPIRE` fails, leaves a counter for ever. -/
theorem counters_stay :
    ¬ Expires (Steps.run Event.apply service [.call 0 "token" "sk-alice" 1 .crashed]) ∧
    ¬ Expires (Steps.run Event.apply service [.call 0 "token" "sk-alice" 1 .answered, .expire aliceKey .refused]) := by
  constructor
  · intro h
    have hexpiry := (h rfl "token" "sk-alice").1 { value := 1, expireAt := none } (by decide)
    cases hexpiry
  · intro h
    have hexpiry := (h rfl "token" "sk-alice").1 { value := 1, expireAt := none } (by decide)
    cases hexpiry

end AiRouter.SharedCounters
