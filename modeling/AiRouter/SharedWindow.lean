import AiRouter.Lib.FixedWindow
import AiRouter.SharedCounters

/-
# The shared limits in any time

A counter lives for a minute from its `EXPIRE`, which comes after the `INCR` that creates it, or for ever where
that `EXPIRE` is lost. So counters of one name start a minute apart, and what they let through in any time is
bounded, whatever the instances do at once and whatever fails.

| here | there |
| --- | --- |
| `History.granted` | the calls of `check_rate_limit` (redis_sync.rs:91) that are counted and allowed |
-/
namespace AiRouter.SharedCounters

open FixedWindow (Window Spaced)

/-- The counter on which an event lets a call through. -/
def Event.grants (s : Service) : Event → Option String
  | call i scope key limit fate =>
    if (s.incr i scope key limit fate).2.isSome && (s.verdict i scope key limit fate).any (·.allowed) then
      some (s.rateKey scope key)
    else none
  | _ => none

/-- No call on the counter has a limit above. -/
def Event.AtMost (k : String) (limit : Nat) (s : Service) : Event → Prop
  | call _ scope key l _ => s.rateKey scope key = k → l ≤ limit
  | _ => True

/-- The service, and the counter and time of each call it has let through, the latest first. -/
structure History where
  service : Service
  granted : List (String × Nat)

namespace History

def start (s : Service) : History := { service := s, granted := [] }

def step (h : History) (e : Event) : History where
  service := e.apply h.service
  granted := (e.grants h.service).toList.map (·, h.service.now) ++ h.granted

def grantedIn (h : History) (k : String) (t₁ t₂ : Nat) : Nat :=
  h.granted.countP fun g => g.1 = k ∧ t₁ ≤ g.2 ∧ g.2 ≤ t₂

theorem grantedIn_step (h : History) (e : Event) (k : String) (t₁ t₂ : Nat) : (h.step e).grantedIn k t₁ t₂
    = (if e.grants h.service = some k ∧ t₁ ≤ h.service.now ∧ h.service.now ≤ t₂ then 1 else 0)
      + h.grantedIn k t₁ t₂ := by
  unfold grantedIn step
  dsimp only
  rw [List.countP_append]
  congr 1
  cases e.grants h.service <;> simp [List.countP_cons]

/-- The windows of a counter, against what Redis has of it and what has been let through. -/
structure Inv (h : History) (k : String) (limit : Nat) (windows : List Window) : Prop where
  spaced : Spaced perMinute limit windows
  granted : ∀ t₁ t₂, h.grantedIn k t₁ t₂ = (windows.map (·.countIn t₁ t₂)).sum
  past : ∀ w ∈ windows, (∀ s ∈ w.start, s ≤ h.service.now) ∧ ∀ g ∈ w.grants, g ≤ h.service.now
  absent : h.service.redis.entries.lookup k = none → windows = []
  /-- The latest window is the counter's: it has counted what it let through, and ends after that. -/
  present : ∀ e, h.service.redis.entries.lookup k = some e → ∃ w older, windows = w :: older ∧
    w.grants.length ≤ e.value ∧
    ∀ x ∈ e.expireAt, (∀ s ∈ w.start, s + perMinute ≤ x) ∧ ∀ g ∈ w.grants, g < x

theorem start_inv (s : Service) (k : String) (limit : Nat) : ∃ windows, (start s).Inv k limit windows := by
  cases hentry : s.redis.entries.lookup k with
  | none =>
    refine ⟨[], FixedWindow.spaced_nil, fun _ _ => rfl, by simp, fun _ => rfl, fun e he => ?_⟩
    rw [show (start s).service.redis.entries.lookup k = none from hentry] at he
    cases he
  | some e =>
    refine ⟨[{ start := none, grants := [] }], ⟨List.pairwise_singleton _ _, by simp, by simp⟩, fun _ _ => rfl,
      by simp, fun hnone => ?_, fun _ _ => ⟨_, [], rfl, Nat.zero_le _, by simp⟩⟩
    rw [show (start s).service.redis.entries.lookup k = some e from hentry] at hnone
    cases hnone

section
variable {h : History} {k : String} {limit : Nat} {windows : List Window}

/-- A step that leaves the counter alone, and lets nothing through on it. -/
theorem Inv.unchanged (hi : h.Inv k limit windows) {e : Event} (hnow : h.service.now ≤ (e.apply h.service).now)
    (hentry : (e.apply h.service).redis.entries.lookup k = h.service.redis.entries.lookup k)
    (hgrants : e.grants h.service ≠ some k) : (h.step e).Inv k limit windows where
  spaced := hi.spaced
  granted := by
    intro t₁ t₂
    rw [grantedIn_step, if_neg fun hg => hgrants hg.1, Nat.zero_add]
    exact hi.granted t₁ t₂
  past := fun w hw => ⟨fun s hs => ((hi.past w hw).1 s hs).trans hnow, fun g hg => ((hi.past w hw).2 g hg).trans hnow⟩
  absent := fun hnone => hi.absent (hentry.symm.trans hnone)
  present := fun e he => hi.present e (hentry.symm.trans he)

/-- A counted call finds the window of its counter, or starts one. -/
theorem Inv.counted (hi : h.Inv k limit windows) {r : Redis} {n : Nat}
    (hincr : h.service.redis.incr k h.service.now = (r, some n)) :
    ∃ w older, Spaced perMinute limit (w :: older) ∧
      (∀ t₁ t₂, h.grantedIn k t₁ t₂ = ((w :: older).map (·.countIn t₁ t₂)).sum) ∧
      (∀ w' ∈ w :: older, (∀ s ∈ w'.start, s ≤ h.service.now) ∧ ∀ g ∈ w'.grants, g ≤ h.service.now) ∧
      w.grants.length + 1 ≤ n ∧ ∃ e, r.entries.lookup k = some e ∧ e.value = n ∧
        ∀ x ∈ e.expireAt, (∀ s ∈ w.start, s + perMinute ≤ x) ∧ (∀ g ∈ w.grants, g < x) ∧ h.service.now < x := by
  obtain ⟨hafter, hn⟩ := Redis.incr_live hincr
  have hentry := (Option.filter_eq_some_iff.1 hafter).1
  cases hlive : h.service.redis.live k h.service.now with
  | some e =>
    obtain ⟨hlookup, hexpires⟩ := Option.filter_eq_some_iff.1 hlive
    obtain ⟨w, older, rfl, hle, hends⟩ := hi.present e hlookup
    rw [hlive] at hentry hn
    refine ⟨w, older, hi.spaced, hi.granted, hi.past, by rw [hn]; exact Nat.succ_le_succ hle, _, hentry, rfl, ?_⟩
    intro x hx
    replace hx : x ∈ e.expireAt := hx
    rw [Option.mem_def.1 hx] at hexpires
    exact ⟨(hends x hx).1, (hends x hx).2, by simpa using hexpires⟩
  | none =>
    rw [hlive] at hentry hn
    -- the counter that there was has run out
    have hover : ∀ w ∈ windows.head?, (∀ s ∈ w.start, s + perMinute ≤ h.service.now) ∧
        ∀ g ∈ w.grants, g < h.service.now := by
      intro w hw
      cases hlookup : h.service.redis.entries.lookup k with
      | none =>
        rw [hi.absent hlookup] at hw
        cases hw
      | some e =>
        obtain ⟨w', older, rfl, -, hends⟩ := hi.present e hlookup
        obtain rfl := Option.some.inj hw
        unfold Redis.live at hlive
        rw [hlookup, Option.filter_some] at hlive
        cases hx : e.expireAt with
        | none => simp [hx] at hlive
        | some x =>
          have hle : x ≤ h.service.now := by simpa [hx] using hlive
          exact ⟨fun s hs => ((hends x hx).1 s hs).trans hle, fun g hg => ((hends x hx).2 g hg).trans_le hle⟩
    refine ⟨_, windows, hi.spaced.open_ hover, ?_, ?_, by rw [hn]; exact le_rfl, _, hentry, rfl, by simp⟩
    · intro t₁ t₂
      rw [hi.granted, List.map_cons, List.sum_cons]
      exact (Nat.zero_add _).symm
    · exact List.forall_mem_cons.2 ⟨⟨by simp, by simp⟩, hi.past⟩

/-- **Step**: a call whose `INCR` is executed. -/
theorem Inv.executed (hi : h.Inv k limit windows) {i l n : Nat} {scope key : String} {fate : Fate}
    (hk : h.service.rateKey scope key = k) (hlimit : l ≤ limit)
    (hincr : h.service.redis.incr k h.service.now = ((h.service.incr i scope key l fate).1, some n)) :
    ∃ windows, (h.step (.call i scope key l fate)).Inv k limit windows := by
  obtain ⟨w, older, hspaced, hgranted, hpast, hroom, e, hentry, hvalue, hends⟩ := hi.counted hincr
  have hafter : (h.step (.call i scope key l fate)).service.redis.entries.lookup k = some e := hentry
  by_cases hgrants : (Event.call i scope key l fate).grants h.service = some k
  · -- it is let through, so its count is within the limit
    have hn : n ≤ limit := by
      unfold Event.grants at hgrants
      dsimp only at hgrants
      split at hgrants
      · rename_i hcounted
        rw [Bool.and_eq_true, Option.isSome_iff_exists] at hcounted
        obtain ⟨⟨n', hn'⟩, hallowed⟩ := hcounted
        have hsame := (incr_counted hn').2
        rw [hk, hincr] at hsame
        obtain rfl := Option.some.inj (Prod.mk.inj hsame).2
        exact (allowed_of_counted hn' hallowed).trans hlimit
      · cases hgrants
    refine ⟨{ w with grants := h.service.now :: w.grants } :: older,
      hspaced.grant (hroom.trans hn) (hpast w List.mem_cons_self).1, fun t₁ t₂ => ?_, ?_, ?_, ?_⟩
    · rw [grantedIn_step, hgranted]
      simp only [hgrants, List.map_cons, List.sum_cons, Window.countIn, List.countP_cons, true_and, decide_eq_true_eq]
      omega
    · refine List.forall_mem_cons.2 ⟨⟨(hpast w List.mem_cons_self).1, ?_⟩, (List.forall_mem_cons.1 hpast).2⟩
      exact List.forall_mem_cons.2 ⟨le_rfl, (hpast w List.mem_cons_self).2⟩
    · intro hnone
      rw [hafter] at hnone
      cases hnone
    · intro e' he'
      obtain rfl := Option.some.inj (hafter.symm.trans he')
      refine ⟨_, older, rfl, by rw [hvalue]; exact hroom, fun x hx => ⟨(hends x hx).1, ?_⟩⟩
      exact List.forall_mem_cons.2 ⟨(hends x hx).2.2, (hends x hx).2.1⟩
  · refine ⟨w :: older, hspaced, fun t₁ t₂ => ?_, hpast, ?_, ?_⟩
    · rw [grantedIn_step, if_neg fun hg => hgrants hg.1, Nat.zero_add]
      exact hgranted t₁ t₂
    · intro hnone
      rw [hafter] at hnone
      cases hnone
    · intro e' he'
      obtain rfl := Option.some.inj (hafter.symm.trans he')
      exact ⟨w, older, rfl, by omega, fun x hx => ⟨(hends x hx).1, (hends x hx).2.1⟩⟩

/-- **Step**: a call. -/
theorem Inv.call (hi : h.Inv k limit windows) {i l : Nat} {scope key : String} {fate : Fate}
    (hlimit : h.service.rateKey scope key = k → l ≤ limit) :
    ∃ windows, (h.step (.call i scope key l fate)).Inv k limit windows := by
  by_cases hk : h.service.rateKey scope key = k
  · by_cases hexec : ∃ n, h.service.redis.incr k h.service.now = ((h.service.incr i scope key l fate).1, some n)
    · obtain ⟨n, hincr⟩ := hexec
      exact hi.executed hk (hlimit hk) hincr
    · have hsame : (h.service.incr i scope key l fate).1 = h.service.redis :=
        (incr_cases h.service i scope key l fate).resolve_right fun ⟨_, _, n, hincr⟩ => hexec ⟨n, hk ▸ hincr⟩
      have hnone : (h.service.incr i scope key l fate).2 = none := by
        by_contra hsome
        obtain ⟨n, hn⟩ := Option.ne_none_iff_exists'.1 hsome
        exact hexec ⟨n, hk ▸ (incr_counted hn).2⟩
      refine ⟨windows, hi.unchanged le_rfl ?_ ?_⟩
      · exact congrArg (fun r : Redis => r.entries.lookup k) hsame
      · unfold Event.grants
        simp [hnone]
  · refine ⟨windows, hi.unchanged le_rfl ?_ ?_⟩
    · show (h.service.incr i scope key l fate).1.entries.lookup k = h.service.redis.entries.lookup k
      obtain hsame | ⟨-, -, n, hincr⟩ := incr_cases h.service i scope key l fate
      · rw [hsame]
      · have hne := h.service.redis.incr_lookup_ne h.service.now (Ne.symm hk)
        rw [hincr] at hne
        exact hne
    · unfold Event.grants
      dsimp only
      split
      · exact fun heq => hk (Option.some.inj heq)
      · simp

/-- **Step**: an `EXPIRE` gives the counter a minute from now on. -/
theorem Inv.expire (hi : h.Inv k limit windows) (k' : String) (fate : Fate) :
    (h.step (.expire k' fate)).Inv k limit windows := by
  have hsame : ∀ {redis : Redis}, redis = h.service.redis →
      redis.entries.lookup k = h.service.redis.entries.lookup k := fun heq => heq ▸ rfl
  by_cases hsent : k' ∈ h.service.expiring ∧ fate ≠ .refused
  · have hredis : (Event.apply h.service (.expire k' fate)).redis = h.service.redis.expire k' 60 h.service.now := by
      unfold Event.apply Service.expire
      dsimp only
      rw [if_pos hsent.1]
      exact if_neg hsent.2
    have hnow : (Event.apply h.service (.expire k' fate)).now = h.service.now := by
      unfold Event.apply Service.expire
      dsimp only
      split <;> rfl
    by_cases hk : k = k'
    · subst hk
      cases hlive : h.service.redis.live k h.service.now with
      | none =>
        refine hi.unchanged (le_of_eq hnow.symm) ?_ (by simp [Event.grants])
        rw [hredis]
        unfold Redis.expire
        rw [hlive]
        cases h.service.redis.up <;> rfl
      | some e =>
        cases hup : h.service.redis.up with
        | false =>
          refine hi.unchanged (le_of_eq hnow.symm) ?_ (by simp [Event.grants])
          rw [hredis]
          unfold Redis.expire
          rw [hup]
        | true =>
          have hentry : (h.step (.expire k fate)).service.redis.entries.lookup k
              = some { e with expireAt := some (h.service.now + perMinute) } := by
            show (Event.apply h.service (.expire k fate)).redis.entries.lookup k = _
            rw [hredis]
            unfold Redis.expire
            rw [hlive, hup]
            exact AList.lookup_insert _
          obtain ⟨w, older, hwindows, hle, -⟩ := hi.present e (Option.filter_eq_some_iff.1 hlive).1
          obtain ⟨hstart, hgrants⟩ := hi.past w (hwindows ▸ List.mem_cons_self)
          refine ⟨hi.spaced, hi.granted, ?_, ?_, ?_⟩
          · rw [show (h.step (.expire k fate)).service.now = h.service.now from hnow]
            exact hi.past
          · intro hnone
            rw [hentry] at hnone
            cases hnone
          · intro e' he'
            obtain rfl := Option.some.inj (hentry.symm.trans he')
            refine ⟨w, older, hwindows, hle, fun x hx => ?_⟩
            obtain rfl := Option.some.inj hx
            have hpos : 0 < perMinute := by decide
            exact ⟨fun s hs => Nat.add_le_add_right (hstart s hs) _,
              fun g hg => Nat.lt_of_le_of_lt (hgrants g hg) (Nat.lt_add_of_pos_right hpos)⟩
    · refine hi.unchanged (le_of_eq hnow.symm) ?_ (by simp [Event.grants])
      rw [hredis]
      exact h.service.redis.expire_lookup_ne 60 h.service.now hk
  · refine hi.unchanged ?_ (hsame ?_) (by simp [Event.grants])
    · unfold Event.apply Service.expire
      dsimp only
      split <;> exact le_rfl
    · unfold Event.apply Service.expire
      dsimp only
      split
      · rename_i hmem
        exact if_pos (by by_contra hne; exact hsent ⟨hmem, hne⟩)
      · rfl

/-- **Step**: the windows go on. -/
theorem Inv.step (hi : h.Inv k limit windows) {e : Event} (hlimit : e.AtMost k limit h.service) :
    ∃ windows, (h.step e).Inv k limit windows := by
  cases e with
  | tick duration => exact ⟨windows, hi.unchanged (Nat.le_add_right _ _) rfl (by simp [Event.grants])⟩
  | start i connected => exact ⟨windows, hi.unchanged le_rfl rfl (by simp [Event.grants])⟩
  | call i scope key l fate => exact hi.call hlimit
  | expire k' fate => exact ⟨windows, hi.expire k' fate⟩

end

end History

/-- **The shared limits in any time**: at most so many calls are counted and let through on a counter between two
times, over all instances, whatever fails and in whatever order. -/
theorem shared_window_bounded {s : Service} {k : String} {limit : Nat} {es : List Event}
    (hlimit : Steps.Every History.step (fun h e => e.AtMost k limit h.service) (.start s) es) (t₁ t₂ : Nat) :
    (Steps.run History.step (.start s) es).grantedIn k t₁ t₂ ≤ limit * ((t₂ - t₁) / perMinute + 2) := by
  obtain ⟨windows, hinv⟩ : ∃ windows, (Steps.run History.step (.start s) es).Inv k limit windows :=
    Steps.run_keeps (I := fun h : History => ∃ windows, h.Inv k limit windows)
      (fun _ _ he hi => hi.elim fun _ hi => hi.step he) es _ hlimit (History.start_inv s k limit)
  rw [hinv.granted]
  exact hinv.spaced.sum_countIn_le (by decide) t₁ t₂

/-- A limit of two a minute, and a counter that runs out between the calls of two instances. -/
def acrossWindows : List Event :=
  [.call 0 "token" "sk-alice" 2 .answered, .expire aliceKey .answered, .tick (59 * 10 ^ 9),
    .call 1 "token" "sk-alice" 2 .answered, .tick (10 ^ 9), .call 0 "token" "sk-alice" 2 .answered,
    .expire aliceKey .refused, .call 1 "token" "sk-alice" 2 .answered]

/-- Three calls get through in a second. -/
example : (Steps.run History.step (.start service) acrossWindows).grantedIn aliceKey (59 * 10 ^ 9) (60 * 10 ^ 9) = 3 := by
  decide

theorem across_windows_bounded :
    (Steps.run History.step (.start service) acrossWindows).grantedIn aliceKey (59 * 10 ^ 9) (60 * 10 ^ 9)
      ≤ 2 * ((60 * 10 ^ 9 - 59 * 10 ^ 9) / perMinute + 2) := by
  have hlimit : Steps.Every History.step (fun h e => e.AtMost aliceKey 2 h.service) (.start service) acrossWindows :=
    ⟨fun _ => le_rfl, trivial, trivial, fun _ => le_rfl, trivial, fun _ => le_rfl, trivial, fun _ => le_rfl, trivial⟩
  exact shared_window_bounded hlimit _ _

end AiRouter.SharedCounters
