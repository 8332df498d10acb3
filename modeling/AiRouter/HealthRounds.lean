import AiRouter.FailureCounting
import AiRouter.GenericBody

/-
# A round of the health checker (health/checker.rs:137-194)

The checker probes the endpoints one after another. The last probe of an endpoint in a round has the last word: where
it passes, the endpoint is healthy and no ban stands, whatever the probes and requests before it have done. Where no
probe of a round passes, a ban that outlasts the round is kept to the letter: failed probes neither count nor prolong
it.
-/
namespace AiRouter

def ProbeReply.passes : ProbeReply → Bool
  | .status code => isSuccess code
  | .error _ => false

/-- What is recorded of a failed probe. -/
def ProbeReply.reason : ProbeReply → String
  | .status code => "HTTP " ++ toString code
  | .error reason => reason

/-- Others leave the entries of the endpoint alone. -/
structure Others.LeaveAlone (k : String) (o : Others) : Prop where
  breaker : ∀ fb, (o.fail2ban fb).states.lookup k = fb.states.lookup k
  health : ∀ hs, (o.healthStore hs).states.lookup k = hs.states.lookup k

/-- The entries of an endpoint are the same. -/
structure SameEntries (k : String) (app app' : AppState) : Prop where
  breaker : app'.fail2ban.states.lookup k = app.fail2ban.states.lookup k
  health : app'.healthStore.states.lookup k = app.healthStore.states.lookup k

namespace SameEntries

variable {k : String} {app app' app'' : AppState}

theorem refl (k : String) (app : AppState) : SameEntries k app app := ⟨rfl, rfl⟩

theorem trans (h : SameEntries k app app') (h' : SameEntries k app' app'') : SameEntries k app app'' :=
  ⟨h'.breaker.trans h.breaker, h'.health.trans h.health⟩

end SameEntries

section
variable {k k' : String} {app : AppState} {reply : ProbeReply} {now : Nat}

theorem disturb_entries {o : Others} (h : o.LeaveAlone k) (app : AppState) : SameEntries k app (app.disturb o) :=
  ⟨h.breaker app.fail2ban, h.health app.healthStore⟩

/-- A probe is about its own endpoint. -/
theorem probed_entries_ne (h : k' ≠ k) (app : AppState) (reply : ProbeReply) (now : Nat) :
    SameEntries k' app (app.probed k reply now) := by
  have hbanned := app.fail2ban.isBanned_lookup_ne now h
  unfold AppState.probed
  dsimp only
  cases reply with
  | status code =>
    dsimp only
    split
    · refine ⟨?_, app.healthStore.setHealthy_lookup_ne now h⟩
      dsimp only
      split
      · rw [Fail2ban.reset_lookup_ne _ h, hbanned]
      · exact hbanned
    · refine ⟨?_, app.healthStore.setUnhealthy_lookup_ne _ now h⟩
      dsimp only
      split
      · exact hbanned
      · rw [Fail2ban.recordFailureWithCode_lookup_ne _ _ _ h, hbanned]
  | error reason =>
    refine ⟨?_, app.healthStore.setUnhealthy_lookup_ne _ now h⟩
    dsimp only
    split
    · exact hbanned
    · unfold Fail2ban.recordFailure
      rw [Fail2ban.recordFailureWithCode_lookup_ne _ _ _ h, hbanned]

/-- No ban stands from `now` on. -/
def Fail2ban.FreeFrom (fb : Fail2ban) (k : String) (now : Nat) : Prop := ∀ t, now ≤ t → (fb.isBanned k t).2 = false

theorem Fail2ban.FreeFrom.of_lookup {fb fb' : Fail2ban} (h : fb.FreeFrom k now)
    (hsame : fb'.states.lookup k = fb.states.lookup k) : fb'.FreeFrom k now := by
  intro t ht
  have hfree := h t ht
  rw [Fail2ban.isBanned_snd] at hfree ⊢
  unfold Fail2ban.bannedUntil at hfree ⊢
  rw [hsame]
  exact hfree

theorem Fail2ban.reset_freeFrom (fb : Fail2ban) (k : String) (now : Nat) : (fb.reset k).FreeFrom k now := by
  intro t _
  rw [Fail2ban.isBanned_snd]
  unfold Fail2ban.bannedUntil Fail2ban.reset
  rw [KeyMap.lookup_adjust_self]
  cases fb.states.lookup k <;> rfl

/-- What is not banned now is not banned later, without another failure. -/
theorem Fail2ban.isBanned_freeFrom {fb : Fail2ban} (h : (fb.isBanned k now).2 = false) :
    (fb.isBanned k now).1.FreeFrom k now := by
  intro t ht
  by_contra hbanned
  have hbefore := (isBanned_calm fb k now).banned (Bool.eq_true_of_not_eq_false hbanned)
  rw [Fail2ban.isBanned_snd] at h hbefore
  cases hu : fb.bannedUntil k with
  | none =>
    rw [hu] at hbefore
    cases hbefore
  | some until_ =>
    rw [hu, Option.any_some, decide_eq_false_iff_not] at h
    rw [hu, Option.any_some, decide_eq_true_eq] at hbefore
    omega

/-- **The health record** of a probe. -/
theorem probed_health (app : AppState) (k : String) (reply : ProbeReply) (now : Nat) :
    ∃ e, (app.probed k reply now).healthStore.states.lookup k = some e ∧ e.healthy = reply.passes ∧
      e.lastError = (if reply.passes then "" else reply.reason) ∧ e.lastCheck = now := by
  have hdown : ∀ error, ∃ e, (app.healthStore.setUnhealthy k error now).states.lookup k = some e ∧
      e.healthy = false ∧ e.lastError = error ∧ e.lastCheck = now := by
    intro error
    unfold HealthStore.setUnhealthy
    rw [KeyMap.lookup_upsert_self]
    cases app.healthStore.states.lookup k <;> exact ⟨_, rfl, rfl, rfl, rfl⟩
  unfold AppState.probed ProbeReply.passes
  cases reply with
  | error reason => exact hdown reason
  | status code =>
    dsimp only
    by_cases hok : isSuccess code = true
    · simp only [hok, if_true]
      unfold HealthStore.setHealthy
      rw [KeyMap.lookup_upsert_self]
      cases app.healthStore.states.lookup k <;> exact ⟨_, rfl, rfl, rfl, rfl⟩
    · simp only [hok, if_false, Bool.false_eq_true]
      exact hdown _

/-- **A probe that passes** leaves no ban. -/
theorem probed_passes (h : reply.passes = true) (app : AppState) (k : String) (now : Nat) :
    (app.probed k reply now).fail2ban.FreeFrom k now := by
  cases reply with
  | error reason => cases h
  | status code =>
    have hok : isSuccess code = true := h
    unfold AppState.probed
    simp only [hok, if_true]
    split
    · exact Fail2ban.reset_freeFrom _ k now
    · rename_i hfree
      exact Fail2ban.isBanned_freeFrom (Bool.eq_false_of_not_eq_true hfree)

/-- **A probe that fails** under a ban leaves the breaker as it is. -/
theorem probed_fails (h : reply.passes = false) {until_ : Nat} (huntil : app.fail2ban.bannedUntil k = some until_)
    (hlt : now < until_) : (app.probed k reply now).fail2ban = app.fail2ban := by
  have hbanned : app.fail2ban.isBanned k now = (app.fail2ban, true) := by
    obtain ⟨state, hstate, hu⟩ := Option.bind_eq_some_iff.1 huntil
    exact app.fail2ban.isBanned_of_until now hstate hu hlt
  unfold AppState.probed
  rw [hbanned]
  cases reply with
  | error reason => rfl
  | status code =>
    have hok : isSuccess code = false := h
    simp only [hok, Bool.false_eq_true, if_false, if_true]

end

/-! ## A round -/

namespace AppState

variable {probe : Nat → Probe} {k : String}

theorem probeAll_cons (probe : Nat → Probe) {ep : EndpointConfig} (hkey : probeKey ep = .ok k)
    (rest : List EndpointConfig) (n : Nat) (app : AppState) : probeAll probe (ep :: rest) n app
      = probeAll probe rest (n + 1) ((app.disturb (probe n).before).probed k (probe n).reply (probe n).doneAt) := by
  have hstep : app.probeEndpoint ep (probe n)
      = ((app.disturb (probe n).before).probed k (probe n).reply (probe n).doneAt, none) := by
    unfold probeEndpoint
    rw [hkey]
  rw [probeAll, hstep]

/-- A round goes on where it has come to. -/
theorem probeAll_append (probe : Nat → Probe) {pre : List EndpointConfig} (hreached : ∀ ep ∈ pre, ∃ k, probeKey ep = .ok k)
    (rest : List EndpointConfig) : ∀ (n : Nat) (app : AppState), probeAll probe (pre ++ rest) n app
      = probeAll probe rest (n + pre.length) (probeAll probe pre n app).1 := by
  induction pre with
  | nil => exact fun _ _ => rfl
  | cons ep pre ih =>
    intro n app
    obtain ⟨k, hk⟩ := hreached ep List.mem_cons_self
    rw [List.cons_append, probeAll_cons probe hk, probeAll_cons probe hk,
      ih (fun ep' hep' => hreached ep' (List.mem_cons_of_mem ep hep')), List.length_cons, Nat.add_right_comm n 1,
      Nat.add_assoc]

/-- The probes of other endpoints. -/
theorem probeAll_entries {eps : List EndpointConfig} (hnot : ∀ ep ∈ eps, probeKey ep ≠ .ok k) :
    ∀ (n : Nat) (app : AppState), (∀ m, n ≤ m → (probe m).before.LeaveAlone k) →
      SameEntries k app (probeAll probe eps n app).1 := by
  induction eps with
  | nil => exact fun _ app _ => .refl k app
  | cons ep eps ih =>
    intro n app hothers
    cases hkey : probeKey ep with
    | error p =>
      unfold probeAll probeEndpoint
      rw [hkey]
      exact .refl k app
    | ok k' =>
      rw [probeAll_cons probe hkey]
      have hne : k ≠ k' := by
        rintro rfl
        exact hnot ep List.mem_cons_self hkey
      have hfirst := (disturb_entries (hothers n (le_refl n)) app).trans
        (probed_entries_ne hne _ (probe n).reply (probe n).doneAt)
      exact hfirst.trans (ih (fun ep' hep' => hnot ep' (List.mem_cons_of_mem ep hep')) (n + 1) _
        fun m hm => hothers m (Nat.le_of_succ_le hm))

end AppState

/-- **The last probe of an endpoint decides**: its health record says what that probe came to, and where it passed no
ban stands from then on, whatever has been before. -/
theorem last_probe_decides {probe : Nat → Probe} {app : AppState} {pre post : List EndpointConfig} {ep : EndpointConfig}
    {k : String} (hround : app.config.models.flatMap (·.endpoints) = pre ++ ep :: post)
    (hreached : ∀ e ∈ pre, ∃ k', AppState.probeKey e = .ok k') (hkey : AppState.probeKey ep = .ok k)
    (hlast : ∀ e ∈ post, AppState.probeKey e ≠ .ok k)
    (hothers : ∀ n, pre.length < n → (probe n).before.LeaveAlone k) :
    (∃ e, (app.checkAllEndpoints probe).1.healthStore.states.lookup k = some e ∧
      e.healthy = (probe pre.length).reply.passes ∧
      e.lastError = (if (probe pre.length).reply.passes then "" else (probe pre.length).reply.reason) ∧
      e.lastCheck = (probe pre.length).doneAt) ∧
    ((probe pre.length).reply.passes = true →
      (app.checkAllEndpoints probe).1.fail2ban.FreeFrom k (probe pre.length).doneAt) := by
  let reached := ((AppState.probeAll probe pre 0 app).1.disturb (probe pre.length).before)
  have hsplit : (app.checkAllEndpoints probe).1 = (AppState.probeAll probe post (pre.length + 1)
      (reached.probed k (probe pre.length).reply (probe pre.length).doneAt)).1 := by
    unfold AppState.checkAllEndpoints
    rw [hround, AppState.probeAll_append probe hreached, Nat.zero_add, AppState.probeAll_cons probe hkey]
  have hafter := @AppState.probeAll_entries probe k post hlast (pre.length + 1)
    (reached.probed k (probe pre.length).reply (probe pre.length).doneAt) hothers
  rw [hsplit]
  refine ⟨?_, fun hpass => (probed_passes hpass reached k _).of_lookup hafter.breaker⟩
  rw [hafter.health]
  exact probed_health reached k _ _

/-- **A ban that outlasts a round** in which no probe of its endpoint passes is kept, with its counters. -/
theorem failing_round_keeps_ban {probe : Nat → Probe} {app : AppState} {k : String} {until_ : Nat}
    (huntil : app.fail2ban.bannedUntil k = some until_)
    (hfails : ∀ n ep, (app.config.models.flatMap (·.endpoints))[n]? = some ep → AppState.probeKey ep = .ok k →
      (probe n).reply.passes = false ∧ (probe n).doneAt < until_)
    (hothers : ∀ n, (probe n).before.LeaveAlone k) :
    (app.checkAllEndpoints probe).1.fail2ban.states.lookup k = app.fail2ban.states.lookup k := by
  have hall : ∀ (eps : List EndpointConfig) (n : Nat) (app : AppState), app.fail2ban.bannedUntil k = some until_ →
      (∀ m ep, eps[m]? = some ep → AppState.probeKey ep = .ok k →
        (probe (n + m)).reply.passes = false ∧ (probe (n + m)).doneAt < until_) →
      (AppState.probeAll probe eps n app).1.fail2ban.states.lookup k = app.fail2ban.states.lookup k := by
    intro eps
    induction eps with
    | nil => exact fun _ _ _ _ => rfl
    | cons ep eps ih =>
      intro n app huntil hfails
      have hrest : ∀ m e, eps[m]? = some e → AppState.probeKey e = .ok k →
          (probe (n + 1 + m)).reply.passes = false ∧ (probe (n + 1 + m)).doneAt < until_ := by
        intro m e he hk
        rw [Nat.add_assoc, Nat.add_comm 1 m]
        exact hfails (m + 1) e he hk
      have hbefore := (hothers n).breaker app.fail2ban
      have huntil' : (app.disturb (probe n).before).fail2ban.bannedUntil k = some until_ := by
        rw [← huntil]
        exact congrArg (Option.bind · (·.bannedUntil)) hbefore
      cases hkey : AppState.probeKey ep with
      | error p =>
        unfold AppState.probeAll AppState.probeEndpoint
        rw [hkey]
      | ok k' =>
        have hprobe : ((app.disturb (probe n).before).probed k' (probe n).reply (probe n).doneAt).fail2ban.states.lookup k
            = app.fail2ban.states.lookup k := by
          by_cases hk : k' = k
          · subst hk
            obtain ⟨hfail, hlt⟩ := hfails 0 ep rfl hkey
            rw [Nat.add_zero] at hfail hlt
            rw [probed_fails hfail huntil' hlt]
            exact hbefore
          · exact ((probed_entries_ne (Ne.symm hk) _ _ _).breaker).trans hbefore
        rw [AppState.probeAll_cons probe hkey, ih (n + 1) _ ?_ hrest, hprobe]
        unfold Fail2ban.bannedUntil
        rw [hprobe]
        exact huntil
  exact hall _ 0 app huntil fun m ep hep hk => by
    rw [Nat.zero_add]
    exact hfails m ep hep hk

/-- The one provider of both models, banned until 100. -/
def bannedProvider : AppState :=
  { providerApp with
    fail2ban := { providerApp.fail2ban with
      states := (∅ : KeyMap String EndpointState).insert "https://api.openai.com:sk-u...am-1"
        { EndpointState.fresh with consecutiveFailures := 3, bannedUntil := some 100 } } }

def probeWith (reply : Nat → ProbeReply) (n : Nat) : Probe where
  before := .quiet
  reply := reply n
  doneAt := n

/-- Refused as an endpoint of the one model, let through as one of the other. -/
def refusedThenPassed (n : Nat) : ProbeReply := .status (if n = 0 then 503 else 200)

theorem quiet_leaves_alone {k : String} : Others.quiet.LeaveAlone k := ⟨fun _ => rfl, fun _ => rfl⟩

theorem second_probe_decides :
    (∃ e, (bannedProvider.checkAllEndpoints (probeWith refusedThenPassed)).1.healthStore.states.lookup
        "https://api.openai.com:sk-u...am-1" = some e ∧ e.healthy = true ∧ e.lastError = "" ∧ e.lastCheck = 1) ∧
      (true = true → (bannedProvider.checkAllEndpoints (probeWith refusedThenPassed)).1.fail2ban.FreeFrom
        "https://api.openai.com:sk-u...am-1" 1) :=
  @last_probe_decides (probeWith refusedThenPassed) bannedProvider
    [⟨"https://api.openai.com", "sk-upstream-1", none, none, 1⟩] [] _ _ rfl (fun e he => by rw [List.mem_singleton.1 he]; exact ⟨_, rfl⟩)
    rfl (fun e he => by cases he) fun _ _ => quiet_leaves_alone

theorem failing_probes_keep_ban :
    (bannedProvider.checkAllEndpoints (probeWith fun _ => .error "timeout")).1.fail2ban.states.lookup
        "https://api.openai.com:sk-u...am-1"
      = bannedProvider.fail2ban.states.lookup "https://api.openai.com:sk-u...am-1" :=
  @failing_round_keeps_ban _ _ _ 100 rfl (fun n ep hep _ => by
    have hn : n < 2 := (List.getElem?_eq_some_iff.1 hep).1
    exact ⟨rfl, show n < 100 by omega⟩) fun _ => quiet_leaves_alone

end AiRouter
