import AiRouter.Isolation
import AiRouter.Records
import AiRouter.Lib.Steps

/-
# Which responses are counted as failures

`record_failure_with_code` does not look at the patterns; its callers do, each in its own way. A
run here is a list of events: rounds of `proxy_handler`, calls of `proxy_generic`, probes and looks
at a ban, on any endpoints, in any order.
-/
namespace AiRouter

/-! ## The counters of an endpoint -/

namespace Fail2ban

/-- The failures in a row. -/
def failuresInRow (fb : Fail2ban) (k : String) : Nat :=
  ((fb.states.lookup k).map (·.consecutiveFailures)).getD 0

def bannedUntil (fb : Fail2ban) (k : String) : Option Nat := (fb.states.lookup k).bind (·.bannedUntil)

/-- A counter of failures has gone up. -/
def Rises (fb fb' : Fail2ban) (k : String) : Prop :=
  fb'.failures k ≠ fb.failures k ∨ fb.failuresInRow k < fb'.failuresInRow k

/-- Both counters have gone up by one, as far as they go. -/
structure Counts (fb fb' : Fail2ban) (k : String) : Prop where
  failures : fb'.failures k = (fb.failures k + 1) % 2 ^ 64
  inRow : fb'.failuresInRow k = (fb.failuresInRow k + 1) % 2 ^ 32

/-- No counter has gone up, and no ban has been set. -/
structure Calm (fb fb' : Fail2ban) (k : String) : Prop where
  failures : fb'.failures k = fb.failures k
  inRow : fb'.failuresInRow k ≤ fb.failuresInRow k
  until_ : fb'.bannedUntil k = none ∨ fb'.bannedUntil k = fb.bannedUntil k

variable {fb fb' fb'' : Fail2ban} {k k' : String}

theorem rises_of_failures (h : fb'.failures k = (fb.failures k + 1) % 2 ^ 64) : Rises fb fb' k := by
  left
  omega

theorem Counts.rises (h : Counts fb fb' k) : Rises fb fb' k := rises_of_failures h.failures

theorem Calm.not_rises (h : Calm fb fb' k) : ¬ Rises fb fb' k := by
  rintro (hf | hr)
  · exact hf h.failures
  · exact absurd h.inRow (by omega)

theorem Calm.of_lookup (h : fb'.states.lookup k = fb.states.lookup k) : Calm fb fb' k := by
  refine ⟨?_, ?_, Or.inr ?_⟩
  · simp only [Fail2ban.failures, h]
  · simp only [failuresInRow, h, le_refl]
  · simp only [bannedUntil, h]

theorem Calm.refl (fb : Fail2ban) (k : String) : Calm fb fb k := .of_lookup rfl

theorem Calm.trans (h : Calm fb fb' k) (h' : Calm fb' fb'' k) : Calm fb fb'' k := by
  refine ⟨h'.failures.trans h.failures, h'.inRow.trans h.inRow, ?_⟩
  rcases h'.until_ with hn | he
  · exact Or.inl hn
  · rw [he]
    exact h.until_

theorem recordFailureWithCode_counts (fb : Fail2ban) (k : String) (status now : Nat) :
    Counts fb (fb.recordFailureWithCode k status now).1 k := by
  have hrow : (((fb.states.lookup k).getD .fresh).failed status).consecutiveFailures
      = (fb.failuresInRow k + 1) % 2 ^ 32 := by
    unfold failuresInRow EndpointState.failed
    cases fb.states.lookup k <;> rfl
  refine ⟨fb.recordFailureWithCode_failures status now, ?_⟩
  rw [← hrow]
  unfold recordFailureWithCode
  dsimp only
  split <;> simp [failuresInRow, EndpointState.bannedFor]

theorem recordSuccess_calm (fb : Fail2ban) (k : String) : Calm fb (fb.recordSuccess k) k := by
  refine ⟨fb.recordSuccess_failures, ?_, Or.inr fb.recordSuccess_bannedUntil⟩
  unfold failuresInRow recordSuccess
  rw [KeyMap.lookup_upsert_self]
  exact Nat.zero_le _

theorem isBanned_calm (fb : Fail2ban) (k : String) (now : Nat) : Calm fb (fb.isBanned k now).1 k := by
  refine ⟨fb.isBanned_failures now, ?_, ?_⟩
  all_goals
    unfold isBanned
    split
    · simp
    · split
      · simp
      · split <;> simp [failuresInRow, bannedUntil, EndpointState.unbanned]

theorem reset_calm (fb : Fail2ban) (k : String) : Calm fb (fb.reset k) k := by
  refine ⟨fb.reset_failures, ?_, Or.inl ?_⟩
  all_goals
    unfold reset
    simp only [failuresInRow, bannedUntil, KeyMap.lookup_adjust_self]
    cases fb.states.lookup k with
    | none => simp
    | some state => simp [EndpointState.unbanned]

theorem isBanned_snd (fb : Fail2ban) (k : String) (now : Nat) :
    (fb.isBanned k now).2 = (fb.bannedUntil k).any (decide <| now < ·) := by
  unfold isBanned bannedUntil
  split
  · simp [*]
  · split
    · simp [*]
    · split <;> simp [*]

/-- Whom a calm step leaves banned was banned before. -/
theorem Calm.banned (h : Calm fb fb' k) {now : Nat} (hb : (fb'.isBanned k now).2 = true) :
    (fb.isBanned k now).2 = true := by
  rw [isBanned_snd] at hb ⊢
  rcases h.until_ with hn | he
  · rw [hn] at hb
    cases hb
  · rwa [he] at hb

end Fail2ban

/-! ## Events -/

def Reply.status? : Reply → Option Nat
  | .sendError _ => none
  | .response status _ => some status

/-- The body of the answer does not break off. -/
def Reply.intact : Reply → Bool
  | .sendError _ => true
  | .response _ body => (readAll body).isOk

/-- An outcome at an endpoint, as the handlers or the checker select it. -/
structure Event where
  endpoint : EndpointConfig
  index : Nat
  total : Nat
  outcome : Outcome

namespace Event

def apply (w : World) (e : Event) : World := w.step e.endpoint e.index e.total e.outcome

def key (e : Event) : Except Panic String := Handler.epKey e.endpoint.url e.endpoint.key

/-- The endpoint is not called: its limits turn the round away, or its ban is looked at. -/
def spared (w : World) (e : Event) (k : String) : Bool :=
  match e.outcome with
  | .round _ _ checkAt _ _ =>
    (Gate.runAll (endpointChecks (e.endpoint.selected e.index e.total) k checkAt)
      { app := w.app, ledger := w.ledger }).2.isSome
  | .generic _ _ _ _ _ _ _ _ => false
  | .probe _ _ => false
  | .lookup _ => true

/-- The status of the HTTP response to the call, if there is one. -/
def responded (w : World) (e : Event) (k : String) : Option Nat :=
  if e.spared w k then none
  else
    match e.outcome with
    | .round _ ctx _ reply _ => if ctx.req.bodyError.isNone then reply.status? else none
    | .generic _ _ _ _ _ reply _ _ => reply.status?
    | .probe (.status code) _ => some code
    | .probe (.error _) _ => none
    | .lookup _ => none

/-- A handler's response, not a probe's. -/
def isHandlers (e : Event) : Bool :=
  match e.outcome with
  | .round _ _ _ _ _ => true
  | .generic _ _ _ _ _ _ _ _ => true
  | .probe _ _ => false
  | .lookup _ => false

/-- A response is counted as a failure only where the patterns cover its status, and by a handler
always then. -/
def CountedRight (w : World) (e : Event) : Prop :=
  ∀ k status, e.key = .ok k → e.responded w k = some status →
    (Fail2ban.Rises w.app.fail2ban (e.apply w).app.fail2ban k → w.app.fail2ban.isFailStatus status = true) ∧
    (e.isHandlers = true → w.app.fail2ban.isFailStatus status = true →
      Fail2ban.Counts w.app.fail2ban (e.apply w).app.fail2ban k)

/-- What has to hold of the response: for the streaming branch of `proxy_generic`, that the patterns
cover its status exactly if it is no success; for the other branch, that they cover none below 400;
for a probe, that it is a success, or of a banned endpoint, or covered; for `proxy_handler`, that its
whole body arrives, where that is waited for, or its status is covered. -/
def Meets (w : World) (e : Event) : Prop :=
  ∀ k status, e.key = .ok k → e.responded w k = some status →
    match e.outcome with
    | .round _ ctx _ reply _ =>
      ctx.req.isStream = true ∨ reply.intact = true ∨ w.app.fail2ban.isFailStatus status = true
    | .generic _ _ _ _ true _ _ _ => w.app.fail2ban.isFailStatus status = !isSuccess status
    | .generic _ _ _ _ false _ _ _ => w.app.fail2ban.isFailStatus status = true → 400 ≤ status
    | .probe _ now =>
      isSuccess status = true ∨ (w.app.fail2ban.isBanned k now).2 = true ∨
        w.app.fail2ban.isFailStatus status = true
    | .lookup _ => True

/-- On the endpoint kept under `k`, at most a response outside the patterns. -/
def Harmless (k : String) (w : World) (e : Event) : Prop :=
  e.key = .ok k → e.spared w k = true ∨
    ∃ status, e.responded w k = some status ∧ w.app.fail2ban.isFailStatus status = false

end Event

/-! ## What an event does to the breaker -/

section
variable {w : World} {e : Event} {k : String} {status : Nat}

theorem Fail2ban.noteStatus_counts {fb : Fail2ban} (now : Nat) (h : fb.isFailStatus status = true) :
    Fail2ban.Counts fb (fb.noteStatus k status now) k := by
  unfold Fail2ban.noteStatus
  rw [if_pos h]
  exact fb.recordFailureWithCode_counts k status now

theorem Fail2ban.noteStatus_calm {fb : Fail2ban} (now : Nat) (h : fb.isFailStatus status = false) :
    Fail2ban.Calm fb (fb.noteStatus k status now) k := by
  unfold Fail2ban.noteStatus
  rw [if_neg (by simp [h])]
  exact fb.recordSuccess_calm k

/-- Does the component that got the response count it as a failure? -/
def Event.counted (w : World) (e : Event) (k : String) (status : Nat) : Bool :=
  match e.outcome with
  | .round _ ctx _ reply _ =>
    w.app.fail2ban.isFailStatus status || (!ctx.req.isStream && !reply.intact)
  | .generic _ _ _ _ isStream _ _ _ =>
    if isStream then !isSuccess status else decide (400 ≤ status) && w.app.fail2ban.isFailStatus status
  | .probe _ now => !isSuccess status && !(w.app.fail2ban.isBanned k now).2
  | .lookup _ => false

/-- What a counted response and what any other does to the breaker. -/
def Event.Noted (w : World) (e : Event) (k : String) (status : Nat) : Prop :=
  if e.counted w k status then
    Fail2ban.Rises w.app.fail2ban (e.apply w).app.fail2ban k ∧
      (e.isHandlers = true → Fail2ban.Counts w.app.fail2ban (e.apply w).app.fail2ban k)
  else Fail2ban.Calm w.app.fail2ban (e.apply w).app.fail2ban k

theorem noted_of_rises (hcounted : e.counted w k status = true)
    (hr : Fail2ban.Rises w.app.fail2ban (e.apply w).app.fail2ban k)
    (hc : e.isHandlers = true → Fail2ban.Counts w.app.fail2ban (e.apply w).app.fail2ban k) :
    e.Noted w k status := by
  unfold Event.Noted
  rw [if_pos hcounted]
  exact ⟨hr, hc⟩

theorem noted_of_counts (hcounted : e.counted w k status = true)
    (h : Fail2ban.Counts w.app.fail2ban (e.apply w).app.fail2ban k) : e.Noted w k status :=
  noted_of_rises hcounted h.rises fun _ => h

theorem noted_of_calm (hcounted : e.counted w k status = false)
    (h : Fail2ban.Calm w.app.fail2ban (e.apply w).app.fail2ban k) : e.Noted w k status := by
  unfold Event.Noted
  rw [if_neg (by simp [hcounted])]
  exact h

/-- A status that the patterns decide on. -/
theorem noted_of_noteStatus (now : Nat) (hcounted : e.counted w k status = w.app.fail2ban.isFailStatus status)
    (h : (e.apply w).app.fail2ban = w.app.fail2ban.noteStatus k status now) : e.Noted w k status := by
  cases hfail : w.app.fail2ban.isFailStatus status with
  | true =>
    refine noted_of_counts (hcounted.trans hfail) ?_
    rw [h]
    exact Fail2ban.noteStatus_counts now hfail
  | false =>
    refine noted_of_calm (hcounted.trans hfail) ?_
    rw [h]
    exact Fail2ban.noteStatus_calm now hfail

theorem round_fail2ban {ep : EndpointConfig} (hkey : Handler.epKey ep.url ep.key = .ok k) (i total : Nat)
    (deps : Externs) (ctx : LoopCtx) (checkAt : Nat) (reply : Reply) (doneAt : Nat) :
    (w.roundOn (ep.selected i total) deps ctx checkAt reply doneAt).app.fail2ban =
      if (Gate.runAll (endpointChecks (ep.selected i total) k checkAt)
          { app := w.app, ledger := w.ledger }).2.isNone then
        match call ctx.req.isStream ctx.req.bodyError reply with
        | .returned _ => w.app.fail2ban
        | .ok status _ => w.app.fail2ban.noteStatus k status doneAt
        | .err _ => (w.app.fail2ban.recordFailureWithCode k 0 doneAt).1
      else w.app.fail2ban :=
  @turn_fail2ban deps { ctx with bannedKeys := w.bannedKeys }
    { before := .quiet, checkAt := checkAt, during := .quiet, reply := reply, doneAt := doneAt }
    (w.entry (ep.selected i total)) k rfl rfl hkey

theorem noted_round {ep : EndpointConfig} (hkey : Handler.epKey ep.url ep.key = .ok k) (i total : Nat)
    (deps : Externs) (ctx : LoopCtx) (checkAt : Nat) (body : List Chunk) (doneAt : Nat)
    (hpass : (Gate.runAll (endpointChecks (ep.selected i total) k checkAt)
      { app := w.app, ledger := w.ledger }).2.isNone = true) (hbody : ctx.req.bodyError = none) :
    Event.Noted w ⟨ep, i, total, .round deps ctx checkAt (.response status body) doneAt⟩ k status := by
  have hround := round_fail2ban (w := w) hkey i total deps ctx checkAt (.response status body) doneAt
  rw [if_pos hpass, hbody] at hround
  cases hstream : ctx.req.isStream with
  | true =>
    rw [hstream] at hround
    exact noted_of_noteStatus doneAt (by simp [Event.counted, hstream]) hround
  | false =>
    rw [hstream] at hround
    cases hread : readAll body with
    | ok bytes =>
      simp only [call, hread] at hround
      exact noted_of_noteStatus doneAt (by simp [Event.counted, Reply.intact, hread, Except.isOk, Except.toBool]) hround
    | error message =>
      -- the body breaks off: a failed call
      simp only [call, hread] at hround
      refine noted_of_counts (by simp [Event.counted, hstream, Reply.intact, hread, Except.isOk, Except.toBool]) ?_
      have hcounts := w.app.fail2ban.recordFailureWithCode_counts k 0 doneAt
      rw [← hround] at hcounts
      exact hcounts

theorem noted_generic {ep : EndpointConfig} (hkey : Handler.epKey ep.url ep.key = .ok k) (i total : Nat)
    (deps : Externs) (auth : AuthContext) (canonicalModel : String) (teamTpm : Nat) (isStream : Bool)
    (body : List Chunk) (startAt doneAt : Nat) :
    Event.Noted w ⟨ep, i, total, .generic deps auth canonicalModel teamTpm isStream (.response status body)
      startAt doneAt⟩ k status := by
  have hanswer := answer_fail2ban { auth := auth, canonicalModel := canonicalModel
                                    endpoint := ep.selected i total, epKey := k, teamTpm := teamTpm }
    deps isStream { app := w.app, ledger := w.ledger } status body startAt doneAt
  have happly : (Event.apply w ⟨ep, i, total, .generic deps auth canonicalModel teamTpm isStream
      (.response status body) startAt doneAt⟩).app.fail2ban = _ :=
    (by simp only [Event.apply, World.step, hkey]; exact hanswer)
  cases hcounted : (if isStream then !isSuccess status
    else decide (400 ≤ status) && w.app.fail2ban.isFailStatus status) with
  | true =>
    refine noted_of_counts hcounted ?_
    rw [happly, if_pos hcounted]
    exact w.app.fail2ban.recordFailureWithCode_counts k status doneAt
  | false =>
    refine noted_of_calm hcounted ?_
    rw [happly, if_neg (by simp [hcounted])]
    exact w.app.fail2ban.recordSuccess_calm k

theorem noted_probe {ep : EndpointConfig} (hkey : Handler.epKey ep.url ep.key = .ok k) (i total now : Nat) :
    Event.Noted w ⟨ep, i, total, .probe (.status status) now⟩ k status := by
  have hlook := w.app.fail2ban.isBanned_calm k now
  have happly : (Event.apply w ⟨ep, i, total, .probe (.status status) now⟩).app.fail2ban = _ :=
    (by simp only [Event.apply, World.step, AppState.probeEndpoint, probeKey_eq, hkey, disturb_quiet]
        exact probed_fail2ban w.app k status now)
  cases hcounted : !isSuccess status && !(w.app.fail2ban.isBanned k now).2 with
  | true =>
    rw [if_pos hcounted] at happly
    refine noted_of_rises hcounted (Fail2ban.rises_of_failures ?_) (fun h => Bool.noConfusion h)
    rw [happly]
    have hcounts := ((w.app.fail2ban.isBanned k now).1.recordFailureWithCode_counts k status now).failures
    rw [w.app.fail2ban.isBanned_failures now] at hcounts
    exact hcounts
  | false =>
    rw [if_neg (by simp [hcounted])] at happly
    refine noted_of_calm hcounted ?_
    rw [happly]
    split
    · exact hlook.trans (Fail2ban.reset_calm _ k)
    · exact hlook

/-- **A response** is noted as its component decides. -/
theorem noted (hkey : e.key = .ok k) (hresp : e.responded w k = some status) : e.Noted w k status := by
  obtain ⟨ep, i, total, o⟩ := e
  unfold Event.responded at hresp
  split at hresp
  · cases hresp
  rename_i hspared
  cases o with
  | round deps ctx checkAt reply doneAt =>
    obtain ⟨hbody, hstatus⟩ : ctx.req.bodyError = none ∧ reply.status? = some status := by
      simpa [Option.ite_none_right_eq_some] using hresp
    cases reply with
    | sendError message => cases hstatus
    | response code body =>
      cases hstatus
      exact noted_round hkey i total deps ctx checkAt body doneAt (by simpa [Event.spared] using hspared) hbody
  | generic deps auth canonicalModel teamTpm isStream reply startAt doneAt =>
    cases reply with
    | sendError message => cases hresp
    | response code body =>
      cases hresp
      exact noted_generic hkey i total deps auth canonicalModel teamTpm isStream body startAt doneAt
  | probe reply now =>
    cases reply with
    | error reason => cases hresp
    | status code =>
      cases hresp
      exact noted_probe hkey i total now
  | lookup now => exact absurd rfl hspared

/-- What a component counts is what the patterns cover. -/
theorem meets_iff_counted : e.Meets w ↔ ∀ k status, e.key = .ok k → e.responded w k = some status →
    (e.counted w k status = true → w.app.fail2ban.isFailStatus status = true) ∧
      (e.isHandlers = true → w.app.fail2ban.isFailStatus status = true → e.counted w k status = true) := by
  refine forall_congr' fun k => forall_congr' fun status => forall_congr' fun _ => forall_congr' fun _ => ?_
  obtain ⟨ep, i, total, o⟩ := e
  cases o with
  | round deps ctx checkAt reply doneAt =>
    simp only [Event.counted, Event.isHandlers]
    cases w.app.fail2ban.isFailStatus status <;> cases ctx.req.isStream <;> cases reply.intact <;> simp
  | generic deps auth canonicalModel teamTpm isStream reply startAt doneAt =>
    simp only [Event.counted, Event.isHandlers]
    cases isStream <;> cases w.app.fail2ban.isFailStatus status <;> cases isSuccess status <;> simp
  | probe reply now =>
    simp only [Event.counted, Event.isHandlers]
    cases w.app.fail2ban.isFailStatus status <;> cases isSuccess status <;>
      cases (w.app.fail2ban.isBanned k now).2 <;> simp
  | lookup now => simp [Event.counted, Event.isHandlers]

/-- **Step.** -/
theorem countedRight_iff_meets (w : World) (e : Event) : e.CountedRight w ↔ e.Meets w := by
  rw [meets_iff_counted]
  refine forall_congr' fun k => forall_congr' fun status => forall_congr' fun hkey => forall_congr' fun hresp => ?_
  have hnoted := noted hkey hresp
  unfold Event.Noted at hnoted
  cases hcounted : e.counted w k status with
  | true =>
    rw [if_pos hcounted] at hnoted
    exact ⟨fun h => ⟨fun _ => h.1 hnoted.1, fun _ _ => rfl⟩, fun h => ⟨fun _ => h.1 rfl, fun hh _ => hnoted.2 hh⟩⟩
  | false =>
    rw [if_neg (by simp [hcounted])] at hnoted
    constructor
    · intro h
      refine ⟨fun hf => Bool.noConfusion hf, fun hh hfail => ?_⟩
      exact absurd (h.2 hh hfail).rises hnoted.not_rises
    · intro h
      refine ⟨fun hrises => absurd hrises hnoted.not_rises, fun hh hfail => ?_⟩
      cases h.2 hh hfail

/-! ## Bans -/

/-- An event acts on the breaker through the breaker's own operations, at its endpoint's key. -/
theorem apply_by_operations {P : Fail2ban → Prop} (hkey : e.key = .ok k) (hstart : P w.app.fail2ban)
    (hsuccess : ∀ fb, P fb → P (fb.recordSuccess k))
    (hfailure : ∀ fb status now, P fb → P (fb.recordFailureWithCode k status now).1)
    (hlook : ∀ fb now, P fb → P (fb.isBanned k now).1) (hreset : ∀ fb, P fb → P (fb.reset k)) :
    P (e.apply w).app.fail2ban := by
  obtain ⟨ep, i, total, o⟩ := e
  replace hkey : Handler.epKey ep.url ep.key = .ok k := hkey
  cases o with
  | round deps ctx checkAt reply doneAt =>
    have hround : (Event.apply w ⟨ep, i, total, .round deps ctx checkAt reply doneAt⟩).app.fail2ban = _ :=
      round_fail2ban (w := w) hkey i total deps ctx checkAt reply doneAt
    rw [hround]
    split
    · split
      · exact hstart
      · unfold Fail2ban.noteStatus
        split
        · exact hfailure _ _ _ hstart
        · exact hsuccess _ hstart
      · exact hfailure _ _ _ hstart
    · exact hstart
  | generic deps auth canonicalModel teamTpm isStream reply startAt doneAt =>
    simp only [Event.apply, World.step, hkey]
    cases reply with
    | sendError message => exact hfailure _ _ _ hstart
    | response status body =>
      have heither : ∀ counted : Bool, P (if counted then (w.app.fail2ban.recordFailureWithCode k status doneAt).1
          else w.app.fail2ban.recordSuccess k) := by
        intro counted
        split
        · exact hfailure _ _ _ hstart
        · exact hsuccess _ hstart
      rw [answer_fail2ban]
      exact heither _
  | probe reply now =>
    simp only [Event.apply, World.step, AppState.probeEndpoint, probeKey_eq, hkey, disturb_quiet]
    have hlooked := hlook _ now hstart
    cases reply with
    | status code =>
      rw [probed_fail2ban]
      split
      · exact hfailure _ _ _ hlooked
      · split
        · exact hreset _ hlooked
        · exact hlooked
    | error reason =>
      unfold AppState.probed
      dsimp only
      split
      · exact hlooked
      · exact hfailure _ _ _ hlooked
  | lookup now =>
    simp only [Event.apply, World.step, AppState.collectBanned, hkey]
    exact hlook _ now hstart

/-- The entries of other endpoints are left alone. -/
theorem apply_lookup_ne {k' : String} (hkey : e.key = .ok k) (h : k' ≠ k) :
    (e.apply w).app.fail2ban.states.lookup k' = w.app.fail2ban.states.lookup k' :=
  apply_by_operations (P := fun fb => fb.states.lookup k' = w.app.fail2ban.states.lookup k') hkey rfl
    (fun fb hfb => (fb.recordSuccess_lookup_ne h).trans hfb)
    (fun fb status now hfb => (fb.recordFailureWithCode_lookup_ne status now h).trans hfb)
    (fun fb now hfb => (fb.isBanned_lookup_ne now h).trans hfb)
    (fun fb hfb => (fb.reset_lookup_ne h).trans hfb)

/-- The patterns stay. -/
theorem apply_patterns (w : World) (e : Event) :
    (e.apply w).app.fail2ban.failPatterns = w.app.fail2ban.failPatterns := by
  cases hkey : e.key with
  | error p =>
    have hsame : e.apply w = w := step_of_panic hkey e.index e.total w e.outcome
    rw [hsame]
  | ok k =>
    exact apply_by_operations (P := fun fb => fb.failPatterns = w.app.fail2ban.failPatterns) hkey rfl
      (fun fb hfb => fb.recordSuccess_patterns.trans hfb)
      (fun fb status now hfb => (fb.recordFailureWithCode_patterns status now).trans hfb)
      (fun fb now hfb => (fb.isBanned_patterns now).trans hfb) (fun fb hfb => fb.reset_patterns.trans hfb)

/-- What counts as a failure is the same all along. -/
theorem run_isFailStatus (w : World) (es : List Event) (status : Nat) :
    (Steps.run Event.apply w es).app.fail2ban.isFailStatus status = w.app.fail2ban.isFailStatus status := by
  have hstep : ∀ w' e, True → w'.app.fail2ban.isFailStatus status = w.app.fail2ban.isFailStatus status →
      (Event.apply w' e).app.fail2ban.isFailStatus status = w.app.fail2ban.isFailStatus status := by
    intro w' e _ h
    rw [← h]
    unfold Fail2ban.isFailStatus
    rw [apply_patterns]
  exact Steps.run_keeps hstep es w (Steps.every_true es w) rfl

/-- An endpoint that is not called is at most found to be banned no longer. -/
theorem spared_calm (hkey : e.key = .ok k) (hspared : e.spared w k = true) :
    Fail2ban.Calm w.app.fail2ban (e.apply w).app.fail2ban k := by
  obtain ⟨ep, i, total, o⟩ := e
  replace hkey : Handler.epKey ep.url ep.key = .ok k := hkey
  cases o with
  | round deps ctx checkAt reply doneAt =>
    have hround : (Event.apply w ⟨ep, i, total, .round deps ctx checkAt reply doneAt⟩).app.fail2ban = _ :=
      round_fail2ban (w := w) hkey i total deps ctx checkAt reply doneAt
    rw [hround, if_neg (by simpa [Event.spared, Option.isSome_iff_ne_none] using hspared)]
    exact .refl _ k
  | generic deps auth canonicalModel teamTpm isStream reply startAt doneAt => cases hspared
  | probe reply now => cases hspared
  | lookup now =>
    simp only [Event.apply, World.step, AppState.collectBanned, hkey]
    exact w.app.fail2ban.isBanned_calm k now

theorem calm_of_meets (hmeets : e.Meets w) (hharmless : e.Harmless k w) :
    Fail2ban.Calm w.app.fail2ban (e.apply w).app.fail2ban k := by
  cases hkey : e.key with
  | error p =>
    have hsame : e.apply w = w := step_of_panic hkey e.index e.total w e.outcome
    rw [hsame]
    exact .refl _ k
  | ok k' =>
    by_cases hk : k = k'
    · subst hk
      rcases hharmless hkey with hspared | ⟨status, hresp, huncovered⟩
      · exact spared_calm hkey hspared
      · have hnoted := noted hkey hresp
        have hnot : ¬ e.counted w k status = true := by
          intro hcounted
          have hcovered := (meets_iff_counted.1 hmeets k status hkey hresp).1 hcounted
          rw [huncovered] at hcovered
          cases hcovered
        unfold Event.Noted at hnoted
        rwa [if_neg hnot] at hnoted
    · exact .of_lookup (apply_lookup_ne hkey hk)

/-- **Run.** -/
theorem not_banned_of_meets (w : World) (es : List Event) (hmeets : Steps.Every Event.apply Event.Meets w es)
    (hharmless : Steps.Every Event.apply (Event.Harmless k) w es) (now : Nat)
    (hb : ((Steps.run Event.apply w es).app.fail2ban.isBanned k now).2 = true) :
    (w.app.fail2ban.isBanned k now).2 = true := by
  have hstep : ∀ (w' : World) (e : Event), e.Meets w' ∧ e.Harmless k w' →
      ((w'.app.fail2ban.isBanned k now).2 = true → (w.app.fail2ban.isBanned k now).2 = true) →
      ((e.apply w').app.fail2ban.isBanned k now).2 = true → (w.app.fail2ban.isBanned k now).2 = true :=
    fun w' e h hbefore hb' => hbefore ((calm_of_meets h.1 h.2).banned hb')
  exact Steps.run_keeps hstep es w (hmeets.and hharmless) id hb

end

/-- Every response is counted right, and responses outside the patterns ban no endpoint. -/
structure CountsByPatterns (w : World) (es : List Event) : Prop where
  counted : Steps.Every Event.apply Event.CountedRight w es
  bans : ∀ k, Steps.Every Event.apply (Event.Harmless k) w es → ∀ now,
    ((Steps.run Event.apply w es).app.fail2ban.isBanned k now).2 = true → (w.app.fail2ban.isBanned k now).2 = true

/-- **In a run the patterns decide exactly if every response meets what its component takes for
granted.** -/
theorem counts_by_patterns_iff (w : World) (es : List Event) :
    CountsByPatterns w es ↔ Steps.Every Event.apply Event.Meets w es := by
  have hcounted : Steps.Every Event.apply Event.CountedRight w es ↔ Steps.Every Event.apply Event.Meets w es :=
    Steps.every_iff countedRight_iff_meets w es
  constructor
  · intro h
    exact hcounted.1 h.counted
  · intro hmeets
    exact ⟨hcounted.2 hmeets, fun k hharmless now => not_banned_of_meets w es hmeets hharmless now⟩

/-- Five streaming calls of `proxy_generic` that the upstream answers 404, which the default
patterns do not cover, ban the endpoint. -/
theorem uncovered_responses_ban :
    let w : World :=
      { app := startApp exampleConfig { counters := ∅ } [] { limiters := ∅ }, ledger := []
        bannedKeys := ∅, triedKeys := ∅ }
    let e : Event :=
      { endpoint := exampleEndpoint "sk-your-actual-openai-key-1-here", index := 0, total := 2
        outcome := .generic .reading ⟨"sk-client", "dev", ["*"], 0, 0, 1⟩ "gpt-4o" 0 true (.response 404 []) 0 0 }
    w.app.fail2ban.isFailStatus 404 = false ∧
      e.responded w "https://api.openai.com:sk-y...here" = some 404 ∧
      (w.app.fail2ban.isBanned "https://api.openai.com:sk-y...here" 0).2 = false ∧
      ((Steps.run Event.apply w (List.replicate 5 e)).app.fail2ban.isBanned
        "https://api.openai.com:sk-y...here" 0).2 = true ∧
      ¬ CountsByPatterns w (List.replicate 5 e) := by
  refine ⟨rfl, rfl, rfl, rfl, fun h => ?_⟩
  have hfail : false = true := (h.counted.1 _ 404 rfl rfl).1 (Or.inl Nat.one_ne_zero)
  cases hfail

end AiRouter
