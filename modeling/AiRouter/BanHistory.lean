import AiRouter.FailureCounting
import Mathlib.Data.Nat.Cast.Order.Ring
import Mathlib.Algebra.Order.Field.Rat

/-
# The breaker and its history

What `is_banned`, `ban_reason`, `banned_count` and `record_failure_with_code` answer, said from the calls
made so far and what they have returned. A log has the latest call first.

| here | there |
| --- | --- |
| `BanHistory.Call` | a call of `record_success`, `record_failure_with_code`, `is_banned` or `reset` |
| `BanHistory.Op.step` | the same (breaker.rs:48-132) on the entry of the key alone |
-/
namespace AiRouter

/-- What a breaker goes by. -/
structure BanRules where
  maxFailures : Nat
  errorThreshold : Rat
  banDuration : Nat

def Fail2ban.rules (fb : Fail2ban) : BanRules where
  maxFailures := fb.maxFailures
  errorThreshold := fb.errorThreshold
  banDuration := fb.banDuration

/-- The entry of a key: no entry is as good as a fresh one. -/
def Fail2ban.entry (fb : Fail2ban) (k : String) : EndpointState := (fb.states.lookup k).getD .fresh

namespace BanHistory

inductive Op where
  | success
  | failure (statusCode : Nat)
  | isBanned
  | reset
deriving DecidableEq, Repr

structure Call where
  key : String
  op : Op
  time : Nat
deriving DecidableEq, Repr

/-- A call and what it has returned: `false` where there is nothing to return. -/
structure Entry extends Call where
  returned : Bool
deriving DecidableEq, Repr

def Call.apply (fb : Fail2ban) (c : Call) : Fail2ban × Bool :=
  match c.op with
  | .success => (fb.recordSuccess c.key, false)
  | .failure statusCode => fb.recordFailureWithCode c.key statusCode c.time
  | .isBanned => fb.isBanned c.key c.time
  | .reset => (fb.reset c.key, false)

/-- An operation on the entry of its key. -/
def Op.step (rules : BanRules) (state : EndpointState) (now : Nat) : Op → EndpointState × Bool
  | .success => (state.succeeded, false)
  | .failure statusCode =>
    let state := state.failed statusCode
    if state.overLimit rules.maxFailures rules.errorThreshold then (state.bannedFor (now + rules.banDuration), true)
    else (state, false)
  | .isBanned =>
    match state.bannedUntil with
    | none => (state, false)
    | some until_ => if now < until_ then (state, true) else (state.unbanned, false)
  | .reset => (state.unbanned, false)

/-- A breaker and its log. -/
structure Logged where
  breaker : Fail2ban
  log : List Entry

def Logged.call (s : Logged) (c : Call) : Logged :=
  { breaker := (c.apply s.breaker).1, log := { c with returned := (c.apply s.breaker).2 } :: s.log }

def run (fb : Fail2ban) (calls : List Call) : Logged := Steps.run Logged.call { breaker := fb, log := [] } calls

/-- The call, or the panic of a deadline that no `Instant` can hold. -/
def Call.applyOrPanic (fb : Fail2ban) (c : Call) : Fail2ban × Except Panic Bool :=
  match c.op with
  | .failure statusCode => fb.recordFailureOrPanic c.key statusCode c.time
  | _ => ((c.apply fb).1, .ok (c.apply fb).2)

def Logged.callOrPanic (s : Logged) (c : Call) : Except Panic Logged :=
  (c.applyOrPanic s.breaker).2.map fun returned =>
    { breaker := (c.applyOrPanic s.breaker).1, log := { c with returned := returned } :: s.log }

/-- The calls up to the first panic. -/
def runOrPanic (fb : Fail2ban) (calls : List Call) : Except Panic Logged :=
  calls.foldlM Logged.callOrPanic { breaker := fb, log := [] }

/-! ## What a log says -/

def Op.isFailure : Op → Bool
  | .failure _ => true
  | _ => false

/-- A request, whether it went well or not. -/
def Op.isRequest : Op → Bool
  | .success | .failure _ => true
  | _ => false

namespace Entry

/-- A failure that led to a ban. -/
def bans (e : Entry) (k : String) : Bool := e.key == k && e.op.isFailure && e.returned

def resets (e : Entry) (k : String) : Bool := e.key == k && decide (e.op = .reset)

/-- After it there is no ban: a reset, or an `is_banned` that says so. -/
def clears (e : Entry) (k : String) : Bool := e.resets k || (e.key == k && decide (e.op = .isBanned) && !e.returned)

end Entry

/-- The calls since the last reset of the key. -/
def sinceReset (k : String) (log : List Entry) : List Entry := log.takeWhile (!·.resets k)

/-- **A ban is on**: some failure since the last reset has led to one that has not run out. -/
def BannedAt (banDuration : Nat) (k : String) (log : List Entry) (t : Nat) : Prop :=
  ∃ e ∈ sinceReset k log, e.bans k = true ∧ e.time ≤ t ∧ t < e.time + banDuration

/-- There has been a ban that no call has found to be over. -/
def pending (k : String) (log : List Entry) : Bool := (log.takeWhile (!·.clears k)).any (·.bans k)

/-- The row of failures ends: a success, a reset, or the look that finds a ban to be over. -/
def endsRow (k : String) (e : Entry) (older : List Entry) : Bool :=
  e.key == k && (decide (e.op = .success) || decide (e.op = .reset) ||
    (decide (e.op = .isBanned) && !e.returned && pending k older))

/-- The failures since the last success, reset or observed expiry. -/
def failuresInRow (k : String) : List Entry → Nat
  | [] => 0
  | e :: older =>
    if endsRow k e older then 0
    else if e.key = k ∧ e.op.isFailure then failuresInRow k older + 1
    else failuresInRow k older

def failures (k : String) (log : List Entry) : Nat := log.countP fun e => e.key == k && e.op.isFailure

def requests (k : String) (log : List Entry) : Nat := log.countP fun e => e.key == k && e.op.isRequest

/-- The latest call of the log is a failure that leads to a ban. -/
def Due (rules : BanRules) (k : String) (log : List Entry) : Prop :=
  rules.maxFailures ≤ failuresInRow k log ∨
    10 ≤ requests k log ∧ rules.errorThreshold < (failures k log : Rat) / (requests k log : Rat)

/-- The breaker answers at this time what its log says, and its log has the verdicts that it should. -/
structure Explained (rules : BanRules) (s : Logged) (t : Nat) : Prop where
  banned : ∀ k, (s.breaker.isBanned k t).2 = true ↔ BannedAt rules.banDuration k s.log t
  reason : ∀ k, (s.breaker.banReason k t).isSome = true ↔ BannedAt rules.banDuration k s.log t
  count : s.breaker.bannedCount t = Set.ncard {k | BannedAt rules.banDuration k s.log t}
  verdicts : ∀ e older, e :: older <:+ s.log → e.op.isFailure = true →
    (e.returned = true ↔ Due rules e.key (e :: older))

/-! ## A call and the entries -/

section
variable (fb : Fail2ban) (c : Call) (k : String)

theorem isBanned_entry (now : Nat) :
    (fb.isBanned k now).2 = (Op.isBanned.step fb.rules (fb.entry k) now).2 ∧
      (fb.isBanned k now).1.entry k = (Op.isBanned.step fb.rules (fb.entry k) now).1 := by
  unfold Fail2ban.isBanned Op.step Fail2ban.entry
  cases hstate : fb.states.lookup k with
  | none => simp [EndpointState.fresh, hstate]
  | some state =>
    cases huntil : state.bannedUntil with
    | none => simp [huntil, hstate]
    | some until_ =>
      by_cases hlt : now < until_
      · simp [huntil, hlt, hstate]
      · simp [huntil, hlt]

theorem recordFailure_entry (statusCode now : Nat) :
    (fb.recordFailureWithCode k statusCode now).2 = ((Op.failure statusCode).step fb.rules (fb.entry k) now).2 ∧
      (fb.recordFailureWithCode k statusCode now).1.entry k
        = ((Op.failure statusCode).step fb.rules (fb.entry k) now).1 := by
  unfold Fail2ban.recordFailureWithCode Op.step Fail2ban.entry Fail2ban.rules
  dsimp only
  split <;> simp

theorem apply_returned : (c.apply fb).2 = (c.op.step fb.rules (fb.entry c.key) c.time).2 := by
  unfold Call.apply
  cases c.op with
  | success => rfl
  | failure statusCode => exact (recordFailure_entry fb c.key statusCode c.time).1
  | isBanned => exact (isBanned_entry fb c.key c.time).1
  | reset => rfl

theorem apply_entry_self : (c.apply fb).1.entry c.key = (c.op.step fb.rules (fb.entry c.key) c.time).1 := by
  unfold Call.apply
  cases c.op with
  | success => simp [Fail2ban.entry, Fail2ban.recordSuccess, Op.step]
  | failure statusCode => exact (recordFailure_entry fb c.key statusCode c.time).2
  | isBanned => exact (isBanned_entry fb c.key c.time).2
  | reset =>
    simp only [Fail2ban.entry, Fail2ban.reset, Op.step, KeyMap.lookup_adjust_self]
    cases fb.states.lookup c.key <;> rfl

theorem apply_entry_ne {k : String} (h : k ≠ c.key) : (c.apply fb).1.entry k = fb.entry k := by
  have hlookup : (c.apply fb).1.states.lookup k = fb.states.lookup k := by
    unfold Call.apply
    cases c.op with
    | success => exact fb.recordSuccess_lookup_ne h
    | failure statusCode => exact fb.recordFailureWithCode_lookup_ne statusCode c.time h
    | isBanned => exact fb.isBanned_lookup_ne c.time h
    | reset => exact fb.reset_lookup_ne h
  unfold Fail2ban.entry
  rw [hlookup]

variable {fb} in
theorem entry_empty (h : fb.states = ∅) (k : String) : fb.entry k = .fresh := by
  unfold Fail2ban.entry
  rw [h]
  rfl

theorem apply_rules : (c.apply fb).1.rules = fb.rules := by
  unfold Call.apply
  cases c.op with
  | success => rfl
  | failure statusCode =>
    dsimp only [Fail2ban.recordFailureWithCode]
    split <;> rfl
  | isBanned =>
    dsimp only [Fail2ban.isBanned]
    split
    · rfl
    · split
      · rfl
      · split <;> rfl
  | reset => rfl

end

/-! ## The entry of a key follows the log -/

@[simp] theorem sinceReset_cons (k : String) (e : Entry) (log : List Entry) :
    sinceReset k (e :: log) = if e.resets k then [] else e :: sinceReset k log := by
  unfold sinceReset
  cases h : e.resets k <;> simp [h]

@[simp] theorem pending_cons (k : String) (e : Entry) (log : List Entry) :
    pending k (e :: log) = (!e.clears k && (e.bans k || pending k log)) := by
  unfold pending
  cases h : e.clears k <;> simp [h]

theorem sinceReset_subset (k : String) (log : List Entry) : sinceReset k log ⊆ log :=
  (List.takeWhile_sublist _).subset

/-- What the entry of a key has to do with a log whose last call was at `T`. -/
structure Tracks (rules : BanRules) (k : String) (log : List Entry) (T : Nat) (state : EndpointState) : Prop where
  times : ∀ e ∈ log, e.time ≤ T
  row : state.consecutiveFailures = failuresInRow k log % 2 ^ 32
  total : state.totalRequests = requests k log % 2 ^ 64
  failed : state.totalFailures = failures k log % 2 ^ 64
  open_ : state.bannedUntil.isSome = pending k log
  latest : ∀ until_, state.bannedUntil = some until_ →
    ∃ e ∈ sinceReset k log, e.bans k = true ∧ e.time + rules.banDuration = until_
  covered : ∀ e ∈ sinceReset k log, e.bans k = true → e.time + rules.banDuration ≤ state.bannedUntil.getD T

section
variable {rules : BanRules} {k : String} {log : List Entry} {T : Nat} {state : EndpointState}

theorem Tracks.fresh (rules : BanRules) (k : String) (T : Nat) : Tracks rules k [] T .fresh where
  times := by simp
  row := rfl
  total := rfl
  failed := rfl
  open_ := rfl
  latest := by simp [EndpointState.fresh]
  covered := by simp [sinceReset]

theorem getD_le {o : Option Nat} {a b c : Nat} (hab : a ≤ b) (h : c ≤ o.getD a) : c ≤ o.getD b := by
  cases o with
  | none => exact h.trans hab
  | some x => exact h

/-- A call on another key. -/
theorem Tracks.other (h : Tracks rules k log T state) {e : Entry} (hkey : e.key ≠ k) (hT : T ≤ e.time) :
    Tracks rules k (e :: log) e.time state := by
  have hresets : e.resets k = false := by simp [Entry.resets, hkey]
  have hbans : e.bans k = false := by simp [Entry.bans, hkey]
  have hclears : e.clears k = false := by simp [Entry.clears, hresets, hkey]
  have hends : endsRow k e log = false := by simp [endsRow, hkey]
  constructor
  case times => exact List.forall_mem_cons.2 ⟨le_rfl, fun x hx => (h.times x hx).trans hT⟩
  case row => simpa [failuresInRow, hends, hkey] using h.row
  case total => simpa [requests, hkey] using h.total
  case failed => simpa [failures, hkey] using h.failed
  case open_ => simpa [hbans, hclears] using h.open_
  case latest =>
    intro until_ huntil
    obtain ⟨x, hx, hban, hu⟩ := h.latest until_ huntil
    refine ⟨x, ?_, hban, hu⟩
    rw [sinceReset_cons, hresets]
    exact List.mem_cons_of_mem _ hx
  case covered =>
    intro x hx hban
    rw [sinceReset_cons, hresets] at hx
    rcases List.mem_cons.1 hx with rfl | hx
    · rw [hbans] at hban
      cases hban
    · exact getD_le hT (h.covered x hx hban)

/-- An entry that is no ban and no clearing keeps the bans as they are. -/
theorem Tracks.bans_kept (h : Tracks rules k log T state) {e : Entry} (hT : T ≤ e.time) (hresets : e.resets k = false)
    (hbans : e.bans k = false) :
    (∀ until_, state.bannedUntil = some until_ →
      ∃ x ∈ sinceReset k (e :: log), x.bans k = true ∧ x.time + rules.banDuration = until_) ∧
    ∀ x ∈ sinceReset k (e :: log), x.bans k = true → x.time + rules.banDuration ≤ state.bannedUntil.getD e.time := by
  rw [sinceReset_cons, hresets]
  constructor
  · intro until_ huntil
    obtain ⟨x, hx, hban, hu⟩ := h.latest until_ huntil
    exact ⟨x, List.mem_cons_of_mem _ hx, hban, hu⟩
  · intro x hx hban
    rcases List.mem_cons.1 hx with rfl | hx
    · rw [hbans] at hban
      cases hban
    · exact getD_le hT (h.covered x hx hban)

theorem Tracks.times_cons (h : Tracks rules k log T state) {e : Entry} (hT : T ≤ e.time) :
    ∀ x ∈ e :: log, x.time ≤ e.time :=
  List.forall_mem_cons.2 ⟨le_rfl, fun x hx => (h.times x hx).trans hT⟩

theorem Tracks.success (h : Tracks rules k log T state) {now : Nat} (hT : T ≤ now) :
    Tracks rules k (⟨⟨k, .success, now⟩, false⟩ :: log) now state.succeeded := by
  obtain ⟨hlatest, hcovered⟩ := h.bans_kept (e := ⟨⟨k, .success, now⟩, false⟩) hT (by simp [Entry.resets])
    (by simp [Entry.bans, Op.isFailure])
  constructor
  case times => exact h.times_cons hT
  case row => simp [EndpointState.succeeded, failuresInRow, endsRow]
  case total => simp [EndpointState.succeeded, h.total, requests, Op.isRequest]
  case failed => simpa [EndpointState.succeeded, failures, Op.isFailure] using h.failed
  case open_ => simpa [EndpointState.succeeded, Entry.clears, Entry.resets, Entry.bans, Op.isFailure] using h.open_
  case latest => exact hlatest
  case covered => exact hcovered

theorem Tracks.reset (h : Tracks rules k log T state) {now : Nat} (hT : T ≤ now) :
    Tracks rules k (⟨⟨k, .reset, now⟩, false⟩ :: log) now state.unbanned := by
  constructor
  case times => exact h.times_cons hT
  case row => simp [EndpointState.unbanned, failuresInRow, endsRow]
  case total => simpa [EndpointState.unbanned, requests, Op.isRequest] using h.total
  case failed => simpa [EndpointState.unbanned, failures, Op.isFailure] using h.failed
  case open_ => simp [EndpointState.unbanned, Entry.clears, Entry.resets]
  case latest => simp [EndpointState.unbanned]
  case covered => simp [Entry.resets]

/-- The counters after a failure, whatever it returns. -/
theorem Tracks.failed_counters (h : Tracks rules k log T state) (statusCode now : Nat) (returned : Bool) :
    let log' : List Entry := ⟨⟨k, .failure statusCode, now⟩, returned⟩ :: log
    (state.failed statusCode).consecutiveFailures = failuresInRow k log' % 2 ^ 32 ∧
      (state.failed statusCode).totalRequests = requests k log' % 2 ^ 64 ∧
      (state.failed statusCode).totalFailures = failures k log' % 2 ^ 64 := by
  simp [EndpointState.failed, failuresInRow, endsRow, requests, failures, Op.isFailure, Op.isRequest, h.row,
    h.total, h.failed]

theorem Tracks.failure (h : Tracks rules k log T state) (statusCode : Nat) {now : Nat} (hT : T ≤ now) :
    Tracks rules k (⟨⟨k, .failure statusCode, now⟩, ((Op.failure statusCode).step rules state now).2⟩ :: log) now
      ((Op.failure statusCode).step rules state now).1 := by
  have hcounters := h.failed_counters statusCode now ((Op.failure statusCode).step rules state now).2
  unfold Op.step at hcounters ⊢
  dsimp only at hcounters ⊢
  split at hcounters
  · rename_i hover
    rw [if_pos hover]
    constructor
    case times => exact h.times_cons hT
    case row => exact hcounters.1
    case total => exact hcounters.2.1
    case failed => exact hcounters.2.2
    case open_ => simp [EndpointState.bannedFor, Entry.clears, Entry.resets, Entry.bans, Op.isFailure]
    case latest =>
      rintro until_ ⟨⟩
      refine ⟨⟨⟨k, .failure statusCode, now⟩, true⟩, ?_, ?_, rfl⟩
      · rw [sinceReset_cons, if_neg (by simp [Entry.resets])]
        exact List.mem_cons_self
      · simp [Entry.bans, Op.isFailure]
    case covered =>
      -- the latest ban runs out last
      intro x hx _
      have htime := h.times_cons (e := ⟨⟨k, .failure statusCode, now⟩, true⟩) hT x (sinceReset_subset k _ hx)
      exact Nat.add_le_add_right htime rules.banDuration
  · rename_i hover
    rw [if_neg hover]
    obtain ⟨hlatest, hcovered⟩ := h.bans_kept (e := ⟨⟨k, .failure statusCode, now⟩, false⟩) hT
      (by simp [Entry.resets]) (by simp [Entry.bans])
    constructor
    case times => exact h.times_cons hT
    case row => exact hcounters.1
    case total => exact hcounters.2.1
    case failed => exact hcounters.2.2
    case open_ => simpa [EndpointState.failed, Entry.clears, Entry.resets, Entry.bans] using h.open_
    case latest => exact hlatest
    case covered => exact hcovered

theorem Tracks.isBanned (h : Tracks rules k log T state) {now : Nat} (hT : T ≤ now) :
    Tracks rules k (⟨⟨k, .isBanned, now⟩, (Op.isBanned.step rules state now).2⟩ :: log) now
      (Op.isBanned.step rules state now).1 := by
  obtain ⟨hlatest, hcovered⟩ := h.bans_kept (e := ⟨⟨k, .isBanned, now⟩, (Op.isBanned.step rules state now).2⟩) hT
    (by simp [Entry.resets]) (by simp [Entry.bans, Op.isFailure])
  have hrequests : state.totalRequests
      = requests k (⟨⟨k, .isBanned, now⟩, (Op.isBanned.step rules state now).2⟩ :: log) % 2 ^ 64 := by
    simpa [requests, Op.isRequest] using h.total
  have hfailures : state.totalFailures
      = failures k (⟨⟨k, .isBanned, now⟩, (Op.isBanned.step rules state now).2⟩ :: log) % 2 ^ 64 := by
    simpa [failures, Op.isFailure] using h.failed
  have hpending := h.open_
  unfold Op.step at hlatest hcovered hrequests hfailures ⊢
  cases huntil : state.bannedUntil with
  | none =>
    simp only [huntil] at hlatest hcovered hrequests hfailures hpending ⊢
    constructor
    case times => exact h.times_cons hT
    case row => simpa [failuresInRow, endsRow, Op.isFailure, ← hpending] using h.row
    case total => exact hrequests
    case failed => exact hfailures
    case open_ => simp [huntil, Entry.clears]
    case latest => simp [huntil]
    case covered => simpa [huntil] using hcovered
  | some until_ =>
    simp only [huntil] at hlatest hcovered hrequests hfailures hpending ⊢
    by_cases hlt : now < until_
    · simp only [if_pos hlt] at hlatest hcovered hrequests hfailures ⊢
      constructor
      case times => exact h.times_cons hT
      case row => simpa [failuresInRow, endsRow, Op.isFailure] using h.row
      case total => exact hrequests
      case failed => exact hfailures
      case open_ => simpa [huntil, Entry.clears, Entry.resets, Entry.bans, Op.isFailure] using hpending
      case latest => simpa [huntil] using hlatest
      case covered => simpa [huntil] using hcovered
    · -- the look finds the ban to be over
      simp only [if_neg hlt] at hlatest hcovered hrequests hfailures ⊢
      constructor
      case times => exact h.times_cons hT
      case row => simp [EndpointState.unbanned, failuresInRow, endsRow, ← hpending]
      case total => exact hrequests
      case failed => exact hfailures
      case open_ => simp [EndpointState.unbanned, Entry.clears]
      case latest => simp [EndpointState.unbanned]
      case covered =>
        intro x hx hban
        exact (hcovered x hx hban).trans (Nat.not_lt.1 hlt)

/-- **A call on the key**, and the entry goes on following the log. -/
theorem Tracks.step (h : Tracks rules k log T state) (op : Op) {now : Nat} (hT : T ≤ now) :
    Tracks rules k (⟨⟨k, op, now⟩, (op.step rules state now).2⟩ :: log) now (op.step rules state now).1 := by
  cases op with
  | success => exact h.success hT
  | failure statusCode => exact h.failure statusCode hT
  | isBanned => exact h.isBanned hT
  | reset => exact h.reset hT

end

/-! ## Runs -/

theorem Tracks.mono {rules : BanRules} {k : String} {log : List Entry} {T T' : Nat} {state : EndpointState}
    (h : Tracks rules k log T state) (hT : T ≤ T') : Tracks rules k log T' state where
  times := fun e he => (h.times e he).trans hT
  row := h.row
  total := h.total
  failed := h.failed
  open_ := h.open_
  latest := h.latest
  covered := fun e he hban => getD_le hT (h.covered e he hban)

section
variable {fb : Fail2ban} {calls : List Call}

theorem run_snoc (fb : Fail2ban) (calls : List Call) (c : Call) :
    run fb (calls ++ [c]) = (run fb calls).call c := Steps.run_append _ _ _

theorem run_rules (fb : Fail2ban) (calls : List Call) : (run fb calls).breaker.rules = fb.rules := by
  refine Steps.run_keeps (P := fun _ _ => True) (I := fun s : Logged => s.breaker.rules = fb.rules) ?_ calls _
    (Steps.every_true _ _) rfl
  intro s c _ hs
  exact (apply_rules s.breaker c).trans hs

theorem run_log (fb : Fail2ban) (calls : List Call) : (run fb calls).log.map (·.toCall) = calls.reverse := by
  induction calls using List.reverseRecOn with
  | nil => rfl
  | append_singleton calls c ih =>
    rw [run_snoc, List.reverse_append, ← ih]
    rfl

/-- The log has as many calls of a kind as were made. -/
theorem log_countP (fb : Fail2ban) (calls : List Call) (p : Op → Bool) :
    (run fb calls).log.countP (fun e => p e.op) = calls.countP fun c => p c.op := by
  rw [← List.countP_reverse (l := calls), ← run_log fb calls, List.countP_map]
  rfl

/-- What was made of a log entry, from the entry of its key. -/
theorem call_log (s : Logged) (c : Call) :
    (s.call c).log = ⟨c, (c.op.step s.breaker.rules (s.breaker.entry c.key) c.time).2⟩ :: s.log := by
  rw [← apply_returned]
  rfl

/-- **Every entry follows the log** of a breaker that started empty. -/
theorem run_tracks (hempty : fb.states = ∅) (hordered : calls.Pairwise (·.time ≤ ·.time)) (k : String) :
    ∀ t, (∀ c ∈ calls, c.time ≤ t) →
      Tracks fb.rules k (run fb calls).log t ((run fb calls).breaker.entry k) := by
  induction calls using List.reverseRecOn with
  | nil =>
    intro t _
    exact entry_empty hempty k ▸ Tracks.fresh fb.rules k t
  | append_singleton calls c ih =>
    intro t ht
    obtain ⟨hcalls, -, hlast⟩ := List.pairwise_append.1 hordered
    have htracks := ih hcalls c.time fun x hx => hlast x hx c List.mem_cons_self
    refine Tracks.mono ?_ (ht c (by simp))
    rw [run_snoc, call_log, run_rules]
    by_cases hkey : c.key = k
    · subst hkey
      have hstep := htracks.step c.op le_rfl
      rw [← run_rules fb calls, ← apply_entry_self, run_rules] at hstep
      exact hstep
    · have hentry : ((run fb calls).call c).breaker.entry k = (run fb calls).breaker.entry k :=
        apply_entry_ne _ c (Ne.symm hkey)
      rw [hentry]
      exact htracks.other (e := ⟨c, _⟩) hkey le_rfl

/-- **No call panics** while the deadline of each failure is an `Instant`. -/
theorem runOrPanic_eq (hdeadlines : ∀ c ∈ calls, c.op.isFailure = true → c.time + fb.banDuration < 2 ^ 63 * 10 ^ 9) :
    runOrPanic fb calls = .ok (run fb calls) := by
  induction calls using List.reverseRecOn with
  | nil => rfl
  | append_singleton calls c ih =>
    have hprefix := ih fun x hx => hdeadlines x (List.mem_append_left _ hx)
    have hduration : (run fb calls).breaker.banDuration = fb.banDuration :=
      congrArg BanRules.banDuration (run_rules fb calls)
    have hcall : c.applyOrPanic (run fb calls).breaker
        = ((c.apply (run fb calls).breaker).1, .ok (c.apply (run fb calls).breaker).2) := by
      have hlast := hdeadlines c (by simp)
      unfold Call.applyOrPanic Call.apply
      cases hop : c.op with
      | failure statusCode =>
        rw [hop] at hlast
        exact Fail2ban.recordFailureOrPanic_of_fits _ statusCode c.time (by rw [hduration]; exact hlast rfl)
      | success => rfl
      | isBanned => rfl
      | reset => rfl
    unfold runOrPanic at hprefix ⊢
    rw [List.foldlM_append, hprefix, run_snoc]
    change Logged.callOrPanic (run fb calls) c >>= pure = _
    rw [bind_pure]
    unfold Logged.callOrPanic
    rw [hcall]
    rfl

/-! ## What the breaker answers -/

/-- A ban that is on is one that has not run out. -/
theorem Tracks.bannedNow {rules : BanRules} {k : String} {log : List Entry} {t : Nat} {state : EndpointState}
    (h : Tracks rules k log t state) : state.bannedNow t = true ↔ BannedAt rules.banDuration k log t := by
  unfold EndpointState.bannedNow
  rw [Option.any_eq_true]
  constructor
  · rintro ⟨until_, huntil, hlt⟩
    obtain ⟨e, he, hban, hu⟩ := h.latest until_ huntil
    refine ⟨e, he, hban, h.times e (sinceReset_subset k log he), ?_⟩
    rw [hu]
    exact of_decide_eq_true hlt
  · rintro ⟨e, he, hban, -, hlt⟩
    have hcovered := h.covered e he hban
    cases huntil : state.bannedUntil with
    | none =>
      rw [huntil, Option.getD_none] at hcovered
      omega
    | some until_ =>
      rw [huntil, Option.getD_some] at hcovered
      exact ⟨until_, rfl, decide_eq_true (Nat.lt_of_lt_of_le hlt hcovered)⟩

theorem entry_bannedNow (fb : Fail2ban) (k : String) (t : Nat) :
    (fb.entry k).bannedNow t = (fb.states.lookup k).any (·.bannedNow t) := by
  unfold Fail2ban.entry
  cases fb.states.lookup k <;> rfl

theorem isBanned_bannedNow (fb : Fail2ban) (k : String) (t : Nat) :
    (fb.isBanned k t).2 = (fb.entry k).bannedNow t := by
  rw [Fail2ban.isBanned_snd, entry_bannedNow]
  unfold Fail2ban.bannedUntil EndpointState.bannedNow
  cases fb.states.lookup k <;> rfl

theorem banReason_isSome (fb : Fail2ban) (k : String) (t : Nat) :
    (fb.banReason k t).isSome = (fb.entry k).bannedNow t := by
  rw [entry_bannedNow]
  unfold Fail2ban.banReason
  cases fb.states.lookup k with
  | none => rfl
  | some state => cases h : state.bannedNow t <;> simp [h]

/-- Every banned key has a failure of its own in the log. -/
theorem ncard_bannedAt_le (banDuration : Nat) (log : List Entry) (t : Nat) :
    Set.ncard {k | BannedAt banDuration k log t} ≤ log.countP (·.op.isFailure) := by
  have hsubset : {k | BannedAt banDuration k log t} ⊆ ↑((log.filter (·.op.isFailure)).map (·.key)).toFinset := by
    rintro k ⟨e, he, hban, -, -⟩
    simp only [Entry.bans, Bool.and_eq_true, beq_iff_eq] at hban
    simp only [List.coe_toFinset, Set.mem_ofPred_eq, List.mem_map, List.mem_filter]
    exact ⟨e, ⟨sinceReset_subset k log he, hban.1.2⟩, hban.1.1⟩
  calc Set.ncard {k | BannedAt banDuration k log t}
      ≤ (((log.filter (·.op.isFailure)).map (·.key)).toFinset : Set String).ncard :=
        Set.ncard_le_ncard hsubset (Finset.finite_toSet _)
    _ = ((log.filter (·.op.isFailure)).map (·.key)).toFinset.card := Set.ncard_coe_finset _
    _ ≤ ((log.filter (·.op.isFailure)).map (·.key)).length := List.toFinset_card_le _
    _ = log.countP (·.op.isFailure) := by rw [List.length_map, List.countP_eq_length_filter]

/-! ## The verdicts -/

theorem failuresInRow_le (k : String) (log : List Entry) : failuresInRow k log ≤ failures k log := by
  induction log with
  | nil => exact le_rfl
  | cons e older ih =>
    have hle : failures k older ≤ failures k (e :: older) := (List.sublist_cons_self e older).countP_le
    unfold failuresInRow
    split
    · exact Nat.zero_le _
    · split
      · rename_i hfailure
        have hcons : failures k (e :: older) = failures k older + 1 := by simp [failures, hfailure]
        omega
      · exact ih.trans hle

theorem failures_le (k : String) (log : List Entry) : failures k log ≤ log.countP (·.op.isFailure) :=
  List.countP_mono_left fun _ _ h => (Bool.and_eq_true _ _ ▸ h).2

theorem requests_le (k : String) (log : List Entry) : requests k log ≤ log.countP (·.op.isRequest) :=
  List.countP_mono_left fun _ _ h => (Bool.and_eq_true _ _ ▸ h).2

/-- A failure is judged by the log, as long as no counter wraps. -/
theorem Tracks.verdict {rules : BanRules} {k : String} {log : List Entry} {T : Nat} {state : EndpointState}
    (h : Tracks rules k log T state) (statusCode now : Nat) (returned : Bool)
    (hfailures : failures k (⟨⟨k, .failure statusCode, now⟩, returned⟩ :: log) < 2 ^ 32)
    (hrequests : requests k (⟨⟨k, .failure statusCode, now⟩, returned⟩ :: log) < 2 ^ 64) :
    ((Op.failure statusCode).step rules state now).2 = true ↔
      Due rules k (⟨⟨k, .failure statusCode, now⟩, returned⟩ :: log) := by
  obtain ⟨hrow, htotal, hfailed⟩ := h.failed_counters statusCode now returned
  rw [Nat.mod_eq_of_lt (Nat.lt_of_le_of_lt (failuresInRow_le k _) hfailures)] at hrow
  rw [Nat.mod_eq_of_lt hrequests] at htotal
  rw [Nat.mod_eq_of_lt (by omega)] at hfailed
  unfold Op.step Due EndpointState.overLimit
  dsimp only
  rw [hrow, htotal, hfailed]
  split
  · rename_i hover
    simpa using hover
  · rename_i hover
    simpa using hover

theorem run_verdicts (hempty : fb.states = ∅) (hordered : calls.Pairwise (·.time ≤ ·.time))
    (hfailures : calls.countP (·.op.isFailure) < 2 ^ 32) (hrequests : calls.countP (·.op.isRequest) < 2 ^ 64) :
    ∀ e older, e :: older <:+ (run fb calls).log → e.op.isFailure = true →
      (e.returned = true ↔ Due fb.rules e.key (e :: older)) := by
  induction calls using List.reverseRecOn with
  | nil =>
    intro e older hsuffix _
    cases List.eq_nil_of_suffix_nil hsuffix
  | append_singleton calls c ih =>
    intro e older hsuffix hfailure
    obtain ⟨hcalls, -, hlast⟩ := List.pairwise_append.1 hordered
    have htracks := run_tracks hempty hcalls c.key c.time fun x hx => hlast x hx c List.mem_cons_self
    rw [← log_countP fb (calls ++ [c]) Op.isFailure, run_snoc, call_log] at hfailures
    rw [← log_countP fb (calls ++ [c]) Op.isRequest, run_snoc, call_log] at hrequests
    rw [run_snoc, call_log] at hsuffix
    rcases List.suffix_cons_iff.1 hsuffix with heq | hsuffix
    · -- the call made last
      obtain ⟨rfl, rfl⟩ := List.cons.inj heq
      obtain ⟨k, op, now⟩ := c
      cases op with
      | failure statusCode =>
        rw [run_rules] at hfailures hrequests ⊢
        exact htracks.verdict statusCode now _ (Nat.lt_of_le_of_lt (failures_le _ _) hfailures)
          (Nat.lt_of_le_of_lt (requests_le _ _) hrequests)
      | success => cases hfailure
      | isBanned => cases hfailure
      | reset => cases hfailure
    · refine ih hcalls ?_ ?_ e older hsuffix hfailure
      · rw [← log_countP fb calls]
        exact Nat.lt_of_le_of_lt (List.sublist_cons_self _ _).countP_le hfailures
      · rw [← log_countP fb calls]
        exact Nat.lt_of_le_of_lt (List.sublist_cons_self _ _).countP_le hrequests

theorem bannedCount_eq {banDuration t : Nat} (hon : ∀ k, ((run fb calls).breaker.entry k).bannedNow t = true ↔
      BannedAt banDuration k (run fb calls).log t) (hfailures : calls.countP (·.op.isFailure) < 2 ^ 32) :
    (run fb calls).breaker.bannedCount t = Set.ncard {k | BannedAt banDuration k (run fb calls).log t} := by
  have hle := ncard_bannedAt_le banDuration (run fb calls).log t
  have hlog := log_countP fb calls Op.isFailure
  have hkeys := KeyMap.countP_entries (run fb calls).breaker.states fun state => state.bannedNow t
  unfold Fail2ban.bannedCount
  rw [hkeys]
  simp only [← entry_bannedNow, hon]
  exact Int.bmod_eq_of_le (by omega) (by omega)

end

/-- **The breaker answers what the history of its calls says**, and no call panics, as long as there have been fewer
than 2^32 failures and 2^64 requests and a ban that begins with a failure ends at an `Instant`. -/
theorem breaker_explained (maxFailures banDurationSecs : Nat) (errorThresholdPct : Rat)
    (failStatusCodes : List String) {calls : List Call} {t : Nat} (hordered : calls.Pairwise (·.time ≤ ·.time))
    (ht : ∀ c ∈ calls, c.time ≤ t) (hfailures : calls.countP (·.op.isFailure) < 2 ^ 32)
    (hrequests : calls.countP (·.op.isRequest) < 2 ^ 64)
    (hdeadlines : ∀ c ∈ calls, c.op.isFailure = true → c.time + banDurationSecs * 10 ^ 9 < 2 ^ 63 * 10 ^ 9) :
    ∃ s, runOrPanic (.new maxFailures banDurationSecs errorThresholdPct failStatusCodes) calls = .ok s ∧
      Explained ⟨maxFailures, errorThresholdPct, banDurationSecs * 10 ^ 9⟩ s t := by
  refine ⟨_, runOrPanic_eq hdeadlines, ?_⟩
  have hempty : (Fail2ban.new maxFailures banDurationSecs errorThresholdPct failStatusCodes).states = ∅ := rfl
  have htracks := run_tracks hempty hordered
  have hon := fun k => (htracks k t ht).bannedNow
  constructor
  case banned =>
    intro k
    rw [isBanned_bannedNow]
    exact hon k
  case reason =>
    intro k
    rw [banReason_isSome]
    exact hon k
  case count => exact bannedCount_eq hon hfailures
  case verdicts => exact run_verdicts hempty hordered hfailures hrequests

/-- Two failures a second apart, of which the second leads to a ban. -/
def twoFailures : List Call := [⟨"ep1", .failure 500, 0⟩, ⟨"ep1", .failure 0, 10 ^ 9⟩]

theorem two_failures_explained :
    ∃ s, runOrPanic (.new 2 60 (1 / 2) ["5xx"]) twoFailures = .ok s ∧
      Explained ⟨2, 1 / 2, 60 * 10 ^ 9⟩ s (10 ^ 9) :=
  breaker_explained 2 60 (1 / 2) ["5xx"] (by decide) (by decide) (by decide) (by decide) (by decide)

/-- So many successes and then a failure. -/
def successesThenFailure (n : Nat) : List Call :=
  List.replicate n ⟨"ep1", .success, 0⟩ ++ [⟨"ep1", .failure 500, 0⟩]

section
variable {fb : Fail2ban} {n : Nat}

/-- The log of the successes. -/
theorem successes_log (fb : Fail2ban) (n : Nat) :
    failures "ep1" (run fb (List.replicate n ⟨"ep1", .success, 0⟩)).log = 0 ∧
      requests "ep1" (run fb (List.replicate n ⟨"ep1", .success, 0⟩)).log = n := by
  have hcount : ∀ p : Call → Bool, (run fb (List.replicate n ⟨"ep1", .success, 0⟩)).log.countP (fun e => p e.toCall)
      = if p ⟨"ep1", .success, 0⟩ then n else 0 := by
    intro p
    rw [← List.countP_replicate, ← List.countP_reverse (l := List.replicate n _), ← run_log fb, List.countP_map]
    rfl
  exact ⟨hcount fun c => c.key == "ep1" && c.op.isFailure, hcount fun c => c.key == "ep1" && c.op.isRequest⟩

/-- A failure by which the count of requests wraps to 0 leads to no ban. -/
theorem wrapped_returned (hempty : fb.states = ∅) (hmax : fb.maxFailures = 5) (hwrap : (n + 1) % 2 ^ 64 = 0) :
    ∃ older, (run fb (successesThenFailure n)).log = ⟨⟨"ep1", .failure 500, 0⟩, false⟩ :: older ∧
      failures "ep1" older = 0 ∧ requests "ep1" older = n := by
  obtain ⟨hfailures, hrequests⟩ := successes_log fb n
  have hordered : (List.replicate n (⟨"ep1", .success, 0⟩ : Call)).Pairwise (·.time ≤ ·.time) :=
    List.pairwise_replicate.2 (Or.inr le_rfl)
  have htracks := run_tracks hempty hordered "ep1" 0 fun c hc => by rw [List.eq_of_mem_replicate hc]
  have hrow := failuresInRow_le "ep1" (run fb (List.replicate n ⟨"ep1", .success, 0⟩)).log
  have hstate := htracks.row
  have htotal := htracks.total
  rw [hrequests] at htotal
  rw [show failuresInRow "ep1" _ = 0 by omega] at hstate
  refine ⟨_, ?_, hfailures, hrequests⟩
  unfold successesThenFailure
  rw [run_snoc, call_log, run_rules]
  have hover : ¬ (((run fb (List.replicate n ⟨"ep1", .success, 0⟩)).breaker.entry "ep1").failed 500).overLimit
      fb.rules.maxFailures fb.rules.errorThreshold = true := by
    simp only [EndpointState.overLimit, EndpointState.failed, Fail2ban.rules, hmax, hstate, htotal,
      Bool.or_eq_true, Bool.and_eq_true, decide_eq_true_eq]
    omega
  simp only [Op.step, if_neg hover]

theorem wrapped_not_explained (hwrap : (n + 1) % 2 ^ 64 = 0) (hten : 10 ≤ n + 1) :
    (successesThenFailure n).Pairwise (·.time ≤ ·.time) ∧ (successesThenFailure n).countP (·.op.isFailure) < 2 ^ 32 ∧
      ∃ s, runOrPanic (.new 5 60 0 ["5xx"]) (successesThenFailure n) = .ok s ∧
        ¬ Explained ⟨5, 0, 60 * 10 ^ 9⟩ s 0 := by
  have hdeadlines : ∀ c ∈ successesThenFailure n, c.op.isFailure = true →
      c.time + (Fail2ban.new 5 60 0 ["5xx"]).banDuration < 2 ^ 63 * 10 ^ 9 := by
    intro c hc _
    have htime : c.time = 0 := by
      rcases List.mem_append.1 hc with hc | hc
      · rw [List.eq_of_mem_replicate hc]
      · rw [List.mem_singleton.1 hc]
    rw [htime]
    decide
  refine ⟨?_, ?_, _, runOrPanic_eq hdeadlines, fun h => ?_⟩
  · simp [successesThenFailure, List.pairwise_append, List.pairwise_replicate]
  · simp [successesThenFailure, List.countP_append, List.countP_replicate, Op.isFailure]
  · have hempty : (Fail2ban.new 5 60 0 ["5xx"]).states = ∅ := rfl
    obtain ⟨older, hlog, hfailures, hrequests⟩ := wrapped_returned hempty rfl hwrap
    have hverdict := h.verdicts ⟨⟨"ep1", .failure 500, 0⟩, false⟩ older (by rw [hlog]) rfl
    have hf : failures "ep1" (⟨⟨"ep1", .failure 500, 0⟩, false⟩ :: older) = 1 := by
      simpa [failures, Op.isFailure] using hfailures
    have hr : requests "ep1" (⟨⟨"ep1", .failure 500, 0⟩, false⟩ :: older) = n + 1 := by
      simpa [requests, Op.isRequest] using hrequests
    have hdue : Due ⟨5, 0, 60 * 10 ^ 9⟩ "ep1" (⟨⟨"ep1", .failure 500, 0⟩, false⟩ :: older) := by
      right
      rw [hf, hr]
      exact ⟨hten, div_pos (Nat.cast_pos.2 Nat.one_pos) (Nat.cast_pos.2 (Nat.succ_pos n))⟩
    cases hverdict.2 hdue

end

/-- 2^64 - 1 successes and a failure: the count of requests wraps to 0, below the 10 that the error rate asks
for. -/
theorem wrapped_count_hides_failure :
    (successesThenFailure (2 ^ 64 - 1)).Pairwise (·.time ≤ ·.time) ∧
      (successesThenFailure (2 ^ 64 - 1)).countP (·.op.isFailure) < 2 ^ 32 ∧
      ∃ s, runOrPanic (.new 5 60 0 ["5xx"]) (successesThenFailure (2 ^ 64 - 1)) = .ok s ∧
        ¬ Explained ⟨5, 0, 60 * 10 ^ 9⟩ s 0 :=
  wrapped_not_explained (by decide) (by decide)

end BanHistory

end AiRouter
