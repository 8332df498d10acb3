import AiRouter.BanHistory

/-
# Does asking change the answer?

`is_banned` clears a ban that has run out, and the row of failures with it; a failure that comes without
anybody having asked goes on with the old row. Two histories that differ in calls of `is_banned` only, side
by side.
-/
namespace AiRouter.BanHistory

/-! ## Histories with more and with fewer looks -/

def poll (key : String) (time : Nat) : Call := { key := key, op := .isBanned, time := time }

/-- A place of two histories: a call of both, or a look of one of them. -/
inductive Edit where
  | keep (c : Call)
  | insert (key : String) (time : Nat)
  | delete (key : String) (time : Nat)
deriving DecidableEq, Repr

def Edit.before? : Edit → Option Call
  | keep c => some c
  | insert _ _ => none
  | delete key time => some (poll key time)

def Edit.after? : Edit → Option Call
  | keep c => some c
  | insert key time => some (poll key time)
  | delete _ _ => none

def before (edits : List Edit) : List Call := edits.filterMap Edit.before?

def after (edits : List Edit) : List Call := edits.filterMap Edit.after?

section
variable (c : Call) (key : String) (time : Nat) (edits more : List Edit)

@[simp] theorem before_keep : before (.keep c :: edits) = c :: before edits := rfl
@[simp] theorem before_insert : before (.insert key time :: edits) = before edits := rfl
@[simp] theorem before_delete : before (.delete key time :: edits) = poll key time :: before edits := rfl
@[simp] theorem before_append : before (edits ++ more) = before edits ++ before more := List.filterMap_append
@[simp] theorem after_keep : after (.keep c :: edits) = c :: after edits := rfl
@[simp] theorem after_insert : after (.insert key time :: edits) = poll key time :: after edits := rfl
@[simp] theorem after_delete : after (.delete key time :: edits) = after edits := rfl
@[simp] theorem after_append : after (edits ++ more) = after edits ++ after more := List.filterMap_append
@[simp] theorem before_nil : before [] = [] := rfl
@[simp] theorem after_nil : after [] = [] := rfl

end

/-- The calls of both histories return the same in either. -/
def SameAnswers : Fail2ban → Fail2ban → List Edit → Prop
  | _, _, [] => True
  | fb, fb', .keep c :: edits =>
    (c.apply fb).2 = (c.apply fb').2 ∧ SameAnswers (c.apply fb).1 (c.apply fb').1 edits
  | fb, fb', .insert key time :: edits => SameAnswers fb ((poll key time).apply fb').1 edits
  | fb, fb', .delete key time :: edits => SameAnswers ((poll key time).apply fb).1 fb' edits

/-- Inserting and deleting looks, in order of time, changes no answer. -/
def PureObservation (fb : Fail2ban) (calls : List Call) : Prop :=
  ∀ edits, before edits = calls → (after edits).Pairwise (·.time ≤ ·.time) → SameAnswers fb fb edits

/-! ## What the other calls come to -/

/-- What the calls on a key other than `is_banned` come to. -/
structure Unobserved where
  /-- the failures since the last success or reset -/
  row : Nat
  /-- the same, and counted from any later failure by whose time the last ban had run out -/
  rows : List Nat
  requests : Nat
  failures : Nat
  /-- the end of the last ban since the last reset -/
  until_ : Option Nat
deriving DecidableEq, Repr

namespace Unobserved

def fresh : Unobserved where
  row := 0
  rows := [0]
  requests := 0
  failures := 0
  until_ := none

/-- The verdict on a failure, the last of so many in a row. -/
def due (rules : BanRules) (u : Unobserved) (row : Nat) : Bool :=
  decide (rules.maxFailures ≤ row % 2 ^ 32) || (decide (10 ≤ u.requests % 2 ^ 64) &&
    decide (rules.errorThreshold < ((u.failures % 2 ^ 64 : Nat) : Rat) / ((u.requests % 2 ^ 64 : Nat) : Rat)))

/-- The last ban has run out. -/
def ranOut (u : Unobserved) (now : Nat) : Bool := u.until_.any (decide <| · ≤ now)

/-- One more failure. -/
def failed (u : Unobserved) (now : Nat) : Unobserved where
  row := u.row + 1
  rows := (if u.ranOut now then 0 :: u.rows else u.rows).map (· + 1)
  requests := u.requests + 1
  failures := u.failures + 1
  until_ := u.until_

def step (rules : BanRules) (u : Unobserved) (now : Nat) : Op → Unobserved
  | .success => { u with row := 0, rows := [0], requests := u.requests + 1 }
  | .failure _ =>
    if (u.failed now).due rules (u.row + 1) then { u.failed now with until_ := some (now + rules.banDuration) }
    else u.failed now
  | .isBanned => u
  | .reset => { u with row := 0, rows := [0], until_ := none }

/-- What a call should return after these. -/
def answer (rules : BanRules) (u : Unobserved) (now : Nat) : Op → Bool
  | .success => false
  | .failure _ => (u.failed now).due rules (u.row + 1)
  | .isBanned => u.until_.any (decide <| now < ·)
  | .reset => false

/-- The verdict on a failure is the same from wherever the row is counted. -/
def Agrees (rules : BanRules) (u : Unobserved) (now : Nat) : Op → Prop
  | .failure _ => ∀ n ∈ (u.failed now).rows, (u.failed now).due rules n = (u.failed now).due rules (u.row + 1)
  | _ => True

instance (rules : BanRules) (u : Unobserved) (now : Nat) : (op : Op) → Decidable (u.Agrees rules now op)
  | .failure _ => inferInstanceAs (Decidable (∀ n ∈ _, _ = _))
  | .success | .isBanned | .reset => isTrue True.intro

end Unobserved

def note (rules : BanRules) (u : String → Unobserved) (c : Call) : String → Unobserved :=
  Function.update u c.key ((u c.key).step rules c.time c.op)

def unobserved (rules : BanRules) (calls : List Call) : String → Unobserved :=
  Steps.run (note rules) (fun _ => .fresh) calls

/-- So it is at every failure of a history. -/
def RowsAgree (rules : BanRules) (calls : List Call) : Prop :=
  Steps.Every (note rules) (fun u c => (u c.key).Agrees rules c.time c.op) (fun _ => .fresh) calls

instance (rules : BanRules) (calls : List Call) : Decidable (RowsAgree rules calls) :=
  inferInstanceAs (Decidable (Steps.Every _ _ _ _))

/-! ## What a run of the code has to do with it -/

/-- The lifetime counters, which no look touches. -/
structure Totals (u : Unobserved) (state : EndpointState) : Prop where
  requests : state.totalRequests = u.requests % 2 ^ 64
  failures : state.totalFailures = u.failures % 2 ^ 64

/-- The entry of a key in a run whose last call was not after `T`. -/
structure Follows (u : Unobserved) (T : Nat) (state : EndpointState) : Prop where
  totals : Totals u state
  row : ∃ n, state.consecutiveFailures = n % 2 ^ 32 ∧ (n ∈ u.rows ∨ n = 0 ∧ u.ranOut T = true)
  ban : state.bannedUntil = u.until_ ∨ state.bannedUntil = none ∧ u.ranOut T = true

/-- The entry in a run without looks. -/
structure Exact (u : Unobserved) (state : EndpointState) : Prop where
  totals : Totals u state
  row : state.consecutiveFailures = u.row % 2 ^ 32
  ban : state.bannedUntil = u.until_

section
variable {rules : BanRules} {u : Unobserved} {state : EndpointState} {T now : Nat}

theorem Unobserved.ranOut_mono (h : u.ranOut T = true) (hT : T ≤ now) : u.ranOut now = true := by
  unfold Unobserved.ranOut at h ⊢
  rw [Option.any_eq_true] at h ⊢
  obtain ⟨until_, huntil, hle⟩ := h
  exact ⟨until_, huntil, decide_eq_true ((of_decide_eq_true hle).trans hT)⟩

theorem Unobserved.mem_failed_rows {n : Nat} :
    n ∈ (u.failed now).rows ↔ ∃ m, (m ∈ u.rows ∨ m = 0 ∧ u.ranOut now = true) ∧ n = m + 1 := by
  unfold Unobserved.failed
  cases u.ranOut now <;> simp [or_comm, eq_comm]

theorem Totals.step (h : Totals u state) (op : Op) :
    Totals (u.step rules now op) (op.step rules state now).1 := by
  obtain ⟨hrequests, hfailures⟩ := h
  cases op with
  | success =>
    refine ⟨?_, hfailures⟩
    simp [Op.step, EndpointState.succeeded, Unobserved.step, hrequests]
  | failure statusCode =>
    unfold Op.step Unobserved.step
    dsimp only
    constructor <;> split <;> split <;>
      simp [EndpointState.bannedFor, EndpointState.failed, Unobserved.failed, hrequests, hfailures]
  | isBanned =>
    unfold Op.step Unobserved.step
    dsimp only
    split
    · exact ⟨hrequests, hfailures⟩
    · split <;> exact ⟨hrequests, hfailures⟩
  | reset => exact ⟨hrequests, hfailures⟩

/-- The code's verdict on a failure is the verdict on its row. -/
theorem Totals.overLimit (h : Totals u state) {n : Nat} (hrow : state.consecutiveFailures = n % 2 ^ 32)
    (statusCode : Nat) :
    (state.failed statusCode).overLimit rules.maxFailures rules.errorThreshold = (u.failed now).due rules (n + 1) := by
  simp only [EndpointState.overLimit, EndpointState.failed, Unobserved.due, Unobserved.failed, h.requests, h.failures,
    hrow, Nat.mod_add_mod]
  rfl

theorem failure_returned (statusCode : Nat) :
    ((Op.failure statusCode).step rules state now).2
      = (state.failed statusCode).overLimit rules.maxFailures rules.errorThreshold := by
  unfold Op.step
  dsimp only
  split <;> simp [*]

/-- After a failure: the row is one longer, and a ban is set by the verdict. -/
theorem failure_entry (rules : BanRules) (state : EndpointState) (now statusCode : Nat) :
    ((Op.failure statusCode).step rules state now).1.consecutiveFailures = (state.consecutiveFailures + 1) % 2 ^ 32 ∧
      ((Op.failure statusCode).step rules state now).1.bannedUntil =
        if ((Op.failure statusCode).step rules state now).2 then some (now + rules.banDuration)
        else state.bannedUntil := by
  unfold Op.step
  dsimp only
  split <;> exact ⟨rfl, rfl⟩

theorem Unobserved.step_failure (u : Unobserved) (rules : BanRules) (now statusCode : Nat) :
    (u.step rules now (.failure statusCode)).row = u.row + 1 ∧
      (u.step rules now (.failure statusCode)).rows = (u.failed now).rows ∧
      (u.step rules now (.failure statusCode)).until_ =
        if u.answer rules now (.failure statusCode) then some (now + rules.banDuration) else u.until_ := by
  unfold Unobserved.step Unobserved.answer
  dsimp only
  split <;> exact ⟨rfl, rfl, rfl⟩

theorem Exact.fresh : Exact .fresh .fresh := ⟨⟨rfl, rfl⟩, rfl, rfl⟩

/-- A call other than a look. -/
theorem Exact.step (h : Exact u state) {op : Op} (hop : op ≠ .isBanned) :
    Exact (u.step rules now op) (op.step rules state now).1 := by
  refine ⟨h.totals.step op, ?_, ?_⟩
  all_goals cases op with
  | success => first | rfl | exact h.ban
  | failure statusCode =>
    obtain ⟨hrow, hban⟩ := failure_entry rules state now statusCode
    obtain ⟨hrow', -, hban'⟩ := u.step_failure rules now statusCode
    have hverdict : ((Op.failure statusCode).step rules state now).2 = u.answer rules now (.failure statusCode) :=
      (failure_returned statusCode).trans (h.totals.overLimit h.row statusCode)
    first
    | rw [hrow, hrow', h.row, Nat.mod_add_mod]
    | rw [hban, hban', hverdict, h.ban]
  | isBanned => exact absurd rfl hop
  | reset => rfl

theorem Follows.fresh (T : Nat) : Follows .fresh T .fresh :=
  ⟨⟨rfl, rfl⟩, ⟨0, rfl, Or.inl (List.mem_singleton_self 0)⟩, Or.inl rfl⟩

theorem Follows.mono (h : Follows u T state) (hT : T ≤ now) : Follows u now state := by
  obtain ⟨n, hn, hstart⟩ := h.row
  exact ⟨h.totals, ⟨n, hn, hstart.imp_right fun hs => ⟨hs.1, u.ranOut_mono hs.2 hT⟩⟩,
    h.ban.imp_right fun hb => ⟨hb.1, u.ranOut_mono hb.2 hT⟩⟩

theorem Follows.failure (h : Follows u now state) (statusCode : Nat)
    (hagrees : u.Agrees rules now (.failure statusCode)) :
    ((Op.failure statusCode).step rules state now).2 = u.answer rules now (.failure statusCode) ∧
      Follows (u.step rules now (.failure statusCode)) now ((Op.failure statusCode).step rules state now).1 := by
  obtain ⟨n, hn, hstart⟩ := h.row
  have hmem : n + 1 ∈ (u.failed now).rows := Unobserved.mem_failed_rows.2 ⟨n, hstart, rfl⟩
  have hverdict : ((Op.failure statusCode).step rules state now).2 = u.answer rules now (.failure statusCode) := by
    rw [failure_returned, h.totals.overLimit hn]
    exact hagrees (n + 1) hmem
  obtain ⟨hrow, hban⟩ := failure_entry rules state now statusCode
  obtain ⟨-, hrows, huntil⟩ := u.step_failure rules now statusCode
  refine ⟨hverdict, h.totals.step _, ⟨n + 1, ?_, Or.inl (hrows ▸ hmem)⟩, ?_⟩
  · rw [hrow, hn, Nat.mod_add_mod]
  · unfold Unobserved.ranOut
    rw [hban, huntil, hverdict]
    split
    · exact Or.inl rfl
    · exact h.ban

theorem Follows.look (h : Follows u now state) :
    (Op.isBanned.step rules state now).2 = u.answer rules now .isBanned ∧
      Follows u now (Op.isBanned.step rules state now).1 := by
  unfold Op.step Unobserved.answer
  dsimp only
  rcases h.ban with hban | ⟨hnone, hout⟩
  · rw [hban]
    cases huntil : u.until_ with
    | none => exact ⟨rfl, h⟩
    | some until_ =>
      dsimp only
      by_cases hlt : now < until_
      · simp only [if_pos hlt]
        exact ⟨by simp [hlt], h⟩
      · -- the look clears the ban and the row
        simp only [if_neg hlt]
        have hout : u.ranOut now = true := by simp [Unobserved.ranOut, huntil, Nat.not_lt.1 hlt]
        exact ⟨by simp [hlt], ⟨h.totals.requests, h.totals.failures⟩, ⟨0, rfl, Or.inr ⟨rfl, hout⟩⟩,
          Or.inr ⟨rfl, hout⟩⟩
  · -- another look has cleared it before
    rw [hnone]
    refine ⟨?_, h⟩
    unfold Unobserved.ranOut at hout
    rw [Option.any_eq_true] at hout
    obtain ⟨until_, huntil, hle⟩ := hout
    rw [huntil, Option.any_some]
    exact (decide_eq_false (Nat.not_lt.2 (of_decide_eq_true hle))).symm

/-- **A call where the rows agree** returns what it should, whoever has looked before. -/
theorem Follows.step (h : Follows u T state) (hT : T ≤ now) {op : Op} (hagrees : u.Agrees rules now op) :
    (op.step rules state now).2 = u.answer rules now op ∧
      Follows (u.step rules now op) now (op.step rules state now).1 := by
  have h' := h.mono hT
  cases op with
  | success =>
    refine ⟨rfl, h'.totals.step .success, ⟨0, rfl, Or.inl (List.mem_singleton_self 0)⟩, ?_⟩
    unfold Op.step Unobserved.step Unobserved.ranOut
    exact h'.ban
  | failure statusCode => exact h'.failure statusCode hagrees
  | isBanned => exact h'.look
  | reset => exact ⟨rfl, h'.totals.step .reset, ⟨0, rfl, Or.inl (List.mem_singleton_self 0)⟩, Or.inl rfl⟩

end

/-! ## All keys at once -/

/-- What holds of each key's entry after a call, from what the call does to the entry of its own key. -/
theorem entries_after (R R' : Unobserved → EndpointState → Prop) {fb : Fail2ban} {u : String → Unobserved} {c : Call}
    (h : ∀ k, R (u k) (fb.entry k)) (hother : ∀ u s, R u s → R' u s) {u' : Unobserved}
    (hown : R (u c.key) (fb.entry c.key) → R' u' (c.op.step fb.rules (fb.entry c.key) c.time).1) (k : String) :
    R' (Function.update u c.key u' k) ((c.apply fb).1.entry k) := by
  by_cases hk : k = c.key
  · subst hk
    rw [Function.update_self, apply_entry_self]
    exact hown (h c.key)
  · rw [Function.update_of_ne hk, apply_entry_ne fb c hk]
    exact hother _ _ (h k)

@[simp] theorem note_poll (rules : BanRules) (u : String → Unobserved) (key : String) (time : Nat) :
    note rules u (poll key time) = u := Function.update_eq_self _ _

section
variable {fb fb' : Fail2ban} {u : String → Unobserved} {T : Nat} {c : Call}

theorem follows_apply (h : ∀ k, Follows (u k) T (fb.entry k)) (hT : T ≤ c.time)
    (hagrees : (u c.key).Agrees fb.rules c.time c.op) :
    (c.apply fb).2 = (u c.key).answer fb.rules c.time c.op ∧
      ∀ k, Follows (note fb.rules u c k) c.time ((c.apply fb).1.entry k) := by
  have hown := (h c.key).step hT hagrees
  refine ⟨(apply_returned fb c).trans hown.1, ?_⟩
  exact entries_after (fun u s => Follows u T s) (fun u s => Follows u c.time s) h (fun _ _ hs => hs.mono hT)
    fun _ => hown.2

/-- **Two histories side by side**: where the rows agree, looks are not noticed. -/
theorem sameAnswers_of_follows : ∀ (edits : List Edit) {fb fb' : Fail2ban} {u : String → Unobserved} {T T' : Nat},
    fb'.rules = fb.rules → (∀ k, Follows (u k) T (fb.entry k)) → (∀ k, Follows (u k) T' (fb'.entry k)) →
    (before edits).Pairwise (·.time ≤ ·.time) → (∀ c ∈ before edits, T ≤ c.time) →
    (after edits).Pairwise (·.time ≤ ·.time) → (∀ c ∈ after edits, T' ≤ c.time) →
    Steps.Every (note fb.rules) (fun u c => (u c.key).Agrees fb.rules c.time c.op) u (before edits) →
    SameAnswers fb fb' edits
  | [], _, _, _, _, _, _, _, _, _, _, _, _, _ => trivial
  | .keep c :: edits, fb, fb', u, T, T', hrules, h, h', hord, hT, hord', hT', hevery => by
    obtain ⟨hfirst, hord⟩ := List.pairwise_cons.1 hord
    obtain ⟨hfirst', hord'⟩ := List.pairwise_cons.1 hord'
    obtain ⟨hans, hnext⟩ := follows_apply h (hT c List.mem_cons_self) hevery.1
    obtain ⟨hans', hnext'⟩ := follows_apply h' (hT' c List.mem_cons_self) (hrules ▸ hevery.1)
    rw [hrules] at hans' hnext'
    have hagain : ((c.apply fb').1).rules = ((c.apply fb).1).rules := by rw [apply_rules, apply_rules, hrules]
    refine ⟨hans.trans hans'.symm, sameAnswers_of_follows edits hagain hnext hnext' hord hfirst hord' hfirst' ?_⟩
    rw [apply_rules]
    exact hevery.2
  | .insert key time :: edits, fb, fb', u, T, T', hrules, h, h', hord, hT, hord', hT', hevery => by
    obtain ⟨hfirst', hord'⟩ := List.pairwise_cons.1 hord'
    obtain ⟨-, hnext'⟩ := follows_apply (c := poll key time) h' (hT' _ List.mem_cons_self) trivial
    rw [note_poll] at hnext'
    exact sameAnswers_of_follows edits ((apply_rules _ _).trans hrules) h hnext' hord hT hord' hfirst' hevery
  | .delete key time :: edits, fb, fb', u, T, T', hrules, h, h', hord, hT, hord', hT', hevery => by
    obtain ⟨hfirst, hord⟩ := List.pairwise_cons.1 hord
    obtain ⟨-, hnext⟩ := follows_apply (c := poll key time) h (hT _ List.mem_cons_self) trivial
    rw [note_poll] at hnext
    have hagain : fb'.rules = (((poll key time).apply fb).1).rules := hrules.trans (apply_rules _ _).symm
    have hevery' := hevery.2
    rw [note_poll] at hevery'
    refine sameAnswers_of_follows edits hagain hnext h' hord hfirst hord' hT' ?_
    rw [apply_rules]
    exact hevery'

theorem follows_new {fb : Fail2ban} (hempty : fb.states = ∅) (T : Nat) (k : String) :
    Follows .fresh T (fb.entry k) := entry_empty hempty k ▸ Follows.fresh T

theorem pure_of_rowsAgree {fb : Fail2ban} {calls : List Call} (hempty : fb.states = ∅)
    (hordered : calls.Pairwise (·.time ≤ ·.time)) (h : RowsAgree fb.rules calls) : PureObservation fb calls := by
  rintro edits rfl hafter
  exact sameAnswers_of_follows edits rfl (follows_new hempty 0) (follows_new hempty 0) hordered
    (fun _ _ => Nat.zero_le _) hafter (fun _ _ => Nat.zero_le _) h

/-! ## A look at the right place -/

def breakerAfter (fb : Fail2ban) (calls : List Call) : Fail2ban := Steps.run (fun fb c => (c.apply fb).1) fb calls

theorem breakerAfter_snoc (fb : Fail2ban) (calls : List Call) (c : Call) :
    breakerAfter fb (calls ++ [c]) = (c.apply (breakerAfter fb calls)).1 := Steps.run_append _ _ _

theorem breakerAfter_rules (fb : Fail2ban) (calls : List Call) : (breakerAfter fb calls).rules = fb.rules :=
  Steps.run_keeps (P := fun _ _ => True) (I := fun fb' : Fail2ban => fb'.rules = fb.rules)
    (fun _ c _ h => (apply_rules _ c).trans h) calls fb (Steps.every_true _ _) rfl

theorem unobserved_snoc (rules : BanRules) (calls : List Call) (c : Call) :
    unobserved rules (calls ++ [c]) = note rules (unobserved rules calls) c := Steps.run_append _ _ _

/-- What is kept in common comes out the same in either history. -/
theorem sameAnswers_append : ∀ (edits : List Edit) {fb fb' : Fail2ban} {more : List Edit},
    SameAnswers fb fb' (edits ++ more) →
      SameAnswers (breakerAfter fb (before edits)) (breakerAfter fb' (after edits)) more
  | [], _, _, _, h => h
  | .keep _ :: edits, _, _, _, h => sameAnswers_append edits h.2
  | .insert _ _ :: edits, _, _, _, h => sameAnswers_append edits h
  | .delete _ _ :: edits, _, _, _, h => sameAnswers_append edits h

/-- The lifetime counters of the second history are those of the first. -/
theorem totals_after {fb : Fail2ban} (hempty : fb.states = ∅) (edits : List Edit) : ∀ k,
    Totals (unobserved fb.rules (before edits) k) ((breakerAfter fb (after edits)).entry k) := by
  induction edits using List.reverseRecOn with
  | nil => exact fun k => (follows_new hempty 0 k).totals
  | append_singleton edits e ih =>
    have happly : ∀ c : Call, ∀ k, Totals (note fb.rules (unobserved fb.rules (before edits)) c k)
        ((c.apply (breakerAfter fb (after edits))).1.entry k) := by
      intro c
      refine entries_after Totals Totals ih (fun _ _ hs => hs) fun hs => ?_
      rw [breakerAfter_rules]
      exact hs.step c.op
    cases e with
    | keep c => simpa [unobserved_snoc, breakerAfter_snoc] using happly c
    | insert key time => simpa [breakerAfter_snoc] using happly (poll key time)
    | delete key time => simpa [unobserved_snoc] using ih

/-- Every look deleted. -/
def unpolled (calls : List Call) : List Edit :=
  calls.map fun c => if c.op = .isBanned then .delete c.key c.time else .keep c

theorem before_unpolled (calls : List Call) : before (unpolled calls) = calls := by
  induction calls with
  | nil => rfl
  | cons c calls ih =>
    obtain ⟨key, op, time⟩ := c
    cases op <;> simpa [unpolled, poll] using ih

theorem after_unpolled (calls : List Call) : after (unpolled calls) = calls.filter (·.op ≠ .isBanned) := by
  induction calls with
  | nil => rfl
  | cons c calls ih =>
    obtain ⟨key, op, time⟩ := c
    cases op <;> simpa [unpolled] using ih

/-- Without looks the row and the ban are what the other calls come to. -/
theorem exact_unpolled {fb : Fail2ban} (hempty : fb.states = ∅) (calls : List Call) : ∀ k,
    Exact (unobserved fb.rules calls k) ((breakerAfter fb (after (unpolled calls))).entry k) := by
  induction calls using List.reverseRecOn with
  | nil => exact fun k => (entry_empty hempty k).symm ▸ Exact.fresh
  | append_singleton calls c ih =>
    rw [after_unpolled, List.filter_append, unobserved_snoc]
    rw [after_unpolled] at ih
    obtain ⟨key, op, time⟩ := c
    by_cases hop : op = .isBanned
    · subst hop
      have hnote : note fb.rules (unobserved fb.rules calls) ⟨key, .isBanned, time⟩ = unobserved fb.rules calls :=
        note_poll fb.rules _ key time
      simpa [hnote] using ih
    · simp only [hop, ne_eq, not_false_eq_true, decide_true, List.filter_cons_of_pos, List.filter_nil,
        breakerAfter_snoc]
      refine entries_after Exact Exact ih (fun _ _ hs => hs) fun hs => ?_
      rw [breakerAfter_rules]
      exact hs.step hop

end

/-- The edits lead from these calls to calls by the time `T`. -/
structure LeadsTo (calls : List Call) (T : Nat) (edits : List Edit) : Prop where
  before : before edits = calls
  ordered : (after edits).Pairwise (·.time ≤ ·.time)
  by_ : ∀ c ∈ after edits, c.time ≤ T

section
variable {fb : Fail2ban} {calls : List Call} {T n : Nat} {c : Call} {k : String} {edits : List Edit}

theorem leadsTo_unpolled (hord : calls.Pairwise (·.time ≤ ·.time)) (hT : ∀ c ∈ calls, c.time ≤ T) :
    LeadsTo calls T (unpolled calls) := by
  refine ⟨before_unpolled calls, ?_, ?_⟩
  · rw [after_unpolled]
    exact hord.filter _
  · intro x hx
    rw [after_unpolled] at hx
    exact hT x (List.mem_of_mem_filter hx)

theorem LeadsTo.keep (h : LeadsTo calls c.time edits) (hT : c.time ≤ T) :
    LeadsTo (calls ++ [c]) T (edits ++ [.keep c]) := by
  refine ⟨by simp [h.before], ?_, ?_⟩
  · simpa [List.pairwise_append] using ⟨h.ordered, h.by_⟩
  · simpa using fun x hx => hx.elim (fun hx => (h.by_ x hx).trans hT) fun hx => hx ▸ hT

theorem LeadsTo.look (h : LeadsTo calls T edits) (k : String) : LeadsTo calls T (edits ++ [.insert k T]) := by
  refine ⟨by simp [h.before], ?_, ?_⟩
  · simpa [List.pairwise_append, poll] using ⟨h.ordered, h.by_⟩
  · simpa using fun x hx => hx.elim (h.by_ x) fun hx => hx ▸ le_rfl

/-- The row of a key after some edits. -/
def rowAfter (fb : Fail2ban) (edits : List Edit) (k : String) : Nat :=
  ((breakerAfter fb (after edits)).entry k).consecutiveFailures

theorem rowAfter_keep (fb : Fail2ban) (edits : List Edit) (c : Call) (k : String) :
    rowAfter fb (edits ++ [.keep c]) k =
      if c.key = k then (c.op.step fb.rules ((breakerAfter fb (after edits)).entry k) c.time).1.consecutiveFailures
      else rowAfter fb edits k := by
  unfold rowAfter
  rw [after_append, after_keep, after_nil, breakerAfter_snoc]
  by_cases hk : c.key = k
  · subst hk
    rw [if_pos rfl, apply_entry_self, breakerAfter_rules]
  · rw [if_neg hk, apply_entry_ne _ c (Ne.symm hk)]

/-- A look that finds the ban to be over, all others deleted. -/
theorem row_after_look (hempty : fb.states = ∅) (hout : (unobserved fb.rules calls k).ranOut T = true) :
    rowAfter fb (unpolled calls ++ [.insert k T]) k = 0 := by
  have hexact := exact_unpolled hempty calls k
  unfold Unobserved.ranOut at hout
  rw [Option.any_eq_true, ← hexact.ban] at hout
  obtain ⟨until_, huntil, hle⟩ := hout
  have hstep : (Op.isBanned.step fb.rules ((breakerAfter fb (after (unpolled calls))).entry k) T).1
      = ((breakerAfter fb (after (unpolled calls))).entry k).unbanned := by
    simp only [Op.step, huntil, if_neg (Nat.not_lt.2 (of_decide_eq_true hle))]
  have hself := apply_entry_self (breakerAfter fb (after (unpolled calls))) (poll k T)
  rw [breakerAfter_rules] at hself
  unfold rowAfter
  rw [after_append, after_insert, after_nil, breakerAfter_snoc]
  exact (congrArg (·.consecutiveFailures) hself).trans (congrArg (·.consecutiveFailures) hstep)

/-- One more call: it is kept, and a look is deleted. -/
theorem edits_with_row_snoc (hord : calls.Pairwise (·.time ≤ ·.time)) (hlast : ∀ x ∈ calls, x.time ≤ c.time)
    (hcT : c.time ≤ T)
    (ih : ∀ m, (m ∈ (unobserved fb.rules calls k).rows ∨ m = 0 ∧ (unobserved fb.rules calls k).ranOut c.time = true) →
      ∃ edits, LeadsTo calls c.time edits ∧ rowAfter fb edits k = m % 2 ^ 32)
    (hrows : n ∈ (unobserved fb.rules (calls ++ [c]) k).rows) :
    ∃ edits, LeadsTo (calls ++ [c]) T edits ∧ rowAfter fb edits k = n % 2 ^ 32 := by
  rw [unobserved_snoc] at hrows
  unfold note at hrows
  by_cases hk : c.key = k
  · subst hk
    rw [Function.update_self] at hrows
    obtain ⟨key, op, time⟩ := c
    cases op with
    | success =>
      refine ⟨_, (leadsTo_unpolled hord hlast).keep hcT, ?_⟩
      rw [rowAfter_keep, if_pos rfl, List.mem_singleton.1 hrows]
      rfl
    | failure statusCode =>
      rw [(Unobserved.step_failure _ _ _ statusCode).2.1] at hrows
      obtain ⟨m, hstart, rfl⟩ := Unobserved.mem_failed_rows.1 hrows
      obtain ⟨edits, hleads, hrow⟩ := ih m hstart
      refine ⟨_, hleads.keep hcT, ?_⟩
      rw [rowAfter_keep, if_pos rfl, (failure_entry _ _ _ statusCode).1]
      unfold rowAfter at hrow
      rw [hrow, Nat.mod_add_mod]
    | isBanned =>
      obtain ⟨edits, hleads, hrow⟩ := ih n (Or.inl hrows)
      refine ⟨edits ++ [.delete key time], ⟨?_, ?_, ?_⟩, ?_⟩
      · simp [hleads.before, poll]
      · simpa using hleads.ordered
      · simpa using fun x hx => (hleads.by_ x hx).trans hcT
      · simpa [rowAfter] using hrow
    | reset =>
      refine ⟨_, (leadsTo_unpolled hord hlast).keep hcT, ?_⟩
      rw [rowAfter_keep, if_pos rfl, List.mem_singleton.1 hrows]
      rfl
  · rw [Function.update_of_ne (Ne.symm hk)] at hrows
    obtain ⟨edits, hleads, hrow⟩ := ih n (Or.inl hrows)
    refine ⟨_, hleads.keep hcT, ?_⟩
    rw [rowAfter_keep, if_neg hk, hrow]

/-- **A history for each row**: with a look at the right place, or none, the row of a key is any of those that
it may be counted as. -/
theorem edits_with_row (hempty : fb.states = ∅) (calls : List Call) (k : String) :
    ∀ (T n : Nat), calls.Pairwise (·.time ≤ ·.time) → (∀ c ∈ calls, c.time ≤ T) →
      (n ∈ (unobserved fb.rules calls k).rows ∨ n = 0 ∧ (unobserved fb.rules calls k).ranOut T = true) →
      ∃ edits, LeadsTo calls T edits ∧ rowAfter fb edits k = n % 2 ^ 32 := by
  induction calls using List.reverseRecOn with
  | nil =>
    intro T n _ _ hn
    have hzero : n = 0 := hn.elim List.mem_singleton.1 And.left
    subst hzero
    refine ⟨[], ⟨rfl, List.Pairwise.nil, by simp⟩, ?_⟩
    show (fb.entry k).consecutiveFailures = 0
    rw [entry_empty hempty]
    rfl
  | append_singleton calls c ih =>
    intro T n hord hT hn
    rcases hn with hrows | ⟨rfl, hout⟩
    · obtain ⟨hcalls, -, hlast⟩ := List.pairwise_append.1 hord
      have hlast' : ∀ x ∈ calls, x.time ≤ c.time := fun x hx => hlast x hx c List.mem_cons_self
      exact edits_with_row_snoc hcalls hlast' (hT c (by simp)) (fun m => ih c.time m hcalls hlast') hrows
    · exact ⟨_, (leadsTo_unpolled hord hT).look k, row_after_look hempty hout⟩

/-! ## The law -/

/-- A failure after some edits is judged by its row. -/
theorem failure_after (hempty : fb.states = ∅) (statusCode : Nat) (hc : c.op = .failure statusCode)
    (hbefore : before edits = calls) (hrow : rowAfter fb edits c.key = n % 2 ^ 32) :
    (c.apply (breakerAfter fb (after edits))).2
      = ((unobserved fb.rules calls c.key).failed c.time).due fb.rules (n + 1) := by
  have htotals := totals_after hempty edits c.key
  rw [hbefore] at htotals
  rw [apply_returned, breakerAfter_rules, hc, failure_returned]
  exact htotals.overLimit hrow statusCode

theorem keep_all (calls : List Call) :
    before (calls.map Edit.keep) = calls ∧ after (calls.map Edit.keep) = calls := by
  induction calls with
  | nil => exact ⟨rfl, rfl⟩
  | cons c calls ih => exact ⟨congrArg (c :: ·) ih.1, congrArg (c :: ·) ih.2⟩

/-- What a failure returns after any edits is what it returns in the history itself. -/
theorem rowsAgree_of_pure (hempty : fb.states = ∅) (hordered : calls.Pairwise (·.time ≤ ·.time))
    (h : PureObservation fb calls) : RowsAgree fb.rules calls := by
  refine (Steps.every_iff_forall calls _).2 fun pre c post hsplit => ?_
  subst hsplit
  obtain ⟨hpre, htail, hlast⟩ := List.pairwise_append.1 hordered
  have hlast' : ∀ x ∈ pre, x.time ≤ c.time := fun x hx => hlast x hx c List.mem_cons_self
  -- what the failure returns after any edits is what it returns in the history itself
  have hsame : ∀ edits, LeadsTo pre c.time edits →
      (c.apply (breakerAfter fb pre)).2 = (c.apply (breakerAfter fb (after edits))).2 := by
    intro edits hleads
    obtain ⟨hbefore, hafter⟩ := keep_all post
    have hanswers := h (edits ++ .keep c :: post.map .keep) (by simp [hleads.before, hbefore]) (by
      rw [after_append, after_keep, hafter]
      refine List.pairwise_append.2 ⟨hleads.ordered, htail, fun x hx y hy => (hleads.by_ x hx).trans ?_⟩
      rcases List.mem_cons.1 hy with rfl | hy
      · exact le_rfl
      · exact (List.pairwise_cons.1 htail).1 y hy)
    have hat := (sameAnswers_append edits hanswers).1
    rwa [hleads.before] at hat
  obtain ⟨key, op, time⟩ := c
  cases op with
  | failure statusCode =>
    intro n hn
    obtain ⟨m, hstart, rfl⟩ := Unobserved.mem_failed_rows.1 hn
    obtain ⟨edits, hleads, hrow⟩ := edits_with_row hempty pre key time m hpre hlast' hstart
    have hedited := hsame edits hleads
    have hplain := hsame (unpolled pre) (leadsTo_unpolled hpre hlast')
    have hrow' := (exact_unpolled hempty pre key).row
    rw [failure_after (c := ⟨key, .failure statusCode, time⟩) hempty statusCode rfl hleads.before hrow] at hedited
    rw [failure_after (c := ⟨key, .failure statusCode, time⟩) hempty statusCode rfl (before_unpolled pre) hrow']
      at hplain
    exact hedited.symm.trans hplain
  | success => exact True.intro
  | isBanned => exact True.intro
  | reset => exact True.intro

end

/-- **Asking is a pure observation exactly if the rows agree**: at every failure the verdict is the same, whether
the row is counted from the last success or reset or from a later failure that came after a ban had run out. -/
theorem pure_observation_iff (maxFailures banDurationSecs : Nat) (errorThresholdPct : Rat)
    (failStatusCodes : List String) {calls : List Call} (hordered : calls.Pairwise (·.time ≤ ·.time)) :
    PureObservation (.new maxFailures banDurationSecs errorThresholdPct failStatusCodes) calls ↔
      RowsAgree ⟨maxFailures, errorThresholdPct, banDurationSecs * 10 ^ 9⟩ calls := by
  have hempty : (Fail2ban.new maxFailures banDurationSecs errorThresholdPct failStatusCodes).states = ∅ := rfl
  exact ⟨rowsAgree_of_pure hempty hordered, pure_of_rowsAgree hempty hordered⟩

/-- Two failures that lead to a ban of a minute, and a third when it is over. -/
def failureAfterBan : List Call :=
  [⟨"ep1", .failure 500, 0⟩, ⟨"ep1", .failure 500, 10 ^ 9⟩, ⟨"ep1", .failure 500, 62 * 10 ^ 9⟩]

/-- Nobody asks, and the third failure is banned at once; somebody has asked, and it is not. -/
theorem asking_prevents_ban :
    let fb : Fail2ban := .new 2 60 (1 / 2) ["5xx"]
    let asked : List Call := [⟨"ep1", .failure 500, 0⟩, ⟨"ep1", .failure 500, 10 ^ 9⟩, poll "ep1" (62 * 10 ^ 9),
      ⟨"ep1", .failure 500, 62 * 10 ^ 9⟩]
    ((run fb failureAfterBan).log.head?.map (·.returned)) = some true ∧
      ((run fb asked).log.head?.map (·.returned)) = some false ∧
      failureAfterBan.Pairwise (·.time ≤ ·.time) ∧ ¬ PureObservation fb failureAfterBan := by
  refine ⟨by decide +kernel, by decide +kernel, by decide, fun h => ?_⟩
  have hedits := h [.keep ⟨"ep1", .failure 500, 0⟩, .keep ⟨"ep1", .failure 500, 10 ^ 9⟩, .insert "ep1" (62 * 10 ^ 9),
    .keep ⟨"ep1", .failure 500, 62 * 10 ^ 9⟩] rfl (by decide)
  exact absurd hedits.2.2.1 (by decide +kernel)

/-- Failures far apart, each of them banned by itself. -/
theorem single_failures_are_pure :
    PureObservation (.new 1 60 (1 / 2) ["5xx"]) failureAfterBan :=
  (pure_observation_iff 1 60 (1 / 2) ["5xx"] (by decide)).2 (by decide +kernel)

end AiRouter.BanHistory
