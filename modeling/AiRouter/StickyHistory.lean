import AiRouter.Lib.Steps
import AiRouter.Stores
import Mathlib.Data.List.Chain

/-
# The sticky store over a sequential history (router/sticky.rs)

An expired entry stays until some `get` or `cleanup` of it. Against that stands the rule of expiry alone: the last
`set` of the session, the accesses since then, and the gaps between them.

| here | there |
| --- | --- |
| `SessionStickyStore.call` | one call of `set`, `get`, `touch` or `cleanup` |
| `History`                 | `touch` comes only from `proxy_handler` (handler.rs:257-268), after a `get` |
-/
namespace AiRouter

inductive StickyOp where
  | set (sessionId : String) (endpointIndex : Nat)
  | get (sessionId : String)
  | touch (sessionId : String)
  | cleanup
deriving DecidableEq, Repr

structure StickyCall where
  time : Nat
  op : StickyOp
deriving DecidableEq, Repr

namespace SessionStickyStore

def new (ttlSecs : Nat) : SessionStickyStore := { sessions := ∅, ttlSecs := ttlSecs }

def call (s : SessionStickyStore) (c : StickyCall) : SessionStickyStore :=
  match c.op with
  | .set sessionId endpointIndex => s.set sessionId endpointIndex c.time
  | .get sessionId => (s.get sessionId c.time).1
  | .touch sessionId => s.touch sessionId c.time
  | .cleanup => s.cleanup c.time

/-- The store after a history. -/
def after (ttlSecs : Nat) (calls : List StickyCall) : SessionStickyStore := Steps.run call (new ttlSecs) calls

/-- What the `get`s of the calls return, in order. -/
def answers (s : SessionStickyStore) : List StickyCall → List (Option Nat)
  | [] => []
  | c :: calls =>
    match c.op with
    | .get sessionId => (s.get sessionId c.time).2 :: answers (s.call c) calls
    | _ => answers (s.call c) calls

end SessionStickyStore

open SessionStickyStore

/-- In order of time, and each `touch` at the time of a `get` of the session that has returned an endpoint. -/
structure History (ttlSecs : Nat) (calls : List StickyCall) : Prop where
  ordered : calls.Pairwise (·.time ≤ ·.time)
  touches : ∀ before later t sessionId, calls = before ++ ⟨t, .touch sessionId⟩ :: later →
    ∃ earlier between, before = earlier ++ ⟨t, .get sessionId⟩ :: between ∧
      ((after ttlSecs earlier).get sessionId t).2.isSome

/-! ## The rule of expiry -/

/-- The gap between two accesses is shorter than the TTL. -/
def Within (ttlSecs a b : Nat) : Prop := b - a < ttlSecs * 10 ^ 9

/-- The last `set` of a session, with the times of the accesses from then on. -/
structure Binding where
  index : Nat
  accesses : List Nat
deriving DecidableEq, Repr

def Binding.step (sessionId : String) (b : Option Binding) (c : StickyCall) : Option Binding :=
  match c.op with
  | .set k i => if k = sessionId then some { index := i, accesses := [c.time] } else b
  | .touch k => if k = sessionId then b.map fun b => { b with accesses := b.accesses ++ [c.time] } else b
  | .get _ | .cleanup => b

def binding (sessionId : String) (calls : List StickyCall) : Option Binding :=
  Steps.run (Binding.step sessionId) none calls

/-- The session is bound to the index at `t`: no gap up to `t` is too long. -/
def BoundAt (ttlSecs : Nat) (calls : List StickyCall) (sessionId : String) (t index : Nat) : Prop :=
  ∃ b, binding sessionId calls = some b ∧ b.index = index ∧ (b.accesses ++ [t]).IsChain (Within ttlSecs)

theorem within_iff {ttlSecs a b : Nat} : (b - a) / 10 ^ 9 < ttlSecs ↔ Within ttlSecs a b := by
  unfold Within
  exact Nat.div_lt_iff_lt_mul (by decide)

theorem Within.mono {ttlSecs a t t' : Nat} (h : Within ttlSecs a t') (hle : t ≤ t') : Within ttlSecs a t := by
  unfold Within at h ⊢
  omega

theorem Within.self {ttlSecs a t : Nat} (h : Within ttlSecs a t) : Within ttlSecs t t := by
  unfold Within at h ⊢
  omega

theorem chain_concat {ttlSecs a t : Nat} {l : List Nat} (ha : l.getLast? = some a) :
    (l ++ [t]).IsChain (Within ttlSecs) ↔ l.IsChain (Within ttlSecs) ∧ Within ttlSecs a t := by
  simp [List.isChain_append, ha]

/-! ## The store against the rule -/

/-- An entry as the rule has it, or gone once it has expired. -/
def Stored (ttlSecs now : Nat) (entry : Option StickyEntry) : Option Binding → Prop
  | none => entry = none
  | some b => b.accesses.IsChain (Within ttlSecs) ∧ ∃ a, b.accesses.getLast? = some a ∧
      (entry = some { endpointIndex := b.index, lastAccess := a } ∨ entry = none ∧ ¬ Within ttlSecs a now)

/-- The rule has the session bound at `t`. -/
def Live (ttlSecs t : Nat) (b : Option Binding) : Prop :=
  ∃ v a, b = some v ∧ v.accesses.getLast? = some a ∧ Within ttlSecs a t

section
variable {ttlSecs now t : Nat} {entry : Option StickyEntry} {b : Option Binding}

theorem Stored.mono (h : Stored ttlSecs now entry b) (hle : now ≤ t) : Stored ttlSecs t entry b := by
  cases b with
  | none => exact h
  | some b =>
    obtain ⟨hchain, a, ha, hentry⟩ := h
    exact ⟨hchain, a, ha, hentry.imp_right fun hgone => ⟨hgone.1, fun hw => hgone.2 (hw.mono hle)⟩⟩

/-- Where a look-up removes what has expired. -/
theorem Stored.filter (h : Stored ttlSecs now entry b) :
    Stored ttlSecs now (entry.filter fun e => (now - e.lastAccess) / 10 ^ 9 < ttlSecs) b := by
  cases b with
  | none =>
    obtain rfl : entry = none := h
    rfl
  | some b =>
    obtain ⟨hchain, a, ha, rfl | ⟨rfl, hgone⟩⟩ := h
    · refine ⟨hchain, a, ha, ?_⟩
      by_cases hw : Within ttlSecs a now
      · exact Or.inl (if_pos (decide_eq_true (within_iff.2 hw)))
      · exact Or.inr ⟨if_neg fun h => hw (within_iff.1 (of_decide_eq_true h)), hw⟩
    · exact ⟨hchain, a, ha, Or.inr ⟨rfl, hgone⟩⟩

/-- What a touch needs: an expired entry may be gone already, and one that is there would live again. -/
theorem Stored.touch (h : Stored ttlSecs now entry b) (hlive : Live ttlSecs now b) :
    Stored ttlSecs now (entry.map fun e => { e with lastAccess := now })
      (b.map fun b => { b with accesses := b.accesses ++ [now] }) := by
  obtain ⟨v, a, rfl, ha, hw⟩ := hlive
  obtain ⟨hchain, a', ha', hentry⟩ := h
  obtain rfl : a = a' := Option.some.inj (ha.symm.trans ha')
  obtain rfl : entry = _ := hentry.resolve_right fun hgone => hgone.2 hw
  exact ⟨(chain_concat ha).2 ⟨hchain, hw⟩, now, by simp, Or.inl rfl⟩

theorem Stored.live_iff (h : Stored ttlSecs now entry b) :
    Live ttlSecs now b ↔ ∃ e, entry = some e ∧ Within ttlSecs e.lastAccess now := by
  constructor
  · rintro ⟨v, a, rfl, ha, hw⟩
    obtain ⟨_, a', ha', hentry⟩ := h
    obtain rfl : a = a' := Option.some.inj (ha.symm.trans ha')
    exact ⟨_, hentry.resolve_right fun hgone => hgone.2 hw, hw⟩
  · rintro ⟨e, rfl, hw⟩
    cases b with
    | none => cases h
    | some v =>
      obtain ⟨_, a, ha, hentry | ⟨hnone, _⟩⟩ := h
      · obtain rfl := Option.some.inj hentry
        exact ⟨v, a, rfl, ha, hw⟩
      · cases hnone

end

/-- What one call does to the entry of a session. -/
theorem lookup_call (s : SessionStickyStore) (c : StickyCall) (sessionId : String) :
    (s.call c).sessions.lookup sessionId =
      let entry := s.sessions.lookup sessionId
      match c.op with
      | .set k i => if k = sessionId then some { endpointIndex := i, lastAccess := c.time } else entry
      | .get k =>
        if k = sessionId then entry.filter fun e => (c.time - e.lastAccess) / 10 ^ 9 < s.ttlSecs else entry
      | .touch k => if k = sessionId then entry.map fun e => { e with lastAccess := c.time } else entry
      | .cleanup => entry.filter fun e => (c.time - e.lastAccess) / 10 ^ 9 < s.ttlSecs := by
  obtain ⟨t, op⟩ := c
  cases op with
  | set k i =>
    by_cases hk : k = sessionId
    · subst hk
      simp [call, SessionStickyStore.set]
    · simp [call, SessionStickyStore.set, hk, AList.lookup_insert_ne (Ne.symm hk)]
  | get k =>
    by_cases hk : k = sessionId
    · subst hk
      simp only [call, SessionStickyStore.get, if_true]
      cases hentry : s.sessions.lookup k with
      | none => simp [hentry]
      | some e =>
        dsimp only
        by_cases hfresh : (t - e.lastAccess) / 10 ^ 9 < s.ttlSecs
        · rw [if_pos hfresh, hentry, Option.filter_some, if_pos (decide_eq_true hfresh)]
        · rw [if_neg hfresh, Option.filter_some, if_neg (by simpa only [decide_eq_true_eq] using hfresh)]
          exact AList.lookup_erase k s.sessions
    · simp only [call, SessionStickyStore.get, if_neg hk]
      split
      · rfl
      · split
        · rfl
        · exact AList.lookup_erase_ne (Ne.symm hk)
  | touch k =>
    by_cases hk : k = sessionId
    · subst hk
      simp [call, SessionStickyStore.touch]
    · simp [call, SessionStickyStore.touch, hk, KeyMap.lookup_adjust_ne _ _ (Ne.symm hk)]
  | cleanup => exact KeyMap.lookup_retain _ _ _

theorem call_ttlSecs (s : SessionStickyStore) (c : StickyCall) : (s.call c).ttlSecs = s.ttlSecs := by
  obtain ⟨t, op⟩ := c
  cases op with
  | get k =>
    simp only [call, SessionStickyStore.get]
    split
    · rfl
    · split <;> rfl
  | _ => rfl

theorem after_ttlSecs (ttlSecs : Nat) (calls : List StickyCall) : (after ttlSecs calls).ttlSecs = ttlSecs := by
  have hevery : Steps.Every call (fun _ _ => True) (new ttlSecs) calls := Steps.every_true calls (new ttlSecs)
  exact Steps.run_keeps (I := fun s => s.ttlSecs = ttlSecs)
    (fun s c _ h => (call_ttlSecs s c).trans h) calls (new ttlSecs) hevery rfl

theorem get_snd (s : SessionStickyStore) (sessionId : String) (t : Nat) :
    (s.get sessionId t).2 = ((s.sessions.lookup sessionId).filter fun e =>
      (t - e.lastAccess) / 10 ^ 9 < s.ttlSecs).map (·.endpointIndex) := by
  unfold SessionStickyStore.get
  cases s.sessions.lookup sessionId with
  | none => rfl
  | some e =>
    dsimp only
    by_cases hfresh : (t - e.lastAccess) / 10 ^ 9 < s.ttlSecs
    · rw [if_pos hfresh, Option.filter_some, if_pos (decide_eq_true hfresh), Option.map_some]
    · rw [if_neg hfresh, Option.filter_some, if_neg (by simpa only [decide_eq_true_eq] using hfresh), Option.map_none]

/-- **One call** keeps the store to the rule. -/
theorem Stored.call {ttlSecs now : Nat} {s : SessionStickyStore} {c : StickyCall} {sessionId : String}
    {b : Option Binding} (hs : s.ttlSecs = ttlSecs) (h : Stored ttlSecs now (s.sessions.lookup sessionId) b)
    (hle : now ≤ c.time) (htouch : c.op = .touch sessionId → Live ttlSecs c.time b) :
    Stored ttlSecs c.time ((s.call c).sessions.lookup sessionId) (Binding.step sessionId b c) := by
  subst hs
  have hnow := h.mono hle
  rw [lookup_call]
  obtain ⟨t, op⟩ := c
  cases op with
  | set k i =>
    dsimp only [Binding.step]
    split
    · exact ⟨List.isChain_singleton t, t, rfl, Or.inl rfl⟩
    · exact hnow
  | get k =>
    dsimp only [Binding.step]
    split
    · exact hnow.filter
    · exact hnow
  | touch k =>
    dsimp only [Binding.step]
    split
    · subst k
      exact hnow.touch (htouch rfl)
    · exact hnow
  | cleanup => exact hnow.filter

/-! ## Histories -/

section
variable {ttlSecs t : Nat} {calls later : List StickyCall} {sessionId : String}

theorem binding_append (sessionId : String) (calls later : List StickyCall) :
    binding sessionId (calls ++ later) = Steps.run (Binding.step sessionId) (binding sessionId calls) later :=
  Steps.run_append _ _ _

theorem after_concat (ttlSecs : Nat) (calls : List StickyCall) (c : StickyCall) :
    after ttlSecs (calls ++ [c]) = (after ttlSecs calls).call c := Steps.run_append _ _ _

theorem History.of_append (h : History ttlSecs (calls ++ later)) : History ttlSecs calls where
  ordered := (List.pairwise_append.1 h.ordered).1
  touches := fun before rest t sessionId hsplit => h.touches before (rest ++ later) t sessionId (by simp [hsplit])

/-- Calls at `t` leave live what is live at `t`. -/
theorem live_run {b : Option Binding} (hcalls : ∀ c ∈ calls, c.time = t) (h : Live ttlSecs t b) :
    Live ttlSecs t (Steps.run (Binding.step sessionId) b calls) := by
  induction calls generalizing b with
  | nil => exact h
  | cons c calls ih =>
    obtain ⟨hc, hrest⟩ := List.forall_mem_cons.1 hcalls
    refine ih hrest ?_
    obtain ⟨v, a, rfl, ha, hw⟩ := h
    obtain ⟨time, op⟩ := c
    obtain rfl : time = t := hc
    cases op with
    | set k i =>
      dsimp only [Binding.step]
      split
      · exact ⟨_, time, rfl, rfl, hw.self⟩
      · exact ⟨v, a, rfl, ha, hw⟩
    | touch k =>
      dsimp only [Binding.step]
      split
      · exact ⟨_, time, rfl, by simp, hw.self⟩
      · exact ⟨v, a, rfl, ha, hw⟩
    | _ => exact ⟨v, a, rfl, ha, hw⟩

theorem Stored.live_of_get {s : SessionStickyStore} {b : Option Binding} (hs : s.ttlSecs = ttlSecs)
    (h : Stored ttlSecs t (s.sessions.lookup sessionId) b) (hget : (s.get sessionId t).2.isSome) :
    Live ttlSecs t b := by
  subst hs
  rw [get_snd, Option.isSome_map] at hget
  obtain ⟨e, he⟩ := Option.isSome_iff_exists.1 hget
  obtain ⟨hentry, hfresh⟩ := Option.filter_eq_some_iff.1 he
  exact h.live_iff.2 ⟨e, hentry, within_iff.1 (of_decide_eq_true hfresh)⟩

/-- **Run**: the induction is on the length, for a touch goes back to the `get` before it. -/
theorem History.stored : ∀ {calls : List StickyCall} {now : Nat}, History ttlSecs calls →
    (∀ c ∈ calls, c.time ≤ now) → ∀ sessionId,
      Stored ttlSecs now ((after ttlSecs calls).sessions.lookup sessionId) (binding sessionId calls) := by
  intro calls
  induction hlen : calls.length using Nat.strong_induction_on generalizing calls with
  | _ n ih =>
  subst hlen
  intro now h hnow sessionId
  rcases List.eq_nil_or_concat calls with rfl | ⟨calls, c, rfl⟩
  · exact AList.lookup_empty sessionId
  rw [List.concat_eq_append] at h hnow ih ⊢
  have hle : ∀ d ∈ calls, d.time ≤ c.time := fun d hd =>
    (List.pairwise_append.1 h.ordered).2.2 d hd c (List.mem_singleton_self c)
  have hbefore := ih calls.length (by simp) rfl h.of_append hle sessionId
  rw [after_concat, binding_append]
  suffices hat : Stored ttlSecs c.time _ _ from hat.mono (hnow c (by simp))
  refine hbefore.call (after_ttlSecs ttlSecs calls) le_rfl fun htouch => ?_
  obtain ⟨t, op⟩ := c
  obtain rfl : op = .touch sessionId := htouch
  obtain ⟨earlier, between, rfl, hget⟩ := h.touches calls [] t sessionId rfl
  -- the `get` has seen the session alive, and no time has passed since
  have hordered := (List.pairwise_append.1 h.ordered).1
  have hearlier : ∀ d ∈ earlier, d.time ≤ t := fun d hd => hle d (by simp [hd])
  have hbetween : ∀ d ∈ between, d.time = t := fun d hd =>
    le_antisymm (hle d (by simp [hd]))
      ((List.pairwise_cons.1 (List.pairwise_append.1 hordered).2.1).1 d hd)
  have hstored := ih earlier.length (by simp) rfl h.of_append.of_append hearlier sessionId
  have hlive := hstored.live_of_get (after_ttlSecs ttlSecs earlier) hget
  rw [binding_append]
  exact live_run (List.forall_mem_cons.2 ⟨rfl, hbetween⟩) hlive

/-- **The answer of `get`** is the rule's. -/
theorem History.get_iff {index : Nat} (h : History ttlSecs calls) (ht : ∀ c ∈ calls, c.time ≤ t) :
    ((after ttlSecs calls).get sessionId t).2 = some index ↔ BoundAt ttlSecs calls sessionId t index := by
  have hstored := h.stored ht sessionId
  rw [get_snd, after_ttlSecs, Option.map_eq_some_iff]
  constructor
  · rintro ⟨e, he, rfl⟩
    obtain ⟨hentry, hfresh⟩ := Option.filter_eq_some_iff.1 he
    obtain ⟨v, a, hv, ha, hw⟩ := hstored.live_iff.2 ⟨e, hentry, within_iff.1 (of_decide_eq_true hfresh)⟩
    rw [hv] at hstored
    obtain ⟨hchain, a', ha', heq | ⟨hnone, _⟩⟩ := hstored
    · rw [hentry] at heq
      obtain rfl := Option.some.inj heq
      exact ⟨v, hv, rfl, (chain_concat ha).2 ⟨hchain, hw⟩⟩
    · rw [hentry] at hnone
      cases hnone
  · rintro ⟨v, hv, rfl, hchain⟩
    rw [hv] at hstored
    obtain ⟨_, a, ha, hentry⟩ := hstored
    have hw := ((chain_concat ha).1 hchain).2
    refine ⟨_, Option.filter_eq_some_iff.2 ⟨hentry.resolve_right fun hgone => hgone.2 hw, ?_⟩, rfl⟩
    exact decide_eq_true (within_iff.2 hw)

end

/-! ## Cleanup -/

def withoutCleanup (calls : List StickyCall) : List StickyCall := calls.filter (·.op ≠ .cleanup)

/-- What the rule answers to a `get`. -/
def Binding.answer (ttlSecs t : Nat) (b : Option Binding) : Option Nat :=
  b.bind fun v => (v.accesses.getLast?.filter fun a => (t - a) / 10 ^ 9 < ttlSecs).map fun _ => v.index

/-- The answers of the rule to the `get`s of the calls, from the bindings before. -/
def expected (ttlSecs : Nat) : (String → Option Binding) → List StickyCall → List (Option Nat)
  | _, [] => []
  | b, c :: calls =>
    let b' sessionId := Binding.step sessionId (b sessionId) c
    match c.op with
    | .get sessionId => Binding.answer ttlSecs c.time (b sessionId) :: expected ttlSecs b' calls
    | _ => expected ttlSecs b' calls

section
variable {ttlSecs t : Nat} {calls calls' : List StickyCall} {sessionId : String}

theorem History.get_eq (h : History ttlSecs calls) (ht : ∀ c ∈ calls, c.time ≤ t) :
    ((after ttlSecs calls).get sessionId t).2 = Binding.answer ttlSecs t (binding sessionId calls) := by
  have hstored := h.stored ht sessionId
  rw [get_snd, after_ttlSecs]
  cases hb : binding sessionId calls with
  | none =>
    rw [hb] at hstored
    have hnone : (after ttlSecs calls).sessions.lookup sessionId = none := hstored
    rw [hnone]
    rfl
  | some v =>
    rw [hb] at hstored
    obtain ⟨_, a, ha, hentry | ⟨hnone, hgone⟩⟩ := hstored
    · rw [hentry, Binding.answer, Option.bind_some, ha, Option.filter_some, Option.filter_some]
      dsimp only
      split <;> rfl
    · have hstale := mt within_iff.1 hgone
      rw [hnone, Binding.answer, Option.bind_some, ha, Option.filter_some,
        if_neg (by simpa only [decide_eq_true_eq] using hstale)]
      rfl

theorem binding_withoutCleanup (sessionId : String) (calls : List StickyCall) :
    binding sessionId (withoutCleanup calls) = binding sessionId calls := by
  unfold binding
  generalize (none : Option Binding) = b
  induction calls generalizing b with
  | nil => rfl
  | cons c calls ih =>
    obtain ⟨time, op⟩ := c
    cases op with
    | cleanup => exact ih b
    | _ => exact ih _

theorem expected_withoutCleanup (b : String → Option Binding) (calls : List StickyCall) :
    expected ttlSecs b (withoutCleanup calls) = expected ttlSecs b calls := by
  induction calls generalizing b with
  | nil => rfl
  | cons c calls ih =>
    obtain ⟨time, op⟩ := c
    cases op with
    | get k => exact congrArg (Binding.answer ttlSecs time (b k) :: ·) (ih _)
    | _ => exact ih _

theorem History.answers_eq (h : History ttlSecs (calls ++ calls')) :
    (after ttlSecs calls).answers calls' = expected ttlSecs (fun sessionId => binding sessionId calls) calls' := by
  induction calls' generalizing calls with
  | nil => rfl
  | cons c calls' ih =>
    have hle : ∀ d ∈ calls, d.time ≤ c.time := fun d hd =>
      (List.pairwise_append.1 h.ordered).2.2 d hd c List.mem_cons_self
    have hrest := @ih (calls ++ [c]) (by simpa using h)
    rw [after_concat] at hrest
    simp only [binding_append] at hrest
    obtain ⟨time, op⟩ := c
    cases op with
    | get k => exact congrArg₂ (· :: ·) (h.of_append.get_eq hle) hrest
    | _ => exact hrest

/-- A call that both histories have splits them alike. -/
theorem split_withoutCleanup {before later : List StickyCall} {c : StickyCall} (hc : c.op ≠ .cleanup)
    (h : withoutCleanup calls = withoutCleanup (before ++ c :: later)) :
    ∃ before' later', calls = before' ++ c :: later' ∧ withoutCleanup before' = withoutCleanup before := by
  unfold withoutCleanup at h ⊢
  rw [List.filter_append, List.filter_cons_of_pos (by simpa using hc), List.filter_eq_append_iff] at h
  obtain ⟨l₁, l₂, rfl, h₁, h₂⟩ := h
  obtain ⟨l₃, l₄, rfl, h₃, _, _⟩ := List.filter_eq_cons_iff.1 h₂
  refine ⟨l₁ ++ l₃, l₄, by simp, ?_⟩
  rw [List.filter_append, h₁, List.filter_eq_nil_iff.2 h₃, List.append_nil]

/-- Calls of `cleanup` put in or taken out leave a history. -/
theorem History.of_withoutCleanup : ∀ {calls' calls : List StickyCall}, History ttlSecs calls →
    calls'.Pairwise (·.time ≤ ·.time) → withoutCleanup calls' = withoutCleanup calls → History ttlSecs calls' := by
  intro calls'
  induction hlen : calls'.length using Nat.strong_induction_on generalizing calls' with
  | _ n ih =>
  subst hlen
  intro calls h hordered heq
  refine ⟨hordered, ?_⟩
  rintro before' later' t k rfl
  obtain ⟨before, later, rfl, hbefore⟩ := split_withoutCleanup (by simp) heq.symm
  obtain ⟨earlier, between, rfl, hget⟩ := h.touches before later t k rfl
  obtain ⟨earlier', between', rfl, hearlier⟩ := split_withoutCleanup (by simp) hbefore.symm
  have hhist : History ttlSecs earlier := h.of_append.of_append
  have hordered' := List.pairwise_append.1 (List.pairwise_append.1 hordered).1
  have hhist' : History ttlSecs earlier' := ih earlier'.length (by simp) rfl hhist hordered'.1 hearlier
  have hle : ∀ d ∈ earlier, d.time ≤ t := fun d hd =>
    (List.pairwise_append.1 h.of_append.ordered).2.2 d hd _ List.mem_cons_self
  have hle' : ∀ d ∈ earlier', d.time ≤ t := fun d hd => hordered'.2.2 d hd _ List.mem_cons_self
  refine ⟨earlier', between', rfl, ?_⟩
  rw [hhist'.get_eq hle', ← binding_withoutCleanup, hearlier, binding_withoutCleanup, ← hhist.get_eq hle]
  exact hget

/-- **The sticky store follows the rule of expiry**, and calls of `cleanup` change no answer. -/
theorem sticky_history (h : History ttlSecs calls) :
    (∀ t sessionId index, (∀ c ∈ calls, c.time ≤ t) →
        (((after ttlSecs calls).get sessionId t).2 = some index ↔ BoundAt ttlSecs calls sessionId t index)) ∧
      ∀ calls', calls'.Pairwise (·.time ≤ ·.time) → withoutCleanup calls' = withoutCleanup calls →
        History ttlSecs calls' ∧ (new ttlSecs).answers calls' = (new ttlSecs).answers calls := by
  refine ⟨fun t sessionId index ht => h.get_iff ht, fun calls' hordered heq => ?_⟩
  have h' := h.of_withoutCleanup hordered heq
  have hanswers : (new ttlSecs).answers calls = _ := @History.answers_eq ttlSecs [] calls h
  have hanswers' : (new ttlSecs).answers calls' = _ := @History.answers_eq ttlSecs [] calls' h'
  refine ⟨h', ?_⟩
  rw [hanswers, hanswers', ← expected_withoutCleanup, heq, expected_withoutCleanup]

end

/-! A TTL of one second, and a touch half a second after the `set`. -/

def touchedCalls : List StickyCall :=
  [⟨0, .set "session-1" 0⟩, ⟨500000000, .get "session-1"⟩, ⟨500000000, .touch "session-1"⟩]

theorem touchedCalls_history : History 1 touchedCalls where
  ordered := by decide
  touches := by
    intro before later t k h
    match before, h with
    | [], h => cases h
    | [_], h => cases h
    | [_, _], h =>
      cases h
      exact ⟨[_], [], rfl, by decide⟩
    | _ :: _ :: _ :: before, h => simp [touchedCalls] at h

theorem sticky_history_touched : ((after 1 touchedCalls).get "session-1" 1200000000).2 = some 0 ∧
    (new 1).answers (touchedCalls ++ [⟨1200000000, .cleanup⟩]) = (new 1).answers touchedCalls :=
  ⟨((sticky_history touchedCalls_history).1 1200000000 "session-1" 0 (by decide)).2 ⟨_, rfl, rfl, by
      simp [Within]⟩,
    ((sticky_history touchedCalls_history).2 _ (by decide) (by decide)).2⟩

end AiRouter
