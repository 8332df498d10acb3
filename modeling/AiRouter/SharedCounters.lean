import AiRouter.Lib.Steps
import AiRouter.Sync
import Mathlib.Logic.Function.Basic

/-
# The counters that instances share

`check_rate_limit` is two commands: an `INCR`, and, by the caller that it answered 1, an `EXPIRE` whose
outcome nobody looks at. Either can fail, and an instance can go down between them.

| here | there |
| --- | --- |
| `Service.start`   | `SyncStore::connect` or, where it fails, `SyncStore::new()` (main.rs:121-137) |
| `Service.call`, `.verdict` | `check_rate_limit` (redis_sync.rs:91) up to its `EXPIRE`, and what it returns |
| `Service.expire`  | its `EXPIRE` (redis_sync.rs:111) |

`fail_open` is read nowhere.
-/
namespace AiRouter.SharedCounters

/-- What becomes of a command. -/
inductive Fate where
  | answered
  /-- it is not executed -/
  | refused
  /-- it is executed, and its answer is lost -/
  | lost
  /-- it is executed, and the instance goes down -/
  | crashed
deriving DecidableEq, Repr

structure Service where
  now : Nat
  /-- the instances that have a connection -/
  connected : Nat → Bool
  keyPrefix : String
  redis : Redis
  /-- the counters whose `EXPIRE` a call in progress has to send -/
  expiring : List String
  /-- the calls allowed on a counter since it was created -/
  granted : String → Nat

namespace Service

variable (s : Service) (i : Nat) (scope key : String) (limit : Nat) (fate : Fate)

/-- The store as instance `i` sees it. -/
def store : SyncStore where
  connected := s.connected i
  keyPrefix := s.keyPrefix
  redis := s.redis

def rateKey : String := (s.store 0).rateKey scope key

/-- The call sends its `INCR`. -/
def sends : Bool := s.connected i && decide (limit ≠ 0)

/-- The `INCR` of the call and its answer, if there is one. -/
def incr : Redis × Option Nat :=
  if s.sends i limit && fate != .refused then
    let r := s.redis.incr (s.rateKey scope key) s.now
    (r.1, if fate = .answered then r.2 else none)
  else (s.redis, none)

/-- What the call returns; nothing from an instance that has gone down. -/
def verdict : Option RateLimitResult :=
  if s.sends i limit && fate == .crashed then none
  else
    match (s.incr i scope key limit fate).2 with
    | none => some SyncStore.uncounted
    | some count =>
      let allowed := decide (count ≤ limit)
      some { allowed := allowed, limit := limit, resetAfterSecs := if allowed then 0 else 60, scope := .token }

/-- The calls allowed so far on the counter that there is. -/
def grantedSoFar : Nat :=
  if (s.redis.live (s.rateKey scope key) s.now).isSome then s.granted (s.rateKey scope key) else 0

def call : Service :=
  let r := s.incr i scope key limit fate
  let allowed := (s.verdict i scope key limit fate).any (·.allowed)
  { s with
    redis := r.1
    expiring := if r.2 = some 1 then s.rateKey scope key :: s.expiring else s.expiring
    granted := Function.update s.granted (s.rateKey scope key)
      (s.grantedSoFar scope key + if allowed then 1 else 0) }

/-- The `EXPIRE` of a call in progress; `refused` also where its instance has gone down before it. -/
def expire (k : String) : Service :=
  if k ∈ s.expiring then
    { s with
      redis := if fate = .refused then s.redis else s.redis.expire k 60 s.now
      expiring := s.expiring.erase k }
  else s

end Service

inductive Event where
  | tick (duration : Nat)
  /-- an instance starts, and is connected or not from then on -/
  | start (i : Nat) (connected : Bool)
  | call (i : Nat) (scope key : String) (limit : Nat) (fate : Fate)
  | expire (k : String) (fate : Fate)
deriving DecidableEq, Repr

def Event.apply (s : Service) : Event → Service
  | tick duration => { s with now := s.now + duration }
  | start i connected => { s with connected := Function.update s.connected i connected }
  | call i scope key limit fate => s.call i scope key limit fate
  | expire k fate => s.expire fate k

section
variable {s : Service} {i : Nat} {scope key : String} {limit : Nat} {fate : Fate}

theorem not_sends_iff : s.sends i limit = false ↔ ¬ (s.store i).connected = true ∨ limit = 0 := by
  have hconnected : (s.store i).connected = s.connected i := rfl
  rw [hconnected]
  unfold Service.sends
  cases s.connected i <;> simp

theorem incr_answered (h : s.sends i limit = true) :
    s.incr i scope key limit .answered = s.redis.incr (s.rateKey scope key) s.now := by
  simp [Service.incr, h]

theorem incr_unsent (h : s.sends i limit = false) (scope key : String) (fate : Fate) :
    s.incr i scope key limit fate = (s.redis, none) := by
  simp [Service.incr, h]

/-- An undisturbed call, with its `EXPIRE` if it has to send one, is `check_rate_limit`. -/
theorem checkRateLimit_eq (s : Service) (i : Nat) (scope key : String) (limit : Nat) :
    s.verdict i scope key limit .answered = some ((s.store i).checkRateLimit scope key limit s.now).2 ∧
      (if (s.incr i scope key limit .answered).2 = some 1 then
        (s.call i scope key limit .answered).expire .answered (s.rateKey scope key)
       else s.call i scope key limit .answered).store i = ((s.store i).checkRateLimit scope key limit s.now).1 := by
  have hkey : (s.store i).rateKey scope key = s.rateKey scope key := rfl
  unfold SyncStore.checkRateLimit Service.verdict
  cases hsends : s.sends i limit with
  | false =>
    rw [if_pos (not_sends_iff.1 hsends), incr_unsent hsends]
    refine ⟨rfl, ?_⟩
    rw [if_neg (by simp)]
    unfold Service.call
    rw [incr_unsent hsends]
    rfl
  | true =>
    have hon : ¬ (¬ (s.store i).connected = true ∨ limit = 0) := by
      rw [← not_sends_iff, hsends]
      decide
    have hincr : s.incr i scope key limit .answered = s.redis.incr (s.rateKey scope key) s.now :=
      incr_answered hsends
    have hredis : (s.store i).redis = s.redis := rfl
    rw [if_neg hon, hkey, hredis, hincr]
    cases hr : s.redis.incr (s.rateKey scope key) s.now with
    | mk r count =>
      rw [hr] at hincr
      cases count with
      | none =>
        refine ⟨by simp, ?_⟩
        rw [if_neg (by simp)]
        unfold Service.call
        rw [hincr]
        rfl
      | some n =>
        refine ⟨by simp, ?_⟩
        by_cases hone : n = 1
        · subst hone
          rw [if_pos rfl]
          unfold Service.expire Service.call
          rw [hincr]
          simp [Service.store]
        · rw [if_neg (by simpa using hone)]
          unfold Service.call
          rw [hincr]
          simp [Service.store, hone]

end

/-! ## The limit -/

/-- What a step owes: a call that is allowed is counted, and is one of the first `limit` on its counter. -/
def Event.Limited (s : Service) : Event → Prop
  | call i scope key limit fate =>
    (s.verdict i scope key limit fate).any (·.allowed) = true →
      (s.incr i scope key limit fate).2.isSome = true ∧ s.grantedSoFar scope key + 1 ≤ limit
  | _ => True

/-- The call has a limit, its instance a connection, and its `INCR` is answered with a count, unless the
instance goes down over it. -/
def Event.Countable (s : Service) : Event → Prop
  | call i scope key limit fate =>
    s.sends i limit = true ∧ ((s.incr i scope key limit fate).2.isSome = true ∨ fate = .crashed)
  | _ => True

instance (s : Service) : (e : Event) → Decidable (e.Limited s)
  | .tick _ => isTrue trivial
  | .start _ _ => isTrue trivial
  | .call i scope key limit fate => inferInstanceAs (Decidable
      ((s.verdict i scope key limit fate).any (·.allowed) = true →
        (s.incr i scope key limit fate).2.isSome = true ∧ s.grantedSoFar scope key + 1 ≤ limit))
  | .expire _ _ => isTrue trivial

instance (s : Service) : (e : Event) → Decidable (e.Countable s)
  | .tick _ => isTrue trivial
  | .start _ _ => isTrue trivial
  | .call i scope key limit fate => inferInstanceAs (Decidable
      (s.sends i limit = true ∧ ((s.incr i scope key limit fate).2.isSome = true ∨ fate = .crashed)))
  | .expire _ _ => isTrue trivial

/-- The calls allowed on a counter are among those it has counted. -/
def Bounded (s : Service) : Prop := ∀ k e, s.redis.live k s.now = some e → s.granted k ≤ e.value

section
variable {s : Service} {i : Nat} {scope key : String} {limit : Nat} {fate : Fate}

/-- A call without a count is allowed. -/
theorem allowed_of_uncounted (h : (s.incr i scope key limit fate).2 = none)
    (hup : ¬ (s.sends i limit && fate == .crashed) = true) :
    (s.verdict i scope key limit fate).any (·.allowed) = true := by
  unfold Service.verdict
  rw [if_neg hup, h]
  rfl

/-- A call with a count is allowed up to its limit. -/
theorem allowed_of_counted {n : Nat} (h : (s.incr i scope key limit fate).2 = some n)
    (hallowed : (s.verdict i scope key limit fate).any (·.allowed) = true) : n ≤ limit := by
  unfold Service.verdict at hallowed
  split at hallowed
  · cases hallowed
  · rw [h] at hallowed
    simpa using hallowed

theorem not_allowed_of_crashed (hsends : s.sends i limit = true) :
    (s.verdict i scope key limit .crashed).any (·.allowed) = false := by
  unfold Service.verdict
  rw [hsends]
  rfl

/-- A step that keeps to the limit is a countable one: what is not counted is allowed. -/
theorem Event.Limited.countable {e : Event} (h : e.Limited s) : e.Countable s := by
  cases e with
  | tick | start | expire => trivial
  | call i scope key limit fate =>
    cases hsends : s.sends i limit with
    | false =>
      have hnone : (s.incr i scope key limit fate).2 = none := by rw [incr_unsent hsends]
      have hcount := (h (allowed_of_uncounted hnone (by simp [hsends]))).1
      rw [hnone] at hcount
      cases hcount
    | true =>
      refine ⟨hsends, ?_⟩
      by_cases hcrash : fate = .crashed
      · exact Or.inr hcrash
      · refine Or.inl ?_
        by_contra hnone
        rw [Option.not_isSome_iff_eq_none] at hnone
        have hcount := (h (allowed_of_uncounted hnone (by simp [hcrash]))).1
        rw [hnone] at hcount
        cases hcount

/-- What the calls allowed so far come to, against the counter that there is. -/
theorem Bounded.grantedSoFar_le (h : Bounded s) (scope key : String) :
    s.grantedSoFar scope key
      ≤ ((s.redis.live (s.rateKey scope key) s.now).getD { value := 0, expireAt := none }).value := by
  unfold Service.grantedSoFar
  cases hlive : s.redis.live (s.rateKey scope key) s.now with
  | none => exact Nat.le_refl 0
  | some e => exact h _ e hlive

/-- A counted call is answered, with one more than the counter had. -/
theorem incr_counted {n : Nat} (h : (s.incr i scope key limit fate).2 = some n) :
    fate = .answered ∧ s.redis.incr (s.rateKey scope key) s.now = ((s.incr i scope key limit fate).1, some n) := by
  unfold Service.incr at h ⊢
  split at h
  · rename_i hsent
    rw [if_pos hsent]
    dsimp only at h ⊢
    split at h
    · rename_i hanswered
      exact ⟨hanswered, Prod.ext rfl h⟩
    · cases h
  · cases h

/-- An `INCR` is executed or it is not. -/
theorem incr_cases (s : Service) (i : Nat) (scope key : String) (limit : Nat) (fate : Fate) :
    (s.incr i scope key limit fate).1 = s.redis ∨
      s.sends i limit = true ∧ fate ≠ .refused ∧
        ∃ n, s.redis.incr (s.rateKey scope key) s.now = ((s.incr i scope key limit fate).1, some n) := by
  unfold Service.incr
  split
  · rename_i hsent
    rw [Bool.and_eq_true, bne_iff_ne] at hsent
    cases hr : s.redis.incr (s.rateKey scope key) s.now with
    | mk r count =>
      cases count with
      | none => exact Or.inl (Redis.incr_none hr)
      | some n => exact Or.inr ⟨hsent.1, hsent.2, n, rfl⟩
  · exact Or.inl rfl

/-- A call leaves the other counters alone. -/
theorem incr_live_ne {k : String} (hk : k ≠ s.rateKey scope key) (i limit : Nat) (fate : Fate) :
    (s.incr i scope key limit fate).1.live k s.now = s.redis.live k s.now := by
  obtain hsame | ⟨-, -, n, hincr⟩ := incr_cases s i scope key limit fate
  · rw [hsame]
  · have hne := s.redis.incr_lookup_ne s.now hk
    rw [hincr] at hne
    exact Redis.live_congr hne s.now

/-- **Step**, a countable call. -/
theorem Bounded.call (h : Bounded s) (hmeets : Event.Countable s (.call i scope key limit fate)) :
    Bounded (s.call i scope key limit fate) := by
  intro k e hlive
  by_cases hk : k = s.rateKey scope key
  · subst hk
    have hgranted : (s.call i scope key limit fate).granted (s.rateKey scope key)
        = s.grantedSoFar scope key + if (s.verdict i scope key limit fate).any (·.allowed) then 1 else 0 :=
      Function.update_self _ _ _
    have hsofar := h.grantedSoFar_le scope key
    rw [hgranted]
    obtain hcount | rfl := hmeets.2
    · obtain ⟨n, hn⟩ := Option.isSome_iff_exists.1 hcount
      obtain ⟨hentry, hone⟩ := Redis.incr_live (incr_counted hn).2
      obtain rfl := Option.some.inj (hentry.symm.trans hlive)
      dsimp only
      split <;> omega
    · rw [not_allowed_of_crashed hmeets.1]
      obtain hsame | ⟨-, -, n, hincr⟩ := incr_cases s i scope key limit .crashed
      · have hbefore : s.redis.live (s.rateKey scope key) s.now = some e := by
          rw [← hsame]
          exact hlive
        rw [hbefore] at hsofar
        simpa using hsofar
      · obtain ⟨hentry, hone⟩ := Redis.incr_live hincr
        obtain rfl := Option.some.inj (hentry.symm.trans hlive)
        simp only [Bool.false_eq_true, if_false]
        omega
  · have hgranted : (s.call i scope key limit fate).granted k = s.granted k := Function.update_of_ne hk _ _
    rw [hgranted]
    exact h k e ((incr_live_ne hk i limit fate).symm.trans hlive)

/-- **Step**: a countable step keeps the bound. -/
theorem Bounded.apply {e : Event} (h : Bounded s) (hmeets : e.Countable s) : Bounded (e.apply s) := by
  cases e with
  | tick duration => exact fun k e hlive => h k e (Redis.live_of_later (Nat.le_add_right _ _) hlive)
  | start i connected => exact h
  | call i scope key limit fate => exact h.call hmeets
  | expire k fate =>
    unfold Event.apply Service.expire
    dsimp only
    split
    · intro k' e hlive
      dsimp only at hlive ⊢
      split at hlive
      · exact h k' e hlive
      · obtain ⟨e', he', hvalue⟩ := Redis.expire_live hlive
        rw [← hvalue]
        exact h k' e' he'
    · exact h

/-- A countable step keeps to the limit. -/
theorem Event.Countable.limited {e : Event} (hmeets : e.Countable s) (h : Bounded s) : e.Limited s := by
  cases e with
  | tick | start | expire => trivial
  | call i scope key limit fate =>
    intro hallowed
    obtain hcount | rfl := hmeets.2
    · refine ⟨hcount, ?_⟩
      obtain ⟨n, hn⟩ := Option.isSome_iff_exists.1 hcount
      have hle := allowed_of_counted hn hallowed
      have hone := (Redis.incr_live (incr_counted hn).2).2
      have hsofar := h.grantedSoFar_le scope key
      omega
    · rw [not_allowed_of_crashed hmeets.1] at hallowed
      cases hallowed

end

/-- **The shared limits**: over a run, what is allowed is counted and within its limit exactly where every
call could be counted. -/
theorem limited_iff {s : Service} (hstart : ∀ k, s.granted k = 0) (es : List Event) :
    Steps.Every Event.apply Event.Limited s es ↔ Steps.Every Event.apply Event.Countable s es := by
  constructor
  · exact Steps.Every.mono (fun _ _ => Event.Limited.countable) es s
  · intro hmeets
    have hinv : Bounded s := by
      intro k e _
      rw [hstart]
      exact Nat.zero_le _
    exact Steps.every_keeps (fun _ _ hm h => Bounded.apply h hm) (fun _ _ => Event.Countable.limited) es s hmeets hinv

/-! ## Calls beyond the limit -/

/-- Instances on one Redis that holds nothing yet. -/
def service : Service where
  now := 0
  connected := fun _ => true
  keyPrefix := "oar"
  redis := { up := true, entries := ∅ }
  expiring := []
  granted := fun _ => 0

/-- The key of a client's counter. -/
def aliceKey : String := "oar:rl:token:sk-alice"

/-- A limit of one a minute, and two instances that are asked. -/
def twoInstances : List Event :=
  [.call 0 "token" "sk-alice" 1 .answered, .expire aliceKey .answered, .call 1 "token" "sk-alice" 1 .answered]

theorem two_instances_keep_to_the_limit : Steps.Every Event.apply Event.Limited service twoInstances :=
  (limited_iff (fun _ => rfl) twoInstances).2 (by decide)

/-- An instance that found no Redis when it started allows a second call; so does one whose `INCR` fails. -/
theorem uncounted_calls_are_allowed :
    ¬ Steps.Every Event.apply Event.Limited service
      [.call 0 "token" "sk-alice" 1 .answered, .start 1 false, .call 1 "token" "sk-alice" 1 .answered] ∧
    ¬ Steps.Every Event.apply Event.Limited service
      [.call 0 "token" "sk-alice" 1 .answered, .call 1 "token" "sk-alice" 1 .refused] := by
  decide

end AiRouter.SharedCounters
