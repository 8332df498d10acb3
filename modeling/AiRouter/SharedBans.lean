import AiRouter.Checker
import AiRouter.Generic
import AiRouter.Lib.Steps
import Mathlib.Logic.Function.Basic

/-
# Bans in several instances

Every instance has a breaker of its own. `proxy_handler` spawns a task that writes its bans to Redis, for
60 seconds whatever the breaker's duration; `proxy_generic` and the health checker tell nobody, and a
health check that passes lifts the ban in its own breaker only.

| here | there |
| --- | --- |
| `Cluster.fail`       | `record_failure_with_code` at an instance, with what its caller does on a ban |
| `Event.handler`      | handler.rs:527-536, 722-735; the spawned task is `Event.write` |
| `Event.generic`      | handler.rs:1283, 1298, 1402, 1466 |
| `Event.probe`        | checker.rs:157-190, as `AppState.probed` has it |
| `Event.count`, `.bind`, `.session` | the other traffic of `SyncStore` |
-/
namespace AiRouter

/-- Would a failure now ban the endpoint? -/
def Fail2ban.wouldBan (fb : Fail2ban) (k : String) : Bool :=
  (((fb.states.lookup k).getD .fresh).failed 0).overLimit fb.maxFailures fb.errorThreshold

theorem Fail2ban.recordFailureWithCode_snd (fb : Fail2ban) (k : String) (status now : Nat) :
    (fb.recordFailureWithCode k status now).2 = fb.wouldBan k := by
  have hsame : (((fb.states.lookup k).getD .fresh).failed status).overLimit fb.maxFailures fb.errorThreshold
      = fb.wouldBan k := rfl
  unfold recordFailureWithCode
  dsimp only
  rw [hsame]
  cases fb.wouldBan k <;> rfl

/-! ## What leaves the bans in Redis alone -/

/-- The connection and what is kept about bans are the same. -/
structure SyncStore.KeepsBans (s s' : SyncStore) : Prop where
  connected : s'.connected = s.connected
  up : s'.redis.up = s.redis.up
  keyPrefix : s'.keyPrefix = s.keyPrefix
  bans : ∀ k, s'.redis.entries.lookup (s.banKey k) = s.redis.entries.lookup (s.banKey k)

namespace SyncStore

variable (s : SyncStore)

/-- `is_banned` depends on the connection and on the entry of the ban. -/
theorem isBanned_congr {s s' : SyncStore} {k : String} (hconnected : s'.connected = s.connected)
    (hup : s'.redis.up = s.redis.up) (hsameKey : s'.keyPrefix = s.keyPrefix)
    (hentry : s'.redis.entries.lookup (s.banKey k) = s.redis.entries.lookup (s.banKey k)) (now : Nat) :
    s'.isBanned k now = s.isBanned k now := by
  have hkey : s'.banKey k = s.banKey k := by
    unfold banKey
    rw [hsameKey]
  unfold isBanned Redis.exists_ Redis.live
  rw [hkey, hconnected, hup, hentry]

theorem setBan_connected (k : String) (secs now : Nat) : (s.setBan k secs now).connected = s.connected := by
  unfold setBan
  split <;> rfl

theorem setBan_up (k : String) (secs now : Nat) : (s.setBan k secs now).redis.up = s.redis.up := by
  unfold setBan
  split
  · exact s.redis.setEx_up _ _ _ _
  · rfl

theorem setBan_lookup_self {s : SyncStore} (hconnected : s.connected = true) (hup : s.redis.up = true) (k : String)
    {secs : Nat} (hsecs : 0 < secs) (now : Nat) :
    (s.setBan k secs now).redis.entries.lookup (s.banKey k)
      = some { value := 1, expireAt := some (now + secs * 10 ^ 9) } := by
  unfold setBan Redis.setEx
  rw [if_pos hconnected, if_pos ⟨hup, hsecs⟩]
  exact AList.lookup_insert _

theorem keepsBans_refl : s.KeepsBans s := ⟨rfl, rfl, rfl, fun _ => rfl⟩

theorem checkRateLimit_keepsBans (scope key : String) (limit now : Nat) :
    s.KeepsBans (s.checkRateLimit scope key limit now).1 := by
  have honly := s.checkRateLimit_onlyAt scope key limit now
  refine ⟨?_, ?_, honly.keyPrefix, fun k => honly.others _ (s.rateKey_ne_banKey scope key k).symm⟩
  · unfold checkRateLimit
    split
    · rfl
    · split <;> rfl
  · have hincr := s.redis.incr_up (s.rateKey scope key) now
    unfold checkRateLimit
    split
    · rfl
    · split
      · rename_i r hr
        rw [hr] at hincr
        exact hincr
      · rename_i r n hr
        rw [hr] at hincr
        dsimp only
        split
        · rw [Redis.expire_up]
          exact hincr
        · exact hincr

theorem setSticky_keepsBans (sid : String) (index ttl now : Nat) : s.KeepsBans (s.setSticky sid index ttl now) := by
  unfold setSticky
  split
  · exact ⟨rfl, Redis.setEx_up _ _ _ _ _, rfl,
      fun k => s.redis.setEx_lookup_ne index ttl now (s.banKey_ne_stickyKey k sid)⟩
  · exact s.keepsBans_refl

theorem getSticky_keepsBans (sid : String) (now : Nat) : s.KeepsBans (s.getSticky sid now).1 := by
  unfold getSticky
  split
  · split
    · exact ⟨rfl, Redis.expire_up _ _ _ _, rfl,
        fun k => Redis.expire_lookup_ne s.redis 300 now (s.banKey_ne_stickyKey k sid)⟩
    · exact s.keepsBans_refl
  · exact s.keepsBans_refl

end SyncStore

namespace SharedBans

inductive WriteState where
  /-- there is no write -/
  | never
  /-- its task has been spawned -/
  | pending
  | applied
deriving DecidableEq, Repr

/-- A ban that some instance has set. -/
structure Ban where
  key : String
  /-- the end of its duration -/
  until_ : Nat
  write : WriteState
  /-- an instance has unbanned the endpoint since -/
  lifted : Bool
deriving DecidableEq, Repr

/-- The instances on one Redis, and the bans so far. -/
structure Cluster where
  now : Nat
  breakers : Nat → Fail2ban
  /-- the store that all of them are connected to -/
  store : SyncStore
  bans : List Ban
  /-- the endpoints that have been unbanned and not banned again -/
  lifted : List String

namespace Cluster

variable (c : Cluster)

def setBreaker (i : Nat) (fb : Fail2ban) : Cluster := { c with breakers := Function.update c.breakers i fb }

def noteBan (b : Ban) : Cluster := { c with bans := b :: c.bans, lifted := c.lifted.filter (· ≠ b.key) }

def noteUnban (k : String) : Cluster :=
  { c with
    bans := c.bans.map fun b => if b.key = k then { b with lifted := true } else b
    lifted := k :: c.lifted }

/-- A failure at instance `i`, whose ban is written as `write` says. -/
def fail (i : Nat) (k : String) (status : Nat) (write : WriteState) : Cluster :=
  let r := (c.breakers i).recordFailureWithCode k status c.now
  if r.2 then
    (c.setBreaker i r.1).noteBan
      { key := k, until_ := c.now + (c.breakers i).banDuration, write := write, lifted := false }
  else c.setBreaker i r.1

/-- A probe by the checker of instance `i`. -/
def probe (i : Nat) (k : String) (reply : ProbeReply) : Cluster :=
  let banned := (c.breakers i).isBanned k c.now
  let c := c.setBreaker i banned.1
  match reply with
  | .status code =>
    if isSuccess code then
      if banned.2 then (c.setBreaker i (banned.1.reset k)).noteUnban k else c
    else if banned.2 then c else c.fail i k code .never
  | .error _ => if banned.2 then c else c.fail i k 0 .never

/-- The task of the `n`th ban writes it. -/
def write (n : Nat) : Cluster :=
  match c.bans[n]? with
  | some b =>
    if b.write = .pending then
      { c with store := c.store.setBan b.key 60 c.now, bans := c.bans.set n { b with write := .applied } }
    else c
  | none => c

end Cluster

inductive Event where
  | tick (duration : Nat)
  | handler (i : Nat) (k : String) (status : Nat)
  | generic (i : Nat) (k : String) (status : Nat)
  | probe (i : Nat) (k : String) (reply : ProbeReply)
  | success (i : Nat) (k : String)
  | look (i : Nat) (k : String)
  | write (n : Nat)
  | count (scope key : String) (limit : Nat)
  | bind (sid : String) (index ttl : Nat)
  | session (sid : String)

def Event.apply (c : Cluster) : Event → Cluster
  | tick duration => { c with now := c.now + duration }
  | handler i k status => c.fail i k status .pending
  | generic i k status => c.fail i k status .never
  | probe i k reply => c.probe i k reply
  | success i k => c.setBreaker i ((c.breakers i).recordSuccess k)
  | look i k => c.setBreaker i ((c.breakers i).isBanned k c.now).1
  | write n => c.write n
  | count scope key limit => { c with store := (c.store.checkRateLimit scope key limit c.now).1 }
  | bind sid index ttl => { c with store := c.store.setSticky sid index ttl c.now }
  | session sid => { c with store := (c.store.getSticky sid c.now).1 }

/-- Every ban is written; once written it is reported until its end, unless it has been lifted; and an
endpoint that has been unbanned is not reported. -/
structure Agree (c : Cluster) : Prop where
  written : ∀ b ∈ c.bans, b.write ≠ .never
  reported : ∀ b ∈ c.bans, b.write = .applied → b.lifted = false → c.now < b.until_ →
    c.store.isBanned b.key c.now = true
  silent : ∀ k ∈ c.lifted, c.store.isBanned k c.now = false

/-- What has to hold of a step: bans are `proxy_handler`'s and last a minute at most, and a probe lifts
only a ban that Redis does not report and that no task is going to write. -/
def Event.Meets (c : Cluster) : Event → Prop
  | handler i k _ => (c.breakers i).wouldBan k = true → (c.breakers i).banDuration ≤ 60 * 10 ^ 9
  | generic i k _ => (c.breakers i).wouldBan k = false
  | probe i k reply =>
    let banned := (c.breakers i).isBanned k c.now
    match reply with
    | .status code =>
      if isSuccess code then
        banned.2 = true → c.store.isBanned k c.now = false ∧ ∀ b ∈ c.bans, b.key = k → b.write ≠ .pending
      else banned.2 = true ∨ banned.1.wouldBan k = false
    | .error _ => banned.2 = true ∨ banned.1.wouldBan k = false
  | tick _ => True
  | success _ _ => True
  | look _ _ => True
  | write _ => True
  | count _ _ _ => True
  | bind _ _ _ => True
  | session _ => True

/-! ## The steps are what the handlers and the checker do -/

/-- The state of instance `i`. -/
structure Cluster.Shows (c : Cluster) (i : Nat) (app : AppState) : Prop where
  fail2ban : app.fail2ban = c.breakers i
  sync : app.sync = c.store

section
variable {c : Cluster} {i : Nat} {app : AppState} {k : String}

@[simp] theorem setBreaker_self (c : Cluster) (i : Nat) (fb : Fail2ban) : (c.setBreaker i fb).breakers i = fb :=
  Function.update_self _ _ _

theorem fail_breaker (c : Cluster) (i : Nat) (k : String) (status : Nat) (write : WriteState) :
    (c.fail i k status write).breakers i = ((c.breakers i).recordFailureWithCode k status c.now).1 := by
  unfold Cluster.fail
  dsimp only
  split
  · exact setBreaker_self c i _
  · exact setBreaker_self c i _

theorem fail_store (c : Cluster) (i : Nat) (k : String) (status : Nat) (write : WriteState) :
    (c.fail i k status write).store = c.store := by
  unfold Cluster.fail
  dsimp only
  split <;> rfl

/-- A failure in `proxy_handler`, with the task that writes its ban run at once. -/
theorem Cluster.Shows.failed (h : c.Shows i app) (k : String) (status : Nat) :
    (Steps.run Event.apply c
      (.handler i k status :: if (c.breakers i).wouldBan k then [.write 0] else [])).Shows i (app.failed k status c.now) := by
  obtain ⟨hfb, hsync⟩ := h
  have hban := (c.breakers i).recordFailureWithCode_snd k status c.now
  refine ⟨?_, ?_⟩
  · show (app.fail2ban.recordFailureWithCode k status c.now).1 = _
    rw [hfb]
    cases hw : (c.breakers i).wouldBan k with
    | false => exact (fail_breaker c i k status .pending).symm
    | true =>
      rw [hw] at hban
      show _ = ((c.fail i k status .pending).write 0).breakers i
      rw [← fail_breaker c i k status .pending]
      unfold Cluster.fail
      dsimp only
      rw [if_pos hban]
      rfl
  · show (if (app.fail2ban.recordFailureWithCode k status c.now).2 then app.sync.setBan k 60 c.now else app.sync) = _
    rw [hfb, hsync, hban]
    cases hw : (c.breakers i).wouldBan k with
    | false => exact (fail_store c i k status .pending).symm
    | true =>
      rw [hw] at hban
      show c.store.setBan k 60 c.now = ((c.fail i k status .pending).write 0).store
      unfold Cluster.fail
      dsimp only
      rw [if_pos hban]
      rfl

/-- A failure in `proxy_generic`. -/
theorem Cluster.Shows.noteFailure (h : c.Shows i app) (k : String) (status : Nat) :
    (c.fail i k status .never).Shows i (Generic.noteFailure app k status c.now) := by
  refine ⟨?_, ?_⟩
  · rw [fail_breaker, ← h.fail2ban]
    rfl
  · rw [fail_store, ← h.sync]
    rfl

/-- A probe of the checker. -/
theorem Cluster.Shows.probed (h : c.Shows i app) (k : String) (reply : ProbeReply) :
    (c.probe i k reply).Shows i (app.probed k reply c.now) := by
  obtain ⟨hfb, hsync⟩ := h
  unfold AppState.probed Cluster.probe
  dsimp only
  rw [hfb]
  cases reply with
  | status code =>
    dsimp only
    split
    · split
      · exact ⟨(setBreaker_self _ i _).symm, hsync⟩
      · exact ⟨(setBreaker_self c i _).symm, hsync⟩
    · split
      · exact ⟨(setBreaker_self c i _).symm, hsync⟩
      · refine ⟨?_, ?_⟩
        · rw [fail_breaker, setBreaker_self]
          rfl
        · rw [fail_store]
          exact hsync
  | error reason =>
    dsimp only
    split
    · exact ⟨(setBreaker_self c i _).symm, hsync⟩
    · refine ⟨?_, ?_⟩
      · rw [fail_breaker, setBreaker_self]
        rfl
      · rw [fail_store]
        exact hsync

end

/-! ## The invariant -/

structure Inv (c : Cluster) : Prop where
  connected : c.store.connected = true
  up : c.store.redis.up = true
  written : ∀ b ∈ c.bans, b.write ≠ .never
  /-- A ban ends within a minute, which a write from now on covers. -/
  short : ∀ b ∈ c.bans, b.until_ ≤ c.now + 60 * 10 ^ 9
  kept : ∀ b ∈ c.bans, b.write = .applied → ∃ e x,
    c.store.redis.entries.lookup (c.store.banKey b.key) = some e ∧ e.expireAt = some x ∧ b.until_ ≤ x
  silent : ∀ k ∈ c.lifted, c.store.isBanned k c.now = false ∧ ∀ b ∈ c.bans, b.key = k → b.write ≠ .pending

section
variable {c : Cluster}

theorem Inv.agree (h : Inv c) : Agree c := by
  refine ⟨h.written, fun b hb hwrite _ hnow => ?_, fun k hk => (h.silent k hk).1⟩
  obtain ⟨e, x, hlookup, hx, hle⟩ := h.kept b hb hwrite
  have hlive : c.store.redis.live (c.store.banKey b.key) c.now = some e := by
    unfold Redis.live
    rw [hlookup, Option.filter_some, if_pos]
    rw [hx]
    simpa using Nat.lt_of_lt_of_le hnow hle
  unfold SyncStore.isBanned Redis.exists_
  rw [h.connected, h.up, hlive]
  rfl

/-- Breakers are not looked at. -/
theorem Inv.setBreaker (h : Inv c) (i : Nat) (fb : Fail2ban) : Inv (c.setBreaker i fb) :=
  ⟨h.connected, h.up, h.written, h.short, h.kept, h.silent⟩

theorem Inv.tick (h : Inv c) (duration : Nat) : Inv { c with now := c.now + duration } := by
  refine ⟨h.connected, h.up, h.written, fun b hb => ?_, h.kept, fun k hk => ⟨?_, (h.silent k hk).2⟩⟩
  · have hshort := h.short b hb
    show b.until_ ≤ c.now + duration + 60 * 10 ^ 9
    omega
  · have hnow := (h.silent k hk).1
    unfold SyncStore.isBanned at hnow ⊢
    by_contra hlater
    rw [Bool.not_eq_false, Bool.and_eq_true] at hlater
    rw [hlater.1, c.store.redis.exists_of_later _ (Nat.le_add_right c.now duration) hlater.2] at hnow
    cases hnow

/-- A ban with its write on the way. -/
theorem Inv.noteBan (h : Inv c) {k : String} {until_ : Nat} (hshort : until_ ≤ c.now + 60 * 10 ^ 9) :
    Inv (c.noteBan { key := k, until_ := until_, write := .pending, lifted := false }) := by
  refine ⟨h.connected, h.up, ?_, ?_, ?_, ?_⟩
  · intro b hb
    rcases List.mem_cons.1 hb with rfl | hb
    · simp
    · exact h.written b hb
  · intro b hb
    rcases List.mem_cons.1 hb with rfl | hb
    · exact hshort
    · exact h.short b hb
  · intro b hb hwrite
    rcases List.mem_cons.1 hb with rfl | hb
    · cases hwrite
    · exact h.kept b hb hwrite
  · intro k' hk'
    obtain ⟨hk', hne⟩ := List.mem_filter.1 hk'
    refine ⟨(h.silent k' hk').1, fun b hb hkey => ?_⟩
    rcases List.mem_cons.1 hb with rfl | hb
    · exact absurd hkey.symm (of_decide_eq_true hne)
    · exact (h.silent k' hk').2 b hb hkey

theorem Inv.fail (h : Inv c) {i : Nat} {k : String} (status : Nat) {write : WriteState}
    (hban : (c.breakers i).wouldBan k = true → write = .pending ∧ (c.breakers i).banDuration ≤ 60 * 10 ^ 9) :
    Inv (c.fail i k status write) := by
  have hset := h.setBreaker i ((c.breakers i).recordFailureWithCode k status c.now).1
  unfold Cluster.fail
  dsimp only
  split
  · rename_i hbanned
    rw [Fail2ban.recordFailureWithCode_snd] at hbanned
    obtain ⟨rfl, hshort⟩ := hban hbanned
    exact hset.noteBan (Nat.add_le_add_left hshort c.now)
  · exact hset

theorem mem_noteUnban {k : String} {b : Ban} (hb : b ∈ (c.noteUnban k).bans) :
    ∃ b' ∈ c.bans, b.key = b'.key ∧ b.until_ = b'.until_ ∧ b.write = b'.write := by
  obtain ⟨b', hb', rfl⟩ := List.mem_map.1 hb
  refine ⟨b', hb', ?_⟩
  split <;> exact ⟨rfl, rfl, rfl⟩

/-- An unban that Redis knows nothing of. -/
theorem Inv.noteUnban (h : Inv c) {k : String} (hfree : c.store.isBanned k c.now = false)
    (hnone : ∀ b ∈ c.bans, b.key = k → b.write ≠ .pending) : Inv (c.noteUnban k) := by
  refine ⟨h.connected, h.up, ?_, ?_, ?_, ?_⟩
  · intro b hb
    obtain ⟨b', hb', _, _, hwrite⟩ := mem_noteUnban hb
    rw [hwrite]
    exact h.written b' hb'
  · intro b hb
    obtain ⟨b', hb', _, huntil, _⟩ := mem_noteUnban hb
    rw [huntil]
    exact h.short b' hb'
  · intro b hb hw
    obtain ⟨b', hb', hkey, huntil, hwrite⟩ := mem_noteUnban hb
    rw [hkey, huntil]
    exact h.kept b' hb' (hwrite ▸ hw)
  · intro k' hk'
    have hold : c.store.isBanned k' c.now = false ∧ ∀ b ∈ c.bans, b.key = k' → b.write ≠ .pending := by
      rcases List.mem_cons.1 hk' with rfl | hk'
      · exact ⟨hfree, hnone⟩
      · exact h.silent k' hk'
    refine ⟨hold.1, fun b hb hk => ?_⟩
    obtain ⟨b', hb', hkey, _, hwrite⟩ := mem_noteUnban hb
    rw [hwrite]
    exact hold.2 b' hb' (hkey ▸ hk)

/-- **Step**: a probe. -/
theorem Inv.probe (h : Inv c) {i : Nat} {k : String} {reply : ProbeReply}
    (hmeets : (Event.probe i k reply).Meets c) : Inv (c.probe i k reply) := by
  have hlook := h.setBreaker i ((c.breakers i).isBanned k c.now).1
  -- a failure that is counted bans nothing
  have hfail : ∀ status, ((c.breakers i).isBanned k c.now).1.wouldBan k = false →
      Inv ((c.setBreaker i ((c.breakers i).isBanned k c.now).1).fail i k status .never) := by
    intro status hno
    refine hlook.fail status fun hban => ?_
    rw [setBreaker_self, hno] at hban
    cases hban
  cases reply with
  | status code =>
    unfold Event.Meets at hmeets
    unfold Cluster.probe
    dsimp only at hmeets ⊢
    split
    · rename_i hok
      rw [if_pos hok] at hmeets
      split
      · rename_i hbanned
        obtain ⟨hfree, hnone⟩ := hmeets hbanned
        exact (hlook.setBreaker i _).noteUnban hfree hnone
      · exact hlook
    · rename_i hok
      rw [if_neg hok] at hmeets
      split
      · exact hlook
      · rename_i hbanned
        exact hfail code (hmeets.resolve_left hbanned)
  | error reason =>
    unfold Cluster.probe
    dsimp only
    split
    · exact hlook
    · rename_i hbanned
      exact hfail 0 (Or.resolve_left hmeets hbanned)

/-- **Step**: a write covers every ban of its endpoint. -/
theorem Inv.write (h : Inv c) (n : Nat) : Inv (c.write n) := by
  unfold Cluster.write
  split
  · rename_i b hb
    split
    · rename_i hpending
      have hmem := List.mem_of_getElem? hb
      have honly := c.store.setBan_onlyAt b.key 60 c.now
      have hself := SyncStore.setBan_lookup_self h.connected h.up b.key (show 0 < 60 by decide) c.now
      have hsameKey : ∀ k, (c.store.setBan b.key 60 c.now).banKey k = c.store.banKey k := by
        intro k
        unfold SyncStore.banKey
        rw [honly.keyPrefix]
      have hbans : ∀ b' ∈ c.bans.set n { b with write := .applied }, b' ∈ c.bans ∨ b' = { b with write := .applied } :=
        fun b' hb' => List.mem_or_eq_of_mem_set hb'
      have hshort : ∀ b' ∈ c.bans.set n { b with write := .applied }, b'.until_ ≤ c.now + 60 * 10 ^ 9 := by
        intro b' hb'
        rcases hbans b' hb' with hb' | rfl
        · exact h.short b' hb'
        · exact h.short b hmem
      refine ⟨(c.store.setBan_connected _ _ _).trans h.connected, (c.store.setBan_up _ _ _).trans h.up, ?_, ?_, ?_, ?_⟩
      · intro b' hb'
        rcases hbans b' hb' with hb' | rfl
        · exact h.written b' hb'
        · simp
      · exact hshort
      · intro b' hb' hwrite
        show ∃ e x, (c.store.setBan b.key 60 c.now).redis.entries.lookup _ = some e ∧ _
        rw [hsameKey]
        by_cases hkey : b'.key = b.key
        · rw [hkey, hself]
          exact ⟨_, _, rfl, rfl, hshort b' hb'⟩
        · rw [honly.others _ fun hk => hkey (SyncStore.banKey_inj.1 hk)]
          rcases hbans b' hb' with hb' | rfl
          · exact h.kept b' hb' hwrite
          · exact absurd rfl hkey
      · intro k hk
        obtain ⟨hfree, hnone⟩ := h.silent k hk
        have hkey : k ≠ b.key := fun hkey => hnone b hmem hkey.symm hpending
        refine ⟨?_, fun b' hb' hk' => ?_⟩
        · rw [← hfree]
          exact SyncStore.isBanned_congr (c.store.setBan_connected _ _ _) (c.store.setBan_up _ _ _) honly.keyPrefix
            (honly.others _ fun hk => hkey (SyncStore.banKey_inj.1 hk)) c.now
        · rcases hbans b' hb' with hb' | rfl
          · exact hnone b' hb' hk'
          · simp
    · exact h
  · exact h

/-- The other traffic leaves the bans alone. -/
theorem Inv.traffic (h : Inv c) {store : SyncStore} (hkeeps : c.store.KeepsBans store) :
    Inv { c with store := store } := by
  have hbanned : ∀ k, store.isBanned k c.now = c.store.isBanned k c.now :=
    fun k => SyncStore.isBanned_congr hkeeps.connected hkeeps.up hkeeps.keyPrefix (hkeeps.bans k) c.now
  refine ⟨hkeeps.connected.trans h.connected, hkeeps.up.trans h.up, h.written, h.short, fun b hb hwrite => ?_,
    fun k hk => ⟨(hbanned k).trans (h.silent k hk).1, (h.silent k hk).2⟩⟩
  obtain ⟨e, x, hlookup, hrest⟩ := h.kept b hb hwrite
  refine ⟨e, x, ?_, hrest⟩
  show store.redis.entries.lookup (store.banKey b.key) = some e
  rw [← hlookup, ← hkeeps.bans]
  unfold SyncStore.banKey
  rw [hkeeps.keyPrefix]

/-- **Step**: the invariant is kept. -/
theorem Inv.apply (h : Inv c) {e : Event} (hmeets : e.Meets c) : Inv (e.apply c) := by
  cases e with
  | tick duration => exact h.tick duration
  | handler i k status => exact h.fail status fun hban => ⟨rfl, hmeets hban⟩
  | generic i k status =>
    refine h.fail status fun hban => ?_
    rw [show (c.breakers i).wouldBan k = false from hmeets] at hban
    cases hban
  | probe i k reply => exact h.probe hmeets
  | success i k => exact h.setBreaker i _
  | look i k => exact h.setBreaker i _
  | write n => exact h.write n
  | count scope key limit => exact h.traffic (c.store.checkRateLimit_keepsBans scope key limit c.now)
  | bind sid index ttl => exact h.traffic (c.store.setSticky_keepsBans sid index ttl c.now)
  | session sid => exact h.traffic (c.store.getSticky_keepsBans sid c.now)

end

/-- The start: no instance has banned anything, and Redis answers. -/
structure Started (c : Cluster) : Prop where
  connected : c.store.connected = true
  up : c.store.redis.up = true
  bans : c.bans = []
  lifted : c.lifted = []

theorem Started.inv {c : Cluster} (h : Started c) : Inv c := by
  obtain ⟨hconnected, hup, hbans, hlifted⟩ := h
  refine ⟨hconnected, hup, ?_, ?_, ?_, ?_⟩
  · simp [hbans]
  · simp [hbans]
  · simp [hbans]
  · simp [hlifted]

/-- **Bans in several instances**: where the bans are `proxy_handler`'s, last a minute at most, and are left to
run out, all instances agree on them in every state that is reached. -/
theorem bans_agree {c : Cluster} (hstart : Started c) (es : List Event)
    (hmeets : Steps.Every Event.apply Event.Meets c es) : Agree (Steps.run Event.apply c es) :=
  (Steps.run_keeps (fun _ _ hm h => Inv.apply h hm) es c hmeets hstart.inv).agree

/-! ## Bans that instances disagree on -/

/-- Instances whose breakers ban on the first failure, for `duration` seconds. -/
def clusterOf (duration : Nat) : Cluster where
  now := 0
  breakers := fun _ => .new 1 duration (1 / 2) ["5xx"]
  store := { connected := true, keyPrefix := "oar", redis := { up := true, entries := ∅ } }
  bans := []
  lifted := []

theorem clusterOf_started (duration : Nat) : Started (clusterOf duration) := ⟨rfl, rfl, rfl, rfl⟩

/-- The key of an endpoint. -/
def upstreamKey : String := "https://api.openai.com:sk-u...am-1"

/-- A ban of `proxy_handler` that is left to run out. -/
def bannedAtOne : List Event :=
  [.handler 0 upstreamKey 500, .write 0, .tick (30 * 10 ^ 9), .look 1 upstreamKey]

theorem handler_ban_is_agreed : Agree (Steps.run Event.apply (clusterOf 60) bannedAtOne) :=
  bans_agree (clusterOf_started 60) bannedAtOne ⟨fun _ => by decide, trivial, trivial, trivial, trivial⟩

/-- A ban of `proxy_generic` is never written; a ban of an hour is forgotten after a minute; a ban that a
probe lifts goes on. -/
theorem instances_disagree :
    ¬ Agree (Steps.run Event.apply (clusterOf 60) [.generic 0 upstreamKey 500]) ∧
    ¬ Agree (Steps.run Event.apply (clusterOf 3600) [.handler 0 upstreamKey 500, .write 0, .tick (60 * 10 ^ 9)]) ∧
    ¬ Agree (Steps.run Event.apply (clusterOf 60)
      [.handler 0 upstreamKey 500, .write 0, .probe 0 upstreamKey (.status 200)]) := by
  refine ⟨fun h => ?_, fun h => ?_, fun h => ?_⟩
  · exact h.written _ (List.mem_singleton_self _) rfl
  · have hreported := h.reported _ (List.mem_singleton_self _) rfl rfl (by decide)
    revert hreported
    decide
  · have hsilent := h.silent upstreamKey (List.mem_singleton_self _)
    revert hsilent
    decide

end SharedBans

end AiRouter
