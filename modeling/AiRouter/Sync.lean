import AiRouter.Limiter

/-
# Redis and the store over it: `sync/redis_sync.rs`

| here | there |
| --- | --- |
| `Redis`                    | the commands the router issues, with expiry |
| `SyncStore`                | `SyncStore` (redis_sync.rs:8); `connected` is `conn.is_some()` |
| `SyncStore.checkRateLimit` | `check_rate_limit` (redis_sync.rs:91) |
| `SyncStore.setBan`, `.isBanned`       | `set_ban`, `is_banned` (redis_sync.rs:124-134) |
| `SyncStore.setSticky`, `.getSticky`   | `set_sticky`, `get_sticky` (redis_sync.rs:136-150) |

Every value the router writes is a decimal integer, so a value is a number. `up` says whether
the server answers; a command on a server that is down fails and changes nothing.
`publish_ban` has an empty body.
-/
namespace AiRouter

structure RedisEntry where
  value : Nat
  expireAt : Option Nat
deriving DecidableEq, Repr

structure Redis where
  up : Bool
  entries : KeyMap String RedisEntry

namespace Redis

/-- The live entry of `k`. -/
def live (r : Redis) (k : String) (now : Nat) : Option RedisEntry :=
  (r.entries.lookup k).filter fun e => e.expireAt.all (now < ·)

/-- `INCR`: keeps an existing expiry, creates without one. -/
def incr (r : Redis) (k : String) (now : Nat) : Redis × Option Nat :=
  if r.up then
    let e := (r.live k now).getD { value := 0, expireAt := none }
    if e.value + 1 < 2 ^ 63 then
      ({ r with entries := r.entries.insert k { e with value := e.value + 1 } }, some (e.value + 1))
    else (r, none)
  else (r, none)

/-- `EXPIRE` -/
def expire (r : Redis) (k : String) (secs now : Nat) : Redis :=
  match r.up, r.live k now with
  | true, some e => { r with entries := r.entries.insert k { e with expireAt := some (now + secs * 10 ^ 9) } }
  | _, _ => r

/-- `SETEX`, which refuses an expiry of 0. -/
def setEx (r : Redis) (k : String) (value secs now : Nat) : Redis :=
  if r.up ∧ 0 < secs then
    { r with entries := r.entries.insert k { value := value, expireAt := some (now + secs * 10 ^ 9) } }
  else r

/-- `EXISTS`, `false` on error as its caller reads it. -/
def exists_ (r : Redis) (k : String) (now : Nat) : Bool := r.up && (r.live k now).isSome

/-- `GET` -/
def get (r : Redis) (k : String) (now : Nat) : Option Nat :=
  if r.up then (r.live k now).map (·.value) else none

/-- What is live later is live now. -/
theorem live_of_later {r : Redis} {k : String} {now later : Nat} {e : RedisEntry} (hle : now ≤ later)
    (h : r.live k later = some e) : r.live k now = some e := by
  unfold live at h ⊢
  obtain ⟨hlookup, hlive⟩ := Option.filter_eq_some_iff.1 h
  rw [hlookup, Option.filter_some, if_pos]
  cases hx : e.expireAt with
  | none => rfl
  | some x =>
    rw [hx] at hlive
    have hlt : later < x := by simpa using hlive
    simpa using Nat.lt_of_le_of_lt hle hlt

/-- The entry that an `INCR` leaves: it keeps the expiry of the live one. -/
theorem incr_live {r r' : Redis} {k : String} {now n : Nat} (h : r.incr k now = (r', some n)) :
    r'.live k now = some { (r.live k now).getD { value := 0, expireAt := none } with value := n } ∧
      n = ((r.live k now).getD { value := 0, expireAt := none }).value + 1 := by
  have hlive : ((r.live k now).getD { value := 0, expireAt := none }).expireAt.all (now < ·) = true := by
    cases hr : r.live k now with
    | none => rfl
    | some e => exact (Option.filter_eq_some_iff.1 hr).2
  unfold incr at h
  generalize (r.live k now).getD { value := 0, expireAt := none } = e at h hlive ⊢
  split at h
  · dsimp only at h
    split at h
    · obtain ⟨rfl, hn⟩ := Prod.mk.inj h
      obtain rfl := Option.some.inj hn
      refine ⟨?_, rfl⟩
      unfold live
      dsimp only
      rw [AList.lookup_insert, Option.filter_some, if_pos hlive]
    · cases h
  · cases h

/-- A counted `INCR` is one more than the live value, which it replaces. -/
theorem incr_counts {r r' : Redis} {k : String} {now n : Nat} (h : r.incr k now = (r', some n)) :
    n = ((r.live k now).map (·.value)).getD 0 + 1 ∧ ((r'.live k now).map (·.value)).getD 0 = n := by
  obtain ⟨hlive, hn⟩ := incr_live h
  refine ⟨?_, by rw [hlive]; rfl⟩
  rw [hn]
  cases r.live k now <;> rfl

/-- An `INCR` that is not counted changes nothing. -/
theorem incr_none {r r' : Redis} {k : String} {now : Nat} (h : r.incr k now = (r', none)) : r' = r := by
  unfold incr at h
  split at h
  · dsimp only at h
    split at h
    · cases h
    · cases h
      rfl
  · cases h
    rfl

section
variable (r : Redis) (k : String) (now : Nat)

theorem incr_up : (r.incr k now).1.up = r.up := by
  unfold incr
  split
  · dsimp only
    split <;> rfl
  · rfl

theorem up_of_incr {r : Redis} {k : String} {now n : Nat} (h : (r.incr k now).2 = some n) : r.up = true := by
  unfold incr at h
  split at h
  · assumption
  · cases h

/-- What is live depends on the entry. -/
theorem live_congr {r r' : Redis} {k k' : String} (h : r'.entries.lookup k' = r.entries.lookup k) (now : Nat) :
    r'.live k' now = r.live k now := by
  unfold live
  rw [h]

/-- What is live right after a write is what has been written. -/
theorem eq_of_live_insert {up : Bool} {entries : KeyMap String RedisEntry} {k : String} {e e' : RedisEntry} {now : Nat}
    (h : live { up := up, entries := entries.insert k e } k now = some e') : e' = e := by
  unfold live at h
  dsimp only at h
  rw [AList.lookup_insert] at h
  exact (Option.some.inj (Option.filter_eq_some_iff.1 h).1).symm

theorem expire_up (secs : Nat) : (r.expire k secs now).up = r.up := by
  unfold expire
  split <;> rfl

theorem setEx_up (value secs : Nat) : (r.setEx k value secs now).up = r.up := by
  unfold setEx
  split <;> rfl

/-- What exists later exists now. -/
theorem exists_of_later {now later : Nat} (hle : now ≤ later) (h : r.exists_ k later = true) :
    r.exists_ k now = true := by
  unfold exists_ at h ⊢
  rw [Bool.and_eq_true] at h ⊢
  obtain ⟨e, he⟩ := Option.isSome_iff_exists.1 h.2
  rw [live_of_later hle he]
  exact ⟨h.1, rfl⟩

end

/-- A command on one key leaves the other keys alone. -/
theorem incr_lookup_ne (r : Redis) {k k' : String} (now : Nat) (h : k' ≠ k) :
    (r.incr k now).1.entries.lookup k' = r.entries.lookup k' := by
  unfold incr
  split
  · dsimp only
    split
    · exact AList.lookup_insert_ne h
    · rfl
  · rfl

theorem expire_lookup_ne (r : Redis) {k k' : String} (secs now : Nat) (h : k' ≠ k) :
    (r.expire k secs now).entries.lookup k' = r.entries.lookup k' := by
  unfold expire
  split
  · exact AList.lookup_insert_ne h
  · rfl

theorem setEx_lookup_ne (r : Redis) {k k' : String} (value secs now : Nat) (h : k' ≠ k) :
    (r.setEx k value secs now).entries.lookup k' = r.entries.lookup k' := by
  unfold setEx
  split
  · exact AList.lookup_insert_ne h
  · rfl

/-! ### What a command depends on -/

section
variable {r r' : Redis} {k k' : String}

theorem incr_congr (hup : r.up = r'.up) (h : r.entries.lookup k = r'.entries.lookup k') (now : Nat) :
    (r.incr k now).2 = (r'.incr k' now).2 ∧
      (r.incr k now).1.entries.lookup k = (r'.incr k' now).1.entries.lookup k' := by
  unfold incr
  dsimp only
  rw [live_congr h, hup]
  split
  · split
    · exact ⟨rfl, by rw [AList.lookup_insert, AList.lookup_insert]⟩
    · exact ⟨rfl, h⟩
  · exact ⟨rfl, h⟩

theorem expire_congr (hup : r.up = r'.up) (h : r.entries.lookup k = r'.entries.lookup k') (secs now : Nat) :
    (r.expire k secs now).entries.lookup k = (r'.expire k' secs now).entries.lookup k' := by
  unfold expire
  rw [live_congr h, hup]
  split
  · rw [AList.lookup_insert, AList.lookup_insert]
  · exact h

end

/-- An `EXPIRE` leaves the counts. -/
theorem expire_live {r : Redis} {k k' : String} {secs now : Nat} {e : RedisEntry}
    (h : (r.expire k secs now).live k' now = some e) : ∃ e', r.live k' now = some e' ∧ e'.value = e.value := by
  by_cases hk : k' = k
  · subst hk
    unfold expire at h
    split at h
    · rename_i e' _ he'
      refine ⟨e', he', ?_⟩
      rw [eq_of_live_insert h]
    · exact ⟨e, h, rfl⟩
  · rw [live_congr (expire_lookup_ne r secs now hk)] at h
    exact ⟨e, h, rfl⟩

/-- What an `EXPIRE` leaves has an expiry, where it is executed on every entry that has none. -/
theorem expire_expires {r : Redis} {k : String} {secs now : Nat} {e : RedisEntry}
    (hup : ∀ e', r.live k now = some e' → e'.expireAt = none → r.up = true)
    (h : (r.expire k secs now).live k now = some e) : e.expireAt.isSome = true := by
  unfold expire at h
  split at h
  · rw [eq_of_live_insert h]
    rfl
  · rename_i hnot
    by_contra hx
    rw [Option.not_isSome_iff_eq_none] at hx
    exact hnot e (hup e h hx) h

end Redis

structure SyncStore where
  connected : Bool
  keyPrefix : String
  redis : Redis

namespace SyncStore

def rateKey (s : SyncStore) (scope key : String) : String :=
  s.keyPrefix ++ ":rl:" ++ scope ++ ":" ++ key

def banKey (s : SyncStore) (endpointKey : String) : String :=
  s.keyPrefix ++ ":banned:" ++ endpointKey

def stickyKey (s : SyncStore) (sessionId : String) : String :=
  s.keyPrefix ++ ":sticky:" ++ sessionId

/-- The answer of a check that did not count. -/
def uncounted : RateLimitResult where
  allowed := true
  limit := 0
  resetAfterSecs := 0
  scope := .token

def checkRateLimit (s : SyncStore) (scope key : String) (limit now : Nat) :
    SyncStore × RateLimitResult :=
  if ¬ s.connected ∨ limit = 0 then (s, uncounted)
  else
    match s.redis.incr (s.rateKey scope key) now with
    | (r, none) => ({ s with redis := r }, uncounted)
    | (r, some count) =>
      let r := if count = 1 then r.expire (s.rateKey scope key) 60 now else r
      let allowed := decide (count ≤ limit)
      ({ s with redis := r },
        { allowed := allowed, limit := limit, resetAfterSecs := if allowed then 0 else 60, scope := .token })

def setBan (s : SyncStore) (endpointKey : String) (durationSecs now : Nat) : SyncStore :=
  if s.connected then { s with redis := s.redis.setEx (s.banKey endpointKey) 1 durationSecs now } else s

def isBanned (s : SyncStore) (endpointKey : String) (now : Nat) : Bool :=
  s.connected && s.redis.exists_ (s.banKey endpointKey) now

def setSticky (s : SyncStore) (sessionId : String) (endpointIndex ttlSecs now : Nat) : SyncStore :=
  if s.connected then
    { s with redis := s.redis.setEx (s.stickyKey sessionId) endpointIndex ttlSecs now }
  else s

/-- A hit renews the entry for 300 s. -/
def getSticky (s : SyncStore) (sessionId : String) (now : Nat) : SyncStore × Option Nat :=
  if s.connected then
    match s.redis.get (s.stickyKey sessionId) now with
    | some idx => ({ s with redis := s.redis.expire (s.stickyKey sessionId) 300 now }, some idx)
    | none => (s, none)
  else (s, none)

/-! ## One key at a time -/

/-- `s'` is `s` but for what Redis holds at `key`. -/
structure OnlyAt (key : String) (s s' : SyncStore) : Prop where
  keyPrefix : s'.keyPrefix = s.keyPrefix
  others : ∀ key', key' ≠ key → s'.redis.entries.lookup key' = s.redis.entries.lookup key'

theorem OnlyAt.refl (key : String) (s : SyncStore) : OnlyAt key s s := ⟨rfl, fun _ _ => rfl⟩

theorem checkRateLimit_onlyAt (s : SyncStore) (scope key : String) (limit now : Nat) :
    OnlyAt (s.rateKey scope key) s (s.checkRateLimit scope key limit now).1 := by
  have hincr : ∀ key', key' ≠ s.rateKey scope key →
      (s.redis.incr (s.rateKey scope key) now).1.entries.lookup key' = s.redis.entries.lookup key' :=
    fun _ h => s.redis.incr_lookup_ne now h
  unfold checkRateLimit
  split
  · exact .refl _ s
  · split
    · rename_i r hr
      rw [hr] at hincr
      exact ⟨rfl, hincr⟩
    · rename_i r count hr
      rw [hr] at hincr
      refine ⟨rfl, fun key' h => ?_⟩
      dsimp only
      split
      · rw [Redis.expire_lookup_ne r 60 now h, hincr key' h]
      · exact hincr key' h

/-- Two stores on servers that both answer, or both do not, and hold the same under the key. -/
structure AgreeAt (scope key : String) (s s' : SyncStore) : Prop where
  connected : s.connected = s'.connected
  up : s.redis.up = s'.redis.up
  entry : s.redis.entries.lookup (s.rateKey scope key) = s'.redis.entries.lookup (s'.rateKey scope key)

/-- **A check** depends on its own counter, and so does what it leaves there. -/
theorem checkRateLimit_congr {s s' : SyncStore} {scope key : String} (h : AgreeAt scope key s s')
    (limit now : Nat) :
    AgreeAt scope key (s.checkRateLimit scope key limit now).1 (s'.checkRateLimit scope key limit now).1 ∧
      (s.checkRateLimit scope key limit now).2 = (s'.checkRateLimit scope key limit now).2 := by
  obtain ⟨hresult, hentry⟩ := Redis.incr_congr h.up h.entry now
  have hup : (s.redis.incr (s.rateKey scope key) now).1.up = (s'.redis.incr (s'.rateKey scope key) now).1.up := by
    rw [Redis.incr_up, Redis.incr_up, h.up]
  unfold checkRateLimit
  dsimp only
  rw [h.connected]
  split
  · exact ⟨h, rfl⟩
  generalize s.redis.incr (s.rateKey scope key) now = counted at hresult hentry hup
  generalize s'.redis.incr (s'.rateKey scope key) now = counted' at hresult hentry hup
  obtain ⟨r, n⟩ := counted
  obtain ⟨r', n'⟩ := counted'
  cases (show n = n' from hresult)
  cases n with
  | none => exact ⟨⟨rfl, hup, hentry⟩, rfl⟩
  | some count =>
    dsimp only
    refine ⟨⟨rfl, ?_, ?_⟩, rfl⟩
    · dsimp only
      split
      · rw [Redis.expire_up, Redis.expire_up]
        exact hup
      · exact hup
    · dsimp only
      split
      · exact Redis.expire_congr hup hentry 60 now
      · exact hentry

/-- Requests counted on a shared counter. -/
def count (s : SyncStore) (scope key : String) (now : Nat) : Nat :=
  ((s.redis.live (s.rateKey scope key) now).map (·.value)).getD 0

/-- A counter that rejects has counted. -/
theorem checkRateLimit_rejected {s : SyncStore} {scope key : String} {limit now : Nat}
    (h : (s.checkRateLimit scope key limit now).2.allowed = false) :
    (s.checkRateLimit scope key limit now).1.count scope key now = s.count scope key now + 1 := by
  unfold checkRateLimit at h ⊢
  split at h
  · cases h
  · rename_i hon
    rw [if_neg hon]
    split at h
    · cases h
    · rename_i r n hr
      obtain ⟨hn, hset⟩ := Redis.incr_counts hr
      have hover : limit < n := by simpa using h
      have hone : n ≠ 1 := by
        intro he
        have : limit = 0 := by omega
        exact hon (Or.inr this)
      dsimp only
      rw [if_neg hone]
      exact hset.trans hn

theorem setBan_onlyAt (s : SyncStore) (endpointKey : String) (durationSecs now : Nat) :
    OnlyAt (s.banKey endpointKey) s (s.setBan endpointKey durationSecs now) := by
  unfold setBan
  split
  · exact ⟨rfl, fun _ h => s.redis.setEx_lookup_ne 1 durationSecs now h⟩
  · exact .refl _ s

theorem setSticky_onlyAt (s : SyncStore) (sessionId : String) (endpointIndex ttlSecs now : Nat) :
    OnlyAt (s.stickyKey sessionId) s (s.setSticky sessionId endpointIndex ttlSecs now) := by
  unfold setSticky
  split
  · exact ⟨rfl, fun _ h => s.redis.setEx_lookup_ne endpointIndex ttlSecs now h⟩
  · exact .refl _ s

theorem rateKey_inj {s : SyncStore} {scope k k' : String} :
    s.rateKey scope k = s.rateKey scope k' ↔ k = k' := by
  unfold rateKey
  rw [← String.toList_inj, String.toList_append (t := k), String.toList_append (t := k'),
    List.append_cancel_left_eq, String.toList_inj]

theorem banKey_inj {s : SyncStore} {k k' : String} : s.banKey k = s.banKey k' ↔ k = k' := by
  unfold banKey
  rw [← String.toList_inj, String.toList_append (t := k), String.toList_append (t := k'),
    List.append_cancel_left_eq, String.toList_inj]

/-- The three families of keys part at the letter after the prefix and the colon. -/
theorem rateKey_ne_banKey (s : SyncStore) (scope k k' : String) : s.rateKey scope k ≠ s.banKey k' := by
  intro h
  simp [rateKey, banKey, ← String.toList_inj, String.toList_append] at h

theorem rateKey_ne_stickyKey (s : SyncStore) (scope k k' : String) :
    s.rateKey scope k ≠ s.stickyKey k' := by
  intro h
  simp [rateKey, stickyKey, ← String.toList_inj, String.toList_append] at h

theorem banKey_ne_stickyKey (s : SyncStore) (k k' : String) : s.banKey k ≠ s.stickyKey k' := by
  intro h
  simp [banKey, stickyKey, ← String.toList_inj, String.toList_append] at h

/-- The store of a process that is not connected answers and records nothing. -/
theorem checkRateLimit_offline {s : SyncStore} (h : s.connected = false) (scope key : String)
    (limit now : Nat) : s.checkRateLimit scope key limit now = (s, uncounted) := by
  unfold checkRateLimit
  rw [if_pos (Or.inl (by simp [h]))]

theorem isBanned_offline {s : SyncStore} (h : s.connected = false) (k : String) (now : Nat) :
    s.isBanned k now = false := by simp [isBanned, h]

end SyncStore

end AiRouter
