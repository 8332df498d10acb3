import AiRouter.BanHistory
import AiRouter.SharedBans

/-
# What stands behind a ban

`proxy_handler` leaves an endpoint out when the breaker of its instance bans it or Redis says so (handler.rs:229).
Beside a cluster goes what its instances have done: the calls on every breaker, the bans of `proxy_handler` and
the writes of their tasks, the latest first.

| here | there |
| --- | --- |
| `Event.calls`   | the calls of an event on the breaker of an instance |
| `Event.bans`    | handler.rs:527-536, 722-735: the ban whose task will write it |
| `Event.writes`  | redis_sync.rs:124, for 60 seconds |
-/
namespace AiRouter

namespace SharedBans

open BanHistory (Call Logged BannedAt Tracks)

/-- The instance that an event is at. -/
def Event.place : Event → Option Nat
  | handler i _ _ => some i
  | generic i _ _ => some i
  | probe i _ _ => some i
  | success i _ => some i
  | look i _ => some i
  | _ => none

/-- The calls of a probe, with what the breaker has said of the endpoint. -/
def probeCalls (banned : Bool) (k : String) (now : Nat) : ProbeReply → List Call
  | .status code =>
    if isSuccess code then if banned then [⟨k, .reset, now⟩] else []
    else if banned then [] else [⟨k, .failure code, now⟩]
  | .error _ => if banned then [] else [⟨k, .failure 0, now⟩]

/-- The calls on the breaker of the instance. -/
def Event.calls (c : Cluster) : Event → List Call
  | handler _ k status => [⟨k, .failure status, c.now⟩]
  | generic _ k status => [⟨k, .failure status, c.now⟩]
  | probe i k reply => ⟨k, .isBanned, c.now⟩ :: probeCalls ((c.breakers i).isBanned k c.now).2 k c.now reply
  | success _ k => [⟨k, .success, c.now⟩]
  | look _ k => [⟨k, .isBanned, c.now⟩]
  | _ => []

def Event.callsAt (c : Cluster) (i : Nat) (e : Event) : List Call := if e.place = some i then e.calls c else []

/-- An endpoint at some time. -/
structure Mark where
  key : String
  time : Nat
deriving DecidableEq, Repr

/-- The ban that `proxy_handler` sets, with its instance. -/
def Event.bans (c : Cluster) : Event → List (Nat × Mark)
  | handler i k _ => if (c.breakers i).wouldBan k then [(i, ⟨k, c.now⟩)] else []
  | _ => []

/-- The ban that a task writes. -/
def Event.writes (c : Cluster) : Event → List Mark
  | write n =>
    match c.bans[n]? with
    | some b => if b.write = .pending then [⟨b.key, c.now⟩] else []
    | none => []
  | _ => []

/-- A cluster and what has been done in it. -/
structure Watched where
  cluster : Cluster
  logs : Nat → List BanHistory.Entry
  bans : List (Nat × Mark)
  writes : List Mark

namespace Watched

def start (c : Cluster) : Watched where
  cluster := c
  logs := fun _ => []
  bans := []
  writes := []

/-- A breaker with its log. -/
def logged (w : Watched) (i : Nat) : Logged := { breaker := w.cluster.breakers i, log := w.logs i }

def step (w : Watched) (e : Event) : Watched where
  cluster := e.apply w.cluster
  logs := fun i => (Steps.run Logged.call (w.logged i) (e.callsAt w.cluster i)).log
  bans := e.bans w.cluster ++ w.bans
  writes := e.writes w.cluster ++ w.writes

end Watched

theorem watched_cluster (c : Cluster) (es : List Event) :
    (Steps.run Watched.step (.start c) es).cluster = Steps.run Event.apply c es :=
  Steps.run_map (f := Watched.cluster) (fun _ _ => rfl) es _

/-! ## The calls are the ones that the events make -/

section
variable {c : Cluster} {i j : Nat}

theorem setBreaker_ne (c : Cluster) (h : i ≠ j) (fb : Fail2ban) : (c.setBreaker j fb).breakers i = c.breakers i :=
  Function.update_of_ne h _ _

theorem fail_breaker_ne (c : Cluster) (h : i ≠ j) (k : String) (status : Nat) (write : WriteState) :
    (c.fail j k status write).breakers i = c.breakers i := by
  unfold Cluster.fail
  dsimp only
  split <;> exact setBreaker_ne c h _

/-- A probe looks, and then it does nothing more, lifts the ban or counts a failure. -/
theorem probe_cases (c : Cluster) (i : Nat) (k : String) (reply : ProbeReply) :
    ∃ fb, c.probe i k reply = c.setBreaker i fb ∨
      (∃ fb', c.probe i k reply = ((c.setBreaker i fb).setBreaker i fb').noteUnban k) ∨
      ∃ status, c.probe i k reply = (c.setBreaker i fb).fail i k status .never := by
  refine ⟨((c.breakers i).isBanned k c.now).1, ?_⟩
  unfold Cluster.probe
  cases reply with
  | status code =>
    dsimp only
    split
    · split
      · exact Or.inr (Or.inl ⟨_, rfl⟩)
      · exact Or.inl rfl
    · split
      · exact Or.inl rfl
      · exact Or.inr (Or.inr ⟨code, rfl⟩)
  | error reason =>
    dsimp only
    split
    · exact Or.inl rfl
    · exact Or.inr (Or.inr ⟨0, rfl⟩)

theorem probe_breaker_ne (c : Cluster) (h : i ≠ j) (k : String) (reply : ProbeReply) :
    (c.probe j k reply).breakers i = c.breakers i := by
  obtain ⟨fb, hp | ⟨fb', hp⟩ | ⟨status, hp⟩⟩ := probe_cases c j k reply <;> rw [hp]
  · exact setBreaker_ne c h fb
  · exact (setBreaker_ne _ h fb').trans (setBreaker_ne c h fb)
  · exact (fail_breaker_ne _ h k status .never).trans (setBreaker_ne c h fb)

theorem write_breakers (c : Cluster) (n : Nat) : (c.write n).breakers = c.breakers := by
  unfold Cluster.write
  split
  · split <;> rfl
  · rfl

/-- An event changes the breaker of its instance. -/
theorem apply_breaker_ne {e : Event} (h : e.place ≠ some i) : (e.apply c).breakers i = c.breakers i := by
  have hne : ∀ {j}, e.place = some j → i ≠ j := fun hj hij => h (hj.trans (congrArg some hij.symm))
  cases e with
  | handler j k status => exact fail_breaker_ne c (hne rfl) k status .pending
  | generic j k status => exact fail_breaker_ne c (hne rfl) k status .never
  | probe j k reply => exact probe_breaker_ne c (hne rfl) k reply
  | success j k => exact setBreaker_ne c (hne rfl) _
  | look j k => exact setBreaker_ne c (hne rfl) _
  | write n => exact congrFun (write_breakers c n) i
  | tick duration => rfl
  | count scope key limit => rfl
  | bind sid index ttl => rfl
  | session sid => rfl

theorem probe_breaker (log : List BanHistory.Entry) (c : Cluster) (i : Nat) (k : String) (reply : ProbeReply) :
    (Steps.run Logged.call { breaker := c.breakers i, log := log } ((Event.probe i k reply).calls c)).breaker
      = (c.probe i k reply).breakers i := by
  have hlook : (Steps.run Logged.call { breaker := c.breakers i, log := log } ((Event.probe i k reply).calls c)).breaker
      = (Steps.run Logged.call (Logged.call { breaker := c.breakers i, log := log } ⟨k, .isBanned, c.now⟩)
        (probeCalls ((c.breakers i).isBanned k c.now).2 k c.now reply)).breaker := rfl
  rw [hlook]
  unfold Cluster.probe probeCalls
  cases reply with
  | status code =>
    dsimp only
    split
    · split
      · exact (setBreaker_self _ i _).symm
      · exact (setBreaker_self c i _).symm
    · split
      · exact (setBreaker_self c i _).symm
      · rw [fail_breaker, setBreaker_self]
        rfl
  | error reason =>
    dsimp only
    split
    · exact (setBreaker_self c i _).symm
    · rw [fail_breaker, setBreaker_self]
      rfl

theorem callsAt_breaker (log : List BanHistory.Entry) (c : Cluster) (e : Event) (i : Nat) :
    (Steps.run Logged.call { breaker := c.breakers i, log := log } (e.callsAt c i)).breaker = (e.apply c).breakers i := by
  unfold Event.callsAt
  split
  · rename_i hplace
    cases e with
    | handler j k status =>
      obtain rfl := Option.some.inj hplace
      exact (fail_breaker c j k status .pending).symm
    | generic j k status =>
      obtain rfl := Option.some.inj hplace
      exact (fail_breaker c j k status .never).symm
    | probe j k reply =>
      obtain rfl := Option.some.inj hplace
      exact probe_breaker log c j k reply
    | success j k =>
      obtain rfl := Option.some.inj hplace
      exact (setBreaker_self c j _).symm
    | look j k =>
      obtain rfl := Option.some.inj hplace
      exact (setBreaker_self c j _).symm
    | _ => cases hplace
  · rename_i hplace
    exact (apply_breaker_ne hplace).symm

theorem probeCalls_now {banned : Bool} {k : String} {now : Nat} {reply : ProbeReply} {call : Call}
    (h : call ∈ probeCalls banned k now reply) : call.time = now := by
  unfold probeCalls at h
  cases reply with
  | status code =>
    dsimp only at h
    split at h <;> split at h <;> simp at h <;> rw [h]
  | error reason =>
    dsimp only at h
    split at h <;> simp at h
    rw [h]

theorem callsAt_now (c : Cluster) (e : Event) (i : Nat) : ∀ call ∈ e.callsAt c i, call.time = c.now := by
  intro call hcall
  unfold Event.callsAt at hcall
  split at hcall
  · cases e with
    | probe j k reply =>
      rcases List.mem_cons.1 hcall with rfl | hcall
      · rfl
      · exact probeCalls_now hcall
    | handler j k status => rw [List.mem_singleton.1 hcall]
    | generic j k status => rw [List.mem_singleton.1 hcall]
    | success j k => rw [List.mem_singleton.1 hcall]
    | look j k => rw [List.mem_singleton.1 hcall]
    | _ => cases hcall
  · cases hcall

end

/-! ## The invariant -/

/-- Calls made at one time, and every entry follows the log. -/
theorem tracks_calls {rules : BanRules} {T : Nat} (calls : List Call) (hnow : ∀ call ∈ calls, call.time = T) :
    ∀ s : Logged, s.breaker.rules = rules → (∀ k, Tracks rules k s.log T (s.breaker.entry k)) →
      ∀ k, Tracks rules k (Steps.run Logged.call s calls).log T ((Steps.run Logged.call s calls).breaker.entry k) := by
  induction calls with
  | nil => exact fun _ _ h => h
  | cons call calls ih =>
    intro s hrules h
    obtain ⟨rfl, hcalls⟩ := List.forall_mem_cons.1 hnow
    refine ih hcalls (s.call call) ((BanHistory.apply_rules s.breaker call).trans hrules) fun k => ?_
    rw [BanHistory.call_log, hrules]
    by_cases hkey : call.key = k
    · subst hkey
      have hentry : (s.call call).breaker.entry call.key = (call.op.step rules (s.breaker.entry call.key) call.time).1 := by
        rw [← hrules]
        exact BanHistory.apply_entry_self s.breaker call
      rw [hentry]
      exact (h call.key).step call.op le_rfl
    · have hentry : (s.call call).breaker.entry k = s.breaker.entry k :=
        BanHistory.apply_entry_ne _ call (Ne.symm hkey)
      rw [hentry]
      exact (h k).other (e := ⟨call, _⟩) hkey le_rfl

section
variable {c : Cluster} {e : Event}

theorem fail_now (c : Cluster) (i : Nat) (k : String) (status : Nat) (write : WriteState) :
    (c.fail i k status write).now = c.now := by
  unfold Cluster.fail
  dsimp only
  split <;> rfl

theorem now_le_apply (c : Cluster) (e : Event) : c.now ≤ (e.apply c).now := by
  cases e with
  | tick duration => exact Nat.le_add_right _ _
  | handler i k status => exact le_of_eq (fail_now c i k status .pending).symm
  | generic i k status => exact le_of_eq (fail_now c i k status .never).symm
  | probe i k reply =>
    show c.now ≤ (c.probe i k reply).now
    obtain ⟨fb, hp | ⟨fb', hp⟩ | ⟨status, hp⟩⟩ := probe_cases c i k reply <;> rw [hp]
    · exact le_rfl
    · exact le_rfl
    · exact le_of_eq (fail_now (c.setBreaker i fb) i k status .never).symm
  | write n =>
    show c.now ≤ (c.write n).now
    unfold Cluster.write
    split
    · split <;> exact le_rfl
    · exact le_rfl
  | success i k => exact le_rfl
  | look i k => exact le_rfl
  | count scope key limit => exact le_rfl
  | bind sid index ttl => exact le_rfl
  | session sid => exact le_rfl

/-- An event writes a ban that waits for it, or leaves the bans in Redis alone. -/
theorem apply_store (c : Cluster) (e : Event) :
    (∃ b ∈ c.bans, b.write = .pending ∧ e.writes c = [⟨b.key, c.now⟩] ∧
      (e.apply c).store = c.store.setBan b.key 60 c.now) ∨
    e.writes c = [] ∧ c.store.KeepsBans (e.apply c).store := by
  have hsame : ∀ {store}, store = c.store → c.store.KeepsBans store := fun h => h ▸ c.store.keepsBans_refl
  cases e with
  | write n =>
    cases hb : c.bans[n]? with
    | none =>
      refine Or.inr ⟨by simp only [Event.writes, hb], hsame ?_⟩
      simp only [Event.apply, Cluster.write, hb]
    | some b =>
      by_cases hpending : b.write = .pending
      · refine Or.inl ⟨b, List.mem_of_getElem? hb, hpending, ?_, ?_⟩
        · simp only [Event.writes, hb, if_pos hpending]
        · simp only [Event.apply, Cluster.write, hb, if_pos hpending]
      · refine Or.inr ⟨by simp only [Event.writes, hb, if_neg hpending], hsame ?_⟩
        simp only [Event.apply, Cluster.write, hb, if_neg hpending]
  | probe i k reply =>
    refine Or.inr ⟨rfl, hsame ?_⟩
    show (c.probe i k reply).store = c.store
    obtain ⟨fb, hp | ⟨fb', hp⟩ | ⟨status, hp⟩⟩ := probe_cases c i k reply <;> rw [hp]
    · rfl
    · rfl
    · exact fail_store (c.setBreaker i fb) i k status .never
  | handler i k status => exact Or.inr ⟨rfl, hsame (fail_store c i k status .pending)⟩
  | generic i k status => exact Or.inr ⟨rfl, hsame (fail_store c i k status .never)⟩
  | tick duration => exact Or.inr ⟨rfl, hsame rfl⟩
  | success i k => exact Or.inr ⟨rfl, hsame rfl⟩
  | look i k => exact Or.inr ⟨rfl, hsame rfl⟩
  | count scope key limit => exact Or.inr ⟨rfl, c.store.checkRateLimit_keepsBans scope key limit c.now⟩
  | bind sid index ttl => exact Or.inr ⟨rfl, c.store.setSticky_keepsBans sid index ttl c.now⟩
  | session sid => exact Or.inr ⟨rfl, c.store.getSticky_keepsBans sid c.now⟩

/-- A failure whose ban is not written. -/
theorem fail_never_pending {i : Nat} {k : String} {status : Nat} {b : Ban}
    (hb : b ∈ (c.fail i k status .never).bans) (hpending : b.write = .pending) : b ∈ c.bans := by
  unfold Cluster.fail at hb
  dsimp only at hb
  split at hb
  · rcases List.mem_cons.1 hb with rfl | hb
    · cases hpending
    · exact hb
  · exact hb

/-- A ban that waits to be written has waited before, or is `proxy_handler`'s. -/
theorem apply_pending {b : Ban} (hb : b ∈ (e.apply c).bans) (hpending : b.write = .pending) :
    (∃ b' ∈ c.bans, b'.write = .pending ∧ b'.key = b.key) ∨ ∃ x ∈ e.bans c, x.2.key = b.key := by
  have hold : b ∈ c.bans →
      (∃ b' ∈ c.bans, b'.write = .pending ∧ b'.key = b.key) ∨ ∃ x ∈ e.bans c, x.2.key = b.key :=
    fun h => Or.inl ⟨b, h, hpending, rfl⟩
  cases e with
  | handler i k status =>
    simp only [Event.apply, Cluster.fail] at hb
    split at hb
    · rename_i hbanned
      rw [Fail2ban.recordFailureWithCode_snd] at hbanned
      rcases List.mem_cons.1 hb with rfl | hb
      · refine Or.inr ⟨(i, ⟨k, c.now⟩), ?_, rfl⟩
        simp only [Event.bans, if_pos hbanned, List.mem_singleton]
      · exact hold hb
    · exact hold hb
  | generic i k status => exact hold (fail_never_pending hb hpending)
  | probe i k reply =>
    replace hb : b ∈ (c.probe i k reply).bans := hb
    obtain ⟨fb, hp | ⟨fb', hp⟩ | ⟨status, hp⟩⟩ := probe_cases c i k reply <;> rw [hp] at hb
    · exact hold hb
    · obtain ⟨b', hb', hkey, -, hwrite⟩ := mem_noteUnban hb
      exact Or.inl ⟨b', hb', hwrite.symm.trans hpending, hkey.symm⟩
    · have hlooked : b ∈ (c.setBreaker i fb).bans := fail_never_pending hb hpending
      exact hold hlooked
  | write n =>
    replace hb : b ∈ (c.write n).bans := hb
    unfold Cluster.write at hb
    split at hb
    · split at hb
      · rcases List.mem_or_eq_of_mem_set hb with hb | rfl
        · exact hold hb
        · cases hpending
      · exact hold hb
    · exact hold hb
  | tick duration => exact hold hb
  | success i k => exact hold hb
  | look i k => exact hold hb
  | count scope key limit => exact hold hb
  | bind sid index ttl => exact hold hb
  | session sid => exact hold hb

end

/-- What a cluster has to do with what has been done in it. -/
structure Watched.Inv (w : Watched) : Prop where
  connected : w.cluster.store.connected = true
  up : w.cluster.store.redis.up = true
  own : ∀ i k, Tracks (w.cluster.breakers i).rules k (w.logs i) w.cluster.now ((w.cluster.breakers i).entry k)
  /-- Redis has the latest write of every endpoint. -/
  stored : ∀ k, w.cluster.store.redis.entries.lookup (w.cluster.store.banKey k)
    = (w.writes.find? (·.key = k)).map fun m => { value := 1, expireAt := some (m.time + 60 * 10 ^ 9) }
  sorted : w.writes.Pairwise fun m older => older.time ≤ m.time
  past : ∀ m ∈ w.writes, m.time ≤ w.cluster.now
  pending : ∀ b ∈ w.cluster.bans, b.write = .pending → ∃ x ∈ w.bans, x.2.key = b.key
  set_ : ∀ x ∈ w.bans, x.2.time ≤ w.cluster.now
  caused : ∀ m ∈ w.writes, ∃ x ∈ w.bans, x.2.key = m.key ∧ x.2.time ≤ m.time
  logged : ∀ x ∈ w.bans, ∃ e ∈ w.logs x.1, e.bans x.2.key = true ∧ e.time = x.2.time

section
variable {w : Watched}

/-- **Step**: the breakers and their logs. -/
theorem Watched.Inv.own_step (h : w.Inv) (e : Event) (i : Nat) (k : String) :
    Tracks ((w.step e).cluster.breakers i).rules k ((w.step e).logs i) (w.step e).cluster.now
      (((w.step e).cluster.breakers i).entry k) := by
  have hbreaker : (Steps.run Logged.call (w.logged i) (e.callsAt w.cluster i)).breaker
      = (w.step e).cluster.breakers i := callsAt_breaker (w.logs i) w.cluster e i
  have hrules : ((w.step e).cluster.breakers i).rules = (w.cluster.breakers i).rules := by
    rw [← hbreaker]
    refine Steps.run_keeps (P := fun _ _ => True)
      (I := fun s : Logged => s.breaker.rules = (w.cluster.breakers i).rules) ?_ _ _ (Steps.every_true _ _) rfl
    intro s call _ hs
    exact (BanHistory.apply_rules s.breaker call).trans hs
  have htracks := tracks_calls (e.callsAt w.cluster i) (callsAt_now w.cluster e i) (w.logged i) rfl (h.own i) k
  rw [hbreaker] at htracks
  rw [hrules]
  exact htracks.mono (now_le_apply w.cluster e)

/-- **Step**: Redis and the writes. -/
theorem Watched.Inv.stored_step (h : w.Inv) (e : Event) :
    (w.step e).cluster.store.connected = true ∧ (w.step e).cluster.store.redis.up = true ∧
      ∀ k, (w.step e).cluster.store.redis.entries.lookup ((w.step e).cluster.store.banKey k)
        = ((w.step e).writes.find? (·.key = k)).map
          fun m => { value := 1, expireAt := some (m.time + 60 * 10 ^ 9) } := by
  have hkey : ∀ {store : SyncStore} k, store.keyPrefix = w.cluster.store.keyPrefix →
      store.banKey k = w.cluster.store.banKey k := by
    intro store k hsame
    unfold SyncStore.banKey
    rw [hsame]
  rcases apply_store w.cluster e with ⟨b, -, -, hwrites, hstore⟩ | ⟨hwrites, hkeeps⟩
  · have hsame : (w.cluster.store.setBan b.key 60 w.cluster.now).keyPrefix = w.cluster.store.keyPrefix :=
      (w.cluster.store.setBan_onlyAt b.key 60 w.cluster.now).keyPrefix
    show (e.apply w.cluster).store.connected = true ∧ (e.apply w.cluster).store.redis.up = true ∧
      ∀ k, (e.apply w.cluster).store.redis.entries.lookup ((e.apply w.cluster).store.banKey k)
        = ((e.writes w.cluster ++ w.writes).find? (·.key = k)).map _
    rw [hstore, hwrites]
    refine ⟨(w.cluster.store.setBan_connected _ _ _).trans h.connected,
      (w.cluster.store.setBan_up _ _ _).trans h.up, fun k => ?_⟩
    rw [hkey k hsame, List.singleton_append]
    by_cases hk : b.key = k
    · subst hk
      rw [SyncStore.setBan_lookup_self h.connected h.up b.key (by decide) w.cluster.now,
        List.find?_cons_of_pos (by simp)]
      rfl
    · rw [(w.cluster.store.setBan_onlyAt b.key 60 w.cluster.now).others _
        (fun heq => hk (SyncStore.banKey_inj.1 heq).symm), h.stored k, List.find?_cons_of_neg (by simpa using hk)]
  · show (e.apply w.cluster).store.connected = true ∧ (e.apply w.cluster).store.redis.up = true ∧
      ∀ k, (e.apply w.cluster).store.redis.entries.lookup ((e.apply w.cluster).store.banKey k)
        = ((e.writes w.cluster ++ w.writes).find? (·.key = k)).map _
    rw [hwrites]
    refine ⟨hkeeps.connected.trans h.connected, hkeeps.up.trans h.up, fun k => ?_⟩
    rw [hkey k hkeeps.keyPrefix, hkeeps.bans k]
    exact h.stored k

/-- A ban of `proxy_handler` is in the log of its breaker. -/
theorem bans_logged {e : Event} {x : Nat × Mark} (hx : x ∈ e.bans w.cluster) :
    x.2.time = w.cluster.now ∧ ∃ y ∈ (w.step e).logs x.1, y.bans x.2.key = true ∧ y.time = x.2.time := by
  cases e with
  | handler i k status =>
    unfold Event.bans at hx
    dsimp only at hx
    split at hx
    · rename_i hban
      obtain rfl := List.mem_singleton.1 hx
      refine ⟨rfl, ⟨⟨k, .failure status, w.cluster.now⟩, (w.cluster.breakers i).wouldBan k⟩, ?_, ?_, rfl⟩
      · show _ ∈ (Steps.run Logged.call (w.logged i) ((Event.handler i k status).callsAt w.cluster i)).log
        rw [show (Event.handler i k status).callsAt w.cluster i = [⟨k, .failure status, w.cluster.now⟩] from if_pos rfl]
        show _ ∈ (⟨_, ((w.cluster.breakers i).recordFailureWithCode k status w.cluster.now).2⟩ ::
          w.logs i : List BanHistory.Entry)
        rw [Fail2ban.recordFailureWithCode_snd]
        exact List.mem_cons_self
      · simp [BanHistory.Entry.bans, BanHistory.Op.isFailure, hban]
    · cases hx
  | _ => cases hx

theorem logs_grow (w : Watched) (e : Event) (i : Nat) : w.logs i ⊆ (w.step e).logs i := by
  have hgrow : ∀ (calls : List Call) (s : Logged), s.log ⊆ (Steps.run Logged.call s calls).log := by
    intro calls
    induction calls with
    | nil => exact fun s => List.Subset.refl _
    | cons call calls ih => exact fun s => List.Subset.trans (List.subset_cons_self _ _) (ih (s.call call))
  exact hgrow (e.callsAt w.cluster i) (w.logged i)

/-- **Step**: the invariant is kept. -/
theorem Watched.Inv.step (h : w.Inv) (e : Event) : (w.step e).Inv := by
  obtain ⟨hconnected, hup, hstored⟩ := h.stored_step e
  have hnow := now_le_apply w.cluster e
  -- the writes of the event
  have hwrites : ∀ m ∈ e.writes w.cluster, m.time = w.cluster.now ∧ ∃ x ∈ w.bans, x.2.key = m.key := by
    intro m hm
    rcases apply_store w.cluster e with ⟨b, hb, hpending, hwrites, -⟩ | ⟨hwrites, -⟩ <;> rw [hwrites] at hm
    · obtain rfl := List.mem_singleton.1 hm
      exact ⟨rfl, h.pending b hb hpending⟩
    · cases hm
  constructor
  case connected => exact hconnected
  case up => exact hup
  case own => exact h.own_step e
  case stored => exact hstored
  case sorted =>
    refine List.pairwise_append.2 ⟨?_, h.sorted, fun m hm older holder => ?_⟩
    · rcases apply_store w.cluster e with ⟨b, -, -, hwrites, -⟩ | ⟨hwrites, -⟩ <;> rw [hwrites]
      · exact List.pairwise_singleton _ _
      · exact List.Pairwise.nil
    · rw [(hwrites m hm).1]
      exact h.past older holder
  case past =>
    intro m hm
    rcases List.mem_append.1 hm with hm | hm
    · exact (le_of_eq (hwrites m hm).1).trans hnow
    · exact (h.past m hm).trans hnow
  case pending =>
    intro b hb hpending
    rcases apply_pending hb hpending with ⟨b', hb', hpending', hkey⟩ | ⟨x, hx, hkey⟩
    · obtain ⟨x, hx, hxkey⟩ := h.pending b' hb' hpending'
      exact ⟨x, List.mem_append_right _ hx, hxkey.trans hkey⟩
    · exact ⟨x, List.mem_append_left _ hx, hkey⟩
  case set_ =>
    intro x hx
    rcases List.mem_append.1 hx with hx | hx
    · exact (le_of_eq (bans_logged hx).1).trans hnow
    · exact (h.set_ x hx).trans hnow
  case caused =>
    intro m hm
    rcases List.mem_append.1 hm with hm | hm
    · obtain ⟨htime, x, hx, hkey⟩ := hwrites m hm
      exact ⟨x, List.mem_append_right _ hx, hkey, (h.set_ x hx).trans (le_of_eq htime.symm)⟩
    · obtain ⟨x, hx, hrest⟩ := h.caused m hm
      exact ⟨x, List.mem_append_right _ hx, hrest⟩
  case logged =>
    intro x hx
    rcases List.mem_append.1 hx with hx | hx
    · exact (bans_logged hx).2
    · obtain ⟨y, hy, hrest⟩ := h.logged x hx
      exact ⟨y, logs_grow w e x.1 hy, hrest⟩

end

/-- The start: Redis answers and has no ban, and no breaker has an entry. -/
structure Blank (c : Cluster) : Prop extends Started c where
  entries : ∀ k, c.store.redis.entries.lookup (c.store.banKey k) = none
  breakers : ∀ i, (c.breakers i).states = ∅

theorem Blank.inv {c : Cluster} (h : Blank c) : (Watched.start c).Inv where
  connected := h.connected
  up := h.up
  own := fun i k => BanHistory.entry_empty (h.breakers i) k ▸ Tracks.fresh _ k _
  stored := h.entries
  sorted := List.Pairwise.nil
  past := by simp [Watched.start]
  pending := fun b hb => by
    rw [show (Watched.start c).cluster.bans = [] from h.bans] at hb
    cases hb
  set_ := by simp [Watched.start]
  caused := by simp [Watched.start]
  logged := by simp [Watched.start]

/-! ## What `proxy_handler` leaves out -/

/-- An endpoint is left out: for a ban of the instance that is on, or for a write of the last minute. -/
def Watched.LeavesOut (w : Watched) (i : Nat) (k : String) : Prop :=
  BannedAt (w.cluster.breakers i).banDuration k (w.logs i) w.cluster.now ∨
    ∃ m ∈ w.writes, m.key = k ∧ w.cluster.now < m.time + 60 * 10 ^ 9

/-- Every ban that counts has its cause. -/
structure Accounted (w : Watched) : Prop where
  /-- What `proxy_handler` collects of a model. -/
  collected : ∀ i app eps bannedKeys, w.cluster.Shows i app →
    (app.collectBanned w.cluster.now eps ∅).2 = .ok bannedKeys →
    ∀ k, k ∈ bannedKeys ↔ (∃ ep ∈ eps, Handler.epKey ep.url ep.key = .ok k) ∧ w.LeavesOut i k
  /-- What is written is a ban that the `proxy_handler` of some instance has set. -/
  caused : ∀ m ∈ w.writes, ∃ x ∈ w.bans, x.2.key = m.key ∧ x.2.time ≤ m.time ∧
    ∃ e ∈ w.logs x.1, e.bans m.key = true ∧ e.time = x.2.time

/-- What a store has of a key that was written last to run out at `x`. -/
theorem stored_live (r : Redis) {k : String} {value x : Nat}
    (h : r.entries.lookup k = some { value := value, expireAt := some x }) (now : Nat) :
    (r.live k now).isSome = true ↔ now < x := by
  unfold Redis.live
  rw [h, Option.filter_some]
  by_cases hnow : now < x <;> simp [hnow]

/-- The latest write is the last to run out. -/
theorem find_latest {writes : List Mark} (hsorted : writes.Pairwise fun m older => older.time ≤ m.time) {k : String}
    {m : Mark} (hfind : writes.find? (·.key = k) = some m) : ∀ x ∈ writes, x.key = k → x.time ≤ m.time := by
  obtain ⟨-, before, after, rfl, hbefore⟩ := List.find?_eq_some_iff_append.1 hfind
  intro x hx hkey
  rcases List.mem_append.1 hx with hx | hx
  · have hne := hbefore x hx
    simp [hkey] at hne
  · rcases List.mem_cons.1 hx with rfl | hx
    · exact le_rfl
    · exact (List.pairwise_cons.1 (List.pairwise_append.1 hsorted).2.1).1 x hx

/-- A ban in Redis is a write of the last minute. -/
theorem Watched.Inv.isBanned_iff {w : Watched} (h : w.Inv) (k : String) :
    w.cluster.store.isBanned k w.cluster.now = true ↔
      ∃ m ∈ w.writes, m.key = k ∧ w.cluster.now < m.time + 60 * 10 ^ 9 := by
  have hstored := h.stored k
  unfold SyncStore.isBanned Redis.exists_
  rw [h.connected, h.up, Bool.true_and, Bool.true_and]
  cases hfind : w.writes.find? (·.key = k) with
  | none =>
    rw [hfind] at hstored
    have hnone : ∀ m ∈ w.writes, m.key ≠ k := by simpa using List.find?_eq_none.1 hfind
    have hlive : w.cluster.store.redis.live (w.cluster.store.banKey k) w.cluster.now = none := by
      unfold Redis.live
      rw [hstored]
      rfl
    rw [hlive]
    exact ⟨fun hfalse => (Bool.false_ne_true hfalse).elim, fun ⟨m, hm, hkey, _⟩ => absurd hkey (hnone m hm)⟩
  | some m =>
    rw [hfind] at hstored
    have hkey : m.key = k := by simpa using List.find?_some hfind
    rw [stored_live _ hstored]
    constructor
    · exact fun hnow => ⟨m, List.mem_of_find?_eq_some hfind, hkey, hnow⟩
    · rintro ⟨x, hx, hxkey, hnow⟩
      exact hnow.trans_le (Nat.add_le_add_right (find_latest h.sorted hfind x hx hxkey) _)

/-- Asking changes no answer of the same time. -/
theorem isBanned_again (fb : Fail2ban) (k k' : String) (now : Nat) :
    ((fb.isBanned k' now).1.isBanned k now).2 = (fb.isBanned k now).2 := by
  rw [BanHistory.isBanned_bannedNow, BanHistory.isBanned_bannedNow]
  by_cases hkey : k = k'
  · subst hkey
    rw [(BanHistory.isBanned_entry fb k now).2]
    unfold BanHistory.Op.step EndpointState.bannedNow
    dsimp only
    split
    · rfl
    · rename_i until_ huntil
      split
      · rfl
      · rename_i hover
        simp [EndpointState.unbanned, huntil, hover]
  · exact congrArg (·.bannedNow now) (BanHistory.apply_entry_ne fb ⟨k', .isBanned, now⟩ hkey)

/-- What is collected are the keys that the breaker or Redis bans. -/
theorem mem_collectBanned {now : Nat} {k : String} : ∀ (eps : List EndpointConfig) {app : AppState}
    {acc bannedKeys : Finset String}, (app.collectBanned now eps acc).2 = .ok bannedKeys →
    (k ∈ bannedKeys ↔ k ∈ acc ∨
      (∃ ep ∈ eps, Handler.epKey ep.url ep.key = .ok k) ∧ (app.isBanned k now).2 = true)
  | [], app, acc, bannedKeys, h => by
    cases h
    simp
  | ep :: eps, app, acc, bannedKeys, h => by
    simp only [AppState.collectBanned] at h
    split at h
    · cases h
    · rename_i key hkey
      have hagain : ((app.isBanned key now).1.isBanned k now).2 = (app.isBanned k now).2 :=
        congrArg (· || app.sync.isBanned k now) (isBanned_again app.fail2ban k key now)
      rw [mem_collectBanned eps h, hagain]
      by_cases hk : key = k
      · subst hk
        cases hbanned : (app.isBanned key now).2 <;> simp [hkey]
      · have hhead : Handler.epKey ep.url ep.key ≠ .ok k := by
          rw [hkey]
          exact fun heq => hk (Except.ok.inj heq)
        have hacc : k ∈ (if (app.isBanned key now).2 = true then insert key acc else acc) ↔ k ∈ acc := by
          split
          · rw [Finset.mem_insert, or_iff_right (Ne.symm hk)]
          · rfl
        simp only [hacc, List.mem_cons, exists_eq_or_imp, hhead, false_or]

theorem Watched.Inv.accounted {w : Watched} (h : w.Inv) : Accounted w where
  collected := by
    intro i app eps bannedKeys hshows hcollect k
    have hown : (app.fail2ban.isBanned k w.cluster.now).2 = true ↔
        BannedAt (w.cluster.breakers i).banDuration k (w.logs i) w.cluster.now := by
      rw [hshows.fail2ban, BanHistory.isBanned_bannedNow]
      exact (h.own i k).bannedNow
    have hshared := h.isBanned_iff k
    rw [← hshows.sync] at hshared
    rw [mem_collectBanned eps hcollect]
    unfold AppState.isBanned Watched.LeavesOut
    rw [Bool.or_eq_true, hown, hshared]
    simp
  caused := by
    intro m hm
    obtain ⟨x, hx, hkey, htime⟩ := h.caused m hm
    obtain ⟨e, he, hbans, heq⟩ := h.logged x hx
    exact ⟨x, hx, hkey, htime, e, he, hkey ▸ hbans, heq⟩

/-- **Bans have their causes.** In every state that any number of instances reach, an instance leaves an endpoint
out exactly if a ban of its own is on that it has not reset, or a ban of some instance's `proxy_handler` was
written in the last minute. -/
theorem bans_accounted {c : Cluster} (h : Blank c) (es : List Event) :
    (Steps.run Watched.step (.start c) es).cluster = Steps.run Event.apply c es ∧
      Accounted (Steps.run Watched.step (.start c) es) := by
  have hinv : (Steps.run Watched.step (.start c) es).Inv :=
    Steps.run_keeps (P := fun _ _ => True) (fun _ e _ hw => hw.step e) es _ (Steps.every_true _ _) h.inv
  exact ⟨watched_cluster c es, hinv.accounted⟩

theorem clusterOf_blank (duration : Nat) : Blank (clusterOf duration) where
  toStarted := clusterOf_started duration
  entries := fun _ => rfl
  breakers := fun _ => rfl

/-- A ban of `proxy_handler` at instance 0, one of `proxy_generic` at instance 1, and a minute less a second. -/
def twoBans : List Event :=
  [.handler 0 upstreamKey 500, .write 0, .generic 1 "ep2" 500, .tick (59 * 10 ^ 9)]

theorem two_bans_accounted :
    (Steps.run Watched.step (.start (clusterOf 60)) twoBans).cluster = Steps.run Event.apply (clusterOf 60) twoBans ∧
      Accounted (Steps.run Watched.step (.start (clusterOf 60)) twoBans) :=
  bans_accounted (clusterOf_blank 60) twoBans

end SharedBans

end AiRouter
