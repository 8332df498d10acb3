import AiRouter.Aggregation
import AiRouter.Lib.Steps

/-
# Retention of the statistics: `run_cleanup` (stats/pg.rs:236-282)

| here | there |
| --- | --- |
| `asI32`                                | `retention_days as i32` (lines 245, 262, 275) |
| `Timestamps.minusDays`                 | `.. - ($1::integer \|\| ' days')::interval` |
| `deleteRequests`, `deleteTokenUsage`, `deleteTeamUsage` | the three `DELETE` statements |
| `runCleanup`                           | `run_cleanup`, with a pool |

Each statement is a transaction of its own, with its own `NOW()`; one that fails is logged and deletes nothing. The
session's time zone has days of 24 hours. `start_background_tasks` does not spawn the task for a retention of 0.
-/
namespace AiRouter

/-- A cast to `i32`. -/
def asI32 (x : Int) : Int := x.bmod (2 ^ 32)

/-- The timestamps that there are, without gaps. -/
structure Timestamps where
  valid : Int → Bool
  convex : ∀ {a b c : Int}, a ≤ b → b ≤ c → valid a = true → valid c = true → valid b = true

namespace Timestamps

/-- Every number of microseconds. -/
def all : Timestamps where
  valid _ := true
  convex _ _ _ _ := rfl

/-- From 4713 BC to 294276 AD. -/
def postgres : Timestamps where
  valid t := -210866803200000000 ≤ t && t < 9224318016000000000
  convex h h' ha hc := by
    simp only [Bool.and_eq_true, decide_eq_true_eq] at *
    omega

/-- A day in microseconds. -/
def day : Int := 86400 * 10 ^ 6

/-- `n` days before `t`; nothing where the statement fails. -/
def minusDays (ts : Timestamps) (t n : Int) : Option Int :=
  let cutoff := t - n * day
  if ts.valid cutoff then some cutoff else none

end Timestamps

open Timestamps (day)

/-- `NOW()` of each statement. -/
structure CleanupTimes where
  requests : Int
  tokenUsage : Int
  teamUsage : Int

/-- What a `DELETE .. WHERE t < cutoff` leaves. -/
def spared : Option Int → Int → Bool
  | none, _ => true
  | some cutoff, t => !decide (t < cutoff)

namespace StatsDb

def deleteRequests (cutoff : Option Int) (db : StatsDb) : StatsDb :=
  { db with requests := db.requests.filter fun r => spared cutoff r.timestamp }

def deleteTokenUsage (cutoff : Option Int) (db : StatsDb) : StatsDb :=
  { db with tokenUsageHourly := db.tokenUsageHourly.retainKeys fun k => spared cutoff k.1 }

def deleteTeamUsage (cutoff : Option Int) (db : StatsDb) : StatsDb :=
  { db with teamUsageHourly := db.teamUsageHourly.retainKeys fun k => spared cutoff k.1 }

end StatsDb

def runCleanup (ts : Timestamps) (retentionDays : Nat) (now : CleanupTimes) (db : StatsDb) : StatsDb :=
  let n := asI32 retentionDays
  let db := db.deleteRequests (ts.minusDays now.requests n)
  let db := db.deleteTokenUsage (ts.minusDays (dateTruncHour now.tokenUsage) n)
  db.deleteTeamUsage (ts.minusDays (dateTruncHour now.teamUsage) n)

/-! ## The property -/

/-- What is not older than `days` days at the time of its statement is in `db'` as in `db`. -/
structure DeletesOlder (days : Nat) (now : CleanupTimes) (db db' : StatsDb) : Prop where
  requests : ∀ r, now.requests - days * day ≤ r.timestamp → db'.requests.count r = db.requests.count r
  tokenUsage : ∀ k, now.tokenUsage - days * day ≤ k.1 → db'.tokenUsageHourly.lookup k = db.tokenUsageHourly.lookup k
  teamUsage : ∀ k, now.teamUsage - days * day ≤ k.1 → db'.teamUsageHourly.lookup k = db.teamUsageHourly.lookup k

/-- Every row of `db` is in `db'`. -/
structure StatsDb.Within (db db' : StatsDb) : Prop where
  requests : db.requests.Sublist db'.requests
  tokenUsage : ∀ k v, db.tokenUsageHourly.lookup k = some v → db'.tokenUsageHourly.lookup k = some v
  teamUsage : ∀ k v, db.teamUsageHourly.lookup k = some v → db'.teamUsageHourly.lookup k = some v

/-- The database has the time. -/
structure CleanupTimes.Valid (ts : Timestamps) (now : CleanupTimes) : Prop where
  requests : ts.valid now.requests = true
  tokenUsage : ts.valid now.tokenUsage = true
  teamUsage : ts.valid now.teamUsage = true

/-- A cleanup deletes older rows only, and leaves all that one with a smaller retention leaves. -/
structure CleansUp (ts : Timestamps) (days : Nat) (now : CleanupTimes) : Prop where
  older : ∀ db, DeletesOlder days now db (runCleanup ts days now db)
  fewer : ∀ days', 0 < days' → days' ≤ days → ∀ db, (runCleanup ts days' now db).Within (runCleanup ts days now db)

/-- The number sent is negative, and no statement has a cutoff in the future that it stands for. -/
structure NoCutoff (ts : Timestamps) (days : Nat) (now : CleanupTimes) : Prop where
  requests : ts.minusDays now.requests (days - 2 ^ 32) = none
  tokenUsage : ts.minusDays (dateTruncHour now.tokenUsage) (days - 2 ^ 32) = none
  teamUsage : ts.minusDays (dateTruncHour now.teamUsage) (days - 2 ^ 32) = none

/-! ## Cutoffs -/

theorem asI32_of_lt {days : Nat} (h : days < 2 ^ 31) : asI32 days = days := by
  unfold asI32
  apply Int.bmod_eq_of_le <;> omega

/-- From `2 ^ 31` on the number that is sent is negative. -/
theorem asI32_of_ge {days : Nat} (h : 2 ^ 31 ≤ days) (hlt : days < 2 ^ 32) : asI32 days = days - 2 ^ 32 := by
  have hwrap : asI32 (days - 2 ^ 32) = asI32 days := Int.sub_mul_bmod_self_right days 1 (2 ^ 32)
  rw [← hwrap]
  unfold asI32
  apply Int.bmod_eq_of_le <;> omega

theorem dateTruncHour_le (t : Int) : dateTruncHour t ≤ t := by
  unfold dateTruncHour
  omega

/-- An hour is less than a day old when it has ended. -/
theorem dateTruncHour_young {days : Nat} (h : 0 < days) (t : Int) : t - days * day ≤ dateTruncHour t := by
  unfold dateTruncHour day
  omega

section
variable {ts : Timestamps} {t now s n n' : Int}

theorem spared_of_le (h : t - n * day ≤ s) : spared (ts.minusDays t n) s = true := by
  unfold Timestamps.minusDays
  dsimp only
  split
  · simpa [spared] using h
  · rfl

/-- A cutoff that is further back spares more. -/
theorem spared_mono (hle : t ≤ now) (hnow : ts.valid now = true) (hn : 0 ≤ n') (hn' : n' ≤ n)
    (h : spared (ts.minusDays t n') s = true) : spared (ts.minusDays t n) s = true := by
  have hback : t - n * day ≤ t - n' * day := by
    unfold day
    omega
  have hfirst : t - n' * day ≤ t := by
    unfold day
    omega
  by_cases hvalid : ts.valid (t - n * day) = true
  · have hvalid' := ts.convex hback (hfirst.trans hle) hvalid hnow
    simp only [Timestamps.minusDays, hvalid', if_true, spared, Bool.not_eq_true', decide_eq_false_iff_not, not_lt] at h
    exact spared_of_le (hback.trans h)
  · unfold Timestamps.minusDays
    rw [if_neg hvalid]
    rfl

/-- A cutoff in the future spares nothing of the past. -/
theorem not_spared (hn : n < 0) (hsome : ts.minusDays t n ≠ none) (hs : s ≤ t) :
    spared (ts.minusDays t n) s = false := by
  unfold Timestamps.minusDays at hsome ⊢
  dsimp only at hsome ⊢
  split at hsome
  · rename_i hvalid
    rw [if_pos hvalid]
    have hlt : s < t - n * day := by
      unfold day
      omega
    simpa [spared] using hlt
  · exact absurd rfl hsome

end

/-! ## One statement -/

/-- The number of days that is sent is right, or the statement fails. -/
def SafeCutoff (ts : Timestamps) (days : Nat) (t : Int) : Prop := days < 2 ^ 31 ∨ ts.minusDays t (days - 2 ^ 32) = none

section
variable {ts : Timestamps} {days days' : Nat} {t now s : Int}

theorem SafeCutoff.young (h : SafeCutoff ts days t) (hdays : days < 2 ^ 32) (hs : t - days * day ≤ s) :
    spared (ts.minusDays t (asI32 days)) s = true := by
  by_cases hsmall : days < 2 ^ 31
  · rw [asI32_of_lt hsmall]
    exact spared_of_le hs
  · rw [asI32_of_ge (by omega) hdays, h.resolve_left hsmall]
    rfl

theorem SafeCutoff.mono (h : SafeCutoff ts days t) (hdays : days < 2 ^ 32) (hle : t ≤ now) (hnow : ts.valid now = true)
    (hfewer : days' ≤ days) (hs : spared (ts.minusDays t (asI32 days')) s = true) :
    spared (ts.minusDays t (asI32 days)) s = true := by
  by_cases hsmall : days < 2 ^ 31
  · rw [asI32_of_lt hsmall]
    rw [asI32_of_lt (hfewer.trans_lt hsmall)] at hs
    exact spared_mono hle hnow (by omega) (by omega) hs
  · rw [asI32_of_ge (by omega) hdays, h.resolve_left hsmall]
    rfl

/-- Otherwise the row of the moment itself is deleted. -/
theorem not_spared_of_not_safe (h : ¬ SafeCutoff ts days t) (hdays : days < 2 ^ 32) :
    spared (ts.minusDays t (asI32 days)) t = false := by
  obtain ⟨hlarge, hsome⟩ := not_or.1 h
  rw [asI32_of_ge (by omega) hdays]
  exact not_spared (by omega) hsome le_rfl

variable {β : Type} {table : KeyMap (Int × String) β} {k : Int × String} {v : β}

/-- In an hourly table the young rows stay. -/
theorem SafeCutoff.lookup_young (h : SafeCutoff ts days (dateTruncHour now)) (hdays : days < 2 ^ 32)
    (hk : now - days * day ≤ k.1) :
    (table.retainKeys fun k => spared (ts.minusDays (dateTruncHour now) (asI32 days)) k.1).lookup k
      = table.lookup k := by
  have hle := dateTruncHour_le now
  rw [KeyMap.lookup_retainKeys, if_pos (h.young hdays (by omega))]

/-- So do those that a smaller retention leaves. -/
theorem SafeCutoff.lookup_mono (h : SafeCutoff ts days (dateTruncHour now)) (hdays : days < 2 ^ 32)
    (hnow : ts.valid now = true) (hfewer : days' ≤ days)
    (hk : (table.retainKeys fun k => spared (ts.minusDays (dateTruncHour now) (asI32 days')) k.1).lookup k = some v) :
    (table.retainKeys fun k => spared (ts.minusDays (dateTruncHour now) (asI32 days)) k.1).lookup k = some v := by
  rw [KeyMap.lookup_retainKeys] at hk ⊢
  split at hk
  · rename_i hs
    rw [if_pos (h.mono hdays (dateTruncHour_le now) hnow hfewer hs), hk]
  · cases hk

/-- A row of this hour tells whether the cutoff is right. -/
theorem safe_of_lookup {name : String} (hdays : days < 2 ^ 32)
    (h : (table.retainKeys fun k => spared (ts.minusDays (dateTruncHour now) (asI32 days)) k.1).lookup
      (dateTruncHour now, name) = some v) : SafeCutoff ts days (dateTruncHour now) := by
  by_contra hnot
  rw [KeyMap.lookup_retainKeys, if_neg (by simp [not_spared_of_not_safe hnot hdays])] at h
  cases h

end

/-! ## The cleanup -/

section
variable {ts : Timestamps} {days : Nat} {now : CleanupTimes} {db : StatsDb}

theorem runCleanup_requests : (runCleanup ts days now db).requests
    = db.requests.filter fun r => spared (ts.minusDays now.requests (asI32 days)) r.timestamp := rfl

theorem count_runCleanup {r : RequestRow}
    (h : spared (ts.minusDays now.requests (asI32 days)) r.timestamp = true) :
    (runCleanup ts days now db).requests.count r = db.requests.count r := by
  rw [runCleanup_requests]
  exact List.count_filter h

theorem runCleanup_tokenUsage : (runCleanup ts days now db).tokenUsageHourly
    = db.tokenUsageHourly.retainKeys
        fun k => spared (ts.minusDays (dateTruncHour now.tokenUsage) (asI32 days)) k.1 := rfl

theorem runCleanup_teamUsage : (runCleanup ts days now db).teamUsageHourly
    = db.teamUsageHourly.retainKeys
        fun k => spared (ts.minusDays (dateTruncHour now.teamUsage) (asI32 days)) k.1 := rfl

theorem cleansUp_of_safe (hdays : days < 2 ^ 32) (hnow : now.Valid ts) (hrequests : SafeCutoff ts days now.requests)
    (htoken : SafeCutoff ts days (dateTruncHour now.tokenUsage))
    (hteam : SafeCutoff ts days (dateTruncHour now.teamUsage)) : CleansUp ts days now where
  older db :=
    { requests := fun r hr => count_runCleanup (hrequests.young hdays hr)
      tokenUsage := fun k hk => by
        rw [runCleanup_tokenUsage]
        exact htoken.lookup_young hdays hk
      teamUsage := fun k hk => by
        rw [runCleanup_teamUsage]
        exact hteam.lookup_young hdays hk }
  fewer days' _ hfewer db :=
    { requests := by
        rw [runCleanup_requests, runCleanup_requests]
        exact List.monotone_filter_right _ fun r hr => hrequests.mono hdays le_rfl hnow.requests hfewer hr
      tokenUsage := fun k v hk => by
        rw [runCleanup_tokenUsage] at hk ⊢
        exact htoken.lookup_mono hdays hnow.tokenUsage hfewer hk
      teamUsage := fun k v hk => by
        rw [runCleanup_teamUsage] at hk ⊢
        exact hteam.lookup_mono hdays hnow.teamUsage hfewer hk }

/-- A row of this moment in each table. -/
def momentRow (timestamp : Int) : RequestRow where
  timestamp := timestamp
  model := "gpt-4"
  endpoint := "https://api.openai.com"
  team := "dev"
  tokensPrompt := 5
  tokensCompletion := 7
  latencyMs := 40
  status := 200
  tokenKeyHash := some "a1"
  costApprox := 0

def momentDb (now : CleanupTimes) : StatsDb where
  requests := [momentRow now.requests]
  tokenUsageHourly := AList.singleton (dateTruncHour now.tokenUsage, "a1")
    { team := "dev", usage := (momentRow now.tokenUsage).usage }
  teamUsageHourly := AList.singleton (dateTruncHour now.teamUsage, "dev")
    { usage := (momentRow now.teamUsage).usage, activeTokens := 1 }
  cursor := none

theorem CleansUp.safe (h : CleansUp ts days now) (hpos : 0 < days) (hdays : days < 2 ^ 32) :
    SafeCutoff ts days now.requests ∧ SafeCutoff ts days (dateTruncHour now.tokenUsage) ∧
      SafeCutoff ts days (dateTruncHour now.teamUsage) := by
  have hold := h.older (momentDb now)
  refine ⟨?_, ?_, ?_⟩
  · by_contra hnot
    have hyoung : now.requests - days * day ≤ now.requests := by
      unfold day
      omega
    have hkept := hold.requests (momentRow now.requests) hyoung
    rw [runCleanup_requests] at hkept
    simp [momentDb, momentRow, not_spared_of_not_safe hnot hdays] at hkept
  · have hkept := hold.tokenUsage (dateTruncHour now.tokenUsage, "a1") (dateTruncHour_young hpos _)
    rw [runCleanup_tokenUsage] at hkept
    exact safe_of_lookup hdays (hkept.trans (KeyMap.lookup_singleton _ _))
  · have hkept := hold.teamUsage (dateTruncHour now.teamUsage, "dev") (dateTruncHour_young hpos _)
    rw [runCleanup_teamUsage] at hkept
    exact safe_of_lookup hdays (hkept.trans (KeyMap.lookup_singleton _ _))

end

/-- **A cleanup keeps the retention** exactly if it fits an `i32`, or all three statements fail. -/
theorem cleans_up_iff {ts : Timestamps} {days : Nat} {now : CleanupTimes} (hpos : 0 < days) (hdays : days < 2 ^ 32)
    (hnow : now.Valid ts) : CleansUp ts days now ↔ days < 2 ^ 31 ∨ NoCutoff ts days now := by
  constructor
  · intro h
    obtain ⟨hrequests, htoken, hteam⟩ := h.safe hpos hdays
    by_cases hsmall : days < 2 ^ 31
    · exact Or.inl hsmall
    · exact Or.inr ⟨hrequests.resolve_left hsmall, htoken.resolve_left hsmall, hteam.resolve_left hsmall⟩
  · rintro (hsmall | hnone)
    · exact cleansUp_of_safe hdays hnow (Or.inl hsmall) (Or.inl hsmall) (Or.inl hsmall)
    · exact cleansUp_of_safe hdays hnow (Or.inr hnone.requests) (Or.inr hnone.tokenUsage) (Or.inr hnone.teamUsage)

/-! Three statements at the start of 2026, and 30 days ahead instead of back. -/

def newYear : CleanupTimes where
  requests := 1767225600000000
  tokenUsage := 1767225600000001
  teamUsage := 1767225600000002

theorem newYear_valid : newYear.Valid .postgres := ⟨by decide, by decide, by decide⟩

theorem thirty_days_are_kept : CleansUp .postgres 30 newYear :=
  (cleans_up_iff (by decide) (by decide) newYear_valid).2 (Or.inl (by decide))

theorem large_retention_deletes_all :
    (runCleanup .postgres 4294967266 newYear (momentDb newYear)).requests = [] ∧
      (runCleanup .postgres 4294967266 newYear (momentDb newYear)).tokenUsageHourly.keys = [] ∧
      (runCleanup .postgres 4294967266 newYear (momentDb newYear)).teamUsageHourly.keys = [] ∧
      (runCleanup .postgres 30 newYear (momentDb newYear)).requests = [momentRow newYear.requests] ∧
      ¬ ∀ days, 0 < days → days < 2 ^ 32 → ∀ now : CleanupTimes, now.Valid .postgres → CleansUp .postgres days now := by
  refine ⟨by decide, by decide, by decide, by decide, fun h => ?_⟩
  have hsafe := (h 4294967266 (by decide) (by decide) newYear newYear_valid).safe (by decide) (by decide)
  exact absurd hsafe.1 (by unfold SafeCutoff; decide)

/-! ## Rows over time -/

/-- A request is recorded, or a round of the background task. -/
inductive StatsAct where
  | insert (row : RequestRow)
  | cleanup (now : CleanupTimes)

def StatsAct.apply (ts : Timestamps) (retentionDays : Nat) (db : StatsDb) : StatsAct → StatsDb
  | .insert row => { db with requests := db.requests ++ [row] }
  | .cleanup now => runCleanup ts retentionDays now db

/-- The row is no older than the retention when its table is cleaned up. -/
def StatsAct.Young (days : Nat) (r : RequestRow) : StatsAct → Prop
  | .insert _ => True
  | .cleanup now => now.requests - days * day ≤ r.timestamp

/-- **A recorded request stays** for the retention, whatever else is recorded and cleaned up. -/
theorem row_stays {ts : Timestamps} {days : Nat} (hsmall : days < 2 ^ 31) (r : RequestRow) (db : StatsDb)
    (acts : List StatsAct) (hyoung : ∀ a ∈ acts, a.Young days r) :
    db.requests.count r ≤ (Steps.run (StatsAct.apply ts days) db acts).requests.count r := by
  have hstep : ∀ db' a, StatsAct.Young days r a → db.requests.count r ≤ db'.requests.count r →
      db.requests.count r ≤ (StatsAct.apply ts days db' a).requests.count r := by
    intro db' a ha hle
    cases a with
    | insert row => exact hle.trans (List.Sublist.count_le r (List.sublist_append_left ..))
    | cleanup now =>
      refine hle.trans_eq ?_
      exact (count_runCleanup (SafeCutoff.young (Or.inl hsmall) (by omega) ha)).symm
  refine Steps.run_keeps hstep acts db ((Steps.every_iff_forall acts db).2 ?_) le_rfl
  rintro before a later rfl
  exact hyoung a (by simp)

end AiRouter
