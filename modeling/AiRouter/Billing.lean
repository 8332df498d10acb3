import AiRouter.Retention

/-
# What was recorded is aggregated or waits

Requests are recorded, rounds of `run_aggregation` commit or roll back, rounds of `run_cleanup` delete old rows,
in any order. Of each hour that no cleanup has expired, the sums of its hourly rows and of its rows from the
cursor on are what was recorded of it: nothing is counted twice, and a round that rolls back loses nothing.

| here | there |
| --- | --- |
| `BillingAct` | `record_request` (stats/pg.rs:147-186) and the two loops of `start_background_tasks` (pg.rs:189-234) |
-/
namespace AiRouter

inductive BillingAct where
  | record (row : RequestRow)
  | aggregate (now : Int)
  | cleanup (now : CleanupTimes)

/-- The tables, and all rows recorded so far. -/
structure Billing where
  db : StatsDb
  recorded : List RequestRow

namespace Billing

def start (db : StatsDb) : Billing where
  db := db
  recorded := []

def step (ts : Timestamps) (retentionDays : Nat) (b : Billing) : BillingAct → Billing
  | .record row => { db := { b.db with requests := b.db.requests ++ [row] }, recorded := b.recorded ++ [row] }
  | .aggregate now => { b with db := (runAggregation b.db now).1 }
  | .cleanup now => { b with db := runCleanup ts retentionDays now b.db }

/-- A row of the hour is there before the aggregation passes its time, and no cleanup goes as far as the hour. -/
def Timely (ts : Timestamps) (retentionDays : Nat) (hour : Int) (b : Billing) : BillingAct → Prop
  | .record row => row.hour = hour → ∀ c ∈ b.db.cursor, c ≤ row.timestamp
  | .aggregate _ => True
  | .cleanup now =>
    spared (ts.minusDays now.requests (asI32 retentionDays)) hour = true ∧
      spared (ts.minusDays (dateTruncHour now.tokenUsage) (asI32 retentionDays)) hour = true ∧
      spared (ts.minusDays (dateTruncHour now.teamUsage) (asI32 retentionDays)) hour = true

instance (ts : Timestamps) (retentionDays : Nat) (hour : Int) (b : Billing) :
    ∀ a : BillingAct, Decidable (b.Timely ts retentionDays hour a)
  | .record row => inferInstanceAs (Decidable (row.hour = hour → ∀ c ∈ b.db.cursor, c ≤ row.timestamp))
  | .aggregate _ => inferInstanceAs (Decidable True)
  | .cleanup now =>
    inferInstanceAs (Decidable (spared (ts.minusDays now.requests (asI32 retentionDays)) hour = true ∧
      spared (ts.minusDays (dateTruncHour now.tokenUsage) (asI32 retentionDays)) hour = true ∧
      spared (ts.minusDays (dateTruncHour now.teamUsage) (asI32 retentionDays)) hour = true))

end Billing

/-- The rows of the hour that wait for the aggregation. -/
def StatsDb.pending (db : StatsDb) (hour : Int) : List RequestRow :=
  db.requests.filter fun r => r.hour = hour && db.cursor.all (· ≤ r.timestamp)

/-! ## Rows that wait -/

theorem usageOf_append (rows rows' : List RequestRow) : usageOf (rows ++ rows') = usageOf rows + usageOf rows' := by
  unfold usageOf
  rw [List.map_append, List.sum_append]

/-- Rows that are split by a condition add up. -/
theorem usageOf_split (p : RequestRow → Bool) (rows : List RequestRow) :
    usageOf (rows.filter p) + usageOf (rows.filter fun r => !p r) = usageOf rows := by
  have hperm : (rows.filter p ++ rows.filter fun r => !p r).Perm rows := List.filter_append_perm p rows
  rw [← usageOf_append]
  exact (hperm.map _).sum_eq

section
variable {db : StatsDb} {hour now : Int}

theorem pending_record (row : RequestRow) (h : row.hour = hour → ∀ c ∈ db.cursor, c ≤ row.timestamp) :
    ({ db with requests := db.requests ++ [row] } : StatsDb).pending hour
      = db.pending hour ++ [row].filter (·.hour = hour) := by
  unfold StatsDb.pending
  rw [List.filter_append]
  congr 1
  refine List.filter_congr fun r hr => ?_
  rw [List.mem_singleton.1 hr]
  by_cases hhour : row.hour = hour
  · have hcursor : db.cursor.all (· ≤ row.timestamp) = true := by simpa [Option.all_eq_true] using h hhour
    rw [hcursor, Bool.and_true]
  · simp [hhour]

/-- What spares the hour spares its rows. -/
theorem spared_row {cutoff : Option Int} {r : RequestRow} (h : spared cutoff r.hour = true) :
    spared cutoff r.timestamp = true := by
  cases cutoff with
  | none => rfl
  | some cutoff =>
    have hle : r.hour ≤ r.timestamp := by
      unfold RequestRow.hour dateTruncHour
      omega
    simp only [spared, Bool.not_eq_true', decide_eq_false_iff_not, not_lt] at h ⊢
    exact h.trans hle

/-- A cleanup that does not go as far as the hour leaves what waits of it. -/
theorem pending_runCleanup {ts : Timestamps} {days : Nat} {times : CleanupTimes}
    (h : spared (ts.minusDays times.requests (asI32 days)) hour = true) :
    (runCleanup ts days times db).pending hour = db.pending hour := by
  unfold StatsDb.pending
  rw [runCleanup_requests, List.filter_filter]
  refine List.filter_congr fun r _ => ?_
  change (_ && db.cursor.all _ && _) = _
  by_cases hhour : r.hour = hour
  · rw [spared_row (hhour ▸ h), Bool.and_true]
  · simp [hhour]

/-- What waits is what a round adds up, and what waits after it. -/
theorem pending_split {lastTs endTs : Int} (hcursor : db.cursor = some lastTs) (hle : lastTs ≤ endTs) :
    usageOf ((between lastTs endTs db.requests).filter (·.hour = hour))
        + usageOf (({ db with cursor := some endTs } : StatsDb).pending hour)
      = usageOf (db.pending hour) := by
  rw [← usageOf_split (·.timestamp < endTs) (db.pending hour)]
  unfold between StatsDb.pending
  rw [List.filter_filter, List.filter_filter, List.filter_filter, hcursor]
  congr 2
  · refine List.filter_congr fun r _ => ?_
    simp only [Option.all_some]
    grind
  · refine List.filter_congr fun r _ => ?_
    simp only [Option.all_some]
    grind

end

/-! ## What an act moves -/

/-- No row of a request changes. -/
theorem runAggregation_requests (db : StatsDb) (now : Int) : (runAggregation db now).1.requests = db.requests := by
  cases hcursor : db.cursor with
  | none =>
    unfold runAggregation
    rw [hcursor]
  | some lastTs =>
    by_cases hlt : lastTs < dateTruncHour now
    · rw [runAggregation_eq hcursor hlt]
      unfold StatsDb.insertTokenUsage StatsDb.insertTeamUsage StatsDb.updateCursor
      cases GroupBy.insertOrMerge TokenUsage.merge TokenUsage.fits
          (selectTokenUsage (between lastTs (dateTruncHour now) db.requests)) db.tokenUsageHourly with
      | none => rfl
      | some tokens =>
        simp only [Option.map_some, Option.bind_some]
        cases GroupBy.insertOrMerge TeamUsage.merge TeamUsage.fits
          (selectTeamUsage (between lastTs (dateTruncHour now) db.requests)) db.teamUsageHourly <;> rfl
    · unfold runAggregation
      rw [hcursor]
      dsimp only
      rw [if_pos (not_lt.1 hlt)]

/-- **A round of the aggregation** changes nothing, or adds what it has passed to the tables. -/
theorem runAggregation_cases (db : StatsDb) (now : Int) :
    (runAggregation db now).1 = db ∨ ∃ lastTs, db.cursor = some lastTs ∧ lastTs < dateTruncHour now ∧
      Aggregated db lastTs (dateTruncHour now) (runAggregation db now) := by
  cases hcursor : db.cursor with
  | none =>
    left
    unfold runAggregation
    rw [hcursor]
  | some lastTs =>
    by_cases hlt : lastTs < dateTruncHour now
    · by_cases hinsert : GroupBy.Insertable TokenUsage.merge TokenUsage.fits
          (selectTokenUsage (between lastTs (dateTruncHour now) db.requests)) db.tokenUsageHourly ∧
        GroupBy.Insertable TeamUsage.merge TeamUsage.fits
          (selectTeamUsage (between lastTs (dateTruncHour now) db.requests)) db.teamUsageHourly
      · exact Or.inr ⟨lastTs, rfl, hlt, aggregated_of_insertable hcursor hlt hinsert.1 hinsert.2⟩
      · left
        rw [rolledBack_of_not_insertable hcursor hlt hinsert]
    · left
      unfold runAggregation
      rw [hcursor]
      dsimp only
      rw [if_pos (not_lt.1 hlt)]

/-- What the round adds is what no longer waits. -/
theorem Aggregated.pending {db : StatsDb} {lastTs now : Int} (hcursor : db.cursor = some lastTs)
    (hlt : lastTs < dateTruncHour now)
    (h : Aggregated db lastTs (dateTruncHour now) (runAggregation db now)) (hour : Int) :
    usageOf ((between lastTs (dateTruncHour now) db.requests).filter (·.hour = hour))
        + usageOf ((runAggregation db now).1.pending hour)
      = usageOf (db.pending hour) := by
  rw [← pending_split hcursor hlt.le]
  unfold StatsDb.pending
  rw [runAggregation_requests, h.cursor]

/-! ## The invariant -/

/-- The hour's rows of the tables and those that wait come to what there was at the start and what was recorded. -/
structure Billing.Conserves (db : StatsDb) (hour : Int) (b : Billing) : Prop where
  cursor : b.db.cursor ≠ none
  tokens : b.db.tokenUsageIn hour + usageOf (b.db.pending hour)
    = db.tokenUsageIn hour + usageOf (db.pending hour) + usageOf (b.recorded.filter (·.hour = hour))
  teams : b.db.teamUsageIn hour + usageOf (b.db.pending hour)
    = db.teamUsageIn hour + usageOf (db.pending hour) + usageOf (b.recorded.filter (·.hour = hour))

namespace Billing

variable {db : StatsDb} {ts : Timestamps} {days : Nat} {hour : Int}

theorem Conserves.start (hcursor : db.cursor ≠ none) : (start db).Conserves db hour where
  cursor := hcursor
  tokens := (add_zero _).symm
  teams := (add_zero _).symm

theorem Conserves.record {b : Billing} (h : b.Conserves db hour) {row : RequestRow}
    (hrow : row.hour = hour → ∀ c ∈ b.db.cursor, c ≤ row.timestamp) : (b.step ts days (.record row)).Conserves db hour := by
  have hpending : usageOf ((b.step ts days (.record row)).db.pending hour)
      = usageOf (b.db.pending hour) + usageOf ([row].filter (·.hour = hour)) := by
    rw [← usageOf_append, ← pending_record row hrow]
    rfl
  have hrecorded : usageOf ((b.step ts days (.record row)).recorded.filter (·.hour = hour))
      = usageOf (b.recorded.filter (·.hour = hour)) + usageOf ([row].filter (·.hour = hour)) := by
    rw [← usageOf_append, ← List.filter_append]
    rfl
  exact
    { cursor := h.cursor
      tokens := by
        rw [hpending, hrecorded, ← add_assoc, ← add_assoc, ← h.tokens]
        rfl
      teams := by
        rw [hpending, hrecorded, ← add_assoc, ← add_assoc, ← h.teams]
        rfl }

/-- Rows may move from those that wait to the tables. -/
theorem Conserves.move {b : Billing} (h : b.Conserves db hour) {db' : StatsDb} (hcursor : db'.cursor ≠ none)
    (htokens : db'.tokenUsageIn hour + usageOf (db'.pending hour)
      = b.db.tokenUsageIn hour + usageOf (b.db.pending hour))
    (hteams : db'.teamUsageIn hour + usageOf (db'.pending hour)
      = b.db.teamUsageIn hour + usageOf (b.db.pending hour)) :
    ({ b with db := db' } : Billing).Conserves db hour where
  cursor := hcursor
  tokens := htokens.trans h.tokens
  teams := hteams.trans h.teams

theorem Conserves.aggregate {b : Billing} (h : b.Conserves db hour) (now : Int) :
    (b.step ts days (.aggregate now)).Conserves db hour := by
  refine h.move ?_ ?_ ?_
  all_goals obtain hsame | ⟨lastTs, hcursor, hlt, hadded⟩ := runAggregation_cases b.db now
  · rw [hsame]
    exact h.cursor
  · rw [hadded.cursor]
    exact Option.some_ne_none _
  · rw [hsame]
  · rw [hadded.tokens, add_assoc, hadded.pending hcursor hlt]
  · rw [hsame]
  · rw [hadded.teams, add_assoc, hadded.pending hcursor hlt]

theorem Conserves.cleanup {b : Billing} (h : b.Conserves db hour) {now : CleanupTimes}
    (hnow : b.Timely ts days hour (.cleanup now)) : (b.step ts days (.cleanup now)).Conserves db hour := by
  obtain ⟨hrequests, htoken, hteam⟩ := hnow
  have htokens : (runCleanup ts days now b.db).tokenUsageIn hour = b.db.tokenUsageIn hour := by
    unfold StatsDb.tokenUsageIn
    rw [runCleanup_tokenUsage]
    exact GroupBy.tableSum_retainKeys (fun k hk => by rw [of_decide_eq_true hk, htoken]) _ _
  have hteams : (runCleanup ts days now b.db).teamUsageIn hour = b.db.teamUsageIn hour := by
    unfold StatsDb.teamUsageIn
    rw [runCleanup_teamUsage]
    exact GroupBy.tableSum_retainKeys (fun k hk => by rw [of_decide_eq_true hk, hteam]) _ _
  refine h.move h.cursor ?_ ?_
  · rw [htokens, pending_runCleanup hrequests]
  · rw [hteams, pending_runCleanup hrequests]

theorem Conserves.step (b : Billing) (a : BillingAct) (ha : b.Timely ts days hour a) (h : b.Conserves db hour) :
    (b.step ts days a).Conserves db hour := by
  cases a with
  | record row => exact h.record ha
  | aggregate now => exact h.aggregate now
  | cleanup now => exact h.cleanup ha

/-- Once the cursor has passed the hour, nothing of it waits. -/
theorem pending_of_passed {cursor : Int} (hcursor : db.cursor = some cursor) (h : hour + 3600 * 10 ^ 6 ≤ cursor) :
    db.pending hour = [] := by
  unfold StatsDb.pending
  refine List.filter_eq_nil_iff.2 fun r _ hwaits => ?_
  rw [hcursor] at hwaits
  simp only [Option.all_some, Bool.and_eq_true, decide_eq_true_eq] at hwaits
  obtain ⟨hhour, hle⟩ := hwaits
  unfold RequestRow.hour dateTruncHour at hhour
  omega

end Billing

/-- **Nothing is counted twice or lost.** Of an hour that no cleanup expires, the sums of both hourly tables and of
the rows that wait come to what there was at the start and what was recorded since; once the cursor has passed the
hour, the tables alone do. -/
theorem usage_conserved {ts : Timestamps} {days : Nat} {hour : Int} {db : StatsDb} (hcursor : db.cursor ≠ none)
    (acts : List BillingAct)
    (htimely : Steps.Every (Billing.step ts days) (Billing.Timely ts days hour) (.start db) acts) :
    let b := Steps.run (Billing.step ts days) (.start db) acts
    let expected := usageOf (db.pending hour) + usageOf (b.recorded.filter (·.hour = hour))
    (b.db.tokenUsageIn hour + usageOf (b.db.pending hour) = db.tokenUsageIn hour + expected ∧
      b.db.teamUsageIn hour + usageOf (b.db.pending hour) = db.teamUsageIn hour + expected) ∧
      ∀ cursor ∈ b.db.cursor, hour + 3600 * 10 ^ 6 ≤ cursor →
        b.db.tokenUsageIn hour = db.tokenUsageIn hour + expected ∧
        b.db.teamUsageIn hour = db.teamUsageIn hour + expected := by
  have h : Billing.Conserves db hour (Steps.run (Billing.step ts days) (.start db) acts) :=
    Steps.run_keeps (fun b a ha h => h.step b a ha) acts _ htimely (.start hcursor)
  refine ⟨⟨?_, ?_⟩, fun cursor hmem hpassed => ?_⟩
  · rw [h.tokens, add_assoc]
  · rw [h.teams, add_assoc]
  · have hempty : usageOf ((Steps.run (Billing.step ts days) (.start db) acts).db.pending hour) = 0 := by
      rw [Billing.pending_of_passed hmem hpassed]
      rfl
    have htokens := h.tokens
    have hteams := h.teams
    rw [hempty, add_zero] at htokens hteams
    exact ⟨by rw [htokens, add_assoc], by rw [hteams, add_assoc]⟩

/-- A round over the two rows of an hour, a row of the next hour, and a cleanup. -/
def billedActs : List BillingAct :=
  [.aggregate (7300 * 10 ^ 6), .record (momentRow (7400 * 10 ^ 6)),
    .cleanup { requests := 7500 * 10 ^ 6, tokenUsage := 7500 * 10 ^ 6, teamUsage := 7500 * 10 ^ 6 }]

theorem first_hour_settled :
    let b := Steps.run (Billing.step .postgres 30) (.start (genericDb "dev" "dev")) billedActs
    b.db.tokenUsageIn (3600 * 10 ^ 6) = (genericDb "dev" "dev").tokenUsageIn (3600 * 10 ^ 6)
      + (usageOf ((genericDb "dev" "dev").pending (3600 * 10 ^ 6))
        + usageOf (b.recorded.filter (·.hour = 3600 * 10 ^ 6))) :=
  ((usage_conserved (by decide) billedActs (by decide)).2 (7200 * 10 ^ 6) (by decide) (by decide)).1

end AiRouter
