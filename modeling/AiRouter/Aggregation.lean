import AiRouter.Lib.GroupBy
import AiRouter.Stats
import Mathlib.Algebra.Order.Ring.Rat
import Mathlib.Tactic.Ring

/-
# Hourly aggregation: `run_aggregation` (stats/pg.rs:284-416)

| here | there |
| --- | --- |
| `StatsDb`                | the tables (pg.rs:47-96) as far as the aggregation reads and writes them |
| `selectTokenUsage`       | the `SELECT` of lines 333-343, one row for each hour, hash and team |
| `selectTeamUsage`        | the `SELECT` of lines 369-379 |
| `insertTokenUsage`, `insertTeamUsage` | the two `INSERT .. ON CONFLICT DO UPDATE` statements |
| `runAggregation`         | the transaction |

Timestamps are microseconds, and an hour starts at a multiple of 3600 seconds. `cost_approx` is
an exact rational. A statement fails where PostgreSQL does: on a conflict key proposed twice, and
on a `BIGINT` out of range. A failed statement is only logged; it aborts the transaction, and
`COMMIT` then rolls back.
-/
namespace AiRouter

/-! ## The sums -/

/-- The columns that are added up. -/
@[ext]
structure UsageSums where
  requests : Int
  tokensPrompt : Int
  tokensCompletion : Int
  costApprox : Rat
deriving DecidableEq

namespace UsageSums

instance : Zero UsageSums := ⟨⟨0, 0, 0, 0⟩⟩

instance : Add UsageSums where
  add u v :=
    ⟨u.requests + v.requests, u.tokensPrompt + v.tokensPrompt, u.tokensCompletion + v.tokensCompletion,
      u.costApprox + v.costApprox⟩

@[simp] theorem zero_def : (0 : UsageSums) = ⟨0, 0, 0, 0⟩ := rfl

@[simp] theorem add_def (u v : UsageSums) : u + v =
    ⟨u.requests + v.requests, u.tokensPrompt + v.tokensPrompt, u.tokensCompletion + v.tokensCompletion,
      u.costApprox + v.costApprox⟩ := rfl

instance : AddCommMonoid UsageSums where
  add_assoc u v w := by ext <;> simp [add_assoc]
  zero_add u := by ext <;> simp
  add_zero u := by ext <;> simp
  add_comm u v := by ext <;> simp [add_comm]
  nsmul := nsmulRec

end UsageSums

def fitsBigint (x : Int) : Bool := -2 ^ 63 ≤ x && x < 2 ^ 63

def UsageSums.fits (u : UsageSums) : Bool :=
  fitsBigint u.requests && fitsBigint u.tokensPrompt && fitsBigint u.tokensCompletion

/-- What one row counts for. -/
def RequestRow.usage (r : RequestRow) : UsageSums where
  requests := 1
  tokensPrompt := r.tokensPrompt
  tokensCompletion := r.tokensCompletion
  costApprox := r.costApprox

/-- `COUNT(*)` and the `SUM`s of a group. -/
def usageOf (rows : List RequestRow) : UsageSums := (rows.map (·.usage)).sum

/-- `COUNT(DISTINCT token_key_hash)`: NULL is not counted. -/
def countDistinctHashes (rows : List RequestRow) : Nat := (rows.filterMap (·.tokenKeyHash)).dedup.length

/-- `date_trunc('hour', timestamp)` -/
def dateTruncHour (timestamp : Int) : Int := timestamp - timestamp % (3600 * 10 ^ 6)

namespace RequestRow

def hour (r : RequestRow) : Int := dateTruncHour r.timestamp

/-- `COALESCE(token_key_hash, '')` -/
def tokenHash (r : RequestRow) : String := r.tokenKeyHash.getD ""

end RequestRow

/-! ## The tables -/

/-- The value columns of `token_usage_hourly`, beside its key of hour and token hash. -/
structure TokenUsage where
  team : String
  usage : UsageSums
deriving DecidableEq

/-- The value columns of `team_usage_hourly`, beside its key of hour and team. -/
structure TeamUsage where
  usage : UsageSums
  activeTokens : Int
deriving DecidableEq

/-- `DO UPDATE` leaves the team alone. -/
def TokenUsage.merge (old excluded : TokenUsage) : TokenUsage := { old with usage := old.usage + excluded.usage }

def TeamUsage.merge (old excluded : TeamUsage) : TeamUsage where
  usage := old.usage + excluded.usage
  activeTokens := old.activeTokens + excluded.activeTokens

def TokenUsage.fits (u : TokenUsage) : Bool := u.usage.fits

def TeamUsage.fits (u : TeamUsage) : Bool := u.usage.fits && fitsBigint u.activeTokens

structure StatsDb where
  requests : List RequestRow
  tokenUsageHourly : KeyMap (Int × String) TokenUsage
  teamUsageHourly : KeyMap (Int × String) TeamUsage
  /-- `last_ts` of the cursor row, if there is one -/
  cursor : Option Int

/-! ## The statements -/

/-- `WHERE timestamp >= $1 AND timestamp < $2` -/
def between (lastTs endTs : Int) (rows : List RequestRow) : List RequestRow :=
  rows.filter fun r => lastTs ≤ r.timestamp && r.timestamp < endTs

/-- `GROUP BY` hour, hash and team; the key of the table is hour and hash. -/
def selectTokenUsage (rows : List RequestRow) : List ((Int × String) × TokenUsage) :=
  (GroupBy.groups (fun r => (r.hour, r.tokenHash, r.team)) rows).map fun g =>
    ((g.1.1, g.1.2.1), { team := g.1.2.2, usage := usageOf g.2 })

/-- `GROUP BY` hour and team. -/
def selectTeamUsage (rows : List RequestRow) : List ((Int × String) × TeamUsage) :=
  (GroupBy.groups (fun r => (r.hour, r.team)) rows).map fun g =>
    (g.1, { usage := usageOf g.2, activeTokens := countDistinctHashes g.2 })

namespace StatsDb

def insertTokenUsage (lastTs endTs : Int) (db : StatsDb) : Option StatsDb :=
  (GroupBy.insertOrMerge TokenUsage.merge TokenUsage.fits (selectTokenUsage (between lastTs endTs db.requests))
    db.tokenUsageHourly).map fun table => { db with tokenUsageHourly := table }

def insertTeamUsage (lastTs endTs : Int) (db : StatsDb) : Option StatsDb :=
  (GroupBy.insertOrMerge TeamUsage.merge TeamUsage.fits (selectTeamUsage (between lastTs endTs db.requests))
    db.teamUsageHourly).map fun table => { db with teamUsageHourly := table }

def updateCursor (endTs : Int) (db : StatsDb) : Option StatsDb :=
  some { db with cursor := db.cursor.map fun _ => endTs }

end StatsDb

/-- A transaction: the tables as it sees them, or nothing once a statement has failed. -/
abbrev Transaction := Option StatsDb

/-- The error is logged; what comes after a failed statement fails too. -/
def Transaction.execute (tx : Transaction) (statement : StatsDb → Option StatsDb) : Transaction :=
  tx.bind statement

inductive AggregationEnd where
  | noCursor
  | nothingToAggregate
  | committed
  | rolledBack
deriving DecidableEq, Repr

def runAggregation (db : StatsDb) (now : Int) : StatsDb × AggregationEnd :=
  match db.cursor with
  | none => (db, .noCursor)
  | some lastTs =>
    let endTs := dateTruncHour now
    if endTs ≤ lastTs then (db, .nothingToAggregate)
    else
      let tx : Transaction := some db
      let tx := tx.execute (StatsDb.insertTokenUsage lastTs endTs)
      let tx := tx.execute (StatsDb.insertTeamUsage lastTs endTs)
      let tx := tx.execute (StatsDb.updateCursor endTs)
      match tx with
      | some db' => (db', .committed)
      | none => (db, .rolledBack)

/-! ## The property -/

/-- The usage of the hour, over all token hashes. -/
def StatsDb.tokenUsageIn (db : StatsDb) (hour : Int) : UsageSums :=
  GroupBy.tableSum (·.1 = hour) (·.usage) db.tokenUsageHourly

/-- The usage of the hour, over all teams. -/
def StatsDb.teamUsageIn (db : StatsDb) (hour : Int) : UsageSums :=
  GroupBy.tableSum (·.1 = hour) (·.usage) db.teamUsageHourly

/-- The run has committed: the cursor is at `endTs`, and each hour has gained in both tables what its
rows of the range come to. -/
structure Aggregated (db : StatsDb) (lastTs endTs : Int) (r : StatsDb × AggregationEnd) : Prop where
  committed : r.2 = .committed
  cursor : r.1.cursor = some endTs
  tokens : ∀ hour, r.1.tokenUsageIn hour = db.tokenUsageIn hour
    + usageOf ((between lastTs endTs db.requests).filter (·.hour = hour))
  teams : ∀ hour, r.1.teamUsageIn hour = db.teamUsageIn hour
    + usageOf ((between lastTs endTs db.requests).filter (·.hour = hour))

/-- Two rows of one hour under one token hash are of one team. -/
def OneTeamPerHash (rows : List RequestRow) : Prop :=
  ∀ r ∈ rows, ∀ r' ∈ rows, r.hour = r'.hour → r.tokenHash = r'.tokenHash → r.team = r'.team

/-- Every sum of a group, alone and added to the row that is there for it, fits its column. -/
def SumsFit (db : StatsDb) (rows : List RequestRow) : Prop :=
  (∀ row ∈ selectTokenUsage rows, row.2.fits = true ∧
    (GroupBy.merged TokenUsage.merge (db.tokenUsageHourly.lookup row.1) row.2).fits = true) ∧
  ∀ row ∈ selectTeamUsage rows, row.2.fits = true ∧
    (GroupBy.merged TeamUsage.merge (db.teamUsageHourly.lookup row.1) row.2).fits = true

instance (rows : List RequestRow) : Decidable (OneTeamPerHash rows) := by
  unfold OneTeamPerHash
  infer_instance

instance (db : StatsDb) (rows : List RequestRow) : Decidable (SumsFit db rows) := by
  unfold SumsFit
  infer_instance

/-! ## When the statements succeed -/

/-- The proposed keys of hour and hash are distinct exactly if no hash is of two teams in an hour. -/
theorem selectTokenUsage_nodup (rows : List RequestRow) :
    ((selectTokenUsage rows).map (·.1)).Nodup ↔ OneTeamPerHash rows := by
  have hkeys : (selectTokenUsage rows).map (·.1)
      = ((GroupBy.groups (fun r => (r.hour, r.tokenHash, r.team)) rows).map (·.1)).map fun k => (k.1, k.2.1) := by
    unfold selectTokenUsage
    simp only [List.map_map, Function.comp_def]
  rw [hkeys, List.nodup_map_iff_inj_on (GroupBy.groups_nodup _ rows)]
  constructor
  · intro hinj r hr r' hr' hhour hhash
    have hsame := hinj _ ((GroupBy.mem_groups_keys _).2 ⟨r, hr, rfl⟩) _
      ((GroupBy.mem_groups_keys _).2 ⟨r', hr', rfl⟩) (Prod.ext hhour hhash)
    exact congrArg (·.2.2) hsame
  · intro hone k hk k' hk' heq
    obtain ⟨r, hr, rfl⟩ := (GroupBy.mem_groups_keys _).1 hk
    obtain ⟨r', hr', rfl⟩ := (GroupBy.mem_groups_keys _).1 hk'
    obtain ⟨hhour, hhash⟩ := Prod.ext_iff.1 heq
    exact Prod.ext hhour (Prod.ext hhash (hone r hr r' hr' hhour hhash))

theorem selectTeamUsage_nodup (rows : List RequestRow) : ((selectTeamUsage rows).map (·.1)).Nodup := by
  have hkeys := GroupBy.groups_nodup (fun r : RequestRow => (r.hour, r.team)) rows
  unfold selectTeamUsage
  rw [List.map_map]
  exact hkeys

/-- **Both inserts succeed** exactly if no hash is of two teams in an hour and all sums fit. -/
theorem insertable_iff (db : StatsDb) (rows : List RequestRow) :
    GroupBy.Insertable TokenUsage.merge TokenUsage.fits (selectTokenUsage rows) db.tokenUsageHourly ∧
      GroupBy.Insertable TeamUsage.merge TeamUsage.fits (selectTeamUsage rows) db.teamUsageHourly ↔
    OneTeamPerHash rows ∧ SumsFit db rows := by
  unfold GroupBy.Insertable SumsFit
  rw [selectTokenUsage_nodup]
  constructor
  · rintro ⟨⟨hone, htoken⟩, _, hteam⟩
    exact ⟨hone, htoken, hteam⟩
  · rintro ⟨hone, htoken, hteam⟩
    exact ⟨⟨hone, htoken⟩, selectTeamUsage_nodup rows, hteam⟩

/-! ## What they add -/

/-- The proposed rows of an hour add up to the hour's rows. -/
theorem selectTokenUsage_sum (rows : List RequestRow) (hour : Int) :
    GroupBy.sumWhere (·.1.1 = hour) (·.2.usage) (selectTokenUsage rows) = usageOf (rows.filter (·.hour = hour)) := by
  unfold selectTokenUsage
  rw [GroupBy.sumWhere_map]
  exact GroupBy.sumWhere_groups (fun r : RequestRow => (r.hour, r.tokenHash, r.team)) (·.1 = hour) (·.usage) rows

theorem selectTeamUsage_sum (rows : List RequestRow) (hour : Int) :
    GroupBy.sumWhere (·.1.1 = hour) (·.2.usage) (selectTeamUsage rows) = usageOf (rows.filter (·.hour = hour)) := by
  unfold selectTeamUsage
  rw [GroupBy.sumWhere_map]
  exact GroupBy.sumWhere_groups (fun r : RequestRow => (r.hour, r.team)) (·.1 = hour) (·.usage) rows

section
variable {lastTs endTs : Int} {db : StatsDb}

/-- **The first insert.** -/
theorem insertTokenUsage_some (h : GroupBy.Insertable TokenUsage.merge TokenUsage.fits
    (selectTokenUsage (between lastTs endTs db.requests)) db.tokenUsageHourly) :
    ∃ table, db.insertTokenUsage lastTs endTs = some { db with tokenUsageHourly := table } ∧
      ∀ hour, GroupBy.tableSum (·.1 = hour) (·.usage) table = db.tokenUsageIn hour
        + usageOf ((between lastTs endTs db.requests).filter (·.hour = hour)) := by
  have hinsert : GroupBy.insertOrMerge TokenUsage.merge TokenUsage.fits
      (selectTokenUsage (between lastTs endTs db.requests)) db.tokenUsageHourly = some _ := if_pos h
  unfold StatsDb.insertTokenUsage
  rw [hinsert]
  refine ⟨_, rfl, fun hour => ?_⟩
  rw [GroupBy.tableSum_insertOrMerge (fun _ _ => rfl) _ hinsert, selectTokenUsage_sum]
  rfl

theorem insertTokenUsage_none (h : ¬ GroupBy.Insertable TokenUsage.merge TokenUsage.fits
    (selectTokenUsage (between lastTs endTs db.requests)) db.tokenUsageHourly) :
    db.insertTokenUsage lastTs endTs = none := by
  unfold StatsDb.insertTokenUsage GroupBy.insertOrMerge
  rw [if_neg h]
  rfl

/-- **The second insert.** -/
theorem insertTeamUsage_some (h : GroupBy.Insertable TeamUsage.merge TeamUsage.fits
    (selectTeamUsage (between lastTs endTs db.requests)) db.teamUsageHourly) :
    ∃ table, db.insertTeamUsage lastTs endTs = some { db with teamUsageHourly := table } ∧
      ∀ hour, GroupBy.tableSum (·.1 = hour) (·.usage) table = db.teamUsageIn hour
        + usageOf ((between lastTs endTs db.requests).filter (·.hour = hour)) := by
  have hinsert : GroupBy.insertOrMerge TeamUsage.merge TeamUsage.fits
      (selectTeamUsage (between lastTs endTs db.requests)) db.teamUsageHourly = some _ := if_pos h
  unfold StatsDb.insertTeamUsage
  rw [hinsert]
  refine ⟨_, rfl, fun hour => ?_⟩
  rw [GroupBy.tableSum_insertOrMerge (fun _ _ => rfl) _ hinsert, selectTeamUsage_sum]
  rfl

theorem insertTeamUsage_none (h : ¬ GroupBy.Insertable TeamUsage.merge TeamUsage.fits
    (selectTeamUsage (between lastTs endTs db.requests)) db.teamUsageHourly) :
    db.insertTeamUsage lastTs endTs = none := by
  unfold StatsDb.insertTeamUsage GroupBy.insertOrMerge
  rw [if_neg h]
  rfl

end

/-! ## The run -/

section
variable {db : StatsDb} {now lastTs : Int}

/-- With a cursor before the current hour: the three statements, then `COMMIT`. -/
theorem runAggregation_eq (hcursor : db.cursor = some lastTs) (hlt : lastTs < dateTruncHour now) :
    runAggregation db now =
      match ((db.insertTokenUsage lastTs (dateTruncHour now)).bind
        (StatsDb.insertTeamUsage lastTs (dateTruncHour now))).bind (StatsDb.updateCursor (dateTruncHour now)) with
      | some db' => (db', .committed)
      | none => (db, .rolledBack) := by
  unfold runAggregation
  rw [hcursor]
  dsimp only
  rw [if_neg (not_le.2 hlt)]
  rfl

theorem aggregated_of_insertable (hcursor : db.cursor = some lastTs) (hlt : lastTs < dateTruncHour now)
    (htoken : GroupBy.Insertable TokenUsage.merge TokenUsage.fits
      (selectTokenUsage (between lastTs (dateTruncHour now) db.requests)) db.tokenUsageHourly)
    (hteam : GroupBy.Insertable TeamUsage.merge TeamUsage.fits
      (selectTeamUsage (between lastTs (dateTruncHour now) db.requests)) db.teamUsageHourly) :
    Aggregated db lastTs (dateTruncHour now) (runAggregation db now) := by
  obtain ⟨tokens, htokens, htokenSum⟩ := insertTokenUsage_some htoken
  obtain ⟨teams, hteams, hteamSum⟩ := @insertTeamUsage_some lastTs (dateTruncHour now)
    { db with tokenUsageHourly := tokens } hteam
  have hrun : runAggregation db now = ({ db with
      tokenUsageHourly := tokens
      teamUsageHourly := teams
      cursor := db.cursor.map fun _ => dateTruncHour now }, .committed) := by
    rw [runAggregation_eq hcursor hlt, htokens, Option.bind_some, hteams]
    rfl
  rw [hrun]
  exact ⟨rfl, by rw [hcursor]; rfl, htokenSum, hteamSum⟩

/-- A failed statement: nothing is written, the cursor included. -/
theorem rolledBack_of_not_insertable (hcursor : db.cursor = some lastTs) (hlt : lastTs < dateTruncHour now)
    (h : ¬ (GroupBy.Insertable TokenUsage.merge TokenUsage.fits
        (selectTokenUsage (between lastTs (dateTruncHour now) db.requests)) db.tokenUsageHourly ∧
      GroupBy.Insertable TeamUsage.merge TeamUsage.fits
        (selectTeamUsage (between lastTs (dateTruncHour now) db.requests)) db.teamUsageHourly)) :
    runAggregation db now = (db, .rolledBack) := by
  by_cases htoken : GroupBy.Insertable TokenUsage.merge TokenUsage.fits
      (selectTokenUsage (between lastTs (dateTruncHour now) db.requests)) db.tokenUsageHourly
  · obtain ⟨tokens, htokens, _⟩ := insertTokenUsage_some htoken
    have hteams := @insertTeamUsage_none lastTs (dateTruncHour now) { db with tokenUsageHourly := tokens }
      fun hteam => h ⟨htoken, hteam⟩
    rw [runAggregation_eq hcursor hlt, htokens, Option.bind_some, hteams]
    rfl
  · rw [runAggregation_eq hcursor hlt, insertTokenUsage_none htoken]
    rfl

end

/-- **A run aggregates its range exactly if no token hash is of two teams in an hour of it and all
sums fit.** -/
theorem aggregated_iff (db : StatsDb) (now lastTs : Int) (hcursor : db.cursor = some lastTs)
    (hlt : lastTs < dateTruncHour now) :
    Aggregated db lastTs (dateTruncHour now) (runAggregation db now) ↔
      OneTeamPerHash (between lastTs (dateTruncHour now) db.requests) ∧
        SumsFit db (between lastTs (dateTruncHour now) db.requests) := by
  rw [← insertable_iff]
  constructor
  · intro h
    by_contra hnot
    have hcommitted := h.committed
    rw [rolledBack_of_not_insertable hcursor hlt hnot] at hcommitted
    cases hcommitted
  · rintro ⟨htoken, hteam⟩
    exact aggregated_of_insertable hcursor hlt htoken hteam

/-- The rows of two calls of `proxy_generic`, whose rows have no token hash, ten seconds apart. -/
def genericRows (team team' : String) : List RequestRow :=
  ((((StatsWriter.mk (some [])).recordRequest "embed" "https://api.openai.com" team 5 7 40 200 none 1 2
      (4000 * 10 ^ 9)).recordRequest "embed" "https://api.openai.com" team' 11 0 40 200 none 1 2
      (4010 * 10 ^ 9)).pool).getD []

def genericDb (team team' : String) : StatsDb where
  requests := genericRows team team'
  tokenUsageHourly := ∅
  teamUsageHourly := ∅
  cursor := some (3600 * 10 ^ 6)

/-- Two teams in one hour: the run rolls back and the cursor stays. -/
theorem two_teams_roll_back :
    (genericDb "dev" "ops").requests.map (·.tokenHash) = ["", ""] ∧
      (runAggregation (genericDb "dev" "ops") (7300 * 10 ^ 6)).2 = .rolledBack ∧
      (runAggregation (genericDb "dev" "ops") (7300 * 10 ^ 6)).1.cursor = some (3600 * 10 ^ 6) ∧
      ¬ Aggregated (genericDb "dev" "ops") (3600 * 10 ^ 6) (dateTruncHour (7300 * 10 ^ 6))
        (runAggregation (genericDb "dev" "ops") (7300 * 10 ^ 6)) := by
  have hrolled : (runAggregation (genericDb "dev" "ops") (7300 * 10 ^ 6)).2 = .rolledBack := by decide
  refine ⟨rfl, hrolled, by decide, fun h => ?_⟩
  have hcommitted := h.committed
  rw [hrolled] at hcommitted
  cases hcommitted

/-- The same calls by one team are aggregated. -/
theorem one_team_aggregated :
    Aggregated (genericDb "dev" "dev") (3600 * 10 ^ 6) (dateTruncHour (7300 * 10 ^ 6))
      (runAggregation (genericDb "dev" "dev") (7300 * 10 ^ 6)) :=
  (aggregated_iff (genericDb "dev" "dev") (7300 * 10 ^ 6) (3600 * 10 ^ 6) rfl (by decide)).2
    ⟨by decide, by decide⟩

end AiRouter
