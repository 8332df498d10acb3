import AiRouter.Aggregation
import AiRouter.Lib.Steps
import Mathlib.Data.List.Nodup
import Mathlib.Data.List.Perm.Basic

/-
# Several aggregators and inserters on one database

Every instance runs `run_aggregation` and `record_request` against the same tables. A step is one
statement at READ COMMITTED: it reads what is committed when it starts, and the rows it has written
are locked and unseen until its transaction commits.

| here | there |
| --- | --- |
| `Act.insert`, `.commitInsert` | the `INSERT` of `record_request` (pg.rs:169-185), and when its row becomes visible |
| `Act.begin`      | lines 290-320: the cursor and the clock are read |
| `Act.next`       | the next statement of the instance's transaction (lines 330-415) |
| `Act.crash`      | the instance or its connection is gone; PostgreSQL rolls back |

An upsert is two steps: its `SELECT` is read, then it waits for the locks of others and writes. What
it writes is merged at the commit: the rows are locked from the upsert on, so it finds them as the
upsert did. `tokenCounted` and `teamCounted` remember which rows went into the hourly tables; no
statement reads them.
-/
namespace AiRouter

/-- A row of `requests` with its primary key (`BIGSERIAL`). -/
structure StoredRow where
  id : Nat
  row : RequestRow
deriving DecidableEq

/-- How far a transaction of `run_aggregation` has come, with the rows its two inserts have read. -/
inductive AggPhase where
  | ranged
  | tokensRead (tokens : List StoredRow)
  | tokensWritten (tokens : List StoredRow)
  | teamsRead (tokens teams : List StoredRow)
  | teamsWritten (tokens teams : List StoredRow)
  | cursorWritten (tokens teams : List StoredRow)
  /-- a statement has failed; every later one fails, and `COMMIT` rolls back -/
  | failed

namespace AggPhase

def tokens? : AggPhase → Option (List StoredRow)
  | .ranged | .failed => none
  | .tokensRead tokens | .tokensWritten tokens => some tokens
  | .teamsRead tokens _ | .teamsWritten tokens _ | .cursorWritten tokens _ => some tokens

def teams? : AggPhase → Option (List StoredRow)
  | .teamsRead _ teams | .teamsWritten _ teams | .cursorWritten _ teams => some teams
  | _ => none

/-- The rows whose usage stands uncommitted in `token_usage_hourly`. -/
def tokensHeld : AggPhase → List StoredRow
  | .tokensWritten tokens | .teamsRead tokens _ => tokens
  | .teamsWritten tokens _ | .cursorWritten tokens _ => tokens
  | _ => []

/-- Likewise in `team_usage_hourly`. -/
def teamsHeld : AggPhase → List StoredRow
  | .teamsWritten _ teams | .cursorWritten _ teams => teams
  | _ => []

/-- Will the next statement be a `COMMIT` that takes? -/
def committing : AggPhase → Bool
  | .cursorWritten _ _ => true
  | _ => false

end AggPhase

structure AggTx where
  lastTs : Int
  endTs : Int
  phase : AggPhase

structure Database where
  /-- the committed rows -/
  requests : List StoredRow
  /-- executed and not yet committed -/
  inserting : List StoredRow
  nextId : Nat
  tokenUsageHourly : KeyMap (Int × String) TokenUsage
  teamUsageHourly : KeyMap (Int × String) TeamUsage
  cursor : Option Int
  /-- the open transactions, by instance -/
  txs : KeyMap Nat AggTx
  tokenCounted : List StoredRow
  teamCounted : List StoredRow

/-- The tables as they are created, with the cursor set. -/
def Database.fresh (cursor : Option Int) : Database where
  requests := []
  inserting := []
  nextId := 1
  tokenUsageHourly := ∅
  teamUsageHourly := ∅
  cursor := cursor
  txs := ∅
  tokenCounted := []
  teamCounted := []

def rowsOf (rows : List StoredRow) : List RequestRow := rows.map (·.row)

/-- The rows that the two `SELECT`s of a transaction read. -/
def AggTx.covers (tx : AggTx) (r : StoredRow) : Bool := tx.lastTs ≤ r.row.timestamp && r.row.timestamp < tx.endTs

namespace Database

/-! ## Statements -/

def setPhase (s : Database) (i : Nat) (tx : AggTx) (phase : AggPhase) : Database :=
  { s with txs := s.txs.insert i { tx with phase := phase } }

/-- Another open transaction has written a row that the first insert proposes. -/
def tokensLocked (s : Database) (i : Nat) (tokens : List StoredRow) : Bool :=
  s.txs.entries.any fun e => e.1 ≠ i && (selectTokenUsage (rowsOf tokens)).any fun row =>
    (selectTokenUsage (rowsOf e.2.phase.tokensHeld)).any (·.1 = row.1)

def teamsLocked (s : Database) (i : Nat) (teams : List StoredRow) : Bool :=
  s.txs.entries.any fun e => e.1 ≠ i && (selectTeamUsage (rowsOf teams)).any fun row =>
    (selectTeamUsage (rowsOf e.2.phase.teamsHeld)).any (·.1 = row.1)

/-- Another open transaction has updated the cursor. -/
def cursorLocked (s : Database) (i : Nat) : Bool :=
  s.txs.entries.any fun e => e.1 ≠ i && e.2.phase.committing

/-- `COMMIT` of a transaction whose statements have all succeeded. -/
def publish (s : Database) (i : Nat) (endTs : Int) (tokens teams : List StoredRow) : Database :=
  { s with
    tokenUsageHourly := (selectTokenUsage (rowsOf tokens)).foldl (GroupBy.mergeRow TokenUsage.merge)
      s.tokenUsageHourly
    teamUsageHourly := (selectTeamUsage (rowsOf teams)).foldl (GroupBy.mergeRow TeamUsage.merge)
      s.teamUsageHourly
    cursor := s.cursor.map fun _ => endTs
    txs := s.txs.erase i
    tokenCounted := s.tokenCounted ++ tokens
    teamCounted := s.teamCounted ++ teams }

/-- The next statement of the transaction. One that has to wait changes nothing. -/
def nextStatement (s : Database) (i : Nat) (tx : AggTx) : Database :=
  match tx.phase with
  | .ranged => s.setPhase i tx (.tokensRead (s.requests.filter tx.covers))
  | .tokensRead tokens =>
    if s.tokensLocked i tokens then s
    else if GroupBy.Insertable TokenUsage.merge TokenUsage.fits (selectTokenUsage (rowsOf tokens))
        s.tokenUsageHourly then s.setPhase i tx (.tokensWritten tokens)
    else s.setPhase i tx .failed
  | .tokensWritten tokens => s.setPhase i tx (.teamsRead tokens (s.requests.filter tx.covers))
  | .teamsRead tokens teams =>
    if s.teamsLocked i teams then s
    else if GroupBy.Insertable TeamUsage.merge TeamUsage.fits (selectTeamUsage (rowsOf teams))
        s.teamUsageHourly then s.setPhase i tx (.teamsWritten tokens teams)
    else s.setPhase i tx .failed
  | .teamsWritten tokens teams =>
    if s.cursorLocked i then s else s.setPhase i tx (.cursorWritten tokens teams)
  | .cursorWritten tokens teams => s.publish i tx.endTs tokens teams
  | .failed => { s with txs := s.txs.erase i }

/-- The start of `run_aggregation`, up to the range. An instance aggregates one run at a time. -/
def beginRun (s : Database) (i : Nat) (now : Int) : Database :=
  match s.cursor, s.txs.lookup i with
  | some lastTs, none =>
    if dateTruncHour now ≤ lastTs then s
    else { s with txs := s.txs.insert i { lastTs := lastTs, endTs := dateTruncHour now, phase := .ranged } }
  | _, _ => s

inductive Act where
  /-- the row has its timestamp and its id -/
  | insert (row : RequestRow)
  | commitInsert (id : Nat)
  | dropInsert (id : Nat)
  | begin (i : Nat) (now : Int)
  | next (i : Nat)
  | crash (i : Nat)

def apply (s : Database) : Act → Database
  | .insert row =>
    { s with inserting := s.inserting ++ [{ id := s.nextId, row := row }], nextId := s.nextId + 1 }
  | .commitInsert id =>
    { s with
      requests := s.requests ++ s.inserting.filter (·.id = id)
      inserting := s.inserting.filter (·.id ≠ id) }
  | .dropInsert id => { s with inserting := s.inserting.filter (·.id ≠ id) }
  | .begin i now => s.beginRun i now
  | .next i =>
    match s.txs.lookup i with
    | some tx => s.nextStatement i tx
    | none => s
  | .crash i => { s with txs := s.txs.erase i }

/-- The tables without the transactions. -/
def toStatsDb (s : Database) : StatsDb where
  requests := rowsOf s.requests
  tokenUsageHourly := s.tokenUsageHourly
  teamUsageHourly := s.teamUsageHourly
  cursor := s.cursor

/-! ## The property -/

/-- The cursor is past the hour of the row. -/
def Passed (s : Database) (r : StoredRow) : Prop := ∃ c, s.cursor = some c ∧ r.row.hour + 3600 * 10 ^ 6 ≤ c

/-- The hourly tables hold the usage of the counted rows; no row is counted twice, and a committed row
whose hour has been passed is counted. -/
structure ExactlyOnce (s : Database) : Prop where
  tokenSums : ∀ hour, s.toStatsDb.tokenUsageIn hour = usageOf ((rowsOf s.tokenCounted).filter (·.hour = hour))
  teamSums : ∀ hour, s.toStatsDb.teamUsageIn hour = usageOf ((rowsOf s.teamCounted).filter (·.hour = hour))
  tokensAtMost : ∀ r, s.tokenCounted.count r ≤ 1
  teamsAtMost : ∀ r, s.teamCounted.count r ≤ 1
  tokens : ∀ r ∈ s.requests, s.Passed r → s.tokenCounted.count r = 1
  teams : ∀ r ∈ s.requests, s.Passed r → s.teamCounted.count r = 1

/-- A row that becomes visible now is missed by nobody: it is not before the cursor, and no open
transaction whose range it is in has read the table. -/
def InTime (s : Database) (r : StoredRow) : Prop :=
  (∀ c ∈ s.cursor, c ≤ r.row.timestamp) ∧
    ∀ e ∈ s.txs.entries, e.2.phase.tokens?.isSome = true → e.2.covers r = false

/-- The cursor is where the transaction read it. -/
def Current (s : Database) (tx : AggTx) : Prop := s.cursor = some tx.lastTs

/-- Inserts become visible in time, and an aggregation commits on the cursor it has read. -/
def Meets (s : Database) : Act → Prop
  | .commitInsert id => ∀ r ∈ s.inserting, r.id = id → s.InTime r
  | .next i => ∀ tx ∈ s.txs.lookup i, tx.phase.committing = true → s.Current tx
  | _ => True

instance (s : Database) (r : StoredRow) : Decidable (s.InTime r) := by
  unfold InTime
  infer_instance

instance (s : Database) (tx : AggTx) : Decidable (s.Current tx) := by
  unfold Current
  infer_instance

instance (s : Database) : DecidablePred s.Meets
  | .commitInsert _ => by unfold Meets; infer_instance
  | .next _ => by unfold Meets; infer_instance
  | .insert _ | .dropInsert _ | .begin _ _ | .crash _ => isTrue trivial

/-! ## One aggregator alone -/

theorem rowsOf_filter_covers (s : Database) (tx : AggTx) :
    rowsOf (s.requests.filter tx.covers) = between tx.lastTs tx.endTs (rowsOf s.requests) := by
  unfold rowsOf between
  rw [List.filter_map]
  rfl

section
variable {s : Database} {i : Nat} {tx : AggTx}

@[simp] theorem setPhase_lookup (phase : AggPhase) :
    (s.setPhase i tx phase).txs.lookup i = some { tx with phase := phase } := AList.lookup_insert _

@[simp] theorem setPhase_toStatsDb (phase : AggPhase) : (s.setPhase i tx phase).toStatsDb = s.toStatsDb := rfl

theorem apply_next (h : s.txs.lookup i = some tx) : s.apply (.next i) = s.nextStatement i tx := by
  simp only [apply, h]

theorem apply_next_idle (h : s.txs.lookup i = none) : s.apply (.next i) = s := by
  simp only [apply, h]

/-- Steps of an instance without a transaction. -/
theorem run_next_idle (h : s.txs.lookup i = none) : ∀ n, Steps.run apply s (List.replicate n (.next i)) = s
  | 0 => rfl
  | n + 1 => by
    rw [List.replicate_succ, Steps.run_cons, apply_next_idle h, run_next_idle h n]

/-- No transaction but that of `i`. -/
def Alone (s : Database) (i : Nat) : Prop := ∀ e ∈ s.txs.entries, e.1 = i

theorem Alone.setPhase (h : s.Alone i) (phase : AggPhase) : (s.setPhase i tx phase).Alone i := by
  intro e he
  rw [Database.setPhase, AList.entries_insert, List.mem_cons] at he
  rcases he with rfl | he
  · rfl
  · exact h e ((List.kerase_sublist _ _).mem he)

theorem Alone.unlocked (h : s.Alone i) (rows : List StoredRow) :
    s.tokensLocked i rows = false ∧ s.teamsLocked i rows = false ∧ s.cursorLocked i = false := by
  unfold tokensLocked teamsLocked cursorLocked
  refine ⟨?_, ?_, ?_⟩ <;>
  · rw [List.any_eq_false]
    intro e he
    simp [h e he]

theorem erased_lookup : ({ s with txs := s.txs.erase i } : Database).txs.lookup i = none := AList.lookup_erase _ _

@[simp] theorem setPhase_setPhase (phase phase' : AggPhase) :
    (s.setPhase i tx phase).setPhase i { tx with phase := phase } phase' = s.setPhase i tx phase' := by
  simp [setPhase, AList.insert_insert]

/-- Each statement of a transaction that nobody is in the way of. -/
theorem next_alone (halone : s.Alone i) (phase : AggPhase) :
    (s.setPhase i tx phase).apply (.next i) =
      match phase with
      | .ranged => s.setPhase i tx (.tokensRead (s.requests.filter tx.covers))
      | .tokensRead tokens =>
        if GroupBy.Insertable TokenUsage.merge TokenUsage.fits (selectTokenUsage (rowsOf tokens))
          s.tokenUsageHourly then s.setPhase i tx (.tokensWritten tokens) else s.setPhase i tx .failed
      | .tokensWritten tokens => s.setPhase i tx (.teamsRead tokens (s.requests.filter tx.covers))
      | .teamsRead tokens teams =>
        if GroupBy.Insertable TeamUsage.merge TeamUsage.fits (selectTeamUsage (rowsOf teams))
          s.teamUsageHourly then s.setPhase i tx (.teamsWritten tokens teams) else s.setPhase i tx .failed
      | .teamsWritten tokens teams => s.setPhase i tx (.cursorWritten tokens teams)
      | .cursorWritten tokens teams => (s.setPhase i tx phase).publish i tx.endTs tokens teams
      | .failed => { s.setPhase i tx phase with txs := (s.setPhase i tx phase).txs.erase i } := by
  rw [apply_next (setPhase_lookup phase)]
  unfold nextStatement
  cases phase with
  | tokensRead tokens =>
    dsimp only
    rw [((halone.setPhase _).unlocked tokens).1, if_neg Bool.false_ne_true, setPhase_setPhase, setPhase_setPhase]
    rfl
  | teamsRead tokens teams =>
    dsimp only
    rw [((halone.setPhase _).unlocked teams).2.1, if_neg Bool.false_ne_true, setPhase_setPhase, setPhase_setPhase]
    rfl
  | teamsWritten tokens teams =>
    dsimp only
    rw [((halone.setPhase _).unlocked []).2.2, if_neg Bool.false_ne_true, setPhase_setPhase]
  | ranged => exact setPhase_setPhase _ _
  | tokensWritten tokens => exact setPhase_setPhase _ _
  | cursorWritten tokens teams => rfl
  | failed => rfl

/-- A statement has failed: what is left of the transaction changes nothing. -/
theorem run_failed (halone : s.Alone i) (n : Nat) :
    (Steps.run apply (s.setPhase i tx .failed) (List.replicate (n + 1) (.next i))).toStatsDb = s.toStatsDb := by
  rw [List.replicate_succ, Steps.run_cons, next_alone halone]
  dsimp only
  rw [run_next_idle erased_lookup]
  rfl

/-- All its statements. -/
theorem run_tx_alone (halone : s.Alone i) :
    (Steps.run apply (s.setPhase i tx .ranged) (List.replicate 6 (.next i))).toStatsDb =
      (((s.toStatsDb.insertTokenUsage tx.lastTs tx.endTs).bind
        (StatsDb.insertTeamUsage tx.lastTs tx.endTs)).bind (StatsDb.updateCursor tx.endTs)).getD s.toStatsDb := by
  have hstep : ∀ s' n, Steps.run apply s' (List.replicate (n + 1) (.next i))
      = Steps.run apply (s'.apply (.next i)) (List.replicate n (.next i)) := fun s' n => by
    rw [List.replicate_succ, Steps.run_cons]
  have hrows := rowsOf_filter_covers s tx
  rw [hstep, next_alone halone, hstep, next_alone halone]
  dsimp only
  rw [hrows]
  by_cases htoken : GroupBy.Insertable TokenUsage.merge TokenUsage.fits
      (selectTokenUsage (between tx.lastTs tx.endTs (rowsOf s.requests))) s.tokenUsageHourly
  · have hinsert : s.toStatsDb.insertTokenUsage tx.lastTs tx.endTs = some _ :=
      congrArg (Option.map _) (if_pos htoken)
    rw [if_pos htoken, hstep, next_alone halone, hstep, next_alone halone, hinsert, Option.bind_some]
    dsimp only
    rw [hrows]
    by_cases hteam : GroupBy.Insertable TeamUsage.merge TeamUsage.fits
        (selectTeamUsage (between tx.lastTs tx.endTs (rowsOf s.requests))) s.teamUsageHourly
    · have hteams : ∀ table, StatsDb.insertTeamUsage tx.lastTs tx.endTs
          { s.toStatsDb with tokenUsageHourly := table } = some { s.toStatsDb with
            tokenUsageHourly := table
            teamUsageHourly := (selectTeamUsage (between tx.lastTs tx.endTs (rowsOf s.requests))).foldl
              (GroupBy.mergeRow TeamUsage.merge) s.teamUsageHourly } :=
        fun _ => congrArg (Option.map _) (if_pos hteam)
      rw [if_pos hteam, hstep, next_alone halone, hstep, next_alone halone, List.replicate_zero, Steps.run_nil,
        hteams]
      dsimp only
      unfold publish toStatsDb
      rw [hrows]
      rfl
    · have hteams : ∀ table, StatsDb.insertTeamUsage tx.lastTs tx.endTs
          { s.toStatsDb with tokenUsageHourly := table } = none :=
        fun _ => congrArg (Option.map _) (if_neg hteam)
      rw [if_neg hteam, run_failed halone, hteams]
      rfl
  · have hinsert : s.toStatsDb.insertTokenUsage tx.lastTs tx.endTs = none :=
      congrArg (Option.map _) (if_neg htoken)
    rw [if_neg htoken, run_failed halone, hinsert]
    rfl

end

/-- **Undisturbed, the statements come to what `run_aggregation` comes to.** -/
theorem run_alone (s : Database) (i : Nat) (now : Int) (h : s.txs = ∅) :
    (Steps.run apply s (.begin i now :: List.replicate 6 (.next i))).toStatsDb = (runAggregation s.toStatsDb now).1 := by
  have halone : s.Alone i := by simp [Alone, h]
  have hidle : s.txs.lookup i = none := by rw [h]; rfl
  have hfirst : s.apply (.begin i now) = s.beginRun i now := rfl
  rw [Steps.run_cons, hfirst]
  cases hcursor : s.cursor with
  | none =>
    have hbegin : s.beginRun i now = s := by simp only [beginRun, hcursor]
    have hrun : runAggregation s.toStatsDb now = (s.toStatsDb, .noCursor) := by
      simp only [runAggregation, show s.toStatsDb.cursor = none from hcursor]
    rw [hbegin, run_next_idle hidle, hrun]
  | some lastTs =>
    by_cases hle : dateTruncHour now ≤ lastTs
    · have hbegin : s.beginRun i now = s := by simp only [beginRun, hcursor, hidle, if_pos hle]
      have hrun : runAggregation s.toStatsDb now = (s.toStatsDb, .nothingToAggregate) := by
        simp only [runAggregation, show s.toStatsDb.cursor = some lastTs from hcursor, if_pos hle]
      rw [hbegin, run_next_idle hidle, hrun]
    · have hbegin : s.beginRun i now
          = s.setPhase i { lastTs := lastTs, endTs := dateTruncHour now, phase := .ranged } .ranged := by
        simp only [beginRun, hcursor, hidle, if_neg hle, setPhase]
      have heq := runAggregation_eq (show s.toStatsDb.cursor = some lastTs from hcursor) (not_le.1 hle)
      rw [hbegin, run_tx_alone halone, heq]
      dsimp only
      cases ((s.toStatsDb.insertTokenUsage lastTs (dateTruncHour now)).bind
        (StatsDb.insertTeamUsage lastTs (dateTruncHour now))).bind (StatsDb.updateCursor (dateTruncHour now)) with
      | some db' => rfl
      | none => rfl

/-! ## What a step does -/

/-- An open transaction after a step: it was there, it has begun at the cursor, or it has made a
statement, and what it has newly read is what is committed of its range. -/
def TxFrom (s : Database) (j : Nat) (tx' : AggTx) : Prop :=
  s.txs.lookup j = some tx' ∨
    (s.cursor = some tx'.lastTs ∧ tx'.lastTs < tx'.endTs ∧ tx'.phase = .ranged) ∨
    ∃ tx, s.txs.lookup j = some tx ∧ tx'.lastTs = tx.lastTs ∧ tx'.endTs = tx.endTs ∧
      (∀ rows, tx'.phase.tokens? = some rows →
        tx.phase.tokens? = some rows ∨ rows = s.requests.filter tx.covers) ∧
      ∀ rows, tx'.phase.teams? = some rows →
        tx.phase.teams? = some rows ∨ rows = s.requests.filter tx.covers

/-- Nothing becomes visible: of the committed state `s'` has what `s` has. -/
structure Unseen (s s' : Database) : Prop where
  requests : s'.requests = s.requests
  tokenUsageHourly : s'.tokenUsageHourly = s.tokenUsageHourly
  teamUsageHourly : s'.teamUsageHourly = s.teamUsageHourly
  cursor : s'.cursor = s.cursor
  tokenCounted : s'.tokenCounted = s.tokenCounted
  teamCounted : s'.teamCounted = s.teamCounted
  txs : ∀ j tx', s'.txs.lookup j = some tx' → s.TxFrom j tx'

section
variable {s : Database} {i : Nat} {tx : AggTx}

theorem Unseen.refl (s : Database) : Unseen s s := ⟨rfl, rfl, rfl, rfl, rfl, rfl, fun _ _ h => Or.inl h⟩

/-- A statement moves its own transaction only. -/
theorem unseen_setPhase (htx : s.txs.lookup i = some tx) {phase : AggPhase}
    (htokens : ∀ rows, phase.tokens? = some rows →
      tx.phase.tokens? = some rows ∨ rows = s.requests.filter tx.covers)
    (hteams : ∀ rows, phase.teams? = some rows →
      tx.phase.teams? = some rows ∨ rows = s.requests.filter tx.covers) :
    Unseen s (s.setPhase i tx phase) := by
  refine ⟨rfl, rfl, rfl, rfl, rfl, rfl, fun j tx' h => ?_⟩
  by_cases hj : j = i
  · subst hj
    rw [setPhase_lookup] at h
    cases h
    exact Or.inr (Or.inr ⟨tx, htx, rfl, rfl, htokens, hteams⟩)
  · have hne : (s.setPhase i tx phase).txs.lookup j = s.txs.lookup j := AList.lookup_insert_ne hj
    exact Or.inl (hne ▸ h)

theorem lookup_of_erase {j : Nat} {tx' : AggTx} (h : (s.txs.erase i).lookup j = some tx') :
    s.txs.lookup j = some tx' := by
  by_cases hj : j = i
  · subst hj
    simp at h
  · rwa [AList.lookup_erase_ne hj] at h

theorem unseen_erase (s : Database) (i : Nat) : Unseen s { s with txs := s.txs.erase i } :=
  ⟨rfl, rfl, rfl, rfl, rfl, rfl, fun _ _ h => Or.inl (lookup_of_erase h)⟩

/-- **A statement**: it is the commit, or nothing of it is seen. -/
theorem nextStatement_cases (htx : s.txs.lookup i = some tx) :
    (∃ tokens teams, tx.phase = .cursorWritten tokens teams ∧
      s.nextStatement i tx = s.publish i tx.endTs tokens teams) ∨ Unseen s (s.nextStatement i tx) := by
  have hkept : ∀ {phase : AggPhase}, (∀ rows, phase.tokens? = some rows → tx.phase.tokens? = some rows) →
      (∀ rows, phase.teams? = some rows → tx.phase.teams? = some rows) → Unseen s (s.setPhase i tx phase) :=
    fun htokens hteams => unseen_setPhase htx (fun rows h => Or.inl (htokens rows h))
      fun rows h => Or.inl (hteams rows h)
  unfold nextStatement
  cases hphase : tx.phase with
  | cursorWritten tokens teams => exact Or.inl ⟨tokens, teams, rfl, rfl⟩
  | ranged =>
    refine Or.inr (unseen_setPhase htx ?_ ?_)
    · intro rows hrows
      cases hrows
      exact Or.inr rfl
    · simp [AggPhase.teams?]
  | tokensRead tokens =>
    refine Or.inr ?_
    dsimp only
    split
    · exact .refl s
    split
    · exact hkept (by simp [hphase, AggPhase.tokens?]) (by simp [AggPhase.teams?])
    · exact hkept (by simp [AggPhase.tokens?]) (by simp [AggPhase.teams?])
  | tokensWritten tokens =>
    refine Or.inr (unseen_setPhase htx ?_ ?_)
    · intro rows hrows
      exact Or.inl (by rw [hphase]; exact hrows)
    · intro rows hrows
      cases hrows
      exact Or.inr rfl
  | teamsRead tokens teams =>
    refine Or.inr ?_
    dsimp only
    split
    · exact .refl s
    split
    · exact hkept (by simp [hphase, AggPhase.tokens?]) (by simp [hphase, AggPhase.teams?])
    · exact hkept (by simp [AggPhase.tokens?]) (by simp [AggPhase.teams?])
  | teamsWritten tokens teams =>
    refine Or.inr ?_
    dsimp only
    split
    · exact .refl s
    · exact hkept (by simp [hphase, AggPhase.tokens?]) (by simp [hphase, AggPhase.teams?])
  | failed => exact Or.inr (unseen_erase s i)

theorem unseen_beginRun (s : Database) (i : Nat) (now : Int) : Unseen s (s.beginRun i now) := by
  unfold beginRun
  split
  · rename_i lastTs hcursor hidle
    split
    · exact .refl s
    · rename_i hlt
      refine ⟨rfl, rfl, rfl, rfl, rfl, rfl, fun j tx' h => ?_⟩
      by_cases hj : j = i
      · subst hj
        simp only [AList.lookup_insert, Option.some.injEq] at h
        subst h
        exact Or.inr (Or.inl ⟨hcursor, not_le.1 hlt, rfl⟩)
      · simp only [AList.lookup_insert_ne hj] at h
        exact Or.inl h
  · exact .refl s

/-- **A step**: an insert becomes visible, a transaction commits, or nothing is seen. -/
theorem apply_cases (s : Database) (a : Act) :
    (∃ id, a = .commitInsert id) ∨
    (∃ i tx tokens teams, a = .next i ∧ s.txs.lookup i = some tx ∧ tx.phase = .cursorWritten tokens teams ∧
      s.apply a = s.publish i tx.endTs tokens teams) ∨ Unseen s (s.apply a) := by
  cases a with
  | commitInsert id => exact Or.inl ⟨id, rfl⟩
  | insert row => exact Or.inr (Or.inr ⟨rfl, rfl, rfl, rfl, rfl, rfl, fun _ _ h => Or.inl h⟩)
  | dropInsert id => exact Or.inr (Or.inr ⟨rfl, rfl, rfl, rfl, rfl, rfl, fun _ _ h => Or.inl h⟩)
  | begin i now => exact Or.inr (Or.inr (unseen_beginRun s i now))
  | crash i => exact Or.inr (Or.inr (unseen_erase s i))
  | next i =>
    cases htx : s.txs.lookup i with
    | none =>
      rw [apply_next_idle htx]
      exact Or.inr (Or.inr (.refl s))
    | some tx =>
      rw [apply_next htx]
      rcases nextStatement_cases htx with ⟨tokens, teams, hphase, heq⟩ | h
      · exact Or.inr (Or.inl ⟨i, tx, tokens, teams, rfl, htx, hphase, heq⟩)
      · exact Or.inr (Or.inr h)

end

/-! ## What the tables hold -/

/-- The hourly tables hold the usage of the counted rows. -/
structure SumsCounted (s : Database) : Prop where
  tokens : ∀ hour, s.toStatsDb.tokenUsageIn hour = usageOf ((rowsOf s.tokenCounted).filter (·.hour = hour))
  teams : ∀ hour, s.toStatsDb.teamUsageIn hour = usageOf ((rowsOf s.teamCounted).filter (·.hour = hour))

theorem usageOf_append (rows rows' : List RequestRow) (p : RequestRow → Bool) :
    usageOf ((rows ++ rows').filter p) = usageOf (rows.filter p) + usageOf (rows'.filter p) := by
  unfold usageOf
  rw [List.filter_append, List.map_append, List.sum_append]

theorem sumsCounted_publish {s : Database} (h : SumsCounted s) (i : Nat) (endTs : Int)
    (tokens teams : List StoredRow) : SumsCounted (s.publish i endTs tokens teams) where
  tokens hour := by
    have hmerge : ∀ old value : TokenUsage, (old.merge value).usage = old.usage + value.usage := fun _ _ => rfl
    have hsum := GroupBy.tableSum_foldl hmerge (·.1 = hour) (selectTokenUsage (rowsOf tokens)) s.tokenUsageHourly
    rw [selectTokenUsage_sum] at hsum
    have hbefore := h.tokens hour
    unfold StatsDb.tokenUsageIn at hbefore ⊢
    unfold rowsOf at hsum hbefore ⊢
    simp only [publish, toStatsDb, List.map_append, usageOf_append] at hbefore ⊢
    rw [← hbefore]
    exact hsum
  teams hour := by
    have hmerge : ∀ old value : TeamUsage, (old.merge value).usage = old.usage + value.usage := fun _ _ => rfl
    have hsum := GroupBy.tableSum_foldl hmerge (·.1 = hour) (selectTeamUsage (rowsOf teams)) s.teamUsageHourly
    rw [selectTeamUsage_sum] at hsum
    have hbefore := h.teams hour
    unfold StatsDb.teamUsageIn at hbefore ⊢
    unfold rowsOf at hsum hbefore ⊢
    simp only [publish, toStatsDb, List.map_append, usageOf_append] at hbefore ⊢
    rw [← hbefore]
    exact hsum

theorem sumsCounted_of_eq {s s' : Database} (h : SumsCounted s)
    (htoken : s'.tokenUsageHourly = s.tokenUsageHourly) (hteam : s'.teamUsageHourly = s.teamUsageHourly)
    (htokens : s'.tokenCounted = s.tokenCounted) (hteams : s'.teamCounted = s.teamCounted) : SumsCounted s' := by
  constructor
  · intro hour
    rw [htokens, ← h.tokens hour]
    unfold StatsDb.tokenUsageIn toStatsDb
    rw [htoken]
  · intro hour
    rw [hteams, ← h.teams hour]
    unfold StatsDb.teamUsageIn toStatsDb
    rw [hteam]

theorem sumsCounted_apply {s : Database} (h : SumsCounted s) (a : Act) : SumsCounted (s.apply a) := by
  rcases apply_cases s a with ⟨id, rfl⟩ | ⟨i, tx, tokens, teams, _, _, _, heq⟩ | hunseen
  · exact sumsCounted_of_eq h rfl rfl rfl rfl
  · rw [heq]
    exact sumsCounted_publish h i tx.endTs tokens teams
  · exact sumsCounted_of_eq h hunseen.tokenUsageHourly hunseen.teamUsageHourly hunseen.tokenCounted
      hunseen.teamCounted

/-- **In every run the hourly tables are the sums of what has been counted.** -/
theorem sumsCounted_run (cursor : Option Int) (acts : List Act) :
    SumsCounted (Steps.run apply (fresh cursor) acts) := by
  have hstart : SumsCounted (fresh cursor) := ⟨fun _ => rfl, fun _ => rfl⟩
  exact @Steps.run_keeps _ _ apply (fun _ _ => True) SumsCounted (fun s a _ h => sumsCounted_apply h a) acts _
    (Steps.every_true acts _) hstart

/-! ## Ids -/

/-- Ids are given out once. -/
structure IdsGiven (s : Database) : Prop where
  nodup : ((s.requests ++ s.inserting).map (·.id)).Nodup
  below : ∀ r ∈ s.requests ++ s.inserting, r.id < s.nextId

theorem IdsGiven.requests_nodup {s : Database} (h : IdsGiven s) : s.requests.Nodup := by
  have hids := h.nodup
  rw [List.map_append] at hids
  exact List.Nodup.of_map _ (List.nodup_append.1 hids).1

theorem idsGiven_of_perm {s s' : Database} (h : IdsGiven s)
    (hperm : (s'.requests ++ s'.inserting).Perm (s.requests ++ s.inserting)) (hnext : s'.nextId = s.nextId) :
    IdsGiven s' where
  nodup := (hperm.map _).nodup_iff.2 h.nodup
  below r hr := by
    rw [hnext]
    exact h.below r (hperm.mem_iff.1 hr)

theorem nextStatement_ids (s : Database) (i : Nat) (tx : AggTx) :
    (s.nextStatement i tx).requests = s.requests ∧ (s.nextStatement i tx).inserting = s.inserting ∧
      (s.nextStatement i tx).nextId = s.nextId := by
  unfold nextStatement
  (repeat' split) <;> exact ⟨rfl, rfl, rfl⟩

theorem idsGiven_apply {s : Database} (h : IdsGiven s) (a : Act) : IdsGiven (s.apply a) := by
  cases a with
  | insert row =>
    refine ⟨?_, fun r hr => ?_⟩
    · simp only [apply, ← List.append_assoc, List.map_append, List.map_cons, List.map_nil]
      rw [← List.map_append, List.nodup_append]
      refine ⟨h.nodup, List.nodup_singleton _, fun a ha b hb => ?_⟩
      obtain ⟨r, hr, rfl⟩ := List.mem_map.1 ha
      rw [List.mem_singleton.1 hb]
      exact Nat.ne_of_lt (h.below r hr)
    · simp only [apply, ← List.append_assoc] at hr ⊢
      rcases List.mem_append.1 hr with hr | hr
      · exact Nat.lt_succ_of_lt (h.below r hr)
      · rw [List.mem_singleton.1 hr]
        exact Nat.lt_succ_self _
  | commitInsert id =>
    refine idsGiven_of_perm h ?_ rfl
    simp only [apply, List.append_assoc]
    refine List.Perm.append_left _ ?_
    simpa using List.filter_append_perm (fun r : StoredRow => decide (r.id = id)) s.inserting
  | dropInsert id =>
    have hsub : (s.requests ++ s.inserting.filter (·.id ≠ id)).Sublist (s.requests ++ s.inserting) :=
      List.filter_sublist.append_left _
    exact ⟨h.nodup.sublist (hsub.map _), fun r hr => h.below r (hsub.mem hr)⟩
  | begin i now =>
    have hids : ∀ s' : Database, s' = s.beginRun i now → s'.requests = s.requests ∧
        s'.inserting = s.inserting ∧ s'.nextId = s.nextId := by
      rintro _ rfl
      unfold beginRun
      (repeat' split) <;> exact ⟨rfl, rfl, rfl⟩
    obtain ⟨hreq, hins, hnext⟩ := hids _ rfl
    exact idsGiven_of_perm h (by simp [apply, hreq, hins]) hnext
  | next i =>
    cases htx : s.txs.lookup i with
    | none => rw [apply_next_idle htx]; exact h
    | some tx =>
      obtain ⟨hreq, hins, hnext⟩ := nextStatement_ids s i tx
      rw [apply_next htx]
      exact idsGiven_of_perm h (by rw [hreq, hins]) hnext
  | crash i => exact ⟨h.nodup, h.below⟩

/-! ## Runs that meet the condition -/

/-- What has been counted is what lies before the cursor, and an open transaction that may still
commit has read all of its range. -/
structure CountedBelow (s : Database) : Prop where
  ids : IdsGiven s
  none : s.cursor = none → s.tokenCounted = [] ∧ s.teamCounted = []
  tokens : ∀ c, s.cursor = some c → s.tokenCounted.Perm (s.requests.filter (·.row.timestamp < c))
  teams : ∀ c, s.cursor = some c → s.teamCounted.Perm (s.requests.filter (·.row.timestamp < c))
  open_ : ∀ i tx, s.txs.lookup i = some tx → ∃ c, s.cursor = some c ∧ tx.lastTs ≤ c ∧ tx.lastTs < tx.endTs ∧
    (tx.lastTs = c → (∀ rows, tx.phase.tokens? = some rows → rows = s.requests.filter tx.covers) ∧
      ∀ rows, tx.phase.teams? = some rows → rows = s.requests.filter tx.covers)

theorem countedBelow_fresh (cursor : Option Int) : CountedBelow (fresh cursor) where
  ids := ⟨List.nodup_nil, by simp [fresh]⟩
  none _ := ⟨rfl, rfl⟩
  tokens _ _ := .refl _
  teams _ _ := .refl _
  open_ i tx h := by cases h

/-- The rows before the end of a range are those before its start and those in it. -/
theorem counted_perm {rows counted : List StoredRow} {tx : AggTx} (hlt : tx.lastTs < tx.endTs)
    (h : counted.Perm (rows.filter (·.row.timestamp < tx.lastTs))) :
    (counted ++ rows.filter tx.covers).Perm (rows.filter (·.row.timestamp < tx.endTs)) := by
  have hbefore : rows.filter (·.row.timestamp < tx.lastTs)
      = (rows.filter (·.row.timestamp < tx.endTs)).filter (·.row.timestamp < tx.lastTs) := by
    rw [List.filter_filter]
    refine List.filter_congr fun r _ => ?_
    by_cases hr : r.row.timestamp < tx.lastTs
    · simp [hr, lt_trans hr hlt]
    · simp [hr]
  have hrange : rows.filter tx.covers
      = (rows.filter (·.row.timestamp < tx.endTs)).filter fun r => !decide (r.row.timestamp < tx.lastTs) := by
    rw [List.filter_filter]
    refine List.filter_congr fun r _ => ?_
    by_cases hr : r.row.timestamp < tx.lastTs
    · simp [AggTx.covers, hr, not_le.2 hr]
    · simp [AggTx.covers, hr, not_lt.1 hr]
  rw [hrange]
  rw [hbefore] at h
  exact (h.append_right _).trans (List.filter_append_perm _ _)

/-- The rows of an insert that becomes visible in time change nothing for those who have read. -/
theorem filter_inTime {s : Database} {new : List StoredRow} (hnew : ∀ r ∈ new, s.InTime r) :
    (∀ c, s.cursor = some c →
      (s.requests ++ new).filter (·.row.timestamp < c) = s.requests.filter (·.row.timestamp < c)) ∧
    ∀ i tx, s.txs.lookup i = some tx → tx.phase.tokens?.isSome = true →
      (s.requests ++ new).filter tx.covers = s.requests.filter tx.covers := by
  constructor
  · intro c hc
    have hnone : new.filter (·.row.timestamp < c) = [] := by
      rw [List.filter_eq_nil_iff]
      intro r hr
      have := (hnew r hr).1 c hc
      simpa using this
    rw [List.filter_append, hnone, List.append_nil]
  · intro i tx htx hread
    have hnone : new.filter tx.covers = [] := by
      rw [List.filter_eq_nil_iff]
      intro r hr
      have := (hnew r hr).2 ⟨i, tx⟩ (AList.mem_lookup_iff.1 htx) hread
      simp [this]
    rw [List.filter_append, hnone, List.append_nil]

theorem tokens_of_teams {phase : AggPhase} {rows : List StoredRow} (h : phase.teams? = some rows) :
    phase.tokens?.isSome = true := by
  cases phase <;> first | rfl | cases h

theorem countedBelow_commitInsert {s : Database} (h : CountedBelow s) {id : Nat}
    (hmeets : s.Meets (.commitInsert id)) : CountedBelow (s.apply (.commitInsert id)) := by
  have hnew : ∀ r ∈ s.inserting.filter (·.id = id), s.InTime r := by
    intro r hr
    have hmem := List.mem_filter.1 hr
    exact hmeets r hmem.1 (by simpa using hmem.2)
  obtain ⟨hbelow, hcovers⟩ := filter_inTime hnew
  refine ⟨idsGiven_apply h.ids _, h.none, fun c hc => ?_, fun c hc => ?_, fun i tx htx => ?_⟩
  · show s.tokenCounted.Perm ((s.requests ++ _).filter _)
    rw [hbelow c hc]
    exact h.tokens c hc
  · show s.teamCounted.Perm ((s.requests ++ _).filter _)
    rw [hbelow c hc]
    exact h.teams c hc
  · obtain ⟨c, hc, hle, hlt, hread⟩ := h.open_ i tx htx
    refine ⟨c, hc, hle, hlt, fun hcur => ⟨fun rows hrows => ?_, fun rows hrows => ?_⟩⟩
    · show rows = (s.requests ++ _).filter _
      rw [hcovers i tx htx (by rw [hrows]; rfl)]
      exact (hread hcur).1 rows hrows
    · show rows = (s.requests ++ _).filter _
      rw [hcovers i tx htx (tokens_of_teams hrows)]
      exact (hread hcur).2 rows hrows

theorem countedBelow_publish {s : Database} (h : CountedBelow s) {i : Nat} {tx : AggTx}
    {tokens teams : List StoredRow} (htx : s.txs.lookup i = some tx)
    (hphase : tx.phase = .cursorWritten tokens teams) (hcurrent : s.Current tx)
    (hids : IdsGiven (s.publish i tx.endTs tokens teams)) :
    CountedBelow (s.publish i tx.endTs tokens teams) := by
  obtain ⟨c, hc, _, hlt, hread⟩ := h.open_ i tx htx
  have hcur : tx.lastTs = c := by
    have hsame : s.cursor = some tx.lastTs := hcurrent
    rw [hc] at hsame
    exact (Option.some.inj hsame).symm
  subst hcur
  have htokens : tokens = s.requests.filter tx.covers := (hread rfl).1 tokens (by rw [hphase]; rfl)
  have hteams : teams = s.requests.filter tx.covers := (hread rfl).2 teams (by rw [hphase]; rfl)
  have hcursor : (s.publish i tx.endTs tokens teams).cursor = some tx.endTs := by
    simp [publish, hc]
  refine ⟨hids, fun hnone => ?_, fun c' hc' => ?_, fun c' hc' => ?_, fun j tx' htx' => ?_⟩
  · rw [hcursor] at hnone
    cases hnone
  · rw [hcursor] at hc'
    cases hc'
    subst htokens
    exact counted_perm hlt (h.tokens _ hc)
  · rw [hcursor] at hc'
    cases hc'
    subst hteams
    exact counted_perm hlt (h.teams _ hc)
  · -- another open transaction has read an older cursor
    obtain ⟨c', hc', hle, hlt', _⟩ := h.open_ j tx' (lookup_of_erase htx')
    rw [hc] at hc'
    cases hc'
    exact ⟨tx.endTs, hcursor, by omega, hlt', fun heq => by omega⟩

theorem countedBelow_unseen {s s' : Database} (h : CountedBelow s) (hunseen : Unseen s s')
    (hids : IdsGiven s') : CountedBelow s' := by
  have hcovers : ∀ {tx tx' : AggTx}, tx'.lastTs = tx.lastTs → tx'.endTs = tx.endTs → tx'.covers = tx.covers := by
    intro tx tx' hlast hend
    funext r
    simp only [AggTx.covers, hlast, hend]
  refine ⟨hids, fun hnone => ?_, fun c hc => ?_, fun c hc => ?_, fun j tx' htx' => ?_⟩
  · rw [hunseen.tokenCounted, hunseen.teamCounted]
    exact h.none (hunseen.cursor ▸ hnone)
  · rw [hunseen.tokenCounted, hunseen.requests]
    exact h.tokens c (hunseen.cursor ▸ hc)
  · rw [hunseen.teamCounted, hunseen.requests]
    exact h.teams c (hunseen.cursor ▸ hc)
  · rw [hunseen.cursor, hunseen.requests]
    rcases hunseen.txs j tx' htx' with hold | ⟨hc, hlt, hphase⟩ | ⟨tx, htx, hlast, hend, htokens, hteams⟩
    · exact h.open_ j tx' hold
    · refine ⟨tx'.lastTs, hc, le_refl _, hlt, fun _ => ?_⟩
      simp [hphase, AggPhase.tokens?, AggPhase.teams?]
    · obtain ⟨c, hc, hle, hlt, hread⟩ := h.open_ j tx htx
      rw [hlast, hend, hcovers hlast hend]
      refine ⟨c, hc, hle, hlt, fun hcur => ⟨fun rows hrows => ?_, fun rows hrows => ?_⟩⟩
      · exact (htokens rows hrows).elim ((hread hcur).1 rows) id
      · exact (hteams rows hrows).elim ((hread hcur).2 rows) id

/-- **Step.** -/
theorem countedBelow_apply {s : Database} {a : Act} (hmeets : s.Meets a) (h : CountedBelow s) :
    CountedBelow (s.apply a) := by
  have hids := idsGiven_apply h.ids a
  rcases apply_cases s a with ⟨id, rfl⟩ | ⟨i, tx, tokens, teams, rfl, htx, hphase, heq⟩ | hunseen
  · exact countedBelow_commitInsert h hmeets
  · rw [heq] at hids ⊢
    exact countedBelow_publish h htx hphase (hmeets tx htx (by rw [hphase]; rfl)) hids
  · exact countedBelow_unseen h hunseen hids

/-- A row whose hour is over by `c` is from before `c`. -/
theorem timestamp_lt_of_hour {r : RequestRow} {c : Int} (h : r.hour + 3600 * 10 ^ 6 ≤ c) : r.timestamp < c := by
  unfold RequestRow.hour dateTruncHour at h
  omega

/-- Rows that have been counted as far as the cursor have been counted once. -/
theorem count_of_perm {s : Database} (hnodup : s.requests.Nodup) {counted : List StoredRow}
    (hnone : s.cursor = none → counted = [])
    (hperm : ∀ c, s.cursor = some c → counted.Perm (s.requests.filter (·.row.timestamp < c))) :
    (∀ r, counted.count r ≤ 1) ∧ ∀ r ∈ s.requests, s.Passed r → counted.count r = 1 := by
  cases hc : s.cursor with
  | none =>
    rw [hnone hc]
    refine ⟨by simp, fun r _ hpassed => ?_⟩
    obtain ⟨c, hc', _⟩ := hpassed
    rw [hc] at hc'
    cases hc'
  | some c =>
    have hcount := (hperm c hc).nodup_iff.2 (hnodup.filter _)
    refine ⟨fun r => List.nodup_iff_count_le_one.1 hcount r, fun r hr hpassed => ?_⟩
    obtain ⟨c', hc', hhour⟩ := hpassed
    rw [hc] at hc'
    cases hc'
    refine List.count_eq_one_of_mem hcount ((hperm c hc).mem_iff.2 (List.mem_filter.2 ⟨hr, ?_⟩))
    simpa using timestamp_lt_of_hour hhour

/-- **Exactly once**: in every run in which inserts become visible in time and aggregations commit on
the cursor they have read. -/
theorem exactlyOnce_of_meets (cursor : Option Int) (acts : List Act)
    (h : Steps.Every apply Meets (fresh cursor) acts) : ExactlyOnce (Steps.run apply (fresh cursor) acts) := by
  have hsums := sumsCounted_run cursor acts
  have hcounted : CountedBelow (Steps.run apply (fresh cursor) acts) :=
    Steps.run_keeps (fun s a hmeets h => countedBelow_apply hmeets h) acts _ h (countedBelow_fresh cursor)
  have hnodup := hcounted.ids.requests_nodup
  have htokens := count_of_perm hnodup (fun hc => (hcounted.none hc).1) hcounted.tokens
  have hteams := count_of_perm hnodup (fun hc => (hcounted.none hc).2) hcounted.teams
  exact ⟨hsums.tokens, hsums.teams, htokens.1, hteams.1, htokens.2, hteams.2⟩

/-! ## Three runs -/

/-- A row of the hour from second 3600 to second 7200. -/
def hourRow (timestamp : Int) : RequestRow where
  timestamp := timestamp
  model := "gpt-4"
  endpoint := "https://api.openai.com"
  team := "dev"
  tokensPrompt := 5
  tokensCompletion := 7
  latencyMs := 40
  status := 200
  tokenKeyHash := some "a1"
  costApprox := 0

/-- Each instance aggregates after the other has. -/
def oneAfterTheOther : List Act :=
  [.insert (hourRow (4000 * 10 ^ 6)), .commitInsert 1, .begin 1 (7300 * 10 ^ 6)] ++ List.replicate 6 (.next 1) ++
    .begin 2 (7301 * 10 ^ 6) :: List.replicate 6 (.next 2)

theorem oneAfterTheOther_exactlyOnce :
    ExactlyOnce (Steps.run apply (fresh (some (3600 * 10 ^ 6))) oneAfterTheOther) :=
  exactlyOnce_of_meets (some (3600 * 10 ^ 6)) oneAfterTheOther (by decide)

/-- Both have read the cursor before either commits; the upserts of the second come after. -/
def bothAtOnce : List Act :=
  [.insert (hourRow (4000 * 10 ^ 6)), .commitInsert 1, .begin 1 (7300 * 10 ^ 6), .begin 2 (7300 * 10 ^ 6)] ++
    List.replicate 6 (.next 1) ++ List.replicate 6 (.next 2)

/-- The row of the hour's last millisecond becomes visible after the aggregation of the next. -/
def lateCommit : List Act :=
  [.insert (hourRow 7199999000), .begin 1 7200001000] ++ List.replicate 6 (.next 1) ++ [.commitInsert 1]

/-- One row is counted twice by two instances; another is never counted. -/
theorem counted_twice_and_never :
    ((Steps.run apply (fresh (some (3600 * 10 ^ 6))) bothAtOnce).requests.length = 1 ∧
      ((Steps.run apply (fresh (some (3600 * 10 ^ 6))) bothAtOnce).toStatsDb.tokenUsageIn
        (3600 * 10 ^ 6)).requests = 2 ∧
      ¬ ExactlyOnce (Steps.run apply (fresh (some (3600 * 10 ^ 6))) bothAtOnce)) ∧
    ((Steps.run apply (fresh (some (3600 * 10 ^ 6))) lateCommit).requests.length = 1 ∧
      (Steps.run apply (fresh (some (3600 * 10 ^ 6))) lateCommit).cursor = some (7200 * 10 ^ 6) ∧
      ((Steps.run apply (fresh (some (3600 * 10 ^ 6))) lateCommit).toStatsDb.tokenUsageIn
        (3600 * 10 ^ 6)).requests = 0 ∧
      ¬ ExactlyOnce (Steps.run apply (fresh (some (3600 * 10 ^ 6))) lateCommit)) := by
  refine ⟨⟨by decide, by decide, fun h => ?_⟩, ⟨by decide, by decide, by decide, fun h => ?_⟩⟩
  · have htwice := h.tokensAtMost { id := 1, row := hourRow (4000 * 10 ^ 6) }
    revert htwice
    decide
  · have hnever := h.tokens { id := 1, row := hourRow 7199999000 } (by decide) ⟨7200 * 10 ^ 6, by decide, by decide⟩
    revert hnever
    decide

end Database

end AiRouter
