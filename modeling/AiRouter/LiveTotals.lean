import AiRouter.Lib.Interleaving
import AiRouter.Moves
import Mathlib.Data.Nat.ModEq
import Mathlib.Tactic.IntervalCases

/-
# The totals of the live counters

Each request that is counted is counted in total, then for its token, for its team and for an endpoint, and each error
for all three; the counters wrap. Requests at the same time mix their writes in any order. So the sums by token, by
team and by endpoint agree modulo 2^64 but for the calls that are under way: each sum is behind the one that a call
writes first, by at most one for each task. The columns that `/stats` shows an admin are such sums.
-/
namespace AiRouter

open Interleaving KeyMap

namespace LiveStats

/-! ## Sums -/

/-- The total, and a map for each of the others. -/
inductive Column where
  | total
  | requestsByToken
  | requestsByTeam
  | requestsByEndpoint
  | errorsByToken
  | errorsByTeam
  | errorsByEndpoint
deriving DecidableEq, Repr

/-- What a call writes first of all. -/
def Column.lead : Column → Column
  | errorsByToken | errorsByTeam | errorsByEndpoint => errorsByToken
  | _ => total

def Write.column : Write → Column
  | .total => .total
  | .request (.token _) => .requestsByToken
  | .request (.team _) => .requestsByTeam
  | .request (.endpoint _) => .requestsByEndpoint
  | .error (.token _) => .errorsByToken
  | .error (.team _) => .errorsByTeam
  | .error (.endpoint _) => .errorsByEndpoint

def sum (s : LiveStats) : Column → Nat
  | .total => s.requestsTotal
  | .requestsByToken => total s.requestsByToken
  | .requestsByTeam => total s.requestsByTeam
  | .requestsByEndpoint => total s.requestsByEndpoint
  | .errorsByToken => total s.errorsByToken
  | .errorsByTeam => total s.errorsByTeam
  | .errorsByEndpoint => total s.errorsByEndpoint

/-- Each sum is behind its lead by at most `n`. -/
def AgreeWithin (n : Nat) (s : LiveStats) : Prop := ∀ c, ∃ d ≤ n, s.sum c + d ≡ s.sum c.lead [MOD 2 ^ 64]

/-- A count adds one to the sum. -/
theorem total_count (m : KeyMap String Nat) (key : String) : total (count m key) ≡ total m + 1 [MOD 2 ^ 64] := by
  have hsum := total_insert m key (((m.lookup key).getD 0 + 1) % 2 ^ 64)
  have hwrap : ((m.lookup key).getD 0 + 1) % 2 ^ 64 ≡ (m.lookup key).getD 0 + 1 [MOD 2 ^ 64] := Nat.mod_modEq _ _
  refine Nat.ModEq.add_right_cancel' ((m.lookup key).getD 0) ?_
  calc total (count m key) + (m.lookup key).getD 0
      = total m + ((m.lookup key).getD 0 + 1) % 2 ^ 64 := hsum
    _ ≡ total m + ((m.lookup key).getD 0 + 1) [MOD 2 ^ 64] := hwrap.add_left _
    _ = total m + 1 + (m.lookup key).getD 0 := by omega

/-- **A write** adds one to its column. -/
theorem sum_write (s : LiveStats) (w : Write) (c : Column) :
    (s.write w).sum c ≡ s.sum c + (if w.column = c then 1 else 0) [MOD 2 ^ 64] := by
  by_cases hc : w.column = c
  · subst hc
    rw [if_pos rfl]
    rcases w with _ | (_ | _ | _) | (_ | _ | _)
    · exact Nat.mod_modEq _ _
    all_goals exact total_count _ _
  · rw [if_neg hc, Nat.add_zero]
    rcases w with _ | (_ | _ | _) | (_ | _ | _) <;> cases c <;> first | rfl | exact absurd rfl hc

theorem sum_run (ws : List Write) (c : Column) : ∀ s : LiveStats,
    (Steps.run write s ws).sum c ≡ s.sum c + ws.countP (fun w => decide (w.column = c)) [MOD 2 ^ 64] := by
  induction ws with
  | nil => exact fun s => rfl
  | cons w ws ih =>
    intro s
    rw [Steps.run_cons, List.countP_cons]
    refine (ih (s.write w)).trans (((sum_write s w c).add_right _).trans ?_)
    simp only [decide_eq_true_eq]
    rw [Nat.add_assoc, Nat.add_comm (ite _ _ _)]

/-! ## How far the writes of a task are apart -/

theorem call_whole (call : Call) (c : Column) :
    call.writes.countP (fun w => decide (w.column = c)) = call.writes.countP fun w => decide (w.column = c.lead) := by
  cases call <;> cases c <;> rfl

/-- A call under way is behind by at most one. -/
theorem call_behind {call : Call} {ws : List Write} (h : ws <+: call.writes) (c : Column) :
    ∃ d ≤ 1, ws.countP (fun w => decide (w.column = c)) + d
      = ws.countP fun w => decide (w.column = c.lead) := by
  rw [List.prefix_iff_eq_take.1 h]
  generalize ws.length = k
  by_cases hk : call.writes.length ≤ k
  · rw [List.take_of_length_le hk]
    exact ⟨0, Nat.zero_le 1, call_whole call c⟩
  cases call with
  | request token team endpoint =>
    have hlt : k < 4 := not_le.1 hk
    interval_cases k <;> cases c <;> first | exact ⟨0, Nat.zero_le 1, rfl⟩ | exact ⟨1, le_refl 1, rfl⟩
  | error token team endpoint =>
    have hlt : k < 3 := not_le.1 hk
    interval_cases k <;> cases c <;> first | exact ⟨0, Nat.zero_le 1, rfl⟩ | exact ⟨1, le_refl 1, rfl⟩

theorem calls_whole (calls : List Call) (c : Column) :
    (calls.flatMap Call.writes).countP (fun w => decide (w.column = c))
      = (calls.flatMap Call.writes).countP fun w => decide (w.column = c.lead) := by
  induction calls with
  | nil => rfl
  | cons call calls ih => rw [List.flatMap_cons, List.countP_append, List.countP_append, call_whole, ih]

/-- **A task** is behind by at most one, wherever it stands. -/
theorem task_behind (c : Column) : ∀ (calls : List Call) {ws : List Write}, ws <+: calls.flatMap Call.writes →
    ∃ d ≤ 1, ws.countP (fun w => decide (w.column = c)) + d
      = ws.countP fun w => decide (w.column = c.lead) := by
  intro calls
  induction calls with
  | nil =>
    intro ws h
    rw [List.prefix_nil.1 h]
    exact ⟨0, Nat.zero_le 1, rfl⟩
  | cons call calls ih =>
    intro ws h
    rw [List.flatMap_cons] at h
    -- within the first call, or after it
    rcases List.prefix_or_prefix_of_prefix h (List.prefix_append call.writes _) with hfirst | ⟨later, rfl⟩
    · exact call_behind hfirst c
    · obtain ⟨d, hd, hlater⟩ := ih ((List.prefix_append_right_inj _).1 h)
      refine ⟨d, hd, ?_⟩
      rw [List.countP_append, List.countP_append, call_whole, Nat.add_assoc, hlater]

/-- **Tasks** are behind by at most one each. -/
theorem tasks_behind (c : Column) : ∀ {parts : List (List Write)} {tasks : List (List Call)},
    List.Forall₂ (· <+: ·) parts (tasks.map fun calls => calls.flatMap Call.writes) →
    ∃ d ≤ tasks.length, parts.flatten.countP (fun w => decide (w.column = c)) + d
      = parts.flatten.countP fun w => decide (w.column = c.lead) := by
  intro parts tasks
  induction tasks generalizing parts with
  | nil =>
    intro h
    rw [List.forall₂_nil_right_iff.1 h]
    exact ⟨0, le_refl 0, rfl⟩
  | cons calls tasks ih =>
    intro h
    obtain ⟨part, later, hpart, hlater, rfl⟩ := List.forall₂_cons_right_iff.1 h
    obtain ⟨d, hd, hfirst⟩ := task_behind c calls hpart
    obtain ⟨d', hd', hrest⟩ := ih hlater
    refine ⟨d + d', by rw [List.length_cons]; omega, ?_⟩
    rw [List.flatten_cons, List.countP_append, List.countP_append]
    omega

variable {s : LiveStats} {n m : Nat} {ws : List Write}

/-- **Run** of writes. -/
theorem AgreeWithin.run (h : s.AgreeWithin n)
    (hbehind : ∀ c : Column, ∃ d ≤ m, ws.countP (fun w => decide (w.column = c)) + d
      = ws.countP fun w => decide (w.column = c.lead)) : (Steps.run write s ws).AgreeWithin (n + m) := by
  intro c
  obtain ⟨d, hd, hbefore⟩ := h c
  obtain ⟨d', hd', hwrites⟩ := hbehind c
  refine ⟨d + d', Nat.add_le_add hd hd', ((sum_run ws c s).add_right _).trans ?_⟩
  refine Nat.ModEq.trans ?_ (sum_run ws c.lead s).symm
  rw [← hwrites, Nat.add_add_add_comm]
  exact hbefore.add_right _

theorem AgreeWithin.run_whole (h : s.AgreeWithin n) (calls : List Call) :
    (Steps.run write s (calls.flatMap Call.writes)).AgreeWithin n :=
  h.run (m := 0) fun c => ⟨0, le_refl 0, calls_whole calls c⟩

end LiveStats

/-! ## What `/stats` shows -/

theorem requestsAndErrors_requests (requests errors : KeyMap String Nat) :
    ((requestsAndErrors requests errors).map (·.2.1)).sum = total requests := by
  unfold requestsAndErrors total
  rw [List.map_map]
  rfl

/-- The columns of an admin's report are those of the live counters. -/
theorem statsJson_columns {parse : String → Option ParsedUrl} {now : Nat} {auth : AuthContext} {app : AppState}
    {report : StatsReport} {tokens teams : List (String × Nat × Nat)}
    (h : (statsJson parse now auth app).2 = .ok report)
    (htokens : report.allTokens = some tokens) (hteams : report.allTeams = some teams) :
    tokens = requestsAndErrors app.liveStats.requestsByToken app.liveStats.errorsByToken ∧
      teams = requestsAndErrors app.liveStats.requestsByTeam app.liveStats.errorsByTeam := by
  unfold statsJson at h
  dsimp only at h
  generalize walkRows (statsRow parse now) _ _ = rows at h
  obtain ⟨app', p | endpoints⟩ := rows
  · cases h
  · cases h
    dsimp only at htokens hteams
    split at htokens
    · rename_i hadmin
      rw [if_pos hadmin] at hteams
      exact ⟨(Option.some.inj htokens).symm, (Option.some.inj hteams).symm⟩
    · cases htokens

/-- The live counters agree within `n`, and so do the columns of every report that an admin is shown. -/
structure AppState.TotalsWithin (n : Nat) (app : AppState) : Prop where
  counters : app.liveStats.AgreeWithin n
  columns : ∀ parse now auth report tokens teams, (statsJson parse now auth app).2 = .ok report →
    report.allTokens = some tokens → report.allTeams = some teams →
    ∃ d ≤ n, ∃ d' ≤ n, (tokens.map (·.2.1)).sum + d ≡ (teams.map (·.2.1)).sum + d' [MOD 2 ^ 64]

theorem AppState.totalsWithin {n : Nat} {app : AppState} (h : app.liveStats.AgreeWithin n) : app.TotalsWithin n := by
  refine ⟨h, fun parse now auth report tokens teams hreport htokens hteams => ?_⟩
  obtain ⟨rfl, rfl⟩ := statsJson_columns hreport htokens hteams
  obtain ⟨d, hd, htoken⟩ := h .requestsByToken
  obtain ⟨d', hd', hteam⟩ := h .requestsByTeam
  rw [requestsAndErrors_requests, requestsAndErrors_requests]
  exact ⟨d, hd, d', hd', htoken.trans hteam.symm⟩

/-! ## Runs -/

/-- **The totals agree.** Where tasks make calls of `record_request` and `record_error` and mix their single writes,
among whatever moves, each sum is behind by at most one for each task at every moment, and by none once all writes are
made. Requests that the server serves one after another make such calls, so that after them none is behind. -/
theorem totals_agree (site : Site) {n : Nat} {app : AppState} (hlive : app.liveStats.AgreeWithin n) :
    (∀ {ws : List LiveStats.Write} {app' : AppState} {tasks : List (List LiveStats.Call)},
      MoveTrace (fun _ => True) app ws app' →
      Interleaves (tasks.map fun calls => calls.flatMap LiveStats.Call.writes) ws →
      app'.TotalsWithin (n + tasks.length) ∧
        (ws.Perm (tasks.map fun calls => calls.flatMap LiveStats.Call.writes).flatten → app'.TotalsWithin n)) ∧
    ∀ {arrivals : List Arrival},
      Steps.Every site.step (Arrival.By (fun _ => True) (CallsBy fun _ => True)) app arrivals →
      (∃ calls : List LiveStats.Call, MoveTrace (fun _ => True) app (calls.flatMap LiveStats.Call.writes)
          (Steps.run site.step app arrivals)) ∧
        (Steps.run site.step app arrivals).TotalsWithin n := by
  refine ⟨?_, ?_⟩
  · intro ws app' tasks hmoves horder
    obtain ⟨parts, hparts, hperm⟩ := horder.parts
    refine ⟨AppState.totalsWithin ?_, fun hdone => AppState.totalsWithin ?_⟩
    · rw [hmoves.liveStats]
      refine hlive.run fun c => ?_
      rw [hperm.countP_eq, hperm.countP_eq]
      exact LiveStats.tasks_behind c hparts
    · rw [hmoves.liveStats]
      refine hlive.run (m := 0) fun c => ⟨0, le_refl 0, ?_⟩
      rw [hdone.countP_eq, hdone.countP_eq, ← List.flatMap_def, ← List.flatMap_assoc]
      exact LiveStats.calls_whole _ c
  · intro arrivals h
    obtain ⟨calls, hmoves⟩ := run_moves (callsBy_carries _) site h
    refine ⟨⟨calls, hmoves⟩, AppState.totalsWithin ?_⟩
    rw [hmoves.liveStats]
    exact hlive.run_whole calls

def clientAuth : AuthContext where
  tokenKey := "sk-client"
  team := "dev"
  models := ["small"]
  rpm := 0
  tpm := 0
  costMultiplier := 1

def clientCall : LiveStats.Call := .request "sk-client" "dev" "e"

/-- Two calls under way: both are in the total, one of them for its token. -/
def underWay : AppState :=
  (clientAuth.act (.request (.own .token)) (clientAuth.act .total (clientAuth.act .total providerApp).1).1).1

theorem underWay_moves :
    MoveTrace (fun _ => True) providerApp [.total, .total, .request (.token "sk-client")] underWay := by
  have hact : ∀ app a, Move (fun _ => True) app (clientAuth.writes a) (clientAuth.act a app).1 :=
    fun _ a => .act trivial a
  exact ((MoveTrace.refl.tail (hact _ .total)).tail (hact _ .total)).tail (hact _ (.request (.own .token)))

theorem underWay_order :
    Interleaves ([[clientCall], [clientCall]].map fun calls => calls.flatMap LiveStats.Call.writes)
      [.total, .total, .request (.token "sk-client")] :=
  .step (i := 0) rfl (.step (i := 1) rfl (.step (i := 0) rfl (.stop _)))

/-- A call that is answered. -/
def answeredCall : Arrival where
  before := .quiet
  outside := { refusedOutside with chat := .quiet fun _ => answeringTurn }
  request := smallChat

theorem answeredCall_by (app : AppState) :
    Arrival.By (fun _ => True) (CallsBy fun _ => True) app answeredCall where
  before := quiet_by (callsBy_carries _)
  outside := ⟨⟨quiet_by (callsBy_carries _), quiet_by (callsBy_carries _),
    fun _ => ⟨quiet_by (callsBy_carries _), quiet_by (callsBy_carries _)⟩⟩,
    quiet_by (callsBy_carries _), quiet_by (callsBy_carries _)⟩
  caller _ _ := trivial

theorem providerApp_agrees : providerApp.liveStats.AgreeWithin 0 :=
  fun c => ⟨0, le_refl 0, by cases c <;> rfl⟩

theorem answeredCall_run :
    Steps.Every plainSite.step (Arrival.By (fun _ => True) (CallsBy fun _ => True)) providerApp [answeredCall] :=
  ⟨answeredCall_by providerApp, trivial⟩

theorem calls_agree :
    (underWay.liveStats.requestsTotal = 2 ∧ KeyMap.total underWay.liveStats.requestsByToken = 1 ∧
        underWay.TotalsWithin 2) ∧
      (Steps.run plainSite.step providerApp [answeredCall]).liveStats.requestsTotal = 1 ∧
        (Steps.run plainSite.step providerApp [answeredCall]).TotalsWithin 0 := by
  obtain ⟨hmixed, hserved⟩ := totals_agree plainSite providerApp_agrees
  exact ⟨⟨rfl, rfl, (hmixed underWay_moves underWay_order).1⟩, rfl, (hserved answeredCall_run).2⟩

end AiRouter
