import AiRouter.Lib.Purge
import AiRouter.Moves

/-
# Tenants

A tenant is a token and its team. What is kept for it is kept under its own keys: its budgets, its counters in Redis,
its live counters, the rows of its team. So what other tenants ask for, in any order, and whatever endpoints, bans,
sessions and reloads do beside it, each check, each charge and each number of its token and its team comes out as it
would alone. The rows of endpoints on its page are of all tenants.

The limiters keep the budgets of tokens, teams and endpoints in one map, so tenants are told apart by the spelling of
their keys: a token `team:x` shares the budget of the team `x`. The cleanups of idle budgets and old rows are left out.
-/
namespace AiRouter

/-! ## What is kept for a tenant -/

namespace AuthContext

/-- Its keys in the limiters. -/
def budgets (auth : AuthContext) : List String := [auth.tokenKey, teamKey auth.team]

/-- Its counters in Redis. -/
def counters (auth : AuthContext) : List (String × String) := [("token", auth.tokenKey), ("team", teamKey auth.team)]

end AuthContext

/-- The rows of a team. -/
def StatsWriter.ofTeam (w : StatsWriter) (team : String) : Option (List RequestRow) :=
  w.pool.map fun rows => rows.filter fun row => row.team == team

namespace StatsWriter

variable {w w' : StatsWriter} {team team' : String} {model endpoint : String} {prompt completion latencyMs status : Nat}
  {tokenHash : Option String} {costPrompt costCompletion : Rat} {now : Nat}

/-- A new row, in tables with the same rows of the team. -/
theorem recordRequest_ofTeam (h : w.ofTeam team = w'.ofTeam team) :
    (w.recordRequest model endpoint team' prompt completion latencyMs status tokenHash costPrompt costCompletion
        now).ofTeam team
      = (w'.recordRequest model endpoint team' prompt completion latencyMs status tokenHash costPrompt costCompletion
        now).ofTeam team := by
  obtain ⟨pool⟩ := w
  obtain ⟨pool'⟩ := w'
  unfold ofTeam recordRequest at *
  cases pool with
  | none => cases pool' with
    | none => rfl
    | some rows' => cases h
  | some rows => cases pool' with
    | none => cases h
    | some rows' =>
      have hrows := Option.some.inj h
      simp only [Option.map_some, List.filter_append, hrows]

/-- A row of another team. -/
theorem recordRequest_ofTeam_ne (w : StatsWriter) (h : team' ≠ team) :
    (w.recordRequest model endpoint team' prompt completion latencyMs status tokenHash costPrompt costCompletion
      now).ofTeam team = w.ofTeam team := by
  have hother : (team' == team) = false := beq_eq_false_iff_ne.2 h
  unfold ofTeam recordRequest
  cases w.pool with
  | none => rfl
  | some rows => simp [hother]

end StatsWriter

/-- The two states hold the same for the tenant. -/
structure SameTenant (tenant : AuthContext) (app app' : AppState) : Prop where
  budgets : ∀ key ∈ tenant.budgets, app.limiters.limiters.lookup key = app'.limiters.limiters.lookup key
  counters : ∀ c ∈ tenant.counters, SyncStore.AgreeAt c.1 c.2 app.sync app'.sync
  tokenRequests :
    app.liveStats.requestsByToken.lookup tenant.tokenKey = app'.liveStats.requestsByToken.lookup tenant.tokenKey
  tokenErrors : app.liveStats.errorsByToken.lookup tenant.tokenKey = app'.liveStats.errorsByToken.lookup tenant.tokenKey
  teamRequests : app.liveStats.requestsByTeam.lookup tenant.team = app'.liveStats.requestsByTeam.lookup tenant.team
  teamErrors : app.liveStats.errorsByTeam.lookup tenant.team = app'.liveStats.errorsByTeam.lookup tenant.team
  rows : app.stats.ofTeam tenant.team = app'.stats.ofTeam tenant.team

/-- Another tenant: neither its token nor its team has a budget of this one. -/
structure OtherTenant (tenant auth : AuthContext) : Prop where
  token : auth.tokenKey ∉ tenant.budgets
  team : teamKey auth.team ∉ tenant.budgets

theorem teamKey_inj {team team' : String} : teamKey team = teamKey team' ↔ team = team' := by
  unfold teamKey
  rw [← String.toList_inj, String.toList_append, String.toList_append, List.append_cancel_left_eq, String.toList_inj]

namespace OtherTenant

variable {tenant auth : AuthContext} (h : OtherTenant tenant auth)
include h

theorem token_ne : tenant.tokenKey ≠ auth.tokenKey := fun heq => h.token (by rw [← heq]; exact List.mem_cons_self)

theorem team_ne : tenant.team ≠ auth.team := fun heq =>
  h.team (by rw [← heq]; exact List.mem_cons_of_mem _ List.mem_cons_self)

end OtherTenant

namespace SyncStore

/-- The scope of a counter is read off its key. -/
theorem rateKey_scope (s : SyncStore) {scope scope' key key' : String}
    (h : s.rateKey scope key = s.rateKey scope' key') :
    scope.toList ++ ':' :: key.toList = scope'.toList ++ ':' :: key'.toList := by
  unfold rateKey at h
  simpa [← String.toList_inj, String.toList_append] using h

end SyncStore

section
variable {tenant auth : AuthContext} {app app' app'' : AppState}

namespace SameTenant

theorem refl (tenant : AuthContext) (app : AppState) : SameTenant tenant app app :=
  ⟨fun _ _ => rfl, fun _ _ => ⟨rfl, rfl, rfl⟩, rfl, rfl, rfl, rfl, rfl⟩

theorem trans (h : SameTenant tenant app app') (h' : SameTenant tenant app' app'') : SameTenant tenant app app'' where
  budgets key hkey := (h.budgets key hkey).trans (h'.budgets key hkey)
  counters c hc :=
    ⟨(h.counters c hc).connected.trans (h'.counters c hc).connected, (h.counters c hc).up.trans (h'.counters c hc).up,
      (h.counters c hc).entry.trans (h'.counters c hc).entry⟩
  tokenRequests := h.tokenRequests.trans h'.tokenRequests
  tokenErrors := h.tokenErrors.trans h'.tokenErrors
  teamRequests := h.teamRequests.trans h'.teamRequests
  teamErrors := h.teamErrors.trans h'.teamErrors
  rows := h.rows.trans h'.rows

/-- One entry of the limiters is written in both states. -/
theorem limiters (h : SameTenant tenant app app') {key : String} {l l' : RateLimiterStore}
    (own : key ∈ tenant.budgets → l.limiters.lookup key = l'.limiters.lookup key)
    (only : ∀ key', key' ≠ key → l.limiters.lookup key' = app.limiters.limiters.lookup key')
    (only' : ∀ key', key' ≠ key → l'.limiters.lookup key' = app'.limiters.limiters.lookup key') :
    SameTenant tenant { app with limiters := l } { app' with limiters := l' } where
  budgets key' hkey' := by
    by_cases heq : key' = key
    · subst heq
      exact own hkey'
    · exact (only key' heq).trans ((h.budgets key' hkey').trans (only' key' heq).symm)
  counters := h.counters
  tokenRequests := h.tokenRequests
  tokenErrors := h.tokenErrors
  teamRequests := h.teamRequests
  teamErrors := h.teamErrors
  rows := h.rows

end SameTenant

theorem counter_ne {s : SyncStore} {c c' : String × String} (hc : c ∈ tenant.counters) (hc' : c' ∈ tenant.counters)
    (hne : c ≠ c') : s.rateKey c.1 c.2 ≠ s.rateKey c'.1 c'.2 := by
  intro h
  have hscope := s.rateKey_scope h
  simp only [AuthContext.counters, List.mem_cons, List.not_mem_nil, or_false] at hc hc'
  rcases hc with rfl | rfl <;> rcases hc' with rfl | rfl <;> simp at hscope hne

/-- One of the tenant's counters is counted in both states. -/
theorem SameTenant.counted (h : SameTenant tenant app app') {c : String × String} (hc : c ∈ tenant.counters)
    {s s' : SyncStore} (agree : SyncStore.AgreeAt c.1 c.2 s s') (writes : app.sync.Writes (app.sync.rateKey c.1 c.2) s)
    (writes' : app'.sync.Writes (app'.sync.rateKey c.1 c.2) s') :
    SameTenant tenant { app with sync := s } { app' with sync := s' } where
  budgets := h.budgets
  counters d hd := by
    by_cases heq : d = c
    · subst heq
      exact agree
    · refine ⟨agree.connected, agree.up, ?_⟩
      have hkey : s.rateKey d.1 d.2 = app.sync.rateKey d.1 d.2 := by
        unfold SyncStore.rateKey
        rw [writes.onlyAt.keyPrefix]
      have hkey' : s'.rateKey d.1 d.2 = app'.sync.rateKey d.1 d.2 := by
        unfold SyncStore.rateKey
        rw [writes'.onlyAt.keyPrefix]
      dsimp only
      rw [hkey, hkey', writes.onlyAt.others _ (counter_ne hd hc heq), writes'.onlyAt.others _ (counter_ne hd hc heq)]
      exact (h.counters d hd).entry
  tokenRequests := h.tokenRequests
  tokenErrors := h.tokenErrors
  teamRequests := h.teamRequests
  teamErrors := h.teamErrors
  rows := h.rows

/-! ## Moves of others -/

/-- No budget of an endpoint is the tenant's. -/
def AuthContext.Named (auth : AuthContext) : Prop := ∀ epKey, epRlKey epKey ≠ auth.tokenKey

theorem epRlKey_notMem (hnamed : tenant.Named) (epKey : String) : epRlKey epKey ∉ tenant.budgets := by
  intro hmem
  simp only [AuthContext.budgets, List.mem_cons, List.not_mem_nil, or_false] at hmem
  rcases hmem with heq | heq
  · exact hnamed epKey heq
  · exact teamKey_ne_epRlKey tenant.team epKey heq.symm

theorem freeKey_ne {s : SyncStore} {key : String} (free : FreeKey s key) {c : String × String}
    (hc : c ∈ tenant.counters) : s.rateKey c.1 c.2 ≠ key := by
  cases free with
  | ban epKey => exact s.rateKey_ne_banKey _ _ _
  | session sessionId => exact s.rateKey_ne_stickyKey _ _ _
  | endpoint epKey =>
    intro heq
    simp only [AuthContext.counters, List.mem_cons, List.not_mem_nil, or_false] at hc
    rcases hc with rfl | rfl <;> simpa using s.rateKey_scope heq

/-- Two tenants have no counter in common. -/
theorem OtherTenant.counter_ne (h : OtherTenant tenant auth) {s : SyncStore} {c c' : String × String}
    (hc : c ∈ tenant.counters) (hc' : c' ∈ auth.counters) : s.rateKey c.1 c.2 ≠ s.rateKey c'.1 c'.2 := by
  intro heq
  simp only [AuthContext.counters, List.mem_cons, List.not_mem_nil, or_false] at hc hc'
  rcases hc with rfl | rfl <;> rcases hc' with rfl | rfl
  · exact h.token_ne (SyncStore.rateKey_inj.1 heq)
  · simpa using s.rateKey_scope heq
  · simpa using s.rateKey_scope heq
  · exact h.team_ne (teamKey_inj.1 (SyncStore.rateKey_inj.1 heq))

namespace SameTenant

/-- A budget of somebody else is written. -/
theorem beside_limiters (h : SameTenant tenant app app') {key : String} (hkey : key ∉ tenant.budgets)
    {l : RateLimiterStore} (only : ∀ key', key' ≠ key → l.limiters.lookup key' = app.limiters.limiters.lookup key') :
    SameTenant tenant { app with limiters := l } app' :=
  h.limiters (fun hmem => absurd hmem hkey) only fun _ _ => rfl

/-- A key of somebody else is written in Redis. -/
theorem beside_sync (h : SameTenant tenant app app') {key : String}
    (hkey : ∀ c ∈ tenant.counters, app.sync.rateKey c.1 c.2 ≠ key) {s : SyncStore} (writes : app.sync.Writes key s) :
    SameTenant tenant { app with sync := s } app' where
  budgets := h.budgets
  counters c hc := by
    have hown := h.counters c hc
    refine ⟨writes.connected.trans hown.connected, writes.up.trans hown.up, ?_⟩
    have hrate : s.rateKey c.1 c.2 = app.sync.rateKey c.1 c.2 := by
      unfold SyncStore.rateKey
      rw [writes.onlyAt.keyPrefix]
    dsimp only
    rw [hrate, writes.onlyAt.others _ (hkey c hc)]
    exact hown.entry
  tokenRequests := h.tokenRequests
  tokenErrors := h.tokenErrors
  teamRequests := h.teamRequests
  teamErrors := h.teamErrors
  rows := h.rows

end SameTenant

theorem tpmRemaining_beside (happ : SameTenant tenant app app') {key : String} (hkey : key ∉ tenant.budgets)
    (limit now : Nat) : SameTenant tenant (app.tpmRemaining key limit now).1 app' := by
  unfold AppState.tpmRemaining
  split
  · exact happ.beside_limiters hkey fun _ hne => app.limiters.getTpmState_lookup_ne limit now hne
  · exact happ

/-- The keys of another tenant in the limiters are not the tenant's. -/
theorem OtherTenant.limiterKey_notMem (h : OtherTenant tenant auth) (whose : Whose) :
    auth.limiterKey whose ∉ tenant.budgets := by
  cases whose with
  | token => exact h.token
  | team => exact h.team

theorem limiterKey_counter (auth : AuthContext) (whose : Whose) :
    (whose.scope, auth.limiterKey whose) ∈ auth.counters := by
  cases whose with
  | token => exact List.mem_cons_self
  | team => exact List.mem_cons_of_mem _ List.mem_cons_self

/-- **A live counter** of another tenant, or of an endpoint, is written. -/
theorem write_beside (h : OtherTenant tenant auth) {a : CallerAct} {w : LiveStats.Write} (hw : auth.writes a = some w)
    (app : AppState) : SameTenant tenant { app with liveStats := app.liveStats.write w } app := by
  have hsame := SameTenant.refl tenant app
  have htoken : ∀ m : KeyMap String Nat, (LiveStats.count m auth.tokenKey).lookup tenant.tokenKey
      = m.lookup tenant.tokenKey := fun m => KeyMap.lookup_upsert_ne _ _ _ h.token_ne
  have hteam : ∀ m : KeyMap String Nat, (LiveStats.count m auth.team).lookup tenant.team = m.lookup tenant.team :=
    fun m => KeyMap.lookup_upsert_ne _ _ _ h.team_ne
  cases a with
  | total =>
    cases hw
    exact ⟨hsame.budgets, hsame.counters, rfl, rfl, rfl, rfl, rfl⟩
  | request target =>
    cases hw
    rcases target with (_ | _) | _
    · exact ⟨hsame.budgets, hsame.counters, htoken _, rfl, rfl, rfl, rfl⟩
    · exact ⟨hsame.budgets, hsame.counters, rfl, rfl, hteam _, rfl, rfl⟩
    · exact ⟨hsame.budgets, hsame.counters, rfl, rfl, rfl, rfl, rfl⟩
  | error target =>
    cases hw
    rcases target with (_ | _) | _
    · exact ⟨hsame.budgets, hsame.counters, rfl, htoken _, rfl, rfl, rfl⟩
    · exact ⟨hsame.budgets, hsame.counters, rfl, rfl, rfl, hteam _, rfl⟩
    · exact ⟨hsame.budgets, hsame.counters, rfl, rfl, rfl, rfl, rfl⟩
  | _ => cases hw

/-- **An act of another tenant** leaves everything of the tenant's alone. -/
theorem act_beside (h : OtherTenant tenant auth) (a : CallerAct) (app : AppState) :
    SameTenant tenant (auth.act a app).1 app := by
  have hsame := SameTenant.refl tenant app
  cases a with
  | count whose limit now =>
    exact hsame.beside_sync (fun _ hc => h.counter_ne hc (limiterKey_counter auth whose))
      (app.sync.checkRateLimit_writes _ _ limit now)
  | check whose rpm tpm now =>
    exact hsame.beside_limiters (h.limiterKey_notMem whose)
      fun _ hne => app.limiters.check_lookup_ne rpm tpm 1 now .token hne
  | consume whose tpm tokens now =>
    exact hsame.beside_limiters (h.limiterKey_notMem whose)
      fun _ hne => app.limiters.consumeTpm_lookup_ne tpm tokens now hne
  | requests whose => exact hsame
  | errors whose => exact hsame
  | remaining whose limit now => exact tpmRemaining_beside hsame (h.limiterKey_notMem whose) limit now
  | total => exact write_beside h (a := .total) rfl app
  | request target => exact write_beside h (a := .request target) rfl app
  | error target => exact write_beside h (a := .error target) rfl app
  | row model endpoint prompt completion latencyMs status tokenHash costPrompt costCompletion now =>
    exact ⟨hsame.budgets, hsame.counters, rfl, rfl, rfl, rfl, app.stats.recordRequest_ofTeam_ne h.team_ne.symm⟩

/-- **Step**: so does every move of others. -/
theorem Move.sameTenant (hnamed : tenant.Named) {w : Option LiveStats.Write}
    (h : Move (OtherTenant tenant) app w app') : SameTenant tenant app' app := by
  have hsame := SameTenant.refl tenant app
  cases h with
  | aside config roundRobin fail2ban sticky healthStore =>
    exact ⟨hsame.budgets, hsame.counters, rfl, rfl, rfl, rfl, rfl⟩
  | budget epKey only => exact hsame.beside_limiters (epRlKey_notMem hnamed epKey) only
  | shared free writes => exact hsame.beside_sync (fun c hc => freeKey_ne free hc) writes
  | act caller a => exact act_beside caller a app

/-- **Run** of moves. -/
theorem MovesBy.sameTenant (hnamed : tenant.Named) (h : MovesBy (OtherTenant tenant) app app') :
    SameTenant tenant app' app := by
  obtain ⟨ws, hmoves⟩ := h
  induction hmoves with
  | refl => exact .refl tenant app
  | tail _ move ih => exact (move.sameTenant hnamed).trans ih

/-! ## Its own acts -/

theorem limiterKey_mem_budgets (tenant : AuthContext) (whose : Whose) : tenant.limiterKey whose ∈ tenant.budgets := by
  cases whose with
  | token => exact List.mem_cons_self
  | team => exact List.mem_cons_of_mem _ List.mem_cons_self

theorem tpmRemaining_same (h : SameTenant tenant app app') {key : String} (hkey : key ∈ tenant.budgets)
    (limit now : Nat) :
    SameTenant tenant (app.tpmRemaining key limit now).1 (app'.tpmRemaining key limit now).1 ∧
      (app.tpmRemaining key limit now).2 = (app'.tpmRemaining key limit now).2 := by
  obtain ⟨hentry, hstate⟩ := RateLimiterStore.getTpmState_congr (h.budgets key hkey) limit now
  unfold AppState.tpmRemaining
  split
  · exact ⟨h.limiters (fun _ => hentry) (fun _ hne => app.limiters.getTpmState_lookup_ne limit now hne)
      fun _ hne => app'.limiters.getTpmState_lookup_ne limit now hne, by dsimp only; rw [hstate]⟩
  · exact ⟨h, rfl⟩

theorem lookup_count {m m' : KeyMap String Nat} {key : String} (h : m.lookup key = m'.lookup key) (key' : String) :
    (LiveStats.count m key').lookup key = (LiveStats.count m' key').lookup key := by
  unfold LiveStats.count
  by_cases heq : key = key'
  · subst heq
    rw [KeyMap.lookup_upsert_self, KeyMap.lookup_upsert_self, h]
  · rw [KeyMap.lookup_upsert_ne _ _ _ heq, KeyMap.lookup_upsert_ne _ _ _ heq, h]

/-- **A live counter** of the tenant's, or of an endpoint, is written in both states. -/
theorem write_same (h : SameTenant tenant app app') {a : CallerAct} {w : LiveStats.Write} (hw : tenant.writes a = some w) :
    SameTenant tenant { app with liveStats := app.liveStats.write w }
      { app' with liveStats := app'.liveStats.write w } := by
  obtain ⟨hbudgets, hcounters, htokenRequests, htokenErrors, hteamRequests, hteamErrors, hrows⟩ := h
  cases a with
  | total =>
    cases hw
    exact ⟨hbudgets, hcounters, htokenRequests, htokenErrors, hteamRequests, hteamErrors, hrows⟩
  | request target =>
    cases hw
    rcases target with (_ | _) | _
    · exact ⟨hbudgets, hcounters, lookup_count htokenRequests _, htokenErrors, hteamRequests, hteamErrors, hrows⟩
    · exact ⟨hbudgets, hcounters, htokenRequests, htokenErrors, lookup_count hteamRequests _, hteamErrors, hrows⟩
    · exact ⟨hbudgets, hcounters, htokenRequests, htokenErrors, hteamRequests, hteamErrors, hrows⟩
  | error target =>
    cases hw
    rcases target with (_ | _) | _
    · exact ⟨hbudgets, hcounters, htokenRequests, lookup_count htokenErrors _, hteamRequests, hteamErrors, hrows⟩
    · exact ⟨hbudgets, hcounters, htokenRequests, htokenErrors, hteamRequests, lookup_count hteamErrors _, hrows⟩
    · exact ⟨hbudgets, hcounters, htokenRequests, htokenErrors, hteamRequests, hteamErrors, hrows⟩
  | _ => cases hw

/-- The numbers of its token and its team. -/
theorem SameTenant.requestsAt (h : SameTenant tenant app app') (whose : Whose) :
    app.liveStats.requestsAt (tenant.entry (.own whose)) = app'.liveStats.requestsAt (tenant.entry (.own whose)) := by
  cases whose with
  | token => exact congrArg (·.getD 0) h.tokenRequests
  | team => exact congrArg (·.getD 0) h.teamRequests

theorem SameTenant.errorsAt (h : SameTenant tenant app app') (whose : Whose) :
    app.liveStats.errorsAt (tenant.entry (.own whose)) = app'.liveStats.errorsAt (tenant.entry (.own whose)) := by
  cases whose with
  | token => exact congrArg (·.getD 0) h.tokenErrors
  | team => exact congrArg (·.getD 0) h.teamErrors

/-- **Step**: in states that are the same for the tenant its acts come to the same. -/
theorem act_same (a : CallerAct) (h : SameTenant tenant app app') :
    SameTenant tenant (tenant.act a app).1 (tenant.act a app').1 ∧ (tenant.act a app).2 = (tenant.act a app').2 := by
  cases a with
  | count whose limit now =>
    have hc := limiterKey_counter tenant whose
    obtain ⟨hagree, hresult⟩ := SyncStore.checkRateLimit_congr (h.counters _ hc) limit now
    exact ⟨h.counted hc hagree (app.sync.checkRateLimit_writes _ _ limit now)
      (app'.sync.checkRateLimit_writes _ _ limit now), congrArg Told.verdict hresult⟩
  | check whose rpm tpm now =>
    obtain ⟨hentry, hresult⟩ :=
      RateLimiterStore.check_congr (h.budgets _ (limiterKey_mem_budgets tenant whose)) rpm tpm 1 now .token
    exact ⟨h.limiters (fun _ => hentry) (fun _ hne => app.limiters.check_lookup_ne rpm tpm 1 now .token hne)
      fun _ hne => app'.limiters.check_lookup_ne rpm tpm 1 now .token hne, congrArg Told.verdict hresult⟩
  | consume whose tpm tokens now =>
    have hentry := RateLimiterStore.consumeTpm_congr (h.budgets _ (limiterKey_mem_budgets tenant whose)) tpm tokens now
    exact ⟨h.limiters (fun _ => hentry) (fun _ hne => app.limiters.consumeTpm_lookup_ne tpm tokens now hne)
      fun _ hne => app'.limiters.consumeTpm_lookup_ne tpm tokens now hne, rfl⟩
  | requests whose => exact ⟨h, congrArg Told.number (h.requestsAt whose)⟩
  | errors whose => exact ⟨h, congrArg Told.number (h.errorsAt whose)⟩
  | remaining whose limit now =>
    obtain ⟨hstate, hleft⟩ := tpmRemaining_same h (limiterKey_mem_budgets tenant whose) limit now
    exact ⟨hstate, congrArg Told.left hleft⟩
  | total => exact ⟨write_same h (a := .total) rfl, rfl⟩
  | request target => exact ⟨write_same h (a := .request target) rfl, rfl⟩
  | error target => exact ⟨write_same h (a := .error target) rfl, rfl⟩
  | row model endpoint prompt completion latencyMs status tokenHash costPrompt costCompletion now =>
    refine ⟨⟨h.budgets, h.counters, h.tokenRequests, h.tokenErrors, h.teamRequests, h.teamErrors, ?_⟩, rfl⟩
    exact StatsWriter.recordRequest_ofTeam h.rows

end

/-- **The page** shows the caller what these acts tell it. -/
theorem statsJson_told {parse : String → Option ParsedUrl} {now : Nat} {auth : AuthContext} {app : AppState}
    {report : StatsReport} (h : (statsJson parse now auth app).2 = .ok report) :
    Purge.outcomes auth.act
        [.requests .token, .errors .token, .requests .team, .errors .team, .remaining .token auth.tpm now,
          .remaining .team (teamTpm app.config auth.team) now] app
      = [.number report.tokenRequests, .number report.tokenErrors, .number report.teamRequests,
          .number report.teamErrors, .left report.tokenTpmRemaining, .left report.teamTpmRemaining] := by
  unfold statsJson at h
  dsimp only at h
  generalize walkRows (statsRow parse now) _ _ = rows at h
  obtain ⟨app', p | endpoints⟩ := rows
  · cases h
  · cases h
    rfl

/-! ## Isolation -/

/-- What goes on beside a tenant: one move, or a whole request, of others. -/
inductive OthersDo (site : Site) (tenant : AuthContext) (app : AppState) : AppState → Prop where
  | move {w : Option LiveStats.Write} {app' : AppState} (move : Move (OtherTenant tenant) app w app') :
      OthersDo site tenant app app'
  | request (out : Outside) (r : HttpRequest) (waits : out.By (MovesBy (OtherTenant tenant)))
      (caller : ∀ auth, authMiddleware app.config r = some auth → OtherTenant tenant auth) :
      OthersDo site tenant app (site.serve out app r).app

theorem OthersDo.sameTenant {site : Site} {tenant : AuthContext} (hnamed : tenant.Named) {app app' : AppState}
    (h : OthersDo site tenant app app') : SameTenant tenant app' app := by
  cases h with
  | move move => exact move.sameTenant hnamed
  | request out r waits caller => exact (serve_moves (movesBy_carries _) site waits caller).sameTenant hnamed

/-- The tenant's own context, or another tenant's. -/
def AnyTenant (tenant auth : AuthContext) : Prop :=
  (auth.tokenKey = tenant.tokenKey ∧ auth.team = tenant.team) ∨ OtherTenant tenant auth

theorem act_of_keys {tenant auth : AuthContext} (htoken : auth.tokenKey = tenant.tokenKey)
    (hteam : auth.team = tenant.team) (a : CallerAct) (app : AppState) : auth.act a app = tenant.act a app := by
  obtain ⟨tokenKey, team⟩ := auth
  subst htoken hteam
  cases a <;> rfl

theorem moves_history (site : Site) {tenant : AuthContext} {app app' : AppState} {ws : List LiveStats.Write}
    (h : MoveTrace (AnyTenant tenant) app ws app') : ∀ {acts told last},
    Purge.Mixed tenant.act (OthersDo site tenant) app' acts told last →
      ∃ acts told, Purge.Mixed tenant.act (OthersDo site tenant) app acts told last := by
  induction h with
  | refl => exact fun hrest => ⟨_, _, hrest⟩
  | tail _ move ih =>
    intro acts told last hrest
    cases move with
    | aside config roundRobin fail2ban sticky healthStore => exact ih (.move (.move (.aside ..)) hrest)
    | budget epKey only => exact ih (.move (.move (.budget epKey only)) hrest)
    | shared free writes => exact ih (.move (.move (.shared free writes)) hrest)
    | act caller a =>
      rcases caller with ⟨htoken, hteam⟩ | hother
      · rw [act_of_keys htoken hteam] at hrest
        exact ih (.act a hrest)
      · exact ih (.move (.move (.act hother a)) hrest)

/-- **Every run of the server** is a history of each tenant, its own requests and those of others included. -/
theorem tenant_history (site : Site) {tenant : AuthContext} {app : AppState} {arrivals : List Arrival}
    (h : Steps.Every site.step (Arrival.By (AnyTenant tenant) (MovesBy (AnyTenant tenant))) app arrivals) :
    ∃ acts told, Purge.Mixed tenant.act (OthersDo site tenant) app acts told (Steps.run site.step app arrivals) := by
  obtain ⟨_, hmoves⟩ := run_moves (movesBy_carries _) site h
  exact moves_history site hmoves (.done _)

/-- **Tenants are isolated.** However the moves and the requests of other tenants, on any routes, come between the
acts of a tenant, it is told what it would be told alone, and the same is kept for it. -/
theorem tenants_isolated (site : Site) {tenant : AuthContext} (hnamed : tenant.Named) {app app' : AppState}
    {acts : List CallerAct} {told : List Told}
    (h : Purge.Mixed tenant.act (OthersDo site tenant) app acts told app') :
    told = Purge.outcomes tenant.act acts app ∧ SameTenant tenant app' (Purge.after tenant.act acts app) :=
  Purge.Mixed.purge (SameTenant tenant) SameTenant.trans (OthersDo.sameTenant hnamed) (fun a _ _ h => act_same a h) h
    (.refl tenant app)

/-- Two teams with a token each. -/
def twoTenants : AppConfig :=
  { providerConfig with
    teams :=
      [{ name := "dev", models := ["small"], limits := none, costMultiplier := none },
       { name := "ops", models := ["small"], limits := none, costMultiplier := none }]
    tokens :=
      [{ key := "sk-client", team := "dev", models := none, limits := some { rpm := 2, tpm := 0 } },
       { key := "sk-other", team := "ops", models := none, limits := some { rpm := 2, tpm := 0 } }] }

def devTenant : AuthContext where
  tokenKey := "sk-client"
  team := "dev"
  models := ["small"]
  rpm := 2
  tpm := 0
  costMultiplier := 1

def twoTenantsApp : AppState := startApp twoTenants { counters := ∅ } [] { limiters := ∅ }

theorem devTenant_named : devTenant.Named := by
  intro epKey h
  have hlist := congrArg String.toList h
  rw [epRlKey, String.toList_append] at hlist
  cases hlist

theorem refusedOutside_by {who : AuthContext → Prop} {R : AppState → AppState → Prop} (hR : Carries who R) :
    refusedOutside.By R :=
  ⟨⟨quiet_by hR, quiet_by hR, fun _ => ⟨quiet_by hR, quiet_by hR⟩⟩, quiet_by hR, quiet_by hR⟩

def otherChat : HttpRequest := { smallChat with authorization := some "Bearer sk-other" }

/-- A call of the other token, between two checks of the first. -/
theorem neighbour_unseen :
    let check : CallerAct := .check .token 2 0 0
    let other := plainSite.serve refusedOutside (devTenant.act check twoTenantsApp).1 otherChat
    other.trace.length = 1 ∧
      [(devTenant.act check twoTenantsApp).2, (devTenant.act check other.app).2]
        = Purge.outcomes devTenant.act [check, check] twoTenantsApp := by
  refine ⟨rfl, (tenants_isolated plainSite devTenant_named (.act _ (.move (.request refusedOutside otherChat
    (refusedOutside_by (movesBy_carries _)) ?_) (.act _ (.done _))))).1⟩
  intro auth h
  cases h
  exact ⟨by decide, by decide⟩

end AiRouter
