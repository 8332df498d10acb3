import AiRouter.FirstFit

/-
# Shares while endpoints are left out

`select_available` (balancer.rs:67-106) starts its pass at the model's counter, which every call moves by one. While the
same endpoints are banned, the endpoint behind a banned one has the turns of both.
-/
namespace AiRouter

open RoundRobin

/-- The call leaves out the endpoints that are not up. -/
def Selection.Leaves (m : ModelConfig) (up : Nat → Bool) : Selection → Prop
  | .endpoint _ => False
  | .available _ bannedKeys triedKeys => ∀ i ep, m.endpoints[i]? = some ep →
    if up i then ep.KeyFree bannedKeys triedKeys else ep.KeyIn bannedKeys triedKeys

section
variable {cfg : AppConfig} {m : ModelConfig} {up : Nat → Bool} {c : Selection}

/-- The call chooses the first place from the counter on that is up. -/
theorem call_firstUp (hm : cfg.findModel c.name = some m) (hleaves : c.Leaves m up) (rr : RoundRobinCounters) :
    chosenIndex (c.call cfg rr).2 = firstUp up m.endpoints.length (rr.count m.name % m.endpoints.length) := by
  cases c with
  | endpoint name => cases hleaves
  | available name bannedKeys triedKeys =>
    have hm : cfg.findModel name = some m := hm
    have hcall := Balancer.selectAvailable_scan hm rr bannedKeys triedKeys
    unfold Selection.call
    dsimp only
    rw [hcall]
    cases hfirst : firstUp up m.endpoints.length (rr.count m.name % m.endpoints.length) with
    | none =>
      have hdown : ∀ ep ∈ m.endpoints, ep.KeyIn bannedKeys triedKeys := by
        intro ep hep
        obtain ⟨i, hi, rfl⟩ := List.mem_iff_getElem.1 hep
        have hdown : up i = false := by
          have hall := List.find?_eq_none.1 hfirst i (mem_pass.2 hi)
          simpa using hall
        have hkey := hleaves i _ (List.getElem?_eq_getElem hi)
        rwa [hdown, if_neg (by simp)] at hkey
      rw [Balancer.scan_none_iff.2 hdown]
      rfl
    | some i =>
      obtain ⟨d, hd, rfl, hup, hbefore⟩ := firstUp_eq_some_iff.1 hfirst
      obtain ⟨ep, -, hep⟩ : ∃ ep ∈ m.endpoints,
          m.endpoints[(rr.count m.name % m.endpoints.length + d) % m.endpoints.length]? = some ep := Balancer.exists_at hd
      have hfree := hleaves _ ep hep
      rw [if_pos hup] at hfree
      have hsel := Balancer.scan_some_iff.2 ⟨d, hd, ep, hep, hfree, rfl, fun d' hd' ep' hep' => by
        have hkey := hleaves _ ep' hep'
        rwa [hbefore d' hd', if_neg (by simp)] at hkey⟩
      rw [hsel]
      rfl

/-- **The turns of a model** whose calls are decided by its counter, which no other call moves. -/
theorem picksFor_counted (hne : m.endpoints ≠ []) (choice : Nat → Option Nat) :
    ∀ (calls : List Selection) (rr : RoundRobinCounters) (j : Nat),
      (∀ c ∈ calls, c.isFor cfg m = true → ∀ rr, chosenIndex (c.call cfg rr).2 = choice (rr.count m.name)) →
      (∀ c ∈ calls, c.isFor cfg m = false → ∀ rr, (c.call cfg rr).1.count m.name = rr.count m.name) →
      rr.count m.name = j % 2 ^ 64 →
        picksFor cfg m rr calls
          = (List.range' j (picksFor cfg m rr calls).length).map fun j => choice (j % 2 ^ 64)
  | [], _, _, _, _, _ => rfl
  | c :: rest, rr, j, hchoice, hother, hcount => by
    have hrest := fun rr' j' => picksFor_counted hne choice rest rr' j'
      (fun d hd => hchoice d (List.mem_cons_of_mem c hd)) (fun d hd => hother d (List.mem_cons_of_mem c hd))
    unfold picksFor
    dsimp only
    cases hfor : c.isFor cfg m with
    | true =>
      have hnext : (c.call cfg rr).1.count m.name = (j + 1) % 2 ^ 64 := by
        rw [call_counters rr (isFor_iff.1 hfor) hne, next_count_self, hcount, Nat.mod_add_mod]
      rw [if_pos rfl, hchoice c List.mem_cons_self hfor rr, hcount, List.length_cons, List.range'_succ, List.map_cons]
      exact congrArg _ (hrest _ _ hnext)
    | false =>
      rw [if_neg (by simp)]
      exact hrest _ j ((hother c List.mem_cons_self hfor rr).trans hcount)

theorem count_choices (f : Nat → Option Nat) (i start len : Nat) :
    ((List.range' start len).map f).count (some i) = window (fun j => f j = some i) start len := by
  induction len with
  | zero => rfl
  | succ len ih =>
    rw [List.range'_1_concat, List.map_append, List.count_append, ih, window_add, window_one, List.map_singleton,
      List.count_singleton]
    by_cases h : f (start + len) = some i <;> simp [h]

end

/-- **Failover**: from wherever the counters stand, while the calls for a model leave out the same endpoints, every
stretch of `k` passes has an endpoint chosen `k` times for itself and `k` times for each of those right before it that
are left out. -/
theorem failover_shares {cfg : AppConfig} {m : ModelConfig}
    (halone : ∀ name other, cfg.findModel name = some other → other.name = m.name → other.endpoints ≠ [] → other = m)
    {up : Nat → Bool} {calls : List Selection} (hcalls : ∀ c ∈ calls, c.isFor cfg m = true → c.Leaves m up)
    {rr : RoundRobinCounters} (hfew : rr.count m.name + (picksFor cfg m rr calls).length ≤ 2 ^ 64)
    {i g : Nat} (hgap : Gap up m.endpoints.length i g)
    {start k : Nat} (hlen : start + k * m.endpoints.length ≤ (picksFor cfg m rr calls).length) :
    (((picksFor cfg m rr calls).drop start).take (k * m.endpoints.length)).count (some i) = k * g := by
  have hne : m.endpoints ≠ [] := List.length_pos_iff.1 (Nat.zero_lt_of_lt hgap.lt)
  rcases Nat.eq_zero_or_pos k with rfl | hk
  · simp
  have hpos : 0 < k * m.endpoints.length := Nat.mul_pos hk (List.length_pos_iff.2 hne)
  have hcount : rr.count m.name = rr.count m.name % 2 ^ 64 := (Nat.mod_eq_of_lt (by omega)).symm
  have hturns := picksFor_counted hne (fun n => firstUp up m.endpoints.length (n % m.endpoints.length)) calls
    rr (rr.count m.name) (fun c hc hfor rr => call_firstUp (isFor_iff.1 hfor) (hcalls c hc hfor) rr)
    (fun c _ hfor rr => call_count_other halone hfor rr) hcount
  clear hcount
  generalize picksFor cfg m rr calls = picks at hturns hfew hlen ⊢
  generalize rr.count m.name = first at hturns hfew ⊢
  rw [hturns, ← List.map_drop, ← List.map_take, List.drop_range', List.take_range'_of_length_ge (by omega),
    Nat.mul_one, count_choices, ← window_mul hgap.window_firstUp k (first + start)]
  -- the counter has not come round yet
  unfold window
  rw [Nat.count_eq_card_filter_range, Nat.count_eq_card_filter_range]
  refine congrArg Finset.card (Finset.filter_congr fun j hj => ?_)
  have hlt := Finset.mem_range.1 hj
  show firstUp up m.endpoints.length ((first + start + j) % 2 ^ 64 % m.endpoints.length) = some i ↔ _
  rw [Nat.mod_eq_of_lt (by omega : first + start + j < 2 ^ 64)]

def trioModel : ModelConfig where
  name := "gpt-4"
  aliases := []
  modelType := "chat"
  endpoints :=
    [{ url := "https://a.example.com", key := "sk-upstream-1", limits := none, cost := none, weight := 1 },
     { url := "https://b.example.com", key := "sk-upstream-2", limits := none, cost := none, weight := 1 },
     { url := "https://c.example.com", key := "sk-upstream-3", limits := none, cost := none, weight := 1 }]

def trioConfig : AppConfig := { singleConfig with models := [trioModel] }

theorem trioConfig_finds {name : String} {m : ModelConfig} (h : trioConfig.findModel name = some m) : m = trioModel :=
  List.mem_singleton.1 (List.mem_of_find?_eq_some h)

/-- The second endpoint is banned over two passes. -/
def secondBanned : List Selection := List.replicate 6 (.available "gpt-4" secondTried ∅)

theorem secondBanned_leaves {c : Selection} (hc : c ∈ secondBanned) : c.Leaves trioModel (· != 1) := by
  obtain rfl := List.eq_of_mem_replicate hc
  intro i ep hep
  match i, hep with
  | 0, hep =>
    obtain rfl := Option.some.inj hep
    exact ⟨"https://a.example.com:sk-...m-1", rfl, by decide, by decide⟩
  | 1, hep =>
    obtain rfl := Option.some.inj hep
    exact ⟨"https://b.example.com:sk-...m-2", rfl, by decide⟩
  | 2, hep =>
    obtain rfl := Option.some.inj hep
    exact ⟨"https://c.example.com:sk-...m-3", rfl, by decide, by decide⟩

/-- The counters when the ban begins, after five calls. -/
def afterFive : RoundRobinCounters := .pointing trioModel 5

/-- The third endpoint has the turns of the second. -/
theorem third_takes_over :
    (((picksFor trioConfig trioModel afterFive secondBanned).drop 0).take (2 * trioModel.endpoints.length)).count
      (some 2) = 2 * 2 := by
  have hgap : Gap (· != 1) trioModel.endpoints.length 2 2 := by
    refine ⟨by decide, by decide, by decide, rfl, fun e hpos hlt => ?_, rfl⟩
    obtain rfl : e = 1 := by omega
    rfl
  have hlength : (picksFor trioConfig trioModel afterFive secondBanned).length = 6 := by
    rw [picksFor_length]
    rfl
  have hcount : afterFive.count trioModel.name = 5 := rfl
  exact failover_shares (fun _ _ hother _ _ => trioConfig_finds hother)
    (fun c hc _ => secondBanned_leaves hc) (by rw [hlength, hcount]; decide) hgap (by rw [hlength]; decide)

end AiRouter
