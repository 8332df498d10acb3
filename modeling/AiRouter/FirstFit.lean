import AiRouter.BanRespect
import AiRouter.WeightedPicks

/-
# The round-robin pass of `select_available` (balancer.rs:67-106)

From the counter on, the loop leaves out every endpoint whose key is banned or tried and returns the first other one.
`scanVisits` is `Balancer.scan` with the indices it looks at. Where `mask_key` panics on the way, nothing is returned.
-/
namespace AiRouter

open RoundRobin

namespace EndpointConfig

/-- The balancer has a key for the endpoint, in one of the two sets. -/
def KeyIn (ep : EndpointConfig) (bannedKeys triedKeys : Finset String) : Prop :=
  ∃ key, Balancer.epKey ep.url ep.key = .ok key ∧ (key ∈ bannedKeys ∨ key ∈ triedKeys)

/-- The balancer has a key for the endpoint, in neither set. -/
def KeyFree (ep : EndpointConfig) (bannedKeys triedKeys : Finset String) : Prop :=
  ∃ key, Balancer.epKey ep.url ep.key = .ok key ∧ key ∉ bannedKeys ∧ key ∉ triedKeys

end EndpointConfig

namespace Balancer

/-- The loop, with the indices it comes to. -/
def scanVisits (endpoints : List EndpointConfig) (bannedKeys triedKeys : Finset String) (start : Nat) :
    List Nat → List Nat × Except Panic (Option SelectedEndpoint)
  | [] => ([], .ok none)
  | offset :: rest =>
    let idx := (start + offset) % endpoints.length
    match endpoints[idx]? with
    | none => ([idx], .error .indexOutOfBounds)
    | some ep =>
      match Balancer.epKey ep.url ep.key with
      | .error p => ([idx], .error p)
      | .ok key =>
        if key ∈ bannedKeys ∨ key ∈ triedKeys then
          let r := scanVisits endpoints bannedKeys triedKeys start rest
          (idx :: r.1, r.2)
        else ([idx], .ok (some (ep.selected idx endpoints.length)))

/-- The indices that a call for `m` comes to. -/
def visits (m : ModelConfig) (rr : RoundRobinCounters) (bannedKeys triedKeys : Finset String) : List Nat :=
  (scanVisits m.endpoints bannedKeys triedKeys (rr.count m.name % m.endpoints.length)
    (List.range m.endpoints.length)).1

end Balancer

/-- `sel` is the first endpoint in cyclic order from `start` on whose key is in neither set; the keys of those before
it are. -/
def FirstFree (endpoints : List EndpointConfig) (bannedKeys triedKeys : Finset String) (start : Nat)
    (sel : SelectedEndpoint) : Prop :=
  ∃ d < endpoints.length, ∃ ep, endpoints[(start + d) % endpoints.length]? = some ep ∧
    ep.KeyFree bannedKeys triedKeys ∧ sel = ep.selected ((start + d) % endpoints.length) endpoints.length ∧
    ∀ d' < d, ∀ ep', endpoints[(start + d') % endpoints.length]? = some ep' → ep'.KeyIn bannedKeys triedKeys

/-- What a call for `m` visits and returns, with its counter at `counter`. -/
structure FirstFit (m : ModelConfig) (bannedKeys triedKeys : Finset String) (counter : Nat) (visited : List Nat)
    (result : Except Panic (Option SelectedEndpoint)) : Prop where
  once : visited.Nodup
  first : ∀ sel, result = .ok (some sel) ↔
    FirstFree m.endpoints bannedKeys triedKeys (counter % m.endpoints.length) sel
  none : result = .ok none ↔ ∀ ep ∈ m.endpoints, ep.KeyIn bannedKeys triedKeys
  returns : (∀ ep ∈ m.endpoints, ∃ key, Balancer.epKey ep.url ep.key = .ok key) → ∃ found, result = .ok found

/-! ## The loop -/

namespace Balancer

section
variable {endpoints : List EndpointConfig} {bannedKeys triedKeys : Finset String} {start : Nat} {offs : List Nat}

theorem scanVisits_scan : (scanVisits endpoints bannedKeys triedKeys start offs).2
    = scan endpoints bannedKeys triedKeys start offs := by
  induction offs with
  | nil => rfl
  | cons offset rest ih =>
    unfold scanVisits scan
    dsimp only
    cases endpoints[(start + offset) % endpoints.length]? with
    | none => rfl
    | some ep =>
      dsimp only
      cases Balancer.epKey ep.url ep.key with
      | error p => rfl
      | ok key =>
        dsimp only
        split
        · exact ih
        · rfl

/-- The indices come in the order of the offsets. -/
theorem scanVisits_prefix : (scanVisits endpoints bannedKeys triedKeys start offs).1 <+:
    offs.map fun d => (start + d) % endpoints.length := by
  induction offs with
  | nil => exact List.prefix_rfl
  | cons offset rest ih =>
    have hone : [(start + offset) % endpoints.length] <+:
        (start + offset) % endpoints.length :: rest.map fun d => (start + d) % endpoints.length :=
      (List.prefix_cons_inj _).2 List.nil_prefix
    unfold scanVisits
    dsimp only
    rw [List.map_cons]
    split
    · exact hone
    · split
      · exact hone
      · split
        · exact (List.prefix_cons_inj _).2 ih
        · exact hone

/-- The loop goes on after this index. -/
def skips (endpoints : List EndpointConfig) (bannedKeys triedKeys : Finset String) (idx : Nat) : Bool :=
  match endpoints[idx]? with
  | none => false
  | some ep =>
    match Balancer.epKey ep.url ep.key with
    | .error _ => false
    | .ok key => decide (key ∈ bannedKeys ∨ key ∈ triedKeys)

/-- What the loop returns at an index that it does not skip. -/
def pickAt (endpoints : List EndpointConfig) (idx : Nat) : Except Panic (Option SelectedEndpoint) :=
  match endpoints[idx]? with
  | none => .error .indexOutOfBounds
  | some ep => (Balancer.epKey ep.url ep.key).map fun _ => some (ep.selected idx endpoints.length)

theorem skips_iff {ep : EndpointConfig} {idx : Nat} (hep : endpoints[idx]? = some ep) :
    skips endpoints bannedKeys triedKeys idx = true ↔ ep.KeyIn bannedKeys triedKeys := by
  unfold skips EndpointConfig.KeyIn
  rw [hep]
  dsimp only
  cases Balancer.epKey ep.url ep.key with
  | error p => simp
  | ok key => simp

/-- **The loop is a search** for the first offset that is not skipped. -/
theorem scan_eq_find : scan endpoints bannedKeys triedKeys start offs
    = match offs.find? fun d => !skips endpoints bannedKeys triedKeys ((start + d) % endpoints.length) with
      | none => .ok none
      | some d => pickAt endpoints ((start + d) % endpoints.length) := by
  induction offs with
  | nil => rfl
  | cons offset rest ih =>
    rw [List.find?_cons, scan]
    cases hep : endpoints[(start + offset) % endpoints.length]? with
    | none => simp [skips, pickAt, hep]
    | some ep =>
      cases hkey : Balancer.epKey ep.url ep.key with
      | error p => simp [skips, pickAt, hep, hkey, Except.map]
      | ok key =>
        by_cases hin : key ∈ bannedKeys ∨ key ∈ triedKeys
        · have hskip : skips endpoints bannedKeys triedKeys ((start + offset) % endpoints.length) = true :=
            (skips_iff hep).2 ⟨key, hkey, hin⟩
          simp only [hkey, if_pos hin, hskip, Bool.not_true, ih]
        · simp [skips, pickAt, hep, hkey, hin, Except.map]

/-- In a pass: the first index that is not skipped, with all before it skipped. -/
theorem scan_range_eq {n : Nat} {r : Except Panic (Option SelectedEndpoint)} :
    scan endpoints bannedKeys triedKeys start (List.range n) = r ↔
      (∃ d < n, skips endpoints bannedKeys triedKeys ((start + d) % endpoints.length) = false ∧
        pickAt endpoints ((start + d) % endpoints.length) = r ∧
        ∀ d' < d, skips endpoints bannedKeys triedKeys ((start + d') % endpoints.length) = true) ∨
      (∀ d < n, skips endpoints bannedKeys triedKeys ((start + d) % endpoints.length) = true) ∧ r = .ok none := by
  rw [scan_eq_find]
  cases hfind : (List.range n).find? fun d =>
      !skips endpoints bannedKeys triedKeys ((start + d) % endpoints.length) with
  | none =>
    have hall := List.find?_range_eq_none.1 hfind
    simp only [Bool.not_not] at hall
    constructor
    · rintro rfl
      exact Or.inr ⟨hall, rfl⟩
    · rintro (⟨d, hd, hnot, _⟩ | ⟨_, rfl⟩)
      · rw [hall d hd] at hnot
        cases hnot
      · rfl
  | some d =>
    obtain ⟨hd, hmem, hbefore⟩ := List.find?_range_eq_some.1 hfind
    simp only [Bool.not_not, Bool.not_eq_true', List.mem_range] at hd hmem hbefore
    constructor
    · rintro rfl
      exact Or.inl ⟨d, hmem, hd, rfl, hbefore⟩
    · rintro (⟨d', hd', hnot, rfl, hbefore'⟩ | ⟨hall, _⟩)
      · rcases Nat.lt_trichotomy d d' with hlt | rfl | hlt
        · rw [hbefore' d hlt] at hd
          cases hd
        · rfl
        · rw [hbefore d' hlt] at hnot
          cases hnot
      · rw [hall d hmem] at hd
        cases hd

theorem pickAt_some_iff {idx : Nat} {sel : SelectedEndpoint} :
    pickAt endpoints idx = .ok (some sel) ↔
      ∃ ep key, endpoints[idx]? = some ep ∧ Balancer.epKey ep.url ep.key = .ok key ∧
        sel = ep.selected idx endpoints.length := by
  unfold pickAt
  cases hep : endpoints[idx]? with
  | none => simp
  | some ep =>
    cases hkey : Balancer.epKey ep.url ep.key with
    | error p => simp [hkey, Except.map]
    | ok key => simp [hkey, Except.map, eq_comm]

theorem pickAt_ne_none {idx : Nat} : pickAt endpoints idx ≠ .ok none := by
  unfold pickAt
  cases endpoints[idx]? with
  | none => simp
  | some ep =>
    dsimp only
    cases Balancer.epKey ep.url ep.key <;> simp [Except.map]

/-- A pass stays inside of the list. -/
theorem exists_at {d : Nat} (hd : d < endpoints.length) :
    ∃ ep ∈ endpoints, endpoints[(start + d) % endpoints.length]? = some ep := by
  have hlt := Nat.mod_lt (start + d) (Nat.zero_lt_of_lt hd)
  exact ⟨_, List.getElem_mem hlt, List.getElem?_eq_getElem hlt⟩

theorem scan_some_iff {sel : SelectedEndpoint} :
    scan endpoints bannedKeys triedKeys start (List.range endpoints.length) = .ok (some sel) ↔
      FirstFree endpoints bannedKeys triedKeys start sel := by
  rw [scan_range_eq]
  constructor
  · rintro (⟨d, hd, hnot, hpick, hbefore⟩ | ⟨_, hnone⟩)
    · obtain ⟨ep, key, hep, hkey, rfl⟩ := pickAt_some_iff.1 hpick
      have hfree : key ∉ bannedKeys ∧ key ∉ triedKeys := by
        rw [← not_or]
        intro hin
        rw [(skips_iff hep).2 ⟨key, hkey, hin⟩] at hnot
        cases hnot
      exact ⟨d, hd, ep, hep, ⟨key, hkey, hfree⟩, rfl, fun d' hd' ep' hep' => (skips_iff hep').1 (hbefore d' hd')⟩
    · cases hnone
  · rintro ⟨d, hd, ep, hep, ⟨key, hkey, hbanned, htried⟩, rfl, hbefore⟩
    refine Or.inl ⟨d, hd, ?_, pickAt_some_iff.2 ⟨ep, key, hep, hkey, rfl⟩, fun d' hd' => ?_⟩
    · rw [← Bool.not_eq_true, skips_iff hep]
      rintro ⟨key', hkey', hin⟩
      obtain rfl := Except.ok.inj (hkey.symm.trans hkey')
      exact hin.elim hbanned htried
    · obtain ⟨ep', _, hep'⟩ := exists_at (hd'.trans hd)
      exact (skips_iff hep').2 (hbefore d' hd' ep' hep')

theorem scan_none_iff : scan endpoints bannedKeys triedKeys start (List.range endpoints.length) = .ok none ↔
    ∀ ep ∈ endpoints, ep.KeyIn bannedKeys triedKeys := by
  rw [scan_range_eq]
  constructor
  · rintro (⟨d, _, _, hpick, _⟩ | ⟨hall, _⟩)
    · exact absurd hpick pickAt_ne_none
    · intro ep hep
      obtain ⟨i, hi, rfl⟩ := List.mem_iff_getElem.1 hep
      -- the pass comes to every index
      obtain ⟨d, hd, rfl⟩ := List.mem_map.1 (mem_pass.2 hi : i ∈ pass start endpoints.length)
      exact (skips_iff (List.getElem?_eq_getElem hi)).1 (hall d (List.mem_range.1 hd))
  · intro hall
    refine Or.inr ⟨fun d hd => ?_, rfl⟩
    obtain ⟨ep, hmem, hep⟩ := exists_at hd
    exact (skips_iff hep).2 (hall ep hmem)

theorem scan_returns (hkeys : ∀ ep ∈ endpoints, ∃ key, Balancer.epKey ep.url ep.key = .ok key) :
    ∃ found, scan endpoints bannedKeys triedKeys start (List.range endpoints.length) = .ok found := by
  rcases scan_range_eq.1 rfl with ⟨d, hd, _, hpick, _⟩ | ⟨_, hnone⟩
  · obtain ⟨ep, hmem, hep⟩ := exists_at hd
    obtain ⟨key, hkey⟩ := hkeys ep hmem
    exact ⟨_, hpick.symm.trans (pickAt_some_iff.2 ⟨ep, key, hep, hkey, rfl⟩)⟩
  · exact ⟨none, hnone⟩

/-- **What a pass visits and returns.** -/
theorem firstFit_scanVisits {m : ModelConfig} (bannedKeys triedKeys : Finset String) (counter : Nat) :
    FirstFit m bannedKeys triedKeys counter
      (scanVisits m.endpoints bannedKeys triedKeys (counter % m.endpoints.length) (List.range m.endpoints.length)).1
      (scanVisits m.endpoints bannedKeys triedKeys (counter % m.endpoints.length)
        (List.range m.endpoints.length)).2 where
  once := (pass_nodup _ _).sublist scanVisits_prefix.sublist
  first sel := by
    rw [scanVisits_scan]
    exact scan_some_iff
  none := by
    rw [scanVisits_scan]
    exact scan_none_iff
  returns hkeys := by
    rw [scanVisits_scan]
    exact scan_returns hkeys

end

/-- The call is its pass, where it finds a model. -/
theorem selectAvailable_scan {cfg : AppConfig} {m : ModelConfig} {name : String} (hm : cfg.findModel name = some m)
    (rr : RoundRobinCounters) (bannedKeys triedKeys : Finset String) :
    (selectAvailable cfg rr name bannedKeys triedKeys).2
      = scan m.endpoints bannedKeys triedKeys (rr.count m.name % m.endpoints.length)
          (List.range m.endpoints.length) := by
  unfold selectAvailable
  rw [hm]
  dsimp only
  by_cases hempty : m.endpoints.length = 0
  · rw [if_pos hempty, hempty]
    rfl
  · rw [if_neg hempty]
    rfl

end Balancer

/-- **A call takes the first fit**, and moves the counter of its model by one if there are endpoints. -/
theorem select_available_first_fit {cfg : AppConfig} {m : ModelConfig} {name : String}
    (hm : cfg.findModel name = some m) (rr : RoundRobinCounters) (bannedKeys triedKeys : Finset String) :
    FirstFit m bannedKeys triedKeys (rr.count m.name) (Balancer.visits m rr bannedKeys triedKeys)
        (Balancer.selectAvailable cfg rr name bannedKeys triedKeys).2 ∧
      (Balancer.selectAvailable cfg rr name bannedKeys triedKeys).1.count m.name
        = (if m.endpoints = [] then rr.count m.name else (rr.count m.name + 1) % 2 ^ 64) ∧
      ∀ other, other ≠ m.name →
        (Balancer.selectAvailable cfg rr name bannedKeys triedKeys).1.counters.lookup other
          = rr.counters.lookup other := by
  refine ⟨?_, ?_⟩
  · rw [Balancer.selectAvailable_scan hm, ← Balancer.scanVisits_scan]
    exact Balancer.firstFit_scanVisits bannedKeys triedKeys (rr.count m.name)
  · have hfound : cfg.findModel (Selection.available name bannedKeys triedKeys).name = some m := hm
    change ((Selection.available name bannedKeys triedKeys).call cfg rr).1.count m.name = _ ∧
      ∀ other, other ≠ m.name →
        ((Selection.available name bannedKeys triedKeys).call cfg rr).1.counters.lookup other = _
    by_cases hempty : m.endpoints = []
    · have hsame : ((Selection.available name bannedKeys triedKeys).call cfg rr).1 = rr := by
        refine call_counters_empty rr fun m' hm' => ?_
        obtain rfl := Option.some.inj (hfound.symm.trans hm')
        exact hempty
      rw [hsame, if_pos hempty]
      exact ⟨rfl, fun _ _ => rfl⟩
    · rw [call_counters rr hfound hempty, next_count_self, if_neg hempty]
      exact ⟨rfl, fun other hother => next_lookup_ne rr hother _⟩

/-! The counter stands at the second endpoint, which was tried. -/

def secondTried : Finset String := {"https://b.example.com:sk-...m-2"}

theorem tried_second_takes_first :
    ∃ m, pairConfig.findModel "gpt-4" = some m ∧
      FirstFit m ∅ secondTried 1 [1, 0]
        (.ok (some
          { url := "https://a.example.com", apiKey := "sk-upstream-1", index := 0, totalEndpoints := 2
            costPrompt := 0, costCompletion := 0, endpointLimitsRpm := 0, endpointLimitsTpm := 0 })) ∧
      (Balancer.selectAvailable pairConfig { counters := AList.singleton "gpt-4" 1 } "gpt-4" ∅ secondTried).1.count
        "gpt-4" = 2 :=
  have hcall := select_available_first_fit (rfl : pairConfig.findModel "gpt-4" = some _)
    { counters := AList.singleton "gpt-4" 1 } ∅ secondTried
  ⟨_, rfl, hcall.1, hcall.2.1⟩

def endpointlessConfig : AppConfig :=
  { singleConfig with models := [{ name := "gpt-4", aliases := [], endpoints := [], modelType := "chat" }] }

/-- Without endpoints the counter stays where it is. -/
theorem empty_list_keeps_counter :
    (Balancer.selectAvailable endpointlessConfig .new "gpt-4" ∅ ∅).1.count "gpt-4" = 0 ∧
      ¬ ∀ (cfg : AppConfig) (m : ModelConfig) (name : String), cfg.findModel name = some m →
        ∀ (rr : RoundRobinCounters) (bannedKeys triedKeys : Finset String),
          FirstFit m bannedKeys triedKeys (rr.count m.name) (Balancer.visits m rr bannedKeys triedKeys)
              (Balancer.selectAvailable cfg rr name bannedKeys triedKeys).2 ∧
            (Balancer.selectAvailable cfg rr name bannedKeys triedKeys).1.count m.name
              = (rr.count m.name + 1) % 2 ^ 64 ∧
            ∀ other, other ≠ m.name →
              (Balancer.selectAvailable cfg rr name bannedKeys triedKeys).1.counters.lookup other
                = rr.counters.lookup other := by
  have hstays : (Balancer.selectAvailable endpointlessConfig .new "gpt-4" ∅ ∅).1.count "gpt-4" = 0 := rfl
  refine ⟨hstays, fun h => ?_⟩
  have hmoves := (h endpointlessConfig _ "gpt-4" rfl .new ∅ ∅).2.1
  exact absurd (hstays.symm.trans hmoves) (by decide)

end AiRouter
