import Mathlib.Data.Finset.Card
import AiRouter.Lib.KeyMap
import AiRouter.Config
import Mathlib.Algebra.GroupWithZero.Nat

/-
# Endpoint selection: `router/balancer.rs`

| here | there |
| --- | --- |
| `RoundRobinCounters.next`       | `next` (balancer.rs:33); the `AtomicU64` wraps |
| `EndpointConfig.selected`       | the `SelectedEndpoint { .. }` all three builders write out |
| `Balancer.selectEndpoint`       | `select_endpoint` (balancer.rs:55) |
| `Balancer.selectAvailable`      | `select_available` (balancer.rs:67), its `for` loop is `scan` |
| `Handler.buildSelectedEndpoint` | `build_selected_endpoint` (handler.rs:782) |

`select_sticky` and its weighted pick are in `WeightedOffset`.
-/
namespace AiRouter

structure SelectedEndpoint where
  url : String
  apiKey : String
  index : Nat
  totalEndpoints : Nat
  costPrompt : Rat
  costCompletion : Rat
  endpointLimitsRpm : Nat
  endpointLimitsTpm : Nat
deriving DecidableEq, Repr

/-- The selection of `ep`, found at `index` of `total` endpoints. -/
def EndpointConfig.selected (ep : EndpointConfig) (index total : Nat) : SelectedEndpoint where
  url := ep.url
  apiKey := ep.key
  index := index
  totalEndpoints := total
  costPrompt := (ep.cost.map (·.prompt)).getD 0
  costCompletion := (ep.cost.map (·.completion)).getD 0
  endpointLimitsRpm := (ep.limits.map (·.rpm)).getD 0
  endpointLimitsTpm := (ep.limits.map (·.tpm)).getD 0

@[simp] theorem selected_url (ep : EndpointConfig) (i n : Nat) : (ep.selected i n).url = ep.url := rfl
@[simp] theorem selected_apiKey (ep : EndpointConfig) (i n : Nat) :
    (ep.selected i n).apiKey = ep.key := rfl

def Handler.buildSelectedEndpoint (ep : EndpointConfig) (index total : Nat) : SelectedEndpoint :=
  ep.selected index total

/-- Round-robin counters per model. -/
structure RoundRobinCounters where
  counters : KeyMap String Nat

/-- The counter's value modulo `total`, and the counter moved on. -/
def RoundRobinCounters.next (rr : RoundRobinCounters) (model : String) (total : Nat) :
    RoundRobinCounters × Nat :=
  let counter := (rr.counters.lookup model).getD 0
  ({ counters := rr.counters.insert model ((counter + 1) % 2 ^ 64) }, counter % total)

/-- The counter of `m` stands at index `i`. -/
def RoundRobinCounters.At (rr : RoundRobinCounters) (m : ModelConfig) (i : Nat) : Prop :=
  (rr.counters.lookup m.name).getD 0 % m.endpoints.length = i

/-- Counters of which `m`'s stands at `i`. -/
def RoundRobinCounters.pointing (m : ModelConfig) (i : Nat) : RoundRobinCounters :=
  { counters := AList.singleton m.name i }

theorem RoundRobinCounters.pointing_at {m : ModelConfig} {i : Nat} (h : i < m.endpoints.length) :
    (pointing m i).At m i := by
  unfold At pointing
  rw [KeyMap.lookup_singleton, Option.getD_some, Nat.mod_eq_of_lt h]

namespace Balancer

def buildSelected (endpoints : List EndpointConfig) (index total : Nat) : Option SelectedEndpoint :=
  endpoints[index]?.map (·.selected index total)

/-- `pick_weighted`; on an empty list the counter's `% 0` panics. -/
def pickWeighted (rr : RoundRobinCounters) (modelName : String) (endpoints : List EndpointConfig) :
    RoundRobinCounters × Except Panic (Option SelectedEndpoint) :=
  let total := endpoints.length
  let (rr, idx) := rr.next modelName total
  if total = 0 then (rr, .error .remainderByZero) else (rr, .ok (buildSelected endpoints idx total))

def selectEndpoint (cfg : AppConfig) (rr : RoundRobinCounters) (modelName : String) :
    RoundRobinCounters × Except Panic (Option SelectedEndpoint) :=
  match cfg.findModel modelName with
  | none => (rr, .ok none)
  | some model =>
    if model.endpoints.isEmpty then (rr, .ok none) else pickWeighted rr model.name model.endpoints

/-- The offsets of one round-robin pass from `start`, in order. -/
def scan (endpoints : List EndpointConfig) (bannedKeys triedKeys : Finset String) (start : Nat) :
    List Nat → Except Panic (Option SelectedEndpoint)
  | [] => .ok none
  | offset :: rest =>
    let idx := (start + offset) % endpoints.length
    match endpoints[idx]? with
    | none => .error .indexOutOfBounds
    | some ep =>
      match Balancer.epKey ep.url ep.key with
      | .error p => .error p
      | .ok key =>
        if key ∈ bannedKeys ∨ key ∈ triedKeys then scan endpoints bannedKeys triedKeys start rest
        else .ok (some (ep.selected idx endpoints.length))

def selectAvailable (cfg : AppConfig) (rr : RoundRobinCounters) (modelName : String)
    (bannedKeys triedKeys : Finset String) :
    RoundRobinCounters × Except Panic (Option SelectedEndpoint) :=
  match cfg.findModel modelName with
  | none => (rr, .ok none)
  | some model =>
    let total := model.endpoints.length
    if total = 0 then (rr, .ok none)
    else
      let (rr, start) := rr.next model.name total
      (rr, scan model.endpoints bannedKeys triedKeys start (List.range total))

/-! ## What a selection is -/

/-- `sel` is the selection of an entry of `m`'s endpoint list. -/
def PickOf (m : ModelConfig) (sel : SelectedEndpoint) : Prop :=
  ∃ ep, m.endpoints[sel.index]? = some ep ∧ sel = ep.selected sel.index m.endpoints.length

theorem pickOf_selected {m : ModelConfig} {i : Nat} {ep : EndpointConfig}
    (h : m.endpoints[i]? = some ep) : PickOf m (ep.selected i m.endpoints.length) := ⟨ep, h, rfl⟩

theorem PickOf.index_lt {m : ModelConfig} {sel : SelectedEndpoint} (h : PickOf m sel) :
    sel.index < m.endpoints.length := by
  obtain ⟨ep, hep, _⟩ := h
  exact (List.getElem?_eq_some_iff.1 hep).1

theorem PickOf.mem {m : ModelConfig} {sel : SelectedEndpoint} (h : PickOf m sel) :
    ∃ ep ∈ m.endpoints, m.endpoints[sel.index]? = some ep ∧
      sel = ep.selected sel.index m.endpoints.length := by
  obtain ⟨ep, hep, hsel⟩ := h
  exact ⟨ep, List.mem_of_getElem? hep, hep, hsel⟩

/-- The index tells the endpoints of a model apart. -/
theorem PickOf.eq_of_index {m : ModelConfig} {sel sel' : SelectedEndpoint} (h : PickOf m sel)
    (h' : PickOf m sel') (hi : sel.index = sel'.index) : sel = sel' := by
  obtain ⟨ep, hep, hsel⟩ := h
  obtain ⟨ep', hep', hsel'⟩ := h'
  rw [← hi, hep] at hep'
  obtain rfl := Option.some.inj hep'
  rw [hsel, hsel', hi]

theorem scan_found {endpoints : List EndpointConfig} {bannedKeys triedKeys : Finset String}
    {start : Nat} {sel : SelectedEndpoint} : ∀ {offs : List Nat},
    scan endpoints bannedKeys triedKeys start offs = .ok (some sel) →
      ∃ ep key, endpoints[sel.index]? = some ep ∧ sel = ep.selected sel.index endpoints.length ∧
        Balancer.epKey ep.url ep.key = .ok key ∧ key ∉ bannedKeys ∧ key ∉ triedKeys
  | [], h => by simp [scan] at h
  | offset :: rest, h => by
    simp only [scan] at h
    split at h
    · cases h
    · rename_i ep hep
      split at h
      · cases h
      · rename_i key hkey
        split at h
        · exact scan_found h
        · rename_i hk
          rw [not_or] at hk
          obtain rfl := Option.some.inj (Except.ok.inj h)
          exact ⟨ep, key, hep, rfl, hkey, hk.1, hk.2⟩

/-- **What `select_available` returns** is an entry of the model the name resolves to, under a
balancer key that is neither banned nor tried. -/
theorem selectAvailable_found {cfg : AppConfig} {rr : RoundRobinCounters} {name : String}
    {bannedKeys triedKeys : Finset String} {sel : SelectedEndpoint}
    (h : (selectAvailable cfg rr name bannedKeys triedKeys).2 = .ok (some sel)) :
    ∃ m key, cfg.findModel name = some m ∧ PickOf m sel ∧
      Balancer.epKey sel.url sel.apiKey = .ok key ∧ key ∉ bannedKeys ∧ key ∉ triedKeys := by
  unfold selectAvailable at h
  split at h
  · cases h
  · rename_i m hm
    dsimp only at h
    split at h
    · cases h
    · obtain ⟨ep, key, hep, hsel, hkey, hb, ht⟩ := scan_found h
      refine ⟨m, key, hm, ⟨ep, hep, hsel⟩, ?_, hb, ht⟩
      rw [hsel, selected_url, selected_apiKey]
      exact hkey

/-- The counter decides: when it stands at an index whose key is free, that index is picked. -/
theorem selectAvailable_at {cfg : AppConfig} {rr : RoundRobinCounters} {m : ModelConfig}
    {name : String} {bannedKeys triedKeys : Finset String} {i : Nat} {ep : EndpointConfig}
    {key : String} (hm : cfg.findModel name = some m) (hi : m.endpoints[i]? = some ep)
    (hrr : rr.At m i) (hkey : Balancer.epKey ep.url ep.key = .ok key)
    (hb : key ∉ bannedKeys) (ht : key ∉ triedKeys) :
    (selectAvailable cfg rr name bannedKeys triedKeys).2 =
      .ok (some (ep.selected i m.endpoints.length)) := by
  have hlt : i < m.endpoints.length := (List.getElem?_eq_some_iff.1 hi).1
  have hn : m.endpoints.length ≠ 0 := by omega
  obtain ⟨n, hsucc⟩ := Nat.exists_eq_succ_of_ne_zero hn
  have hidx : ((rr.counters.lookup m.name).getD 0 % m.endpoints.length + 0) % m.endpoints.length = i := by
    rw [Nat.add_zero, Nat.mod_mod, hrr]
  have hrange : List.range m.endpoints.length = 0 :: (List.range n).map Nat.succ := by
    rw [hsucc, List.range_succ_eq_map]
  simp only [selectAvailable, hm, if_neg hn, RoundRobinCounters.next, hrange, scan, hidx, hi, hkey, hb,
    ht, or_self, if_false]

/-- **What `select_endpoint` returns.** -/
theorem selectEndpoint_found {cfg : AppConfig} {rr : RoundRobinCounters} {name : String}
    {sel : SelectedEndpoint} (h : (selectEndpoint cfg rr name).2 = .ok (some sel)) :
    ∃ m, cfg.findModel name = some m ∧ PickOf m sel := by
  unfold selectEndpoint at h
  split at h
  · cases h
  · rename_i m hm
    split at h
    · cases h
    · simp only [pickWeighted] at h
      split at h
      · cases h
      · simp only [Except.ok.injEq, buildSelected, Option.map_eq_some_iff] at h
        obtain ⟨ep, hep, rfl⟩ := h
        exact ⟨m, hm, pickOf_selected hep⟩

/-- A known model with endpoints always yields one. -/
theorem selectEndpoint_some {cfg : AppConfig} (rr : RoundRobinCounters) {m : ModelConfig}
    {name : String} (hm : cfg.findModel name = some m) (hne : m.endpoints ≠ []) :
    ∃ sel, (selectEndpoint cfg rr name).2 = .ok (some sel) ∧ PickOf m sel := by
  have hpos : 0 < m.endpoints.length := List.length_pos_iff.2 hne
  have hlt := Nat.mod_lt ((rr.counters.lookup m.name).getD 0) hpos
  have hget := List.getElem?_eq_getElem hlt
  refine ⟨_, ?_, pickOf_selected hget⟩
  have hemp : m.endpoints.isEmpty = false := by simpa using hne
  simp only [selectEndpoint, hm, hemp, Bool.false_eq_true, if_false, pickWeighted,
    RoundRobinCounters.next, if_neg (Nat.ne_of_gt hpos), buildSelected, hget, Option.map_some]

end Balancer

end AiRouter
