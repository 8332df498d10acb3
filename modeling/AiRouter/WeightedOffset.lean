import AiRouter.Lib.PrefixSum
import AiRouter.WeightedPicks

/-
# The weighted pick: `select_sticky` (balancer.rs:108-154)

| here | there |
| --- | --- |
| `Balancer.weightOf`               | `if ep.weight == 0 { 1 } else { ep.weight }` (line 136) |
| `Balancer.cumulate`               | the `for` loop (lines 146-151), with its index and its running sum |
| `Balancer.pickWeightedWithOffset` | `pick_weighted_with_offset` |
| `Balancer.selectSticky`           | `select_sticky` |

`usize` has 64 bits, and sums wrap. The router itself does not call `select_sticky`.
-/
namespace AiRouter

open PrefixSum (Holds locate)
open RoundRobin (window)

namespace Balancer

def weightOf (ep : EndpointConfig) : Nat := if ep.weight = 0 then 1 else ep.weight

/-- `weights.iter().sum()` -/
def sumWeights (weights : List Nat) : Nat := weights.foldl (fun acc w => (acc + w) % 2 ^ 64) 0

/-- Where the loop returns, if it does. -/
def cumulate (pick : Nat) : Nat → Nat → List Nat → Option Nat
  | _, _, [] => none
  | i, cumulative, w :: rest =>
    let cumulative := (cumulative + w) % 2 ^ 64
    if pick < cumulative then some i else cumulate pick (i + 1) cumulative rest

def pickWeightedWithOffset (endpoints : List EndpointConfig) (offset : Nat) : Option SelectedEndpoint :=
  let total := endpoints.length
  if total = 0 then none
  else
    let weights := endpoints.map weightOf
    let totalWeight := sumWeights weights
    if totalWeight = 0 then none
    else
      let pick := offset % totalWeight
      match cumulate pick 0 0 weights with
      | some i => buildSelected endpoints i total
      | none => buildSelected endpoints 0 total

/-- `bytes().fold(0u64, ..)` -/
def sessionHash (sessionId : String) : Nat :=
  sessionId.toUTF8.data.toList.foldl (fun acc b => (acc * 31 % 2 ^ 64 + b.toNat) % 2 ^ 64) 0

def selectSticky (cfg : AppConfig) (modelName sessionId : String) : Option SelectedEndpoint :=
  match cfg.findModel modelName with
  | none => none
  | some model => pickWeightedWithOffset model.endpoints (sessionHash sessionId)

end Balancer

open Balancer (weightOf sumWeights cumulate pickWeightedWithOffset buildSelected)

/-- The loop returns, so that what stands after it is not reached. -/
def LoopReturns (endpoints : List EndpointConfig) (offset : Nat) : Prop :=
  (cumulate (offset % sumWeights (endpoints.map weightOf)) 0 0 (endpoints.map weightOf)).isSome = true

/-- The offsets are divided among the endpoints by their weights. -/
structure PicksByWeight (endpoints : List EndpointConfig) : Prop where
  located : ∀ offset < 2 ^ 64, ∃ i,
    Holds (endpoints.map (·.weight)) i (offset % (endpoints.map (·.weight)).sum) ∧
      pickWeightedWithOffset endpoints offset = buildSelected endpoints i endpoints.length
  share : ∀ start, start + (endpoints.map (·.weight)).sum ≤ 2 ^ 64 → ∀ i ep, endpoints[i]? = some ep →
    window (fun offset => (pickWeightedWithOffset endpoints offset).map (·.index) = some i) start
      (endpoints.map (·.weight)).sum = ep.weight
  positive : ∀ offset < 2 ^ 64, ∀ sel, pickWeightedWithOffset endpoints offset = some sel →
    ∃ ep, endpoints[sel.index]? = some ep ∧ 0 < ep.weight
  reached : ∀ offset < 2 ^ 64, LoopReturns endpoints offset

/-! ## The loop -/

section
variable {ws : List Nat} {pick i cumulative : Nat}

theorem foldl_sum_mod (h : cumulative < 2 ^ 64) :
    ws.foldl (fun acc w => (acc + w) % 2 ^ 64) cumulative = (cumulative + ws.sum) % 2 ^ 64 := by
  induction ws generalizing cumulative with
  | nil => exact (Nat.mod_eq_of_lt h).symm
  | cons w ws ih =>
    rw [List.foldl_cons, ih (Nat.mod_lt _ (by decide)), List.sum_cons, Nat.mod_add_mod, Nat.add_assoc]

theorem sumWeights_eq (ws : List Nat) : sumWeights ws = ws.sum % 2 ^ 64 := by
  unfold sumWeights
  rw [foldl_sum_mod (by decide), Nat.zero_add]

/-- **The running sum**: as long as it does not wrap, the loop stops at the interval that holds the pick. -/
theorem cumulate_eq_locate (hle : cumulative ≤ pick) (h : cumulative + ws.sum < 2 ^ 64) :
    cumulate pick i cumulative ws = (locate ws (pick - cumulative)).map (i + ·) := by
  induction ws generalizing i cumulative with
  | nil => rfl
  | cons w ws ih =>
    rw [List.sum_cons] at h
    unfold cumulate locate
    dsimp only
    rw [Nat.mod_eq_of_lt (by omega : cumulative + w < 2 ^ 64)]
    by_cases hpick : pick < cumulative + w
    · rw [if_pos hpick, if_pos (by omega)]
      rfl
    · have hrest : pick - cumulative - w = pick - (cumulative + w) := by omega
      rw [if_neg hpick, if_neg (by omega), ih (by omega) (by omega), hrest, Option.map_map]
      refine congrArg (fun f => Option.map f _) (funext fun k => ?_)
      change i + 1 + k = i + (k + 1)
      omega

/-- The last running sum is the total, so that the loop returns even if sums have wrapped. -/
theorem cumulate_isSome (hne : ws ≠ []) (h : pick < (cumulative + ws.sum) % 2 ^ 64) :
    (cumulate pick i cumulative ws).isSome = true := by
  induction ws generalizing i cumulative with
  | nil => exact absurd rfl hne
  | cons w ws ih =>
    unfold cumulate
    dsimp only
    split
    · rfl
    · rename_i hpick
      rw [List.sum_cons, ← Nat.add_assoc] at h
      have hrest : ws ≠ [] := by
        rintro rfl
        exact hpick h
      refine ih hrest ?_
      rwa [Nat.mod_add_mod]

end

/-! ## The pick -/

section
variable {endpoints : List EndpointConfig} {offset offset' i : Nat}

theorem buildSelected_of_lt (hi : i < endpoints.length) :
    buildSelected endpoints i endpoints.length = some (endpoints[i].selected i endpoints.length) := by
  unfold Balancer.buildSelected
  rw [List.getElem?_eq_getElem hi]
  rfl

theorem buildSelected_index (hi : i < endpoints.length) :
    (buildSelected endpoints i endpoints.length).map (·.index) = some i := by
  rw [buildSelected_of_lt hi]
  rfl

/-- The offset counts modulo the sum of the weights that the loop uses. -/
theorem pick_congr (h : offset % sumWeights (endpoints.map weightOf) = offset' % sumWeights (endpoints.map weightOf)) :
    pickWeightedWithOffset endpoints offset = pickWeightedWithOffset endpoints offset' := by
  unfold pickWeightedWithOffset
  dsimp only
  rw [h]

theorem weightOf_pos (ep : EndpointConfig) : 0 < weightOf ep := by
  unfold weightOf
  split <;> omega

theorem sum_weightOf_pos (hne : endpoints ≠ []) : 0 < (endpoints.map weightOf).sum := by
  obtain ⟨ep, rest, rfl⟩ := List.exists_cons_of_ne_nil hne
  have hpos := weightOf_pos ep
  rw [List.map_cons, List.sum_cons]
  omega

/-- The loop's weights add at most one for each endpoint. -/
theorem sum_weightOf_le (endpoints : List EndpointConfig) :
    (endpoints.map weightOf).sum ≤ (endpoints.map (·.weight)).sum + endpoints.length := by
  induction endpoints with
  | nil => rfl
  | cons ep rest ih =>
    have hep : weightOf ep ≤ ep.weight + 1 := by
      unfold weightOf
      split <;> omega
    simp only [List.map_cons, List.sum_cons, List.length_cons]
    omega

theorem weightOf_eq (hpos : ∀ ep ∈ endpoints, 0 < ep.weight) :
    endpoints.map weightOf = endpoints.map (·.weight) := by
  refine List.map_congr_left fun ep hep => ?_
  unfold weightOf
  rw [if_neg (Nat.ne_of_gt (hpos ep hep))]

/-- Where the loop's weights do not add up to a multiple of `2 ^ 64`, it returns. -/
theorem loop_returns (hsum : sumWeights (endpoints.map weightOf) ≠ 0) (offset : Nat) :
    LoopReturns endpoints offset := by
  unfold LoopReturns
  refine cumulate_isSome ?_ ?_
  · intro hnil
    rw [hnil] at hsum
    exact hsum rfl
  · rw [Nat.zero_add, ← sumWeights_eq]
    exact Nat.mod_lt _ (Nat.pos_of_ne_zero hsum)

/-- **What is picked**: the endpoint whose interval holds the offset, with the loop's weights. -/
theorem pick_of_holds (hsum : (endpoints.map weightOf).sum < 2 ^ 64)
    (h : Holds (endpoints.map weightOf) i (offset % (endpoints.map weightOf).sum)) :
    pickWeightedWithOffset endpoints offset = buildSelected endpoints i endpoints.length := by
  have hi : i < endpoints.length := by simpa using h.lt_length
  have hpos := sum_weightOf_pos (List.ne_nil_of_length_pos (Nat.zero_lt_of_lt hi))
  have htotal : sumWeights (endpoints.map weightOf) = (endpoints.map weightOf).sum := by
    rw [sumWeights_eq, Nat.mod_eq_of_lt hsum]
  have hloop : cumulate (offset % (endpoints.map weightOf).sum) 0 0 (endpoints.map weightOf) = some i := by
    rw [cumulate_eq_locate (Nat.zero_le _) (by omega), Nat.sub_zero, PrefixSum.locate_eq_some_iff.2 h]
    simp
  unfold pickWeightedWithOffset
  dsimp only
  rw [if_neg (by omega), htotal, if_neg (by omega), hloop]

end

/-! ## The division -/

section
variable {endpoints : List EndpointConfig}

/-- Weights that the loop does not change, and a sum that does not wrap. -/
theorem picksByWeight_of_pos (hne : endpoints ≠ []) (hpos : ∀ ep ∈ endpoints, 0 < ep.weight)
    (hsum : (endpoints.map (·.weight)).sum < 2 ^ 64) : PicksByWeight endpoints := by
  have hweights := weightOf_eq hpos
  have hsumpos : 0 < (endpoints.map (·.weight)).sum := by
    rw [← hweights]
    exact sum_weightOf_pos hne
  have hpick : ∀ {offset i : Nat}, Holds (endpoints.map (·.weight)) i (offset % (endpoints.map (·.weight)).sum) →
      pickWeightedWithOffset endpoints offset = buildSelected endpoints i endpoints.length := by
    intro offset i h
    rw [← hweights] at h hsum
    exact pick_of_holds hsum h
  have hlocated : ∀ offset, ∃ i, Holds (endpoints.map (·.weight)) i (offset % (endpoints.map (·.weight)).sum) :=
    fun offset => PrefixSum.exists_holds (Nat.mod_lt _ hsumpos)
  refine ⟨fun offset _ => ?_, fun start _ i ep hep => ?_, fun offset _ sel hsel => ?_, fun offset _ => ?_⟩
  · obtain ⟨i, hi⟩ := hlocated offset
    exact ⟨i, hi, hpick hi⟩
  · obtain ⟨hi, rfl⟩ := List.getElem?_eq_some_iff.1 hep
    have hindex : ∀ offset, (pickWeightedWithOffset endpoints offset).map (·.index) = some i ↔
        locate (endpoints.map (·.weight)) (offset % (endpoints.map (·.weight)).sum) = some i := by
      intro offset
      obtain ⟨j, hj⟩ := hlocated offset
      rw [hpick hj, buildSelected_index (by simpa using hj.lt_length), PrefixSum.locate_eq_some_iff.2 hj]
    have hlen : i < (endpoints.map (·.weight)).length := by simpa using hi
    simp only [hindex]
    rw [PrefixSum.window_locate hlen, List.getElem_map]
  · obtain ⟨i, hi⟩ := hlocated offset
    have hlt : i < endpoints.length := by simpa using hi.lt_length
    rw [hpick hi, buildSelected_of_lt hlt] at hsel
    obtain rfl := Option.some.inj hsel
    exact ⟨endpoints[i], List.getElem?_eq_getElem hlt, hpos _ (List.getElem_mem hlt)⟩
  · refine loop_returns ?_ offset
    rw [sumWeights_eq, hweights, Nat.mod_eq_of_lt hsum]
    omega

theorem PicksByWeight.sum_ne_zero (h : PicksByWeight endpoints) : sumWeights (endpoints.map weightOf) ≠ 0 := by
  intro hzero
  obtain ⟨i, hi, hpick⟩ := h.located 0 (by decide)
  have hlen : i < endpoints.length := by simpa using hi.lt_length
  rw [buildSelected_of_lt hlen] at hpick
  unfold pickWeightedWithOffset at hpick
  dsimp only at hpick
  rw [if_neg (by omega), if_pos hzero] at hpick
  cases hpick

/-- Offsets that the code does not tell apart lie in one interval. -/
theorem PicksByWeight.same_interval (h : PicksByWeight endpoints) {offset offset' : Nat} (hlt : offset < 2 ^ 64)
    (hlt' : offset' < 2 ^ 64)
    (hmod : offset % sumWeights (endpoints.map weightOf) = offset' % sumWeights (endpoints.map weightOf)) :
    ∃ i, Holds (endpoints.map (·.weight)) i (offset % (endpoints.map (·.weight)).sum) ∧
      Holds (endpoints.map (·.weight)) i (offset' % (endpoints.map (·.weight)).sum) := by
  obtain ⟨i, hi, hpick⟩ := h.located offset hlt
  obtain ⟨i', hi', hpick'⟩ := h.located offset' hlt'
  rw [pick_congr hmod, hpick'] at hpick
  have hindex := congrArg (Option.map (·.index)) hpick
  rw [buildSelected_index (by simpa using hi'.lt_length), buildSelected_index (by simpa using hi.lt_length)] at hindex
  obtain rfl := Option.some.inj hindex
  exact ⟨i', hi, hi'⟩

/-- If the sum wrapped, an offset beyond the first interval would be taken for 0. -/
theorem PicksByWeight.sum_lt (h : PicksByWeight endpoints) (hu32 : ∀ ep ∈ endpoints, ep.weight < 2 ^ 32)
    (hlen : endpoints.length < 2 ^ 63) : (endpoints.map weightOf).sum < 2 ^ 64 := by
  by_contra hwraps
  have hle := sum_weightOf_le endpoints
  have htotal := sumWeights_eq (endpoints.map weightOf)
  have hpos := Nat.pos_of_ne_zero h.sum_ne_zero
  generalize hW : (endpoints.map (·.weight)).sum = W at *
  generalize hT : sumWeights (endpoints.map weightOf) = T at *
  have hTW : T < W := by omega
  -- the first multiple of the wrapped sum above every weight
  have hdiv := Nat.div_add_mod (2 ^ 32) T
  have hrem := Nat.mod_lt (2 ^ 32) hpos
  have hbig : 2 ^ 32 < T * (2 ^ 32 / T + 1) ∧ T * (2 ^ 32 / T + 1) ≤ 2 ^ 32 + T := by
    rw [Nat.mul_add, Nat.mul_one]
    omega
  have hsmall : T * (2 ^ 32 / T + 1) < W ∧ T * (2 ^ 32 / T + 1) < 2 ^ 64 := by
    by_cases hT32 : T ≤ 2 ^ 32
    · omega
    · rw [Nat.div_eq_of_lt (by omega)]
      omega
  have hmod : 0 % sumWeights (endpoints.map weightOf)
      = T * (2 ^ 32 / T + 1) % sumWeights (endpoints.map weightOf) := by
    rw [hT, Nat.zero_mod, Nat.mul_mod_right]
  obtain ⟨i, hi, hi'⟩ := h.same_interval (by decide) hsmall.2 hmod
  rw [hW, Nat.zero_mod] at hi
  rw [hW, Nat.mod_eq_of_lt hsmall.1] at hi'
  have hilen : i < endpoints.length := by simpa using hi.lt_length
  have hstep := List.sum_take_succ (endpoints.map (·.weight)) i hi.lt_length
  rw [List.getElem_map] at hstep
  have hw := hu32 endpoints[i] (List.getElem_mem hilen)
  unfold Holds at hi hi'
  omega

/-- An endpoint of weight 0 has an interval of its own in the loop. -/
theorem PicksByWeight.weight_pos (h : PicksByWeight endpoints) (hsum : (endpoints.map weightOf).sum < 2 ^ 64)
    {ep : EndpointConfig} (hep : ep ∈ endpoints) : 0 < ep.weight := by
  obtain ⟨i, hi, rfl⟩ := List.mem_iff_getElem.1 hep
  have hlen : i < (endpoints.map weightOf).length := by simpa using hi
  have hstart : Holds (endpoints.map weightOf) i ((endpoints.map weightOf).take i).sum :=
    PrefixSum.holds_start hlen (by rw [List.getElem_map]; exact weightOf_pos _)
  have hlt : ((endpoints.map weightOf).take i).sum < (endpoints.map weightOf).sum :=
    hstart.2.trans_le (PrefixSum.sum_take_le _ _)
  have hpick : pickWeightedWithOffset endpoints ((endpoints.map weightOf).take i).sum
      = some (endpoints[i].selected i endpoints.length) := by
    rw [← buildSelected_of_lt hi]
    refine pick_of_holds hsum ?_
    rwa [Nat.mod_eq_of_lt hlt]
  obtain ⟨ep, hep, hpos⟩ := h.positive _ (by omega) _ hpick
  rw [show (endpoints[i].selected i endpoints.length).index = i from rfl, List.getElem?_eq_getElem hi] at hep
  obtain rfl := Option.some.inj hep
  exact hpos

end

/-- **The weighted pick divides the offsets by weight** exactly if no endpoint has weight 0 and the weights add up to
less than `2 ^ 64`. -/
theorem weighted_offset_iff {endpoints : List EndpointConfig} (hsome : ∃ ep ∈ endpoints, 0 < ep.weight)
    (hu32 : ∀ ep ∈ endpoints, ep.weight < 2 ^ 32) (hlen : endpoints.length < 2 ^ 63) :
    PicksByWeight endpoints ↔
      (∀ ep ∈ endpoints, 0 < ep.weight) ∧ (endpoints.map (·.weight)).sum < 2 ^ 64 := by
  constructor
  · intro h
    have hsum := h.sum_lt hu32 hlen
    have hpos : ∀ ep ∈ endpoints, 0 < ep.weight := fun ep hep => h.weight_pos hsum hep
    rw [weightOf_eq hpos] at hsum
    exact ⟨hpos, hsum⟩
  · rintro ⟨hpos, hsum⟩
    obtain ⟨ep, hep, _⟩ := hsome
    exact picksByWeight_of_pos (List.ne_nil_of_mem hep) hpos hsum

/-! ## Weights 2 and 1, and weights 0 and 1 -/

theorem two_to_one : PicksByWeight (weightedModel 2 1).endpoints :=
  (weighted_offset_iff (by decide) (by decide) (by decide)).2 ⟨by decide, by decide⟩

/-- Offset 0 takes the first endpoint, although its weight is 0. -/
theorem zero_weight_is_picked :
    (weightedConfig 0 1).Accepted ∧
      (weightedModel 0 1).weightAt 0 = 0 ∧
      (pickWeightedWithOffset (weightedModel 0 1).endpoints 0).map (·.index) = some 0 ∧
      ¬ ∀ endpoints : List EndpointConfig, (∃ ep ∈ endpoints, 0 < ep.weight) → (∀ ep ∈ endpoints, ep.weight < 2 ^ 32) →
        endpoints.length < 2 ^ 63 → PicksByWeight endpoints := by
  refine ⟨rfl, by decide, by decide, fun h => ?_⟩
  have hdivides := h (weightedModel 0 1).endpoints (by decide) (by decide) (by decide)
  have hpos := hdivides.weight_pos (by decide) List.mem_cons_self
  exact absurd hpos (by decide)

/-! ## Sessions -/

theorem sessionHash_lt (sessionId : String) : Balancer.sessionHash sessionId < 2 ^ 64 := by
  have hfold : ∀ (bytes : List UInt8) (acc : Nat), acc < 2 ^ 64 →
      bytes.foldl (fun acc b => (acc * 31 % 2 ^ 64 + b.toNat) % 2 ^ 64) acc < 2 ^ 64 := by
    intro bytes
    induction bytes with
    | nil => exact fun acc h => h
    | cons b rest ih => exact fun acc _ => ih _ (Nat.mod_lt _ (by decide))
  exact hfold _ 0 (by decide)

/-- **A session's endpoint** depends on its id only, and ids are divided among the endpoints by weight. -/
theorem selectSticky_located {cfg : AppConfig} {m : ModelConfig} {name : String} (hm : cfg.findModel name = some m)
    (h : PicksByWeight m.endpoints) (sessionId : String) :
    ∃ i, Holds (m.endpoints.map (·.weight)) i
        (Balancer.sessionHash sessionId % (m.endpoints.map (·.weight)).sum) ∧
      Balancer.selectSticky cfg name sessionId = buildSelected m.endpoints i m.endpoints.length := by
  unfold Balancer.selectSticky
  rw [hm]
  exact h.located _ (sessionHash_lt sessionId)

end AiRouter
