import AiRouter.Lib.RoundRobin
import AiRouter.RetryLoop

/-
# Weights and the round robin

`select_endpoint` and `select_available` take the model's counter modulo the number of its endpoints: the weights are
not read. `Proportional` is what the documentation says of them, over all traffic from the start of the router on.
-/
namespace AiRouter

open RoundRobin

/-- A call of the balancer. -/
inductive Selection where
  | endpoint (name : String)
  | available (name : String) (bannedKeys triedKeys : Finset String)

namespace Selection

def name : Selection → String
  | .endpoint name => name
  | .available name _ _ => name

def call (cfg : AppConfig) (rr : RoundRobinCounters) :
    Selection → RoundRobinCounters × Except Panic (Option SelectedEndpoint)
  | .endpoint name => Balancer.selectEndpoint cfg rr name
  | .available name bannedKeys triedKeys => Balancer.selectAvailable cfg rr name bannedKeys triedKeys

/-- Nothing is banned or tried. -/
def Free : Selection → Prop
  | .endpoint _ => True
  | .available _ bannedKeys triedKeys => bannedKeys = ∅ ∧ triedKeys = ∅

/-- The call is for `m`. -/
def isFor (cfg : AppConfig) (m : ModelConfig) (c : Selection) : Bool := cfg.findModel c.name == some m

end Selection

namespace RoundRobinCounters

def new : RoundRobinCounters := { counters := ∅ }

/-- The counter that a model of this name has. -/
def count (rr : RoundRobinCounters) (model : String) : Nat := (rr.counters.lookup model).getD 0

end RoundRobinCounters

/-- The index that is chosen, if one is. -/
def chosenIndex : Except Panic (Option SelectedEndpoint) → Option Nat
  | .ok (some sel) => some sel.index
  | _ => none

/-- The indices chosen by the calls for `m`, in order. -/
def picksFor (cfg : AppConfig) (m : ModelConfig) : RoundRobinCounters → List Selection → List (Option Nat)
  | _, [] => []
  | rr, c :: rest =>
    let r := c.call cfg rr
    if c.isFor cfg m then chosenIndex r.2 :: picksFor cfg m r.1 rest else picksFor cfg m r.1 rest

namespace ModelConfig

/-- The weight of the endpoint at an index. -/
def weightAt (m : ModelConfig) (i : Nat) : Nat := (m.endpoints[i]?.map (·.weight)).getD 0

def totalWeight (m : ModelConfig) : Nat := ∑ i ∈ Finset.range m.endpoints.length, m.weightAt i

end ModelConfig

/-- In all traffic, every stretch of `k` times the total weight of selections for `m` has endpoint `i` chosen `k`
times its weight. -/
def Proportional (cfg : AppConfig) (m : ModelConfig) : Prop :=
  ∀ calls : List Selection, (∀ c ∈ calls, c.isFor cfg m = true → c.Free) →
    ∀ start k, start + k * m.totalWeight ≤ (picksFor cfg m .new calls).length → ∀ i < m.endpoints.length,
      (((picksFor cfg m .new calls).drop start).take (k * m.totalWeight)).count (some i) = k * m.weightAt i

/-- When the round robin has the weights: they are equal and the number of endpoints divides the range of the
counter, or they are a multiple of the parts of that range; the balancer can mask every key; and no other entry of
the same name moves the counter, unless there is one endpoint. -/
structure ModelConfig.Rotates (cfg : AppConfig) (m : ModelConfig) : Prop where
  weights : (m.endpoints.length ∣ 2 ^ 64 ∧ ∀ i < m.endpoints.length, m.weightAt i = m.weightAt 0) ∨
    ∃ t, ∀ i < m.endpoints.length, m.weightAt i = t * share (2 ^ 64) m.endpoints.length i
  keys : ∀ ep ∈ m.endpoints, ∃ k, Balancer.epKey ep.url ep.key = .ok k
  alone : m.endpoints.length = 1 ∨ ∀ name other, cfg.findModel name = some other → other.name = m.name →
    other.endpoints ≠ [] → other = m

/-! ## One call -/

section
variable {cfg : AppConfig} {m : ModelConfig} {rr : RoundRobinCounters} {c : Selection}

theorem next_count_self (rr : RoundRobinCounters) (model : String) (total : Nat) :
    (rr.next model total).1.count model = (rr.count model + 1) % 2 ^ 64 := by
  unfold RoundRobinCounters.next RoundRobinCounters.count
  rw [AList.lookup_insert]
  rfl

theorem next_lookup_ne (rr : RoundRobinCounters) {model model' : String} (h : model' ≠ model) (total : Nat) :
    (rr.next model total).1.counters.lookup model' = rr.counters.lookup model' := AList.lookup_insert_ne h

theorem next_count_ne (rr : RoundRobinCounters) {model model' : String} (h : model' ≠ model) (total : Nat) :
    (rr.next model total).1.count model' = rr.count model' := by
  unfold RoundRobinCounters.count
  rw [next_lookup_ne rr h]

/-- A call for a model with endpoints moves its counter. -/
theorem call_counters (rr : RoundRobinCounters) (hm : cfg.findModel c.name = some m) (hne : m.endpoints ≠ []) :
    (c.call cfg rr).1 = (rr.next m.name m.endpoints.length).1 := by
  have hlen : m.endpoints.length ≠ 0 := fun h => hne (List.length_eq_zero_iff.1 h)
  cases c with
  | endpoint name =>
    have hm : cfg.findModel name = some m := hm
    have hempty : m.endpoints.isEmpty = false := by simpa using hne
    simp only [Selection.call, Balancer.selectEndpoint, hm, hempty, Bool.false_eq_true, if_false, Balancer.pickWeighted,
      if_neg hlen]
  | available name bannedKeys triedKeys =>
    have hm : cfg.findModel name = some m := hm
    simp only [Selection.call, Balancer.selectAvailable, hm, if_neg hlen]

/-- Any other call leaves the counters. -/
theorem call_counters_empty (rr : RoundRobinCounters) (h : ∀ m, cfg.findModel c.name = some m → m.endpoints = []) :
    (c.call cfg rr).1 = rr := by
  cases c with
  | endpoint name =>
    unfold Selection.call Balancer.selectEndpoint
    dsimp only
    split
    · rfl
    · rename_i m hm
      rw [h m hm]
      rfl
  | available name bannedKeys triedKeys =>
    unfold Selection.call Balancer.selectAvailable
    dsimp only
    split
    · rfl
    · rename_i m hm
      rw [h m hm]
      rfl

theorem selectEndpoint_index {name : String} (hm : cfg.findModel name = some m) (hne : m.endpoints ≠ []) :
    chosenIndex (Balancer.selectEndpoint cfg rr name).2 = some (rr.count m.name % m.endpoints.length) := by
  have hlt : rr.count m.name % m.endpoints.length < m.endpoints.length := Nat.mod_lt _ (List.length_pos_iff.2 hne)
  have hempty : m.endpoints.isEmpty = false := by simpa using hne
  have hlen : m.endpoints.length ≠ 0 := by omega
  have hpick : (Balancer.selectEndpoint cfg rr name).2
      = .ok (Balancer.buildSelected m.endpoints (rr.count m.name % m.endpoints.length) m.endpoints.length) := by
    simp only [Balancer.selectEndpoint, hm, hempty, Bool.false_eq_true, if_false, Balancer.pickWeighted, if_neg hlen]
    rfl
  rw [hpick, Balancer.buildSelected, List.getElem?_eq_getElem hlt]
  rfl

/-- With nothing banned or tried, the counter says which endpoint is chosen. -/
theorem call_index (hm : cfg.findModel c.name = some m) (hne : m.endpoints ≠ []) (hfree : c.Free)
    (hkeys : ∀ ep ∈ m.endpoints, ∃ k, Balancer.epKey ep.url ep.key = .ok k) :
    chosenIndex (c.call cfg rr).2 = some (rr.count m.name % m.endpoints.length) := by
  cases c with
  | endpoint name => exact selectEndpoint_index hm hne
  | available name bannedKeys triedKeys =>
    obtain ⟨rfl, rfl⟩ := hfree
    have hlt : rr.count m.name % m.endpoints.length < m.endpoints.length := Nat.mod_lt _ (List.length_pos_iff.2 hne)
    obtain ⟨k, hk⟩ := hkeys _ (List.getElem_mem hlt)
    have hm : cfg.findModel name = some m := hm
    have hstand : rr.At m (rr.count m.name % m.endpoints.length) := rfl
    have hpick := Balancer.selectAvailable_at hm (List.getElem?_eq_getElem hlt) hstand hk
      (Finset.notMem_empty k) (Finset.notMem_empty k)
    unfold Selection.call
    dsimp only
    rw [hpick]
    rfl

end

/-! ## Counting turns -/

theorem count_turns (f : Nat → Nat) (i start len : Nat) :
    ((List.range' start len).map fun j => some (f j)).count (some i) = window (fun j => f j = i) start len := by
  induction len with
  | zero => rfl
  | succ len ih =>
    rw [List.range'_1_concat, List.map_append, List.count_append, ih, window_add, window_one, List.map_singleton,
      List.count_singleton]
    by_cases h : f (start + len) = i <;> simp [h]

/-- A stretch of the turns. -/
theorem count_stretch (f : Nat → Nat) (i : Nat) {start len total : Nat} (h : start + len ≤ total) :
    ((((List.range' 0 total).map fun j => some (f j)).drop start).take len).count (some i)
      = window (fun j => f j = i) start len := by
  rw [← List.map_drop, ← List.map_take, List.drop_range', List.take_range'_of_length_ge (by omega), Nat.zero_add,
    Nat.mul_one]
  exact count_turns f i start len

/-! ## When the counter is the model's own -/

section
variable {cfg : AppConfig} {m : ModelConfig}

theorem isFor_iff {c : Selection} : c.isFor cfg m = true ↔ cfg.findModel c.name = some m := by
  unfold Selection.isFor
  exact beq_iff_eq

/-- A call for another model leaves the counter. -/
theorem call_count_other (halone : ∀ name other, cfg.findModel name = some other → other.name = m.name →
      other.endpoints ≠ [] → other = m) {c : Selection} (h : c.isFor cfg m = false) (rr : RoundRobinCounters) :
    (c.call cfg rr).1.count m.name = rr.count m.name := by
  by_cases hfound : ∃ other, cfg.findModel c.name = some other ∧ other.endpoints ≠ []
  · obtain ⟨other, hother, hne⟩ := hfound
    have hname : m.name ≠ other.name := by
      intro heq
      obtain rfl := halone c.name other hother heq.symm hne
      rw [isFor_iff.2 hother] at h
      cases h
    rw [call_counters rr hother hne, next_count_ne rr hname]
  · rw [call_counters_empty rr fun other hother => by_contra fun hne => hfound ⟨other, hother, hne⟩]

/-- **The turns of a model**: where its calls are decided by the counter and no other call moves it, or there is one
endpoint. -/
theorem picksFor_turns (hne : m.endpoints ≠ []) : ∀ (calls : List Selection) (rr : RoundRobinCounters) (j : Nat),
    (∀ c ∈ calls, c.isFor cfg m = true → ∀ rr, chosenIndex (c.call cfg rr).2
      = some (rr.count m.name % m.endpoints.length)) →
    (m.endpoints.length = 1 ∨ ∀ c ∈ calls, c.isFor cfg m = false → ∀ rr,
      (c.call cfg rr).1.count m.name = rr.count m.name) →
    (m.endpoints.length = 1 ∨ rr.count m.name = j % 2 ^ 64) →
      picksFor cfg m rr calls = (List.range' j (picksFor cfg m rr calls).length).map
        fun j => some (pick (2 ^ 64) m.endpoints.length j)
  | [], rr, j, _, _, _ => rfl
  | c :: rest, rr, j, hindex, hother, hcount => by
    have hrest := fun rr' j' => picksFor_turns hne rest rr' j' (fun d hd => hindex d (List.mem_cons_of_mem c hd))
      (hother.imp_right fun hother d hd => hother d (List.mem_cons_of_mem c hd))
    unfold picksFor
    dsimp only
    cases hfor : c.isFor cfg m with
    | true =>
      have hpick : rr.count m.name % m.endpoints.length = pick (2 ^ 64) m.endpoints.length j := by
        unfold pick
        rcases hcount with hone | hcount
        · rw [hone, Nat.mod_one, Nat.mod_one]
        · rw [hcount]
      have hnext : m.endpoints.length = 1 ∨ (c.call cfg rr).1.count m.name = (j + 1) % 2 ^ 64 := by
        refine hcount.imp_right fun hcount => ?_
        rw [call_counters rr (isFor_iff.1 hfor) hne, next_count_self, hcount, Nat.mod_add_mod]
      rw [if_pos rfl, hindex c List.mem_cons_self hfor rr, hpick, List.length_cons, List.range'_succ, List.map_cons]
      exact congrArg _ (hrest _ _ hnext)
    | false =>
      rw [if_neg (by simp)]
      refine hrest _ j ?_
      rcases hother with hone | hother
      · exact Or.inl hone
      · exact hcount.imp_right fun hcount => (hother c List.mem_cons_self hfor rr).trans hcount

/-- What every window of turns has, all traffic has. -/
theorem proportional_of_windows (hne : m.endpoints ≠ [])
    (hkeys : ∀ ep ∈ m.endpoints, ∃ k, Balancer.epKey ep.url ep.key = .ok k)
    (halone : m.endpoints.length = 1 ∨ ∀ name other, cfg.findModel name = some other → other.name = m.name →
      other.endpoints ≠ [] → other = m)
    (h : ∀ i < m.endpoints.length, ∀ start,
      window (fun j => pick (2 ^ 64) m.endpoints.length j = i) start m.totalWeight = m.weightAt i) :
    Proportional cfg m := by
  intro calls hfree start k hlen i hi
  rw [picksFor_turns hne calls .new 0 (fun c hc hfor rr => call_index (isFor_iff.1 hfor) hne (hfree c hc hfor) hkeys)
    (halone.imp_right fun halone c _ hfor rr => call_count_other halone hfor rr) (Or.inr rfl), count_stretch _ _ hlen]
  exact window_mul (h i hi) k start

/-! ## What every proportional model has -/

theorem picksFor_length (rr : RoundRobinCounters) (calls : List Selection) :
    (picksFor cfg m rr calls).length = calls.countP (·.isFor cfg m) := by
  induction calls generalizing rr with
  | nil => rfl
  | cons c rest ih =>
    unfold picksFor
    rw [List.countP_cons]
    cases c.isFor cfg m <;> simp [ih]

theorem mem_picksFor {i : Nat} {rr : RoundRobinCounters} {calls : List Selection}
    (h : some i ∈ picksFor cfg m rr calls) :
    ∃ c ∈ calls, c.isFor cfg m = true ∧ ∃ rr, chosenIndex (c.call cfg rr).2 = some i := by
  induction calls generalizing rr with
  | nil => cases h
  | cons c rest ih =>
    have hrest : ∀ rr', some i ∈ picksFor cfg m rr' rest →
        ∃ d ∈ c :: rest, d.isFor cfg m = true ∧ ∃ rr, chosenIndex (d.call cfg rr).2 = some i := by
      intro rr' hmem
      obtain ⟨d, hd, hfor, hindex⟩ := ih hmem
      exact ⟨d, List.mem_cons_of_mem c hd, hfor, hindex⟩
    unfold picksFor at h
    dsimp only at h
    split at h
    · rcases List.mem_cons.1 h with heq | h
      · exact ⟨c, List.mem_cons_self, ‹_›, rr, heq.symm⟩
      · exact hrest _ h
    · exact hrest _ h

variable {name : String}

/-- Traffic for nothing but the model. -/
theorem proportional_replicate (h : Proportional cfg m) {c : Selection} (hc : c.isFor cfg m = true) (hfree : c.Free)
    (start : Nat) {i : Nat} (hi : i < m.endpoints.length) :
    (((picksFor cfg m .new (List.replicate (start + m.totalWeight) c)).drop start).take m.totalWeight).count (some i)
      = m.weightAt i := by
  have hlen : (picksFor cfg m .new (List.replicate (start + m.totalWeight) c)).length = start + m.totalWeight := by
    rw [picksFor_length, List.countP_replicate, if_pos hc]
  have hcount := h (List.replicate (start + m.totalWeight) c) (fun d hd _ => (List.eq_of_mem_replicate hd) ▸ hfree)
    start 1 (by omega) i hi
  rwa [Nat.one_mul, Nat.one_mul] at hcount

theorem windows_of_proportional (hm : cfg.findModel name = some m) (hne : m.endpoints ≠ []) (h : Proportional cfg m)
    {i : Nat} (hi : i < m.endpoints.length) (start : Nat) :
    window (fun j => pick (2 ^ 64) m.endpoints.length j = i) start m.totalWeight = m.weightAt i := by
  have hfor : (Selection.endpoint name).isFor cfg m = true := isFor_iff.2 hm
  have hlen : (picksFor cfg m .new (List.replicate (start + m.totalWeight) (.endpoint name))).length
      = start + m.totalWeight := by
    rw [picksFor_length, List.countP_replicate, if_pos hfor]
  have hcount := proportional_replicate h hfor trivial start hi
  have hsame : ∀ c ∈ List.replicate (start + m.totalWeight) (Selection.endpoint name), c = .endpoint name :=
    fun c hc => List.eq_of_mem_replicate hc
  rw [picksFor_turns hne _ .new 0 (fun c hc _ rr => (hsame c hc) ▸ selectEndpoint_index hm hne)
    (Or.inr fun c hc hnot => by rw [hsame c hc, hfor] at hnot; cases hnot) (Or.inr rfl), hlen,
    count_stretch _ _ (Nat.le_refl _)] at hcount
  exact hcount

theorem weightAt_pos (hweights : ∀ ep ∈ m.endpoints, 0 < ep.weight) {i : Nat} (hi : i < m.endpoints.length) :
    0 < m.weightAt i := by
  unfold ModelConfig.weightAt
  rw [List.getElem?_eq_getElem hi]
  exact hweights _ (List.getElem_mem hi)

/-- The balancer can mask every key, since every endpoint has a turn. -/
theorem keys_of_proportional (hm : cfg.findModel name = some m) (hweights : ∀ ep ∈ m.endpoints, 0 < ep.weight)
    (h : Proportional cfg m) {ep : EndpointConfig} (hep : ep ∈ m.endpoints) :
    ∃ k, Balancer.epKey ep.url ep.key = .ok k := by
  obtain ⟨i, hi, rfl⟩ := List.mem_iff_getElem.1 hep
  have hcount := proportional_replicate h (c := .available name ∅ ∅) (isFor_iff.2 hm) ⟨rfl, rfl⟩ 0 hi
  have hmem : some i ∈ picksFor cfg m .new (List.replicate (0 + m.totalWeight) (.available name ∅ ∅)) := by
    have hpos := weightAt_pos hweights hi
    rw [← hcount] at hpos
    exact List.mem_of_mem_drop (List.mem_of_mem_take (List.count_pos_iff.1 hpos))
  obtain ⟨c, hc, _, rr, hindex⟩ := mem_picksFor hmem
  obtain rfl := List.eq_of_mem_replicate hc
  obtain ⟨sel, hsel, hidx⟩ : ∃ sel, (Balancer.selectAvailable cfg rr name ∅ ∅).2 = .ok (some sel) ∧ sel.index = i := by
    unfold Selection.call chosenIndex at hindex
    dsimp only at hindex
    split at hindex
    · rename_i sel hsel
      exact ⟨sel, hsel, Option.some.inj hindex⟩
    · cases hindex
  obtain ⟨m', k, hm', ⟨ep', hep', hsel'⟩, hk, _⟩ := Balancer.selectAvailable_found hsel
  rw [hm] at hm'
  obtain rfl := Option.some.inj hm'
  rw [hidx, List.getElem?_eq_getElem hi] at hep'
  obtain rfl := Option.some.inj hep'
  rw [hsel'] at hk
  exact ⟨k, hk⟩

/-- Calls for a namesake: no turn of `m`, but its counter moves on. -/
theorem picksFor_namesakes {other : ModelConfig} {c : Selection} (hother : cfg.findModel c.name = some other)
    (hne : other.endpoints ≠ []) (hname : other.name = m.name) (hfor : c.isFor cfg m = false)
    (later : List Selection) (t : Nat) : ∀ rr : RoundRobinCounters, rr.count m.name < 2 ^ 64 →
      ∃ rr', picksFor cfg m rr (List.replicate t c ++ later) = picksFor cfg m rr' later ∧
        rr'.count m.name = (rr.count m.name + t) % 2 ^ 64 := by
  induction t with
  | zero => exact fun rr hlt => ⟨rr, rfl, (Nat.mod_eq_of_lt hlt).symm⟩
  | succ t ih =>
    intro rr hlt
    have hmoved : (c.call cfg rr).1.count m.name = (rr.count m.name + 1) % 2 ^ 64 := by
      rw [call_counters rr hother hne, hname, next_count_self]
    obtain ⟨rr', hpicks, hcount⟩ := ih (c.call cfg rr).1 (by rw [hmoved]; exact Nat.mod_lt _ (by decide))
    refine ⟨rr', ?_, ?_⟩
    · rw [List.replicate_succ, List.cons_append, picksFor]
      rw [if_neg (by rw [hfor]; exact Bool.false_ne_true)]
      exact hpicks
    · rw [hcount, hmoved, Nat.mod_add_mod, Nat.add_assoc, Nat.add_comm 1 t]

/-- A turn, and then calls for the namesake until the counter is back at its start: every turn is the first. -/
theorem picksFor_stuck {other : ModelConfig} {name' : String} (hm : cfg.findModel name = some m)
    (hne : m.endpoints ≠ []) (hother : cfg.findModel name' = some other) (hne' : other.endpoints ≠ [])
    (hname : other.name = m.name) (hdiff : other ≠ m) {t : Nat} (ht : (1 + t) % 2 ^ 64 = 0) (turns : Nat) :
    ∀ rr : RoundRobinCounters, rr.count m.name = 0 →
      picksFor cfg m rr (List.replicate turns (.endpoint name :: List.replicate t (.endpoint name'))).flatten
        = List.replicate turns (some 0) := by
  have hfor : (Selection.endpoint name').isFor cfg m = false := by
    rw [Bool.eq_false_iff]
    intro h
    exact hdiff (Option.some.inj (hother.symm.trans (isFor_iff.1 h)))
  induction turns with
  | zero => exact fun rr _ => rfl
  | succ turns ih =>
    intro rr hzero
    have hmoved : ((Selection.endpoint name).call cfg rr).1.count m.name = 1 % 2 ^ 64 := by
      rw [call_counters rr hm hne, next_count_self, hzero]
    obtain ⟨rr', hpicks, hcount⟩ := picksFor_namesakes hother hne' hname hfor
      (List.replicate turns (.endpoint name :: List.replicate t (.endpoint name'))).flatten t
      ((Selection.endpoint name).call cfg rr).1 (by rw [hmoved]; decide)
    have hback : rr'.count m.name = 0 := by rw [hcount, hmoved, Nat.mod_add_mod, ht]
    have hindex : chosenIndex ((Selection.endpoint name).call cfg rr).2 = some 0 := by
      refine (selectEndpoint_index hm hne).trans ?_
      rw [hzero, Nat.zero_mod]
    rw [List.replicate_succ, List.flatten_cons, List.cons_append, picksFor, if_pos (isFor_iff.2 hm), hindex, hpicks,
      ih rr' hback]
    rfl

/-- Another model of the same name would move the counter. -/
theorem alone_of_proportional (hm : cfg.findModel name = some m) (hweights : ∀ ep ∈ m.endpoints, 0 < ep.weight)
    (hlen : 1 < m.endpoints.length) (h : Proportional cfg m) {name' : String} {other : ModelConfig}
    (hother : cfg.findModel name' = some other) (hname : other.name = m.name) (hne' : other.endpoints ≠ []) :
    other = m := by
  by_contra hdiff
  have hne : m.endpoints ≠ [] := fun hnil => by rw [hnil] at hlen; cases hlen
  obtain ⟨t, ht⟩ : ∃ t, (1 + t) % 2 ^ 64 = 0 := ⟨2 ^ 64 - 1, rfl⟩
  have hstuck := picksFor_stuck hm hne hother hne' hname hdiff ht m.totalWeight .new rfl
  have hfree : ∀ c ∈ (List.replicate m.totalWeight
      (Selection.endpoint name :: List.replicate t (.endpoint name'))).flatten, c.Free := by
    intro c hc
    obtain ⟨block, hblock, hc⟩ := List.mem_flatten.1 hc
    obtain rfl := List.eq_of_mem_replicate hblock
    rcases List.mem_cons.1 hc with rfl | hc
    · trivial
    · rw [List.eq_of_mem_replicate hc]
      trivial
  have hcount := h _ (fun c hc _ => hfree c hc) 0 1 (by rw [hstuck, List.length_replicate]; omega) 1 hlen
  have hpos := weightAt_pos hweights hlen
  rw [hstuck, Nat.one_mul, Nat.one_mul, List.drop_zero, List.take_of_length_le (by simp), List.count_replicate,
    if_neg (by simp)] at hcount
  omega

end

/-- **The round robin has the weights** exactly for these models. -/
theorem proportional_iff {cfg : AppConfig} {m : ModelConfig} {name : String} (hm : cfg.findModel name = some m)
    (hne : m.endpoints ≠ []) (hweights : ∀ ep ∈ m.endpoints, 0 < ep.weight) :
    Proportional cfg m ↔ m.Rotates cfg := by
  have hpos : 0 < m.endpoints.length := List.length_pos_iff.2 hne
  have hexact := @exact_iff (2 ^ 64) m.endpoints.length (by decide) hpos m.weightAt
  constructor
  · intro h
    refine ⟨hexact.1 fun i hi start => windows_of_proportional hm hne h hi start,
      fun ep hep => keys_of_proportional hm hweights h hep, ?_⟩
    rcases Nat.lt_or_eq_of_le hpos with hlt | heq
    · exact Or.inr fun name' other hother hname hne' => alone_of_proportional hm hweights hlt h hother hname hne'
    · exact Or.inl heq.symm
  · exact fun h => proportional_of_windows hne h.keys h.alone (hexact.2 h.weights)

/-- With equal weights, all traffic of a router that has not yet made `2 ^ 64` selections for the model is
proportional, whatever the number of endpoints. -/
theorem equal_weights_before_wrap {cfg : AppConfig} {m : ModelConfig} (hne : m.endpoints ≠ [])
    (hkeys : ∀ ep ∈ m.endpoints, ∃ k, Balancer.epKey ep.url ep.key = .ok k)
    (halone : ∀ name other, cfg.findModel name = some other → other.name = m.name → other.endpoints ≠ [] → other = m)
    (hequal : ∀ i < m.endpoints.length, m.weightAt i = m.weightAt 0) {calls : List Selection}
    (hfree : ∀ c ∈ calls, c.isFor cfg m = true → c.Free) (hfew : (picksFor cfg m .new calls).length ≤ 2 ^ 64)
    {start k i : Nat} (hlen : start + k * m.totalWeight ≤ (picksFor cfg m .new calls).length)
    (hi : i < m.endpoints.length) :
    (((picksFor cfg m .new calls).drop start).take (k * m.totalWeight)).count (some i) = k * m.weightAt i := by
  have htotal : k * m.totalWeight = k * m.weightAt 0 * m.endpoints.length := by
    unfold ModelConfig.totalWeight
    rw [Finset.sum_const_nat fun i hi => hequal i (Finset.mem_range.1 hi), Finset.card_range, Nat.mul_assoc,
      Nat.mul_comm (m.weightAt 0)]
  rw [picksFor_turns hne calls .new 0 (fun c hc hfor rr => call_index (isFor_iff.1 hfor) hne (hfree c hc hfor) hkeys)
    (Or.inr fun c _ hfor rr => call_count_other halone hfor rr) (Or.inr rfl), count_stretch _ _ hlen, htotal,
    hequal i hi]
  exact window_before_wrap hi (by omega)

/-- A model of two endpoints with these weights. -/
def weightedModel (w w' : Nat) : ModelConfig where
  name := "gpt-4o-weighted"
  aliases := []
  modelType := "chat"
  endpoints :=
    [{ url := "https://api.openai.com", key := "sk-primary-key", limits := none, cost := none, weight := w },
     { url := "https://api.openai.com", key := "sk-secondary-key", limits := none, cost := none, weight := w' }]

def weightedConfig (w w' : Nat) : AppConfig := { singleConfig with models := [weightedModel w w'] }

theorem weightedConfig_finds {w w' : Nat} {name : String} {m : ModelConfig}
    (h : (weightedConfig w w').findModel name = some m) : m = weightedModel w w' :=
  List.mem_singleton.1 (List.mem_of_find?_eq_some h)

/-- Equal weights on two endpoints. -/
theorem equal_weights_proportional : Proportional (weightedConfig 1 1) (weightedModel 1 1) := by
  have hm : (weightedConfig 1 1).findModel "gpt-4o-weighted" = some (weightedModel 1 1) := by decide
  have hweights : ∀ ep ∈ (weightedModel 1 1).endpoints, 0 < ep.weight := by decide
  refine (proportional_iff hm (by simp [weightedModel]) hweights).2 ⟨Or.inl ⟨by decide, by decide⟩, ?_, Or.inr ?_⟩
  · intro ep hep
    rcases List.mem_cons.1 hep with rfl | hep
    · exact ⟨_, rfl⟩
    · obtain rfl := List.mem_singleton.1 hep
      exact ⟨_, rfl⟩
  · exact fun name other hother _ _ => weightedConfig_finds hother

/-- With weights 1 and 2 the first three selections take the first endpoint twice. -/
theorem weights_not_read :
    (weightedConfig 1 2).Accepted ∧ ¬ Proportional (weightedConfig 1 2) (weightedModel 1 2) := by
  refine ⟨rfl, fun h => ?_⟩
  have hpicks : picksFor (weightedConfig 1 2) (weightedModel 1 2) .new
      (List.replicate 3 (.endpoint "gpt-4o-weighted")) = [some 0, some 1, some 0] := by decide
  have htotal : (weightedModel 1 2).totalWeight = 3 := by decide
  have hcount := h (List.replicate 3 (.endpoint "gpt-4o-weighted"))
    (fun c hc _ => by rw [List.eq_of_mem_replicate hc]; trivial) 0 1 (by rw [hpicks, htotal]; decide) 0 (by decide)
  rw [hpicks, htotal] at hcount
  exact absurd hcount (by decide)

end AiRouter
