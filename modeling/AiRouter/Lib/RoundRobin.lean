import Mathlib.Algebra.BigOperators.Group.Finset.Basic
import Mathlib.Algebra.BigOperators.Ring.Finset
import Mathlib.Data.Nat.Count
import Mathlib.Data.Int.GCD
import Mathlib.Data.Nat.ModEq

/-
# Round robin on a counter that wraps

A turn takes the counter modulo the number of places and moves the counter on, modulo its own range. `exact_iff` says
for which shares every stretch of turns of their sum's length gives each place its share.
-/
namespace RoundRobin

/-- How many of the `len` numbers from `start` on have the property. -/
def window (p : Nat → Prop) [DecidablePred p] (start len : Nat) : Nat := Nat.count (fun k => p (start + k)) len

/-- The place of the `j`-th turn, with a counter below `M` and `n` places. -/
def pick (M n j : Nat) : Nat := j % M % n

/-- How many values of the counter belong to the place. -/
def share (M n i : Nat) : Nat := Nat.count (fun c => c % n = i) M

/-- The places of one pass, from `start` on. -/
def pass (start n : Nat) : List Nat := (List.range n).map fun d => (start + d) % n

/-! ## One pass -/

theorem pass_nodup (start n : Nat) : (pass start n).Nodup := by
  refine List.Nodup.map_on ?_ List.nodup_range
  intro d hd d' hd' heq
  have hmod : d % n = d' % n := Nat.ModEq.add_left_cancel' start heq
  rwa [Nat.mod_eq_of_lt (List.mem_range.1 hd), Nat.mod_eq_of_lt (List.mem_range.1 hd')] at hmod

/-- A pass comes to every place. -/
theorem mem_pass {start n i : Nat} : i ∈ pass start n ↔ i < n := by
  have hsub : pass start n ⊆ List.range n := by
    intro j hj
    obtain ⟨d, hd, rfl⟩ := List.mem_map.1 hj
    have hpos : 0 < n := Nat.zero_lt_of_lt (List.mem_range.1 hd)
    exact List.mem_range.2 (Nat.mod_lt _ hpos)
  have hperm : (pass start n).Perm (List.range n) :=
    ((pass_nodup start n).subperm hsub).perm_of_length_le (by simp [pass])
  rw [hperm.mem_iff, List.mem_range]

/-! ## Windows -/

section
variable {p : Nat → Prop} [DecidablePred p] {start len : Nat}

theorem window_add (p : Nat → Prop) [DecidablePred p] (start a b : Nat) :
    window p start (a + b) = window p start a + window p (start + a) b := by
  unfold window
  rw [Nat.count_add]
  simp only [Nat.add_assoc]

theorem window_one (p : Nat → Prop) [DecidablePred p] (start : Nat) :
    window p start 1 = if p start then 1 else 0 := Nat.count_one _

/-- The window moved on by one loses its first number and gains the one behind it. -/
theorem window_slide (p : Nat → Prop) [DecidablePred p] (start len : Nat) :
    (if p start then 1 else 0) + window p (start + 1) len
      = window p start len + if p (start + len) then 1 else 0 := by
  rw [← window_one p start, ← window_one p (start + len), ← window_add, ← window_add, Nat.add_comm]

/-- Windows all alike have a period. -/
theorem periodic_of_window (h : ∀ start, window p (start + 1) len = window p start len) (j : Nat) :
    p (j + len) ↔ p j := by
  have hslide := window_slide p j len
  rw [h] at hslide
  by_cases hj : p j <;> by_cases hl : p (j + len) <;> simp [hj, hl] at hslide ⊢

/-- Over a period, all windows are alike. -/
theorem window_of_periodic (h : ∀ j, p (j + len) ↔ p j) (start : Nat) : window p start len = window p 0 len := by
  induction start with
  | zero => rfl
  | succ start ih =>
    have hslide := window_slide p start len
    simp only [h start] at hslide
    omega

theorem window_mul {c : Nat} (h : ∀ start, window p start len = c) (k start : Nat) :
    window p start (k * len) = k * c := by
  induction k generalizing start with
  | zero => simp [window]
  | succ k ih => rw [Nat.succ_mul, window_add, ih, h, Nat.succ_mul]

end

/-! ## Periods of the picks -/

section
variable {M n : Nat}

theorem pick_lt (hn : 0 < n) (j : Nat) : pick M n j < n := Nat.mod_lt _ hn

theorem pick_add_range (M n j : Nat) : pick M n (j + M) = pick M n j := by
  unfold pick
  rw [Nat.add_mod_right]

theorem pick_of_dvd (h : n ∣ M) (j : Nat) : pick M n j = j % n := Nat.mod_mod_of_dvd j h

/-- Two periods, one of them the counter's range, have their greatest common divisor as a period. -/
theorem period_gcd {W : Nat} (hM : 0 < M) (h : ∀ j, pick M n (j + W) = pick M n j) (j : Nat) :
    pick M n (j + W.gcd M) = pick M n j := by
  have hmul : ∀ a j, pick M n (j + a * W) = pick M n j := by
    intro a
    induction a with
    | zero => intro j; rw [Nat.zero_mul, Nat.add_zero]
    | succ a ih => intro j; rw [Nat.succ_mul, ← Nat.add_assoc, h, ih]
  have hmod : ∀ a j, pick M n (j + a % M) = pick M n (j + a) := by
    intro a j
    unfold pick
    rw [Nat.add_mod_mod]
  obtain ⟨a, ha⟩ : ∃ a, a * W % M = W.gcd M % M := by
    rcases Nat.lt_or_eq_of_le (Nat.gcd_le_right W hM) with hlt | heq
    · obtain ⟨a, _, ha⟩ := Nat.exists_mul_mod_eq_gcd hlt
      exact ⟨a, by rw [Nat.mul_comm, ha, Nat.mod_eq_of_lt hlt]⟩
    · exact ⟨0, by rw [heq, Nat.zero_mul, Nat.zero_mod, Nat.mod_self]⟩
  rw [← hmod, ← ha, hmod, hmul]

end

/-! ## Exact shares -/

section
variable {M n i : Nat}

theorem window_places (hi : i < n) (start t : Nat) : window (fun j => j % n = i) start (t * n) = t := by
  have hone : ∀ start, window (fun j => j % n = i) start n = 1 := by
    intro start
    have hperiod : ∀ j, (j + n) % n = i ↔ j % n = i := fun j => by rw [Nat.add_mod_right]
    rw [window_of_periodic hperiod start]
    unfold window
    rw [Nat.count_eq_card_filter_range, Finset.card_eq_one]
    refine ⟨i, Finset.ext fun k => ?_⟩
    rw [Finset.mem_filter, Finset.mem_range, Finset.mem_singleton, Nat.zero_add]
    constructor
    · rintro ⟨hk, heq⟩
      rwa [Nat.mod_eq_of_lt hk] at heq
    · rintro rfl
      exact ⟨hi, Nat.mod_eq_of_lt hi⟩
  rw [window_mul hone, Nat.mul_one]

/-- Where the places divide the range, every place has the same part of the counter. -/
theorem window_of_dvd (hdvd : n ∣ M) (hi : i < n) (start t : Nat) :
    window (fun j => pick M n j = i) start (t * n) = t := by
  simp only [pick_of_dvd hdvd]
  exact window_places hi start t

/-- So it has before the counter wraps for the first time, whatever its range. -/
theorem window_before_wrap (hi : i < n) {start t : Nat} (h : start + t * n ≤ M) :
    window (fun j => pick M n j = i) start (t * n) = t := by
  refine Eq.trans ?_ (window_places hi start t)
  unfold window
  rw [Nat.count_eq_card_filter_range, Nat.count_eq_card_filter_range]
  refine congrArg Finset.card (Finset.filter_congr fun k hk => ?_)
  have hlt := Finset.mem_range.1 hk
  change pick M n (start + k) = i ↔ (start + k) % n = i
  unfold pick
  rw [Nat.mod_eq_of_lt (by omega : start + k < M)]

theorem window_range (start : Nat) : window (fun j => pick M n j = i) start M = share M n i := by
  rw [window_of_periodic (fun j => by rw [pick_add_range])]
  unfold window share
  rw [Nat.count_eq_card_filter_range, Nat.count_eq_card_filter_range]
  refine congrArg Finset.card (Finset.filter_congr fun c hc => ?_)
  change pick M n (0 + c) = i ↔ c % n = i
  unfold pick
  rw [Nat.zero_add, Nat.mod_eq_of_lt (Finset.mem_range.1 hc)]

theorem sum_share (hn : 0 < n) : ∑ i ∈ Finset.range n, share M n i = M := by
  have hplace : Set.MapsTo (· % n) (Finset.range M : Set Nat) (Finset.range n : Set Nat) :=
    fun c _ => Finset.mem_coe.2 (Finset.mem_range.2 (Nat.mod_lt c hn))
  have hfibers := Finset.card_eq_sum_card_fiberwise hplace
  rw [Finset.card_range] at hfibers
  refine Eq.trans (Finset.sum_congr rfl fun i _ => ?_) hfibers.symm
  unfold share
  rw [Nat.count_eq_card_filter_range]

/-- **Exact shares**: every stretch of `W` turns gives place `i` its `w i` turns exactly when the places divide the
range of the counter and all shares are the same, or the shares are a multiple of the parts of the counter. -/
theorem exact_iff (hM : 0 < M) (hn : 0 < n) (w : Nat → Nat) :
    (∀ i < n, ∀ start, window (fun j => pick M n j = i) start (∑ i ∈ Finset.range n, w i) = w i) ↔
      (n ∣ M ∧ ∀ i < n, w i = w 0) ∨ ∃ t, ∀ i < n, w i = t * share M n i := by
  constructor
  · intro h
    have hperiod : ∀ j, pick M n (j + ∑ i ∈ Finset.range n, w i) = pick M n j := by
      intro j
      have hi := pick_lt (M := M) hn j
      have hsame : ∀ start, window (fun k => pick M n k = pick M n j) (start + 1) (∑ i ∈ Finset.range n, w i)
          = window (fun k => pick M n k = pick M n j) start (∑ i ∈ Finset.range n, w i) :=
        fun start => by rw [h _ hi, h _ hi]
      exact (periodic_of_window hsame j).2 rfl
    have hgcd := period_gcd hM hperiod 0
    rcases Nat.lt_or_eq_of_le (Nat.gcd_le_right (∑ i ∈ Finset.range n, w i) hM) with hlt | heq
    · -- the period is shorter than the range, so that the places divide it
      have hdvd : n ∣ (∑ i ∈ Finset.range n, w i).gcd M := by
        unfold pick at hgcd
        rw [Nat.zero_add, Nat.mod_eq_of_lt hlt, Nat.zero_mod, Nat.zero_mod] at hgcd
        exact Nat.dvd_of_mod_eq_zero hgcd
      have hrange : n ∣ M := hdvd.trans (Nat.gcd_dvd_right _ _)
      obtain ⟨t, ht⟩ := hdvd.trans (Nat.gcd_dvd_left _ _)
      have hw : ∀ i < n, w i = t := by
        intro i hi
        rw [← h i hi 0, ht, Nat.mul_comm]
        exact window_of_dvd hrange hi 0 t
      exact Or.inl ⟨hrange, fun i hi => by rw [hw i hi, hw 0 hn]⟩
    · obtain ⟨t, ht⟩ : M ∣ ∑ i ∈ Finset.range n, w i := by
        rw [← heq]
        exact Nat.gcd_dvd_left _ _
      refine Or.inr ⟨t, fun i hi => ?_⟩
      rw [← h i hi 0, ht, Nat.mul_comm]
      exact window_mul window_range t 0
  · rintro (⟨hdvd, hsame⟩ | ⟨t, ht⟩) i hi start
    · have hsum : ∑ i ∈ Finset.range n, w i = w 0 * n := by
        rw [Finset.sum_const_nat fun i hi => hsame i (Finset.mem_range.1 hi), Finset.card_range, Nat.mul_comm]
      rw [hsum, hsame i hi]
      exact window_of_dvd hdvd hi start (w 0)
    · have hsum : ∑ i ∈ Finset.range n, w i = t * M := by
        rw [Finset.sum_congr rfl fun i hi => ht i (Finset.mem_range.1 hi), ← Finset.mul_sum, sum_share hn]
      rw [hsum, ht i hi]
      exact window_mul window_range t start

end

/-! ## With places left out -/

/-- The first place of the pass that is up. -/
def firstUp (up : Nat → Bool) (n start : Nat) : Option Nat := (pass start n).find? up

/-- Place `i` is up, and so is the place `g` before it; the ones between them are not. -/
structure Gap (up : Nat → Bool) (n i g : Nat) : Prop where
  lt : i < n
  pos : 0 < g
  le : g ≤ n
  self : up i = true
  between : ∀ e, 0 < e → e < g → up ((i + n - e) % n) = false
  before : up ((i + n - g) % n) = true

section
variable {up : Nat → Bool} {n i g : Nat}

theorem mod_of_lt_two_mul {x : Nat} (h : x < 2 * n) : x % n = if x < n then x else x - n := by
  split
  · exact Nat.mod_eq_of_lt ‹_›
  · rw [Nat.mod_eq_sub_mod (by omega), Nat.mod_eq_of_lt (by omega)]

theorem firstUp_eq_some_iff {s : Nat} : firstUp up n s = some i ↔
    ∃ d < n, (s + d) % n = i ∧ up i = true ∧ ∀ d' < d, up ((s + d') % n) = false := by
  unfold firstUp pass
  rw [List.find?_map, Option.map_eq_some_iff]
  constructor
  · rintro ⟨d, hfind, rfl⟩
    obtain ⟨hup, hd, hbefore⟩ := List.find?_range_eq_some.1 hfind
    exact ⟨d, List.mem_range.1 hd, rfl, hup, fun d' hd' => by simpa using hbefore d' hd'⟩
  · rintro ⟨d, hd, rfl, hup, hbefore⟩
    exact ⟨d, List.find?_range_eq_some.2 ⟨hup, List.mem_range.2 hd, fun d' hd' => by simpa using hbefore d' hd'⟩, rfl⟩

/-- Going back from place `i` is going on from any other, not as far. -/
theorem back_eq {s e : Nat} (hi : i < n) (hs : s < n) (he : e ≤ (i + n - s) % n) :
    (s + ((i + n - s) % n - e)) % n = (i + n - e) % n := by
  rw [mod_of_lt_two_mul (x := i + n - s) (by omega)] at he ⊢
  have hlt : s + ((if i + n - s < n then i + n - s else i + n - s - n) - e) < 2 * n := by split <;> omega
  rw [mod_of_lt_two_mul hlt, mod_of_lt_two_mul (x := i + n - e) (by split at he <;> omega)]
  split at he <;> split <;> split <;> split <;> omega

/-- The turns of a place are those that start behind the place before it that is up. -/
theorem Gap.firstUp_iff (h : Gap up n i g) {s : Nat} (hs : s < n) :
    firstUp up n s = some i ↔ (i + n - s) % n < g := by
  have hi := h.lt
  have hdist : (s + (i + n - s) % n) % n = i := by
    have hback := back_eq (e := 0) hi hs (Nat.zero_le _)
    rwa [Nat.sub_zero, Nat.sub_zero, Nat.add_mod_right, Nat.mod_eq_of_lt hi] at hback
  have hlt : (i + n - s) % n < n := Nat.mod_lt _ (by omega)
  rw [firstUp_eq_some_iff]
  constructor
  · rintro ⟨d, hd, hplace, -, hbefore⟩
    -- a pass comes to the place once
    have hsame : d = (i + n - s) % n := by
      have hmod : d % n = (i + n - s) % n % n := Nat.ModEq.add_left_cancel' s (hplace.trans hdist.symm)
      rwa [Nat.mod_eq_of_lt hd, Nat.mod_mod] at hmod
    by_contra hge
    have hpos := h.pos
    have hdown := hbefore (d - g) (by omega)
    rw [hsame, back_eq hi hs (by omega), h.before] at hdown
    cases hdown
  · intro hnear
    refine ⟨_, hlt, hdist, h.self, fun d' hd' => ?_⟩
    have hback := back_eq (e := (i + n - s) % n - d') hi hs (by omega)
    rw [Nat.sub_sub_self hd'.le] at hback
    rw [hback]
    exact h.between _ (by omega) (by omega)

/-- Going back twice leads to the start. -/
theorem back_back {a : Nat} (hi : i < n) (ha : a < n) : (i + n - (i + n - a) % n) % n = a := by
  rw [mod_of_lt_two_mul (x := i + n - a) (by omega), mod_of_lt_two_mul (by split <;> omega)]
  split <;> split <;> omega

/-- **Shares with places left out**: over a pass of turns, a place has one turn and those of the places right before it
that are left out. -/
theorem Gap.window_firstUp (h : Gap up n i g) (start : Nat) :
    window (fun j => firstUp up n (j % n) = some i) start n = g := by
  have hi := h.lt
  rw [window_of_periodic fun j => by rw [Nat.add_mod_right]]
  unfold window
  rw [Nat.count_eq_card_filter_range, ← Finset.card_range g]
  -- the turns, by their distance from the place
  refine Finset.card_nbij' (fun s => (i + n - s) % n) (fun e => (i + n - e) % n) ?_ ?_ ?_ ?_
  · intro s hs
    obtain ⟨hs, hfirst⟩ := Finset.mem_filter.1 hs
    have hlt := Finset.mem_range.1 hs
    rw [Nat.zero_add, Nat.mod_eq_of_lt hlt] at hfirst
    exact Finset.mem_coe.2 (Finset.mem_range.2 ((h.firstUp_iff hlt).1 hfirst))
  · intro e he
    have hge := Finset.mem_range.1 (Finset.mem_coe.1 he)
    have hlt : (i + n - e) % n < n := Nat.mod_lt _ (by omega)
    refine Finset.mem_coe.2 (Finset.mem_filter.2 ⟨Finset.mem_range.2 hlt, ?_⟩)
    rw [Nat.zero_add]
    show firstUp up n ((i + n - e) % n % n) = some i
    rw [Nat.mod_eq_of_lt hlt, h.firstUp_iff hlt, back_back hi (hge.trans_le h.le)]
    exact hge
  · intro s hs
    exact back_back hi (Finset.mem_range.1 (Finset.mem_filter.1 hs).1)
  · intro e he
    exact back_back hi ((Finset.mem_range.1 (Finset.mem_coe.1 he)).trans_le h.le)

end

end RoundRobin
