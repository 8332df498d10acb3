import AiRouter.TpmHistory

/-
# The figure on `/stats`: `window_remaining` (limiter.rs:123-134)

The window starts where the last reset fell, and a reset comes with the first charge or reading more than
60 s later. What was charged before it is no longer counted, however recent it is.
-/
namespace AiRouter

namespace TpmLimiter

def minute : Nat := 60 * 10 ^ 9

/-! ## Sums of charges -/

def total (p : Debit → Bool) (debits : List Debit) : Nat := ((debits.filter p).map (·.tokens)).sum

section
variable {p q : Debit → Bool} {l l' : List Debit}

@[simp] theorem total_nil (p : Debit → Bool) : total p [] = 0 := rfl

theorem total_append (p : Debit → Bool) (l l' : List Debit) : total p (l ++ l') = total p l + total p l' := by
  simp [total, List.filter_append]

theorem total_congr (h : ∀ d ∈ l, p d = q d) : total p l = total q l := by
  unfold total
  rw [List.filter_congr h]

theorem total_all (h : ∀ d ∈ l, p d = true) : total p l = (l.map (·.tokens)).sum := by
  unfold total
  rw [List.filter_eq_self.2 h]

theorem total_none (h : ∀ d ∈ l, p d = false) : total p l = 0 := by
  unfold total
  rw [List.filter_eq_nil_iff.2 (by simpa using h)]
  rfl

/-- A sum falls into two. -/
theorem total_split (p q : Debit → Bool) (l : List Debit) :
    total p l = total (fun d => p d && q d) l + total (fun d => p d && !q d) l := by
  induction l with
  | nil => rfl
  | cons d l ih =>
    have hcons : ∀ r : Debit → Bool, total r (d :: l) = total r [d] + total r l := fun r => total_append r [d] l
    rw [hcons, hcons, hcons, ih]
    cases hp : p d <;> cases hq : q d <;> simp [total, hp, hq] <;> omega

end

/-! ## The window -/

structure Window where
  start : Nat
  consumed : Nat
deriving DecidableEq, Repr

def window (l : TpmLimiter) : Window where
  start := l.state.windowStart
  consumed := l.state.windowConsumed

/-- What `n` tokens make of the window: a new one once more than a minute has passed. -/
def Window.slide (w : Window) (n now : Nat) : Window :=
  if minute < now - w.start then { start := now, consumed := n }
  else { start := w.start, consumed := satAddU64 w.consumed n }

/-- The start of the window that a reading at `t` finds. -/
def windowStartAt (l : TpmLimiter) (t : Nat) : Nat :=
  if minute < t - l.state.windowStart then t else l.state.windowStart

def Op.amount : Op → Nat
  | .checkN n => n
  | .consumeN n => n
  | _ => 0

theorem refill_window (s : TpmState) (capacity now : Nat) :
    (refill s capacity now).windowStart = s.windowStart ∧ (refill s capacity now).windowConsumed = s.windowConsumed := by
  unfold refill
  dsimp only
  split <;> exact ⟨rfl, rfl⟩

theorem track_window (s : TpmState) (n now : Nat) :
    ({ start := (track s n now).windowStart, consumed := (track s n now).windowConsumed } : Window)
      = ({ start := s.windowStart, consumed := s.windowConsumed } : Window).slide n now := by
  unfold track Window.slide minute
  dsimp only
  split <;> rfl

/-- **A call** leaves the window alone and charges nothing, or moves it by what it charges. -/
theorem call_window {l : TpmLimiter} (c : Call) (hconsumed : l.state.windowConsumed < 2 ^ 64) :
    (l.debits c = [] ∧ (l.call c).window = l.window) ∨
      (∃ n ≤ c.op.amount, (l.call c).window = l.window.slide n c.now ∧
        (l.debits c = [] ∧ n = 0 ∨ ∃ checked, l.debits c = [⟨c.now, n, checked⟩])) := by
  obtain ⟨now, op⟩ := c
  obtain ⟨hstart, hsame⟩ := refill_window l.state l.capacity now
  cases op with
  | checkN n =>
    unfold debits call checkN window
    dsimp only
    split
    · refine Or.inr ⟨n, le_refl _, ?_, Or.inr ⟨true, rfl⟩⟩
      rw [track_window]
      dsimp only
      rw [hstart, hsame]
    · refine Or.inl ⟨rfl, ?_⟩
      rw [hstart, hsame]
  | consumeN n =>
    refine Or.inr ⟨n, le_refl _, ?_, Or.inr ⟨false, rfl⟩⟩
    unfold call consumeN window
    dsimp only
    rw [track_window]
    dsimp only
    rw [hstart, hsame]
  | remaining =>
    refine Or.inl ⟨rfl, ?_⟩
    unfold call refilled window
    dsimp only
    rw [hstart, hsame]
  | windowRemaining =>
    refine Or.inr ⟨0, le_refl _, ?_, Or.inl ⟨rfl, rfl⟩⟩
    unfold call windowRemaining window Window.slide minute satAddU64
    dsimp only
    split
    · rfl
    · have : min (l.state.windowConsumed + 0) (2 ^ 64 - 1) = l.state.windowConsumed := by omega
      rw [this]

namespace History

/-- Charged in the 60 seconds before `t`. -/
def chargedBefore (h : History) (t : Nat) : Nat := total (fun d => t ≤ d.now + minute) h.debits

/-- Charged since the start of the window that a reading at `t` finds. -/
def inWindow (h : History) (t : Nat) : Nat := total (fun d => h.limiter.windowStartAt t ≤ d.now) h.debits

/-- Charged in the 60 seconds before `t`, but before that window. -/
def missed (h : History) (t : Nat) : Nat :=
  total (fun d => t ≤ d.now + minute && !decide (h.limiter.windowStartAt t ≤ d.now)) h.debits

theorem chargedBefore_eq (h : History) (t : Nat) : h.chargedBefore t = h.inWindow t + h.missed t := by
  unfold chargedBefore missed inWindow
  rw [total_split _ fun d => decide (h.limiter.windowStartAt t ≤ d.now)]
  congr 1
  refine total_congr fun d _ => ?_
  by_cases hstart : h.limiter.windowStartAt t ≤ d.now
  · have hrecent : t ≤ d.now + minute := by
      unfold windowStartAt minute at *
      split at hstart <;> omega
    simp [hstart, hrecent]
  · simp [hstart]

/-- No charge lies a minute after the window's start, and the window counts those since its start. -/
structure Tracks (h : History) : Prop where
  start_le : h.limiter.state.windowStart ≤ h.clock
  debit_le : ∀ d ∈ h.debits, d.now ≤ h.clock ∧ d.now ≤ h.limiter.state.windowStart + minute
  consumed : h.limiter.state.windowConsumed
    = min (total (fun d => h.limiter.state.windowStart ≤ d.now) h.debits) (2 ^ 64 - 1)

theorem Tracks.start (capacity created : Nat) : (start capacity created).Tracks :=
  ⟨le_refl _, fun _ hd => absurd hd (by simp [History.start]), rfl⟩

/-- **Step**, when the window moves by `n` tokens. -/
theorem Tracks.slide {h h' : History} {n now : Nat} {charge : List Debit} (hold : h.Tracks) (hnow : h.clock ≤ now)
    (hn : n < 2 ^ 64) (hclock : h'.clock = now) (hdebits : h'.debits = h.debits ++ charge)
    (hwindow : h'.limiter.window = h.limiter.window.slide n now)
    (hcharge : charge = [] ∧ n = 0 ∨ ∃ checked, charge = [⟨now, n, checked⟩]) : h'.Tracks := by
  obtain ⟨hstart, hdebit, hconsumed⟩ := hold
  have hstart' := congrArg Window.start hwindow
  have hconsumed' := congrArg Window.consumed hwindow
  have hsum : (charge.map (·.tokens)).sum = n := by
    rcases hcharge with ⟨rfl, rfl⟩ | ⟨checked, rfl⟩ <;> rfl
  have hat : ∀ d ∈ charge, d.now = now := by
    rcases hcharge with ⟨rfl, -⟩ | ⟨checked, rfl⟩ <;> simp
  have hinside : h.limiter.state.windowStart ≤ h'.limiter.state.windowStart →
      now ≤ h'.limiter.state.windowStart + minute →
      ∀ d ∈ h'.debits, d.now ≤ h'.clock ∧ d.now ≤ h'.limiter.state.windowStart + minute := by
    intro hlater hminute d hd
    rw [hdebits, List.mem_append] at hd
    rcases hd with hd | hd
    · have := hdebit d hd
      omega
    · have := hat d hd
      omega
  unfold Window.slide window at hstart' hconsumed'
  by_cases hlate : minute < now - h.limiter.state.windowStart
  · -- a new window: every earlier charge lies before it
    simp only [hlate, if_true] at hstart' hconsumed'
    refine ⟨by omega, hinside (by omega) (by omega), ?_⟩
    · rw [hstart', hconsumed', hdebits, total_append, total_none, total_all, hsum]
      · omega
      · exact fun d hd => decide_eq_true (hat d hd).ge
      · intro d hd
        have := hdebit d hd
        exact decide_eq_false (by omega)
  · simp only [hlate, if_false] at hstart' hconsumed'
    refine ⟨by omega, hinside (by omega) (by omega), ?_⟩
    · have hall : ∀ d ∈ charge, decide (h.limiter.state.windowStart ≤ d.now) = true := by
        intro d hd
        have := hat d hd
        exact decide_eq_true (by omega)
      rw [hstart', hconsumed', hdebits, total_append, total_all hall, hsum, hconsumed]
      unfold satAddU64
      omega

theorem Tracks.call {h : History} {c : Call} (hold : h.Tracks) (hnow : h.clock ≤ c.now) (hamount : c.op.amount < 2 ^ 64) :
    (h.call c).Tracks := by
  have hconsumed : h.limiter.state.windowConsumed < 2 ^ 64 := by
    rw [hold.consumed]
    omega
  rcases call_window c hconsumed with ⟨hdebits, hwindow⟩ | ⟨n, hn, hwindow, hcharge⟩
  · have hstart := congrArg Window.start hwindow
    have hsame := congrArg Window.consumed hwindow
    simp only [window] at hstart hsame
    refine ⟨?_, ?_, ?_⟩
    · exact hstart.le.trans (hold.start_le.trans hnow)
    · simp only [History.call, hdebits, List.append_nil, hstart]
      exact fun d hd => ⟨(hold.debit_le d hd).1.trans hnow, (hold.debit_le d hd).2⟩
    · simp only [History.call, hdebits, List.append_nil, hstart, hsame]
      exact hold.consumed
  · exact hold.slide hnow (hn.trans_lt hamount) rfl rfl hwindow hcharge

theorem Tracks.windowRemaining {h : History} (hold : h.Tracks) (t : Nat) :
    (h.limiter.windowRemaining t).2
      = satSubI64 (asI64 h.limiter.capacity) (asI64 (min (h.inWindow t) (2 ^ 64 - 1) : Nat)) := by
  unfold TpmLimiter.windowRemaining inWindow windowStartAt minute
  dsimp only
  split
  · rename_i hlate
    rw [total_none]
    · rfl
    · intro d hd
      have := (hold.debit_le d hd).2
      unfold minute at this
      exact decide_eq_false (by omega)
  · rw [hold.consumed]

end History

/-! ## What `/stats` shows -/

theorem asI64_u64 {n : Nat} (hn : n < 2 ^ 64) : asI64 n = if n < 2 ^ 63 then (n : Int) else n - 2 ^ 64 := by
  split
  · exact asI64_of_fits (by omega) (by omega)
  · have hwrap : asI64 ((n : Int) - 2 ^ 64) = asI64 n := by
      unfold asI64
      exact Int.sub_bmod_right _ _
    rw [← hwrap]
    exact asI64_of_fits (by omega) (by omega)

/-- Nothing recent is missed and the sum is in range; a capacity that is not in range leaves room below. -/
def History.Covers (h : History) (t : Nat) : Prop :=
  if h.limiter.capacity < 2 ^ 63 then h.inWindow t < 2 ^ 63 ∧ h.missed t = 0
  else if h.inWindow t < 2 ^ 63 then h.missed t ≤ 2 ^ 64 ∧ h.chargedBefore t ≤ h.limiter.capacity + 2 ^ 63
  else h.inWindow t < 2 ^ 64 ∧ h.missed t = 0

instance (h : History) (t : Nat) : Decidable (h.Covers t) :=
  inferInstanceAs (Decidable (if h.limiter.capacity < 2 ^ 63 then h.inWindow t < 2 ^ 63 ∧ h.missed t = 0
    else if h.inWindow t < 2 ^ 63 then h.missed t ≤ 2 ^ 64 ∧ h.chargedBefore t ≤ h.limiter.capacity + 2 ^ 63
    else h.inWindow t < 2 ^ 64 ∧ h.missed t = 0))

theorem History.run_capacity (h : History) (calls : List Call) :
    (Steps.run History.call h calls).limiter.capacity = h.limiter.capacity := by
  refine Steps.run_keeps (P := fun _ _ => True) (I := fun h' => h'.limiter.capacity = h.limiter.capacity)
    (fun h' c _ hcapacity => ?_) calls h (Steps.every_true calls h) rfl
  exact (call_capacity h'.limiter c).trans hcapacity

/-- **The figure never overstates what is left** exactly where the window covers what was charged in the 60
seconds before. -/
theorem windowRemaining_le_iff {capacity created : Nat} (hcapacity : capacity < 2 ^ 64) {calls : List Call}
    (hcalls : Steps.Every History.call (fun h c => h.clock ≤ c.now ∧ c.op.amount < 2 ^ 64) (.start capacity created) calls)
    (t : Nat) :
    ((Steps.run History.call (.start capacity created) calls).limiter.windowRemaining t).2
        ≤ (capacity : Int) - (Steps.run History.call (.start capacity created) calls).chargedBefore t ↔
      (Steps.run History.call (.start capacity created) calls).Covers t := by
  have hrun := Steps.run_keeps (I := History.Tracks) (fun h c hgood hold => hold.call hgood.1 hgood.2) calls _ hcalls
    (.start capacity created)
  have hcap : (Steps.run History.call (.start capacity created) calls).limiter.capacity = capacity :=
    History.run_capacity (.start capacity created) calls
  generalize Steps.run History.call (.start capacity created) calls = h at hrun hcap ⊢
  have hsplit := h.chargedBefore_eq t
  rw [hrun.windowRemaining t, hcap, asI64_u64 hcapacity, asI64_u64 (by omega)]
  unfold History.Covers satSubI64
  rw [hcap]
  -- the four ways the two casts fall
  split_ifs <;> omega

/-- Both charges of 30 tokens fall into the window that starts with the limiter. -/
theorem window_covers :
    ((Steps.run History.call (.start 100 0) [⟨10000000000, .consumeN 30⟩, ⟨50000000000, .checkN 30⟩]).limiter.windowRemaining
        60000000000).2
      ≤ ((100 : Nat) : Int) - (Steps.run History.call (.start 100 0)
        [⟨10000000000, .consumeN 30⟩, ⟨50000000000, .checkN 30⟩]).chargedBefore 60000000000 :=
  (@windowRemaining_le_iff 100 0 (by decide) [⟨10000000000, .consumeN 30⟩, ⟨50000000000, .checkN 30⟩] (by decide)
    60000000000).2 (by decide)

/-- 50 tokens charged at 59 s are gone from the figure at 61 s, when the reading starts a new window. -/
theorem window_forgets :
    ((Steps.run History.call (.start 100 0) [⟨59000000000, .consumeN 50⟩]).limiter.windowRemaining 61000000000).2 = 100 ∧
      (Steps.run History.call (.start 100 0) [⟨59000000000, .consumeN 50⟩]).chargedBefore 61000000000 = 50 ∧
      ¬ ((Steps.run History.call (.start 100 0) [⟨59000000000, .consumeN 50⟩]).limiter.windowRemaining 61000000000).2
        ≤ ((100 : Nat) : Int)
          - (Steps.run History.call (.start 100 0) [⟨59000000000, .consumeN 50⟩]).chargedBefore 61000000000 := by
  refine ⟨by decide, by decide, by decide⟩

end TpmLimiter

end AiRouter
