/-
# Loops that run against an outside world

A `loop { .. }` whose body either goes round again with a new state or leaves with a result.
The body also gets the number of the turn, through which it reads what the outside world does
in that turn. `run` gives the loop fuel; the rules below say what holds of every state it
reaches (`run_sat`), when it leaves (`run_exits`) and when it never does (`run_goes_round`).
-/
namespace Loop

variable {σ ε : Type}

/-- What one turn of a loop comes to. -/
inductive Flow (σ ε : Type) where
  | next (s : σ)
  | exit (s : σ) (e : ε)

namespace Flow

def state : Flow σ ε → σ
  | .next s => s
  | .exit s _ => s

/-- The result, once the loop has been left. -/
def result : Flow σ ε → Option ε
  | .next _ => none
  | .exit _ e => some e

@[simp] theorem state_next (s : σ) : (Flow.next s : Flow σ ε).state = s := rfl
@[simp] theorem state_exit (s : σ) (e : ε) : (Flow.exit s e).state = s := rfl
@[simp] theorem result_next (s : σ) : (Flow.next s : Flow σ ε).result = none := rfl
@[simp] theorem result_exit (s : σ) (e : ε) : (Flow.exit s e).result = some e := rfl

/-- `Inv` where the loop goes round, `Post` where it is left. -/
def Sat (Inv : σ → Prop) (Post : σ → ε → Prop) : Flow σ ε → Prop
  | .next s => Inv s
  | .exit s e => Post s e

/-- What holds either way holds of the state. -/
theorem Sat.state {P : σ → Prop} {f : Flow σ ε} (h : f.Sat P (fun s _ => P s)) : P f.state := by
  cases f with
  | next s => exact h
  | exit s e => exact h

theorem sat_of_state {P : σ → Prop} {f : Flow σ ε} (h : P f.state) : f.Sat P (fun s _ => P s) := by
  cases f with
  | next s => exact h
  | exit s e => exact h

theorem Sat.mono {Inv Inv' : σ → Prop} {Post Post' : σ → ε → Prop} {f : Flow σ ε}
    (h : f.Sat Inv Post) (hinv : ∀ s, Inv s → Inv' s) (hpost : ∀ s e, Post s e → Post' s e) :
    f.Sat Inv' Post' := by
  cases f with
  | next s => exact hinv s h
  | exit s e => exact hpost s e h

theorem Sat.and {Inv Inv' : σ → Prop} {Post Post' : σ → ε → Prop} {f : Flow σ ε} (h : f.Sat Inv Post)
    (h' : f.Sat Inv' Post') : f.Sat (fun s => Inv s ∧ Inv' s) (fun s e => Post s e ∧ Post' s e) := by
  cases f with
  | next s => exact ⟨h, h'⟩
  | exit s e => exact ⟨h, h'⟩

/-- The same outcome of renamed states and results. -/
def map {τ δ : Type} (g : σ → τ) (h : ε → δ) : Flow σ ε → Flow τ δ
  | .next s => .next (g s)
  | .exit s e => .exit (g s) (h e)

end Flow

/-- At most `fuel` turns of the loop, numbered from `k`. -/
def run (body : Nat → σ → Flow σ ε) : Nat → Nat → σ → Flow σ ε
  | 0, _, s => .next s
  | fuel + 1, k, s =>
    match body k s with
    | .next s' => run body fuel (k + 1) s'
    | .exit s' e => .exit s' e

variable {body body' : Nat → σ → Flow σ ε}

theorem run_succ (fuel k : Nat) (s : σ) :
    run body (fuel + 1) k s = match body k s with
      | .next s' => run body fuel (k + 1) s'
      | .exit s' e => .exit s' e := rfl

theorem run_one_state (k : Nat) (s : σ) : (run body 1 k s).state = (body k s).state := by
  rw [run_succ]
  cases body k s <;> rfl

/-- The last of the turns, where the loop has gone round before it. -/
theorem run_next {fuel : Nat} : ∀ {k : Nat} {s s' : σ}, run body fuel k s = .next s' →
    run body (fuel + 1) k s = body (k + fuel) s' := by
  induction fuel with
  | zero =>
    intro k s s' h
    cases h
    rw [run_succ]
    cases body k s <;> simp [run]
  | succ fuel ih =>
    intro k s s' h
    rw [run_succ] at h ⊢
    cases hb : body k s with
    | next s₁ =>
      rw [hb] at h
      have hlast := ih h
      rw [show k + 1 + fuel = k + (fuel + 1) by omega] at hlast
      exact hlast
    | exit s₁ e =>
      rw [hb] at h
      cases h

/-- A loop that has been left stays left, whatever more fuel. -/
theorem run_exit {fuel : Nat} : ∀ {k : Nat} {s s' : σ} {e : ε}, run body fuel k s = .exit s' e →
    run body (fuel + 1) k s = .exit s' e := by
  induction fuel with
  | zero =>
    intro k s s' e h
    cases h
  | succ fuel ih =>
    intro k s s' e h
    rw [run_succ] at h ⊢
    cases hb : body k s with
    | next s₁ =>
      rw [hb] at h
      exact ih h
    | exit s₁ e₁ =>
      rw [hb] at h
      exact h

/-- A loop that has gone round once more has gone round before, and then in its last turn. -/
theorem run_succ_next {fuel k : Nat} {s s' : σ} (h : run body (fuel + 1) k s = .next s') :
    ∃ before, run body fuel k s = .next before ∧ body (k + fuel) before = .next s' := by
  cases hbefore : run body fuel k s with
  | next before => exact ⟨before, rfl, (run_next hbefore).symm.trans h⟩
  | exit before e =>
    rw [run_exit hbefore] at h
    cases h

/-- **Invariant rule**, for an invariant that knows the number of the turn. -/
theorem run_sat_at {Inv : Nat → σ → Prop} {Post : σ → ε → Prop}
    (hstep : ∀ k s, Inv k s → (body k s).Sat (Inv (k + 1)) Post) :
    ∀ fuel k s, Inv k s → (run body fuel k s).Sat (Inv (k + fuel)) Post
  | 0, _, _, h => h
  | fuel + 1, k, s, h => by
    have hs := hstep k s h
    rw [run_succ, show k + (fuel + 1) = k + 1 + fuel by omega]
    cases hb : body k s with
    | next s' => rw [hb] at hs; exact run_sat_at hstep fuel (k + 1) s' hs
    | exit s' e => rw [hb] at hs; exact hs

/-- **Invariant rule.** -/
theorem run_sat {Inv : σ → Prop} {Post : σ → ε → Prop} (hstep : ∀ k s, Inv s → (body k s).Sat Inv Post)
    (fuel k : Nat) (s : σ) (h : Inv s) : (run body fuel k s).Sat Inv Post :=
  run_sat_at (fun k s hs => hstep k s hs) fuel k s h

/-- **Renaming rule.** A body that does the same to renamed states does so in any number of turns. -/
theorem run_map {τ δ : Type} {g : σ → τ} {h : ε → δ} {renamed : Nat → τ → Flow τ δ}
    (hstep : ∀ k s, renamed k (g s) = (body k s).map g h) :
    ∀ fuel k s, run renamed fuel k (g s) = (run body fuel k s).map g h
  | 0, _, _ => rfl
  | fuel + 1, k, s => by
    rw [run_succ, run_succ, hstep]
    cases body k s with
    | next s' => exact run_map hstep fuel (k + 1) s'
    | exit s' e => rfl

/-- **Termination rule.** A measure that is positive wherever the invariant holds and that
every further turn lowers bounds the number of turns. -/
theorem run_exits (Inv : σ → Prop) (μ : σ → Nat) (hpos : ∀ s, Inv s → 0 < μ s)
    (hstep : ∀ k s, Inv s → (body k s).Sat (fun s' => Inv s' ∧ μ s' < μ s) (fun _ _ => True)) :
    ∀ fuel k s, Inv s → μ s ≤ fuel → ∃ s' e, run body fuel k s = .exit s' e
  | 0, _, s, h, hf => by have := hpos s h; omega
  | fuel + 1, k, s, h, hf => by
    have hs := hstep k s h
    rw [run_succ]
    cases hb : body k s with
    | next s' =>
      rw [hb] at hs
      obtain ⟨hinv, hlt⟩ := hs
      exact run_exits Inv μ hpos hstep fuel (k + 1) s' hinv (by omega)
    | exit s' e => exact ⟨s', e, rfl⟩

/-- **Divergence rule.** A body that always goes round is never left, whatever the fuel. -/
theorem run_goes_round {Inv : σ → Prop} (hstep : ∀ k s, Inv s → ∃ s', body k s = .next s' ∧ Inv s') :
    ∀ fuel k s, Inv s → ∃ s', run body fuel k s = .next s' ∧ Inv s'
  | 0, _, s, h => ⟨s, rfl, h⟩
  | fuel + 1, k, s, h => by
    obtain ⟨s', hb, hinv⟩ := hstep k s h
    rw [run_succ, hb]
    exact run_goes_round hstep fuel (k + 1) s' hinv

/-- What every turn extends, the run extends: from the first turn on. -/
theorem run_extends {le : σ → σ → Prop} (hrefl : ∀ s, le s s)
    (htrans : ∀ {s s' s''}, le s s' → le s' s'' → le s s'')
    (hstep : ∀ k s, le s (body k s).state) : ∀ fuel k s, le (body k s).state (run body (fuel + 1) k s).state
  | 0, k, s => by
    rw [run_one_state]
    exact hrefl _
  | fuel + 1, k, s => by
    rw [run_succ]
    cases body k s with
    | next s' => exact htrans (hstep (k + 1) s') (run_extends hrefl htrans hstep fuel (k + 1) s')
    | exit s' e => exact hrefl s'

/-- **Lockstep rule.** Two loops in one state, whose turns go on to one state or stop the first of
the two: what holds where it stops, however long the second goes on, holds after any number of turns. -/
theorem run_lockstep {R : Nat → σ → Prop} {Q : Flow σ ε → Flow σ ε → Prop}
    (hnext : ∀ s, Q (.next s) (.next s))
    (hstep : ∀ k s, R k s → (∃ s', body k s = .next s' ∧ body' k s = .next s' ∧ R (k + 1) s') ∨
      (∃ s' e, body k s = .exit s' e ∧ ∀ fuel, Q (.exit s' e) (run body' (fuel + 1) k s))) :
    ∀ fuel k s, R k s → Q (run body fuel k s) (run body' fuel k s)
  | 0, _, s, _ => hnext s
  | fuel + 1, k, s, h => by
    rcases hstep k s h with ⟨s', hb, hb', hR⟩ | ⟨s', e, hb, hQ⟩
    · rw [run_succ, run_succ, hb, hb']
      exact run_lockstep hnext hstep fuel (k + 1) s' hR
    · rw [run_succ fuel k s, hb]
      exact hQ fuel

end Loop
