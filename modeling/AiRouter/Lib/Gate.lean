/-
# Checks in a row

A check looks at a state, may leave a mark on it, and passes or rejects. `runAll` makes a list
of checks in order and stops at the first rejection; the marks of the checks made so far stay.
-/
namespace Gate

variable {σ ρ : Type}

abbrev Check (σ ρ : Type) := σ → σ × Option ρ

/-- Make the checks in order, up to the first rejection. -/
def runAll : List (Check σ ρ) → Check σ ρ
  | [], s => (s, none)
  | g :: gs, s =>
    match g s with
    | (s', some r) => (s', some r)
    | (s', none) => runAll gs s'

/-- The marks of a list of checks, whether they reject or not. -/
def marks (gs : List (Check σ ρ)) (s : σ) : σ := gs.foldl (fun s g => (g s).1) s

@[simp] theorem marks_nil (s : σ) : marks ([] : List (Check σ ρ)) s = s := rfl
@[simp] theorem marks_cons (g : Check σ ρ) (gs : List (Check σ ρ)) (s : σ) :
    marks (g :: gs) s = marks gs (g s).1 := rfl

theorem runAll_cons (g : Check σ ρ) (gs : List (Check σ ρ)) (s : σ) :
    runAll (g :: gs) s = match (g s).2 with
      | some r => ((g s).1, some r)
      | none => runAll gs (g s).1 := by
  rw [runAll]
  rcases g s with ⟨s', _ | r⟩ <;> rfl

theorem runAll_singleton (g : Check σ ρ) (s : σ) : runAll [g] s = g s := by
  rw [runAll]
  rcases g s with ⟨s', _ | r⟩ <;> rfl

theorem runAll_append : ∀ (gs hs : List (Check σ ρ)) (s : σ), runAll (gs ++ hs) s = match (runAll gs s).2 with
      | some r => ((runAll gs s).1, some r)
      | none => runAll hs (runAll gs s).1
  | [], _, _ => rfl
  | g :: gs, hs, s => by
    rw [List.cons_append, runAll_cons, runAll_cons]
    cases (g s).2 with
    | some r => rfl
    | none => exact runAll_append gs hs (g s).1

/-- Two rows in a row: the second is checked after the first has passed. -/
theorem runAll_append_admitted : ∀ {gs hs : List (Check σ ρ)} {s : σ}, (runAll (gs ++ hs) s).2 = none →
    (runAll gs s).2 = none ∧ (runAll hs (runAll gs s).1).2 = none ∧
      (runAll (gs ++ hs) s).1 = (runAll hs (runAll gs s).1).1
  | [], _, _, h => ⟨rfl, h, rfl⟩
  | g :: gs, hs, s, h => by
    rw [List.cons_append, runAll_cons] at h ⊢
    rw [runAll_cons]
    cases hg : (g s).2 with
    | some r => rw [hg] at h; cases h
    | none => rw [hg] at h; exact runAll_append_admitted h

/-- Admission: every check has passed and left its mark. -/
theorem runAll_admitted : ∀ {gs : List (Check σ ρ)} {s : σ}, (runAll gs s).2 = none →
    (runAll gs s).1 = marks gs s
  | [], _, _ => rfl
  | g :: gs, s, h => by
    rw [runAll_cons] at h ⊢
    cases hg : (g s).2 with
    | some r => rw [hg] at h; cases h
    | none => rw [hg] at h; exact runAll_admitted h

/-- **Rejection**: the checks before some `g` passed and left their marks, `g` rejected, and the
checks after it were not made. -/
theorem runAll_rejected : ∀ {gs : List (Check σ ρ)} {s : σ} {r : ρ}, (runAll gs s).2 = some r →
    ∃ before g after, gs = before ++ g :: after ∧ (runAll before s).2 = none ∧
      (g (marks before s)).2 = some r ∧ (runAll gs s).1 = (g (marks before s)).1
  | [], _, _, h => by cases h
  | g :: gs, s, r, h => by
    rw [runAll_cons] at h ⊢
    cases hg : (g s).2 with
    | some r' =>
      rw [hg] at h
      obtain rfl := Option.some.inj h
      exact ⟨[], g, gs, rfl, rfl, hg, rfl⟩
    | none =>
      rw [hg] at h
      obtain ⟨before, g', after, rfl, hbefore, hrej, hstate⟩ := runAll_rejected h
      refine ⟨g :: before, g', after, rfl, ?_, hrej, hstate⟩
      rw [runAll_cons, hg]
      exact hbefore

/-- What every check preserves, a row of checks preserves. -/
theorem runAll_keeps (Inv : σ → Prop) : ∀ {gs : List (Check σ ρ)} {s : σ},
    (∀ g ∈ gs, ∀ s, Inv s → Inv (g s).1) → Inv s → Inv (runAll gs s).1
  | [], _, _, h => h
  | g :: gs, s, hg, h => by
    have hhead := hg g List.mem_cons_self s h
    rw [runAll_cons]
    cases (g s).2 with
    | some r => exact hhead
    | none => exact runAll_keeps Inv (fun g' hg' => hg g' (List.mem_cons_of_mem _ hg')) hhead

/-- Checks that do the same to renamed states, made in a row. -/
theorem runAll_map {g : σ → σ} : ∀ {gs : List (Check σ ρ)} {s : σ}, (∀ c ∈ gs, ∀ s, c (g s) = (g (c s).1, (c s).2)) →
    runAll gs (g s) = (g (runAll gs s).1, (runAll gs s).2)
  | [], _, _ => rfl
  | c :: gs, s, h => by
    rw [runAll_cons, runAll_cons, h c List.mem_cons_self]
    dsimp only
    cases (c s).2 with
    | some r => rfl
    | none => exact runAll_map fun c' hc' => h c' (List.mem_cons_of_mem c hc')

end Gate
