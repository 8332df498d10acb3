/-
# Runs of steps

A run applies a list of steps to a state, one after another. `Every` says that something holds of
each step in the state it is taken in.
-/
namespace Steps

variable {σ α : Type} (apply : σ → α → σ)

def run (s : σ) (steps : List α) : σ := steps.foldl apply s

def Every (P : σ → α → Prop) : σ → List α → Prop
  | _, [] => True
  | s, a :: steps => P s a ∧ Every P (apply s a) steps

instance Every.decidable (P : σ → α → Prop) [∀ s a, Decidable (P s a)] :
    ∀ (s : σ) (steps : List α), Decidable (Every apply P s steps)
  | _, [] => isTrue trivial
  | s, a :: steps =>
    have := Every.decidable P (apply s a) steps
    inferInstanceAs (Decidable (P s a ∧ Every apply P (apply s a) steps))

variable {apply} {P Q : σ → α → Prop}

@[simp] theorem run_nil (s : σ) : run apply s [] = s := rfl

theorem run_cons (s : σ) (a : α) (steps : List α) : run apply s (a :: steps) = run apply (apply s a) steps := rfl

theorem run_append (s : σ) (steps later : List α) :
    run apply s (steps ++ later) = run apply (run apply s steps) later := List.foldl_append

theorem Every.mono (h : ∀ s a, P s a → Q s a) (steps : List α) :
    ∀ s : σ, Every apply P s steps → Every apply Q s steps := by
  induction steps with
  | nil => exact fun _ _ => trivial
  | cons a steps ih => exact fun s hevery => ⟨h s a hevery.1, ih (apply s a) hevery.2⟩

theorem Every.and {steps : List α} : ∀ {s : σ}, Every apply P s steps → Every apply Q s steps →
    Every apply (fun s a => P s a ∧ Q s a) s steps := by
  induction steps with
  | nil => exact fun _ _ => trivial
  | cons a steps ih => exact fun hP hQ => ⟨⟨hP.1, hQ.1⟩, ih hP.2 hQ.2⟩

theorem every_true (steps : List α) : ∀ s : σ, Every apply (fun _ _ => True) s steps := by
  induction steps with
  | nil => exact fun _ => trivial
  | cons a steps ih => exact fun s => ⟨trivial, ih (apply s a)⟩

/-- A law of single steps is a law of runs. -/
theorem every_iff (h : ∀ s a, P s a ↔ Q s a) (s : σ) (steps : List α) :
    Every apply P s steps ↔ Every apply Q s steps :=
  ⟨Every.mono (fun s a => (h s a).1) steps s, Every.mono (fun s a => (h s a).2) steps s⟩

theorem every_append (steps later : List α) : ∀ s : σ,
    Every apply P s (steps ++ later) ↔ Every apply P s steps ∧ Every apply P (run apply s steps) later := by
  induction steps with
  | nil => exact fun s => ⟨fun h => ⟨trivial, h⟩, fun h => h.2⟩
  | cons a steps ih => exact fun s => (and_congr_right fun _ => ih (apply s a)).trans and_assoc.symm

/-- Said of each step of the run: it holds where the steps before it lead. -/
theorem every_iff_forall (steps : List α) : ∀ s : σ, Every apply P s steps ↔
    ∀ before a after, steps = before ++ a :: after → P (run apply s before) a := by
  induction steps with
  | nil => exact fun s => ⟨fun _ before a after h => by simp at h, fun _ => trivial⟩
  | cons a steps ih =>
    intro s
    constructor
    · rintro ⟨hfirst, hrest⟩ before b after h
      cases before with
      | nil =>
        cases h
        exact hfirst
      | cons c before =>
        cases h
        exact (ih (apply s a)).1 hrest before b after rfl
    · intro h
      exact ⟨h [] a steps rfl, (ih (apply s a)).2 fun before b after hsplit =>
        h (a :: before) b after (congrArg (a :: ·) hsplit)⟩

/-- **Invariant rule.** What each step keeps, the run keeps. -/
theorem run_keeps {I : σ → Prop} (hstep : ∀ s a, P s a → I s → I (apply s a)) (steps : List α) :
    ∀ s : σ, Every apply P s steps → I s → I (run apply s steps) := by
  induction steps with
  | nil => exact fun _ _ h => h
  | cons a steps ih => exact fun s hevery h => ih (apply s a) hevery.2 (hstep s a hevery.1 h)

/-- What holds of a step taken under the invariant holds of each step of the run. -/
theorem every_keeps {I : σ → Prop} (hstep : ∀ s a, P s a → I s → I (apply s a))
    (hgood : ∀ s a, P s a → I s → Q s a) (steps : List α) :
    ∀ s : σ, Every apply P s steps → I s → Every apply Q s steps := by
  induction steps with
  | nil => exact fun _ _ _ => trivial
  | cons a steps ih =>
    intro s hevery h
    exact ⟨hgood s a hevery.1 h, ih (apply s a) hevery.2 (hstep s a hevery.1 h)⟩

/-- **Projection rule.** A view of the state that moves on its own. -/
theorem run_map {τ : Type} {apply' : τ → α → τ} {f : σ → τ} (h : ∀ s a, f (apply s a) = apply' (f s) a)
    (steps : List α) : ∀ s : σ, f (run apply s steps) = run apply' (f s) steps := by
  induction steps with
  | nil => exact fun _ => rfl
  | cons a steps ih =>
    intro s
    rw [run_cons, run_cons, ih, h]

theorem every_map {τ : Type} {apply' : τ → α → τ} {f : σ → τ} (h : ∀ s a, f (apply s a) = apply' (f s) a)
    {P : τ → α → Prop} (steps : List α) :
    ∀ s : σ, Every apply (fun s a => P (f s) a) s steps ↔ Every apply' P (f s) steps := by
  induction steps with
  | nil => exact fun _ => Iff.rfl
  | cons a steps ih =>
    intro s
    have hrest := ih (apply s a)
    rw [h] at hrest
    exact and_congr_right fun _ => hrest

end Steps
