/-
# Acts of one party among moves of others

A party acts on a state that it shares, and each act has an outcome; others move the state in between. States that are
alike to the party are those that it cannot tell apart: its acts have the same outcomes there and lead to states that
are alike again. Where no move of the others takes a state to one that is not alike, they may be purged from the
history: the party sees what it would have seen alone.
-/
namespace Purge

variable {σ α ο : Type}

/-- The outcomes of acts one after another. -/
def outcomes (act : α → σ → σ × ο) : List α → σ → List ο
  | [], _ => []
  | a :: acts, s => (act a s).2 :: outcomes act acts (act a s).1

/-- The state that they lead to. -/
def after (act : α → σ → σ × ο) (acts : List α) (s : σ) : σ := acts.foldl (fun s a => (act a s).1) s

/-- Acts in this order, with moves anywhere in between. -/
inductive Mixed (act : α → σ → σ × ο) (move : σ → σ → Prop) : σ → List α → List ο → σ → Prop where
  | done (s : σ) : Mixed act move s [] [] s
  | move {s t u : σ} {acts : List α} {seen : List ο} (first : move s t) (rest : Mixed act move t acts seen u) :
      Mixed act move s acts seen u
  | act {s u : σ} {acts : List α} {seen : List ο} (a : α) (rest : Mixed act move (act a s).1 acts seen u) :
      Mixed act move s (a :: acts) ((act a s).2 :: seen) u

variable {act : α → σ → σ × ο} {move : σ → σ → Prop}

/-- **Purge.** The moves of the others make no difference to the outcomes, nor to what is alike in the end. -/
theorem Mixed.purge (like : σ → σ → Prop) (htrans : ∀ {s t u}, like s t → like t u → like s u)
    (hmove : ∀ {s t}, move s t → like t s)
    (hact : ∀ a {s t}, like s t → like (act a s).1 (act a t).1 ∧ (act a s).2 = (act a t).2)
    {s u : σ} {acts : List α} {seen : List ο} (h : Mixed act move s acts seen u) :
    ∀ {t : σ}, like s t → seen = outcomes act acts t ∧ like u (after act acts t) := by
  induction h with
  | done s => exact fun halike => ⟨rfl, halike⟩
  | move first _ ih => exact fun halike => ih (htrans (hmove first) halike)
  | act a _ ih =>
    intro t halike
    obtain ⟨hstate, hseen⟩ := hact a halike
    obtain ⟨hrest, hlast⟩ := ih hstate
    exact ⟨by rw [outcomes, hseen, hrest], hlast⟩

end Purge
