import Mathlib.Data.List.DropRight

/-
# Both ends trimmed
-/
namespace Trim

variable {α : Type} (p : α → Bool)

/-- Without what `p` holds of at the two ends. -/
def ends (l : List α) : List α := (l.dropWhile p).rdropWhile p

/-- What starts with an element that stays is trimmed at the end only. -/
theorem ends_cons_of_neg {a : α} (h : p a = false) (l : List α) : ends p (a :: l) = (a :: l).rdropWhile p := by
  unfold ends
  rw [List.dropWhile_cons_of_neg (by simp [h])]

theorem ends_ends (l : List α) : ends p (ends p l) = ends p l := by
  cases hkept : l.dropWhile p with
  | nil =>
    unfold ends
    rw [hkept]
    rfl
  | cons a rest =>
    have hstays : p a = false := by
      have hfirst := List.dropWhile_get_zero_not p l (by simp [hkept])
      simpa [hkept] using hfirst
    have hends : ends p l = (a :: rest).rdropWhile p := by
      unfold ends
      rw [hkept]
    -- the first element is not dropped from the end either
    obtain ⟨more, hmore⟩ : ∃ more, (a :: rest).rdropWhile p = a :: more := by
      cases hr : (a :: rest).rdropWhile p with
      | nil =>
        have hall := List.rdropWhile_eq_nil_iff.1 hr a List.mem_cons_self
        rw [hstays] at hall
        cases hall
      | cons b more =>
        have hprefix := List.rdropWhile_prefix p (l := a :: rest)
        rw [hr] at hprefix
        exact ⟨more, by rw [(List.cons_prefix_cons.1 hprefix).1]⟩
    rw [hends, hmore, ends_cons_of_neg p hstays, ← hmore, List.rdropWhile_idempotent]

end Trim
