import Mathlib.Data.List.Dedup
import Mathlib.Data.List.Induction

/-
# The value stated last

`lastOf f d l` is the value of the last element of `l` to which `f` gives one. It sees of `l` only the order of
the last occurrences (`lastOf_dedup`), and over all `f` it sees all of that (`dedup_eq_iff`).
-/
namespace LastOf

variable {α β : Type}

/-- The value of the last element that has one, else `d`. -/
def lastOf (f : α → Option β) (d : β) (l : List α) : β := ((l.filterMap f).getLast?).getD d

theorem lastOf_cons (f : α → Option β) (d : β) (a : α) (l : List α) :
    lastOf f d (a :: l) = ((l.filterMap f).getLast?).getD ((f a).getD d) := by
  unfold lastOf
  rw [List.filterMap_cons]
  cases f a with
  | none => rfl
  | some b => simp [List.getLast?_cons]

theorem lastOf_concat (f : α → Option β) (d : β) (l : List α) (a : α) :
    lastOf f d (l ++ [a]) = (f a).getD (lastOf f d l) := by
  unfold lastOf
  rw [List.filterMap_append, List.filterMap_cons, List.filterMap_nil]
  cases f a <;> simp

variable [DecidableEq α]

/-- `dedup` keeps the last of equal elements. -/
theorem lastOf_dedup (f : α → Option β) (d : β) (l : List α) : lastOf f d l.dedup = lastOf f d l := by
  induction l generalizing d with
  | nil => rfl
  | cons a l ih =>
    by_cases hmem : a ∈ l
    · rw [List.dedup_cons_of_mem hmem, ih, lastOf_cons]
      unfold lastOf
      cases hfa : f a with
      | none => rfl
      | some b =>
        have hne : l.filterMap f ≠ [] := List.ne_nil_of_mem (List.mem_filterMap.2 ⟨a, hmem, hfa⟩)
        rw [List.getLast?_eq_some_getLast hne]
        rfl
    · rw [List.dedup_cons_of_notMem hmem, lastOf_cons, lastOf_cons]
      exact ih ((f a).getD d)

/-- Nothing is stated by `a` and everything else as before. -/
def except (f : α → Option β) (a : α) (x : α) : Option β := if x = a then none else f x

theorem lastOf_except (f : α → Option β) (d : β) {l : List α} {a : α} (h : a ∉ l) :
    lastOf (except f a) d (l ++ [a]) = lastOf f d l := by
  have hnone : except f a a = none := if_pos rfl
  have hsame : l.filterMap (except f a) = l.filterMap f :=
    List.filterMap_congr fun x hx => if_neg fun heq : x = a => h (heq ▸ hx)
  rw [lastOf_concat, hnone]
  unfold lastOf
  rw [hsame]
  rfl

/-- Without repetitions, the last values determine the list. -/
theorem eq_of_lastOf {l l' : List α} (hl : l.Nodup) (hl' : l'.Nodup)
    (h : ∀ f : α → Option Bool, lastOf f false l = lastOf f false l') : l = l' := by
  induction l using List.reverseRecOn generalizing l' with
  | nil =>
    cases l' using List.reverseRecOn with
    | nil => rfl
    | append_singleton l' a =>
      have hlast := h fun _ => some true
      rw [lastOf_concat] at hlast
      cases hlast
  | append_singleton l a ih =>
    cases l' using List.reverseRecOn with
    | nil =>
      have hlast := h fun _ => some true
      rw [lastOf_concat] at hlast
      cases hlast
    | append_singleton l' a' =>
      have hlast := h fun x => some (decide (x = a))
      rw [lastOf_concat, lastOf_concat] at hlast
      obtain rfl : a' = a := by simpa using hlast.symm
      have hnot : a' ∉ l := fun hmem => (List.nodup_append.1 hl).2.2 a' hmem a' (by simp) rfl
      have hnot' : a' ∉ l' := fun hmem => (List.nodup_append.1 hl').2.2 a' hmem a' (by simp) rfl
      rw [ih (List.nodup_append.1 hl).1 (List.nodup_append.1 hl').1 fun f => ?_]
      rw [← lastOf_except f false hnot, ← lastOf_except f false hnot']
      exact h (except f a')

/-- **Two lists state the same last values, under every reading, exactly if their last occurrences stand in the
same order.** -/
theorem dedup_eq_iff {l l' : List α} :
    l.dedup = l'.dedup ↔ ∀ f : α → Option Bool, lastOf f false l = lastOf f false l' := by
  constructor
  · intro h f
    rw [← lastOf_dedup, h, lastOf_dedup]
  · intro h
    refine eq_of_lastOf (List.nodup_dedup l) (List.nodup_dedup l') fun f => ?_
    rw [lastOf_dedup, lastOf_dedup]
    exact h f

end LastOf
