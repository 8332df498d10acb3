import Mathlib.Data.List.Forall2

/-
# Tasks that take turns

Each task is the list of the steps it takes. An order lets them take turns, one step at a time, and may stop
anywhere: what holds after every order holds in every state that the tasks reach.
-/
namespace Interleaving

variable {α : Type}

/-- An order in which the tasks take their steps. -/
inductive Interleaves : List (List α) → List α → Prop
  | stop (tasks : List (List α)) : Interleaves tasks []
  | step {tasks : List (List α)} {i : Nat} {a : α} {rest order : List α} (next : tasks[i]? = some (a :: rest))
      (later : Interleaves (tasks.set i rest) order) : Interleaves tasks (a :: order)

variable {tasks : List (List α)} {order : List α}

/-- **Parts.** Every task has taken its first steps, and an order is made of these. -/
theorem Interleaves.parts (h : Interleaves tasks order) :
    ∃ parts, List.Forall₂ (· <+: ·) parts tasks ∧ order.Perm parts.flatten := by
  induction h with
  | stop tasks =>
    induction tasks with
    | nil => exact ⟨[], .nil, .refl _⟩
    | cons task tasks ih =>
      obtain ⟨parts, hparts, horder⟩ := ih
      exact ⟨[] :: parts, .cons List.nil_prefix hparts, horder⟩
  | @step tasks i a rest order next _ ih =>
    obtain ⟨before, after, htasks, rfl⟩ : ∃ before after, tasks = before ++ (a :: rest) :: after ∧
        before.length = i := by
      obtain ⟨hlt, hget⟩ := List.getElem?_eq_some_iff.1 next
      refine ⟨tasks.take i, tasks.drop (i + 1), ?_, List.length_take_of_le (Nat.le_of_lt hlt)⟩
      rw [← hget, ← List.drop_eq_getElem_cons hlt, List.take_append_drop]
    subst htasks
    rw [List.set_append_right _ _ (Nat.le_refl _), Nat.sub_self, List.set_cons_zero] at ih
    obtain ⟨parts, hparts, horder⟩ := ih
    have hfirst := List.forall₂_take_append parts before (rest :: after) hparts
    obtain ⟨part, later, hpart, hlater, hdrop⟩ :=
      List.forall₂_cons_right_iff.1 (List.forall₂_drop_append parts before (rest :: after) hparts)
    refine ⟨parts.take before.length ++ (a :: part) :: later,
      List.rel_append hfirst (.cons (List.cons_prefix_cons.2 ⟨rfl, hpart⟩) hlater), ?_⟩
    rw [← List.take_append_drop before.length parts, hdrop] at horder
    rw [List.flatten_append, List.flatten_cons] at horder ⊢
    exact (horder.cons a).trans List.perm_middle.symm

/-- Every step is a task's. -/
theorem Interleaves.mem (h : Interleaves tasks order) {a : α} (ha : a ∈ order) : ∃ task ∈ tasks, a ∈ task := by
  obtain ⟨parts, hparts, horder⟩ := h.parts
  obtain ⟨part, hpart, hmem⟩ := List.mem_flatten.1 (horder.mem_iff.1 ha)
  clear h horder
  induction hparts with
  | nil => cases hpart
  | @cons first task parts tasks hprefix _ ih =>
    rcases List.mem_cons.1 hpart with rfl | hpart
    · exact ⟨task, List.mem_cons_self, hprefix.subset hmem⟩
    · obtain ⟨task', htask', hin⟩ := ih hpart
      exact ⟨task', List.mem_cons_of_mem task htask', hin⟩

/-- A task can take some of its steps before the others. -/
theorem Interleaves.first {i : Nat} {steps rest : List α} (hi : tasks[i]? = some (steps ++ rest))
    (h : Interleaves (tasks.set i rest) order) : Interleaves tasks (steps ++ order) := by
  induction steps generalizing tasks with
  | nil =>
    obtain ⟨hlt, hget⟩ := List.getElem?_eq_some_iff.1 hi
    rw [List.nil_append] at hget
    rwa [← hget, List.set_getElem_self] at h
  | cons a steps ih =>
    have hlt := (List.getElem?_eq_some_iff.1 hi).1
    exact .step hi (ih (List.getElem?_set_self hlt) (by rwa [List.set_set]))

/-- One task can go first and another after it. -/
theorem interleaves_two {i j : Nat} {first second rest rest' : List α} (hne : i ≠ j)
    (hi : tasks[i]? = some (first ++ rest)) (hj : tasks[j]? = some (second ++ rest')) :
    Interleaves tasks (first ++ second) := by
  have hj' : (tasks.set i rest)[j]? = some (second ++ rest') := by rw [List.getElem?_set_ne hne, hj]
  have hsecond := Interleaves.first hj' (.stop _)
  rw [List.append_nil] at hsecond
  exact .first hi hsecond

end Interleaving
