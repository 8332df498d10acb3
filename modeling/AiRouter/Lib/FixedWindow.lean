import Mathlib.Algebra.Order.Ring.Nat
import Mathlib.Algebra.Order.BigOperators.Group.List

/-
# Counting in fixed windows

A counter lets at most `limit` through and is replaced, no sooner than `width` after it started. The windows of
its counters are kept with the latest first; the oldest may have been there from the start.
-/
namespace FixedWindow

structure Window where
  /-- none: it was there at the start -/
  start : Option Nat
  /-- the times at which something got through -/
  grants : List Nat

/-- `w` comes after `older`: that one is over, and has had its width. -/
def Window.Follows (width : Nat) (w older : Window) : Prop :=
  ∃ s, w.start = some s ∧ (∀ s' ∈ older.start, s' + width ≤ s) ∧ ∀ g ∈ older.grants, g < s

structure Spaced (width limit : Nat) (windows : List Window) : Prop where
  apart : windows.Pairwise (Window.Follows width)
  within : ∀ w ∈ windows, w.grants.length ≤ limit
  began : ∀ w ∈ windows, ∀ s ∈ w.start, ∀ g ∈ w.grants, s ≤ g

/-- What gets through from `t₁` to `t₂`. -/
def Window.countIn (w : Window) (t₁ t₂ : Nat) : Nat := w.grants.countP fun g => t₁ ≤ g ∧ g ≤ t₂

section
variable {width limit t₁ t₂ : Nat} {windows : List Window} {w : Window}

theorem spaced_nil : Spaced width limit [] := ⟨List.Pairwise.nil, by simp, by simp⟩

/-- Something got through, so there is a grant. -/
theorem Window.exists_grant (h : w.countIn t₁ t₂ ≠ 0) : ∃ g ∈ w.grants, t₁ ≤ g ∧ g ≤ t₂ := by
  unfold countIn at h
  rw [← Nat.pos_iff_ne_zero, List.countP_pos_iff] at h
  obtain ⟨g, hg, hin⟩ := h
  exact ⟨g, hg, by simpa using hin⟩

/-- Windows that all let something through from `t₁` on lie between `t₁` and the start of the latest. -/
theorem length_lt_start (hwindows : (w :: windows).Pairwise (Window.Follows width))
    (hgrants : ∀ x ∈ windows, ∃ g ∈ x.grants, t₁ ≤ g) (hne : windows ≠ []) :
    ∃ s, w.start = some s ∧ t₁ + (windows.length - 1) * width < s := by
  induction windows generalizing w with
  | nil => exact absurd rfl hne
  | cons x older ih =>
    obtain ⟨hfollows, hrest⟩ := List.pairwise_cons.1 hwindows
    obtain ⟨s, hs, hwidth, hover⟩ := hfollows x List.mem_cons_self
    refine ⟨s, hs, ?_⟩
    by_cases hlast : older = []
    · subst hlast
      obtain ⟨g, hg, hle⟩ := hgrants x List.mem_cons_self
      have hlt := hover g hg
      simp only [List.length_singleton, Nat.sub_self, Nat.zero_mul]
      omega
    · obtain ⟨s', hs', hlt⟩ := ih hrest (fun y hy => hgrants y (List.mem_cons_of_mem _ hy)) hlast
      have hle := hwidth s' hs'
      have hlen : 0 < older.length := List.length_pos_of_ne_nil hlast
      have hmul : ((x :: older).length - 1) * width = (older.length - 1) * width + width := by
        rw [List.length_cons, Nat.add_sub_cancel, ← Nat.succ_mul]
        congr 1
        omega
      omega

/-- At most so many windows let something through from `t₁` to `t₂`. -/
theorem length_le (hwidth : 0 < width) (h : Spaced width limit windows)
    (hgrants : ∀ w ∈ windows, ∃ g ∈ w.grants, t₁ ≤ g ∧ g ≤ t₂) : windows.length ≤ (t₂ - t₁) / width + 2 := by
  cases windows with
  | nil => exact Nat.zero_le _
  | cons w older =>
    by_cases hlast : older = []
    · subst hlast
      exact Nat.le_add_left 1 _ |>.trans (Nat.succ_le_succ (Nat.le_add_left _ _))
    · obtain ⟨s, hs, hlt⟩ := length_lt_start h.apart
        (fun x hx => (hgrants x (List.mem_cons_of_mem _ hx)).imp fun g hg => ⟨hg.1, hg.2.1⟩) hlast
      obtain ⟨g, hg, -, hgt⟩ := hgrants w List.mem_cons_self
      have hsg := h.began w List.mem_cons_self s hs g hg
      have hlen : (older.length - 1) * width ≤ t₂ - t₁ := by omega
      have hdiv := (Nat.le_div_iff_mul_le hwidth).2 hlen
      rw [List.length_cons]
      omega

theorem Spaced.filter (h : Spaced width limit windows) (p : Window → Bool) :
    Spaced width limit (windows.filter p) where
  apart := h.apart.filter p
  within := fun w hw => h.within w (List.mem_of_mem_filter hw)
  began := fun w hw => h.began w (List.mem_of_mem_filter hw)

/-- **What gets through** in any time: so many windows overlap it, and each lets `limit` through. -/
theorem Spaced.sum_countIn_le (hwidth : 0 < width) (h : Spaced width limit windows) (t₁ t₂ : Nat) :
    (windows.map (·.countIn t₁ t₂)).sum ≤ limit * ((t₂ - t₁) / width + 2) := by
  let busy := windows.filter (·.countIn t₁ t₂ ≠ 0)
  have hsum : (windows.map (·.countIn t₁ t₂)).sum = (busy.map (·.countIn t₁ t₂)).sum := by
    clear h
    induction windows with
    | nil => rfl
    | cons w older ih =>
      by_cases hzero : w.countIn t₁ t₂ = 0
      · simp [busy, hzero, ih]
      · simp [busy, hzero, ih]
  have hbusy : Spaced width limit busy := h.filter _
  have hlength : busy.length ≤ (t₂ - t₁) / width + 2 :=
    length_le hwidth hbusy fun w hw => Window.exists_grant (by simpa using (List.mem_filter.1 hw).2)
  have hle : (busy.map (·.countIn t₁ t₂)).sum ≤ (busy.map (·.countIn t₁ t₂)).length • limit := by
    refine List.sum_le_card_nsmul _ limit fun n hn => ?_
    obtain ⟨w, hw, rfl⟩ := List.mem_map.1 hn
    exact List.countP_le_length.trans (hbusy.within w hw)
  rw [hsum]
  calc (busy.map (·.countIn t₁ t₂)).sum
    _ ≤ busy.length * limit := by simpa using hle
    _ = limit * busy.length := Nat.mul_comm _ _
    _ ≤ limit * ((t₂ - t₁) / width + 2) := Nat.mul_le_mul_left limit hlength

/-- Something gets through the latest window. -/
theorem Spaced.grant {older : List Window} (h : Spaced width limit (w :: older)) {now : Nat}
    (hroom : w.grants.length + 1 ≤ limit) (hnow : ∀ s ∈ w.start, s ≤ now) :
    Spaced width limit ({ w with grants := now :: w.grants } :: older) where
  apart := List.pairwise_cons.2 ⟨(List.pairwise_cons.1 h.apart).1, (List.pairwise_cons.1 h.apart).2⟩
  within := List.forall_mem_cons.2 ⟨hroom, (List.forall_mem_cons.1 h.within).2⟩
  began := by
    refine List.forall_mem_cons.2 ⟨fun s hs => ?_, (List.forall_mem_cons.1 h.began).2⟩
    exact List.forall_mem_cons.2 ⟨hnow s hs, (List.forall_mem_cons.1 h.began).1 s hs⟩

/-- A window starts when the latest is over. -/
theorem Spaced.open_ (h : Spaced width limit windows) {now : Nat}
    (hover : ∀ w ∈ windows.head?, (∀ s ∈ w.start, s + width ≤ now) ∧ ∀ g ∈ w.grants, g < now) :
    Spaced width limit ({ start := some now, grants := [] } :: windows) where
  apart := by
    refine List.pairwise_cons.2 ⟨fun x hx => ⟨now, rfl, ?_⟩, h.apart⟩
    cases windows with
    | nil => cases hx
    | cons w older =>
      obtain ⟨hwidth, hgrants⟩ := hover w rfl
      rcases List.mem_cons.1 hx with rfl | hx
      · exact ⟨hwidth, hgrants⟩
      · obtain ⟨s, hs, hapart, hbefore⟩ := (List.pairwise_cons.1 h.apart).1 x hx
        have hle := hwidth s hs
        exact ⟨fun s' hs' => (hapart s' hs').trans (by omega), fun g hg => (hbefore g hg).trans_le (by omega)⟩
  within := List.forall_mem_cons.2 ⟨Nat.zero_le _, h.within⟩
  began := List.forall_mem_cons.2 ⟨by simp, h.began⟩

end

end FixedWindow
