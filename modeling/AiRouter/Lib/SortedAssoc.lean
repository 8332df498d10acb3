import Mathlib.Data.List.Pairwise
import Mathlib.Order.Lattice

/-
# Association lists in key order

A `BTreeMap` as the list of its entries. `insert` replaces the value of a key that is there, so a look-up
after a write needs no order; the order is kept by every write.
-/
namespace SortedAssoc

variable {κ ν : Type} [LinearOrder κ]

def insert (k : κ) (v : ν) : List (κ × ν) → List (κ × ν)
  | [] => [(k, v)]
  | (k', v') :: rest =>
    if k = k' then (k, v) :: rest
    else if k < k' then (k, v) :: (k', v') :: rest
    else (k', v') :: insert k v rest

def erase (k : κ) (l : List (κ × ν)) : List (κ × ν) := l.filter (·.1 ≠ k)

/-- `if let Some(v) = get_mut(k)` rewritten by `f`. -/
def adjust (k : κ) (f : ν → ν) : List (κ × ν) → List (κ × ν)
  | [] => []
  | (k', v') :: rest => if k = k' then (k', f v') :: rest else (k', v') :: adjust k f rest

/-- The keys strictly increase. -/
def Sorted (l : List (κ × ν)) : Prop := l.Pairwise (·.1 < ·.1)

/-! ## Look-ups -/

section
variable [BEq κ] [LawfulBEq κ] {k k' : κ}

omit [LinearOrder κ] in
theorem lookup_cons_ne (h : k' ≠ k) (v : ν) (l : List (κ × ν)) : ((k, v) :: l).lookup k' = l.lookup k' := by
  rw [List.lookup_cons, beq_eq_false_iff_ne.2 h]

theorem lookup_insert_self (k : κ) (v : ν) (l : List (κ × ν)) : (insert k v l).lookup k = some v := by
  induction l with
  | nil => simp [insert]
  | cons hd tl ih =>
    obtain ⟨k₁, v₁⟩ := hd
    rw [insert]
    split_ifs with heq hlt
    · simp
    · simp
    · rw [lookup_cons_ne heq, ih]

theorem lookup_insert_ne (h : k' ≠ k) (v : ν) (l : List (κ × ν)) :
    (insert k v l).lookup k' = l.lookup k' := by
  induction l with
  | nil => exact lookup_cons_ne h v []
  | cons hd tl ih =>
    obtain ⟨k₁, v₁⟩ := hd
    rw [insert]
    split_ifs with heq hlt
    · subst heq
      rw [lookup_cons_ne h, lookup_cons_ne h]
    · rw [lookup_cons_ne h]
    · simp only [List.lookup_cons, ih]

theorem lookup_erase_self (k : κ) (l : List (κ × ν)) : (erase k l).lookup k = none := by
  rw [List.lookup_eq_none_iff]
  intro p hp
  have hne := (List.mem_filter.1 hp).2
  simp only [ne_eq, decide_not, Bool.not_eq_true', decide_eq_false_iff_not] at hne
  exact bne_iff_ne.2 fun heq => hne heq.symm

theorem lookup_erase_ne (h : k' ≠ k) (l : List (κ × ν)) : (erase k l).lookup k' = l.lookup k' := by
  unfold erase
  induction l with
  | nil => rfl
  | cons hd tl ih =>
    obtain ⟨k₁, v₁⟩ := hd
    by_cases heq : k₁ = k
    · subst heq
      rw [lookup_cons_ne h, ← ih]
      simp
    · simp only [List.filter_cons, ne_eq, heq, not_false_eq_true, decide_true, if_true, List.lookup_cons, ih]

theorem lookup_adjust_ne (h : k' ≠ k) (f : ν → ν) (l : List (κ × ν)) :
    (adjust k f l).lookup k' = l.lookup k' := by
  induction l with
  | nil => rfl
  | cons hd tl ih =>
    obtain ⟨k₁, v₁⟩ := hd
    rw [adjust]
    split_ifs with heq
    · subst heq
      rw [lookup_cons_ne h, lookup_cons_ne h]
    · simp only [List.lookup_cons, ih]

theorem lookup_adjust_self (k : κ) (f : ν → ν) (l : List (κ × ν)) : (adjust k f l).lookup k = (l.lookup k).map f := by
  induction l with
  | nil => rfl
  | cons hd tl ih =>
    obtain ⟨k₁, v₁⟩ := hd
    rw [adjust]
    split_ifs with heq
    · subst heq
      simp
    · rw [lookup_cons_ne heq, lookup_cons_ne heq, ih]

end

/-! ## Order -/

theorem insert_keys {k : κ} {v : ν} {l : List (κ × ν)} {p : κ × ν} (h : p ∈ insert k v l) :
    p = (k, v) ∨ p ∈ l := by
  induction l with
  | nil => simpa [insert] using h
  | cons hd tl ih =>
    obtain ⟨k₁, v₁⟩ := hd
    rw [insert] at h
    split_ifs at h with heq hlt
    · rcases List.mem_cons.1 h with h | h
      · exact Or.inl h
      · exact Or.inr (List.mem_cons_of_mem _ h)
    · exact List.mem_cons.1 h
    · rcases List.mem_cons.1 h with h | h
      · exact Or.inr (h ▸ List.mem_cons_self)
      · exact (ih h).imp_right (List.mem_cons_of_mem _)

theorem sorted_insert (k : κ) (v : ν) {l : List (κ × ν)} (h : Sorted l) : Sorted (insert k v l) := by
  unfold Sorted at h ⊢
  induction l with
  | nil => simp [insert]
  | cons hd tl ih =>
    obtain ⟨k₁, v₁⟩ := hd
    obtain ⟨hhd, htl⟩ := List.pairwise_cons.1 h
    rw [insert]
    split_ifs with heq hlt
    · subst heq
      exact List.pairwise_cons.2 ⟨hhd, htl⟩
    · refine List.pairwise_cons.2 ⟨fun p hp => ?_, h⟩
      rcases List.mem_cons.1 hp with rfl | hp
      · exact hlt
      · exact lt_trans hlt (hhd p hp)
    · refine List.pairwise_cons.2 ⟨fun p hp => ?_, ih htl⟩
      rcases insert_keys hp with rfl | hp
      · exact lt_of_le_of_ne (not_lt.1 hlt) fun he => heq he.symm
      · exact hhd p hp

theorem sorted_erase (k : κ) {l : List (κ × ν)} (h : Sorted l) : Sorted (erase k l) := List.Pairwise.filter _ h

theorem adjust_keys (k : κ) (f : ν → ν) (l : List (κ × ν)) : (adjust k f l).map (·.1) = l.map (·.1) := by
  induction l with
  | nil => rfl
  | cons hd tl ih =>
    rw [adjust]
    split_ifs with heq
    · rfl
    · simp only [List.map_cons, ih]

theorem sorted_adjust (k : κ) (f : ν → ν) {l : List (κ × ν)} (h : Sorted l) : Sorted (adjust k f l) := by
  have hkeys : ∀ l : List (κ × ν), Sorted l ↔ (l.map (·.1)).Pairwise (· < ·) := fun l => List.pairwise_map.symm
  rw [hkeys, adjust_keys, ← hkeys]
  exact h

/-! ## Writes one after another

None of these needs the order: a write finds the place of the write before it. -/

section
variable {k k' : κ}

/-- The entry is written over where it was put, whatever other keys have gone since. -/
theorem insert_filter_insert {p : κ → Bool} (h : p k = true) (v v' : ν) (l : List (κ × ν)) :
    insert k v' ((insert k v l).filter (p ·.1)) = (insert k v' l).filter (p ·.1) := by
  induction l with
  | nil => simp [insert, h]
  | cons hd tl ih =>
    obtain ⟨k₁, v₁⟩ := hd
    simp only [insert]
    split_ifs with heq hlt
    · simp [insert, h]
    · simp [insert, h]
    · by_cases hk₁ : p k₁ = true
      · simp [insert, hk₁, heq, hlt, ih]
      · simp [hk₁, ih]

theorem insert_adjust (h : k ≠ k') (v : ν) (f : ν → ν) (l : List (κ × ν)) :
    insert k v (adjust k' f l) = adjust k' f (insert k v l) := by
  induction l with
  | nil => simp [insert, adjust, h.symm]
  | cons hd tl ih =>
    obtain ⟨k₁, v₁⟩ := hd
    by_cases hk₁ : k' = k₁
    · subst hk₁
      by_cases hlt : k < k' <;> simp [insert, adjust, h, h.symm, hlt]
    · by_cases heq : k = k₁
      · subst heq
        simp [insert, adjust, h.symm]
      · by_cases hlt : k < k₁ <;> simp [insert, adjust, h.symm, hk₁, heq, hlt, ih]

theorem filter_adjust {p : κ → Bool} (h : p k = true) (f : ν → ν) (l : List (κ × ν)) :
    (adjust k f l).filter (p ·.1) = adjust k f (l.filter (p ·.1)) := by
  induction l with
  | nil => rfl
  | cons hd tl ih =>
    obtain ⟨k₁, v₁⟩ := hd
    by_cases heq : k = k₁
    · subst heq
      simp [adjust, h]
    · by_cases hk₁ : p k₁ = true <;> simp [adjust, heq, hk₁, ih]

theorem adjust_adjust (f g : ν → ν) (l : List (κ × ν)) : adjust k f (adjust k g l) = adjust k (f ∘ g) l := by
  induction l with
  | nil => rfl
  | cons hd tl ih =>
    obtain ⟨k₁, v₁⟩ := hd
    by_cases heq : k = k₁
    · subst heq
      simp [adjust]
    · simp [adjust, heq, ih]

end

end SortedAssoc
