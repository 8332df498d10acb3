import Mathlib.Data.List.Basic

/-
# The first occurrence of a pattern

`l.dropInfix? pat` gives what is before and after the first occurrence.
-/
namespace FirstInfix

/-- `pat` stands in `l` between `p` and `s`, and nowhere earlier. -/
structure IsFirst {α : Type} (pat l p s : List α) : Prop where
  split : l = p ++ pat ++ s
  least : ∀ p' s', l = p' ++ pat ++ s' → p.length ≤ p'.length

theorem IsFirst.notMem {α : Type} {a : α} {l p s : List α} (h : IsFirst [a] l p s) : a ∉ p := by
  intro hmem
  obtain ⟨b, c, rfl⟩ := List.append_of_mem hmem
  have hle := h.least b (c ++ a :: s) (by rw [h.split]; simp)
  simp only [List.length_append, List.length_cons] at hle
  omega

theorem IsFirst.not_infix {α : Type} {pat l p s : List α} (h : IsFirst pat l p s) (hpat : pat ≠ []) :
    ¬ pat <:+: p := by
  rintro ⟨b, c, rfl⟩
  have hle := h.least b (c ++ pat ++ s) (by rw [h.split]; simp)
  have hpos := List.length_pos_iff.2 hpat
  simp only [List.length_append] at hle
  omega

variable {α : Type} [BEq α] [LawfulBEq α] {pat l p s : List α}

theorem eq_some_iff : l.dropInfix? pat = some (p, s) ↔ IsFirst pat l p s := by
  rw [List.dropInfix?_eq_some_iff]
  constructor
  · rintro ⟨⟨i, rfl, hi⟩, hmin⟩
    obtain rfl := eq_of_beq hi
    exact ⟨rfl, fun p' s' h => hmin p' i s' h (beq_self_eq_true i)⟩
  · rintro ⟨rfl, hmin⟩
    refine ⟨⟨pat, rfl, beq_self_eq_true pat⟩, fun p' i s' h hi => ?_⟩
    obtain rfl := eq_of_beq hi
    exact hmin p' s' h

theorem exists_first (h : pat <:+: l) : ∃ p s, l.dropInfix? pat = some (p, s) := by
  obtain ⟨p, s, heq⟩ := h
  induction hn : p.length using Nat.strongRecOn generalizing p s with
  | _ n ih =>
    by_cases hmin : ∀ p' s', l = p' ++ pat ++ s' → p.length ≤ p'.length
    · exact ⟨p, s, eq_some_iff.2 ⟨heq.symm, hmin⟩⟩
    · simp only [Classical.not_forall, Nat.not_le] at hmin
      obtain ⟨p', s', heq', hlt⟩ := hmin
      exact ih p'.length (hn ▸ hlt) p' s' heq'.symm rfl

theorem eq_none_iff : l.dropInfix? pat = none ↔ ¬ pat <:+: l := by
  constructor
  · intro hnone hinfix
    obtain ⟨p, s, hsome⟩ := exists_first hinfix
    rw [hnone] at hsome
    cases hsome
  · intro hno
    cases hfirst : l.dropInfix? pat with
    | none => rfl
    | some r => exact absurd ⟨r.1, r.2, (eq_some_iff.1 hfirst).split.symm⟩ hno

/-- What comes later does not move the first occurrence. -/
theorem append_of_some (more : List α) (h : l.dropInfix? pat = some (p, s)) :
    (l ++ more).dropInfix? pat = some (p, s ++ more) := by
  obtain ⟨rfl, hmin⟩ := eq_some_iff.1 h
  refine eq_some_iff.2 ⟨by simp, fun p' s' heq => ?_⟩
  by_cases hle : p.length ≤ p'.length
  · exact hle
  · -- an earlier one would lie before `more`
    have hlen : (p' ++ pat).length ≤ (p ++ pat ++ s).length := by
      simp only [List.length_append]
      omega
    have hprefix : p' ++ pat <+: p ++ pat ++ s :=
      List.prefix_of_prefix_length_le ⟨s', heq.symm⟩ (List.prefix_append _ more) hlen
    obtain ⟨s'', hs''⟩ := hprefix
    exact hmin p' s'' hs''.symm

/-- The pattern is found behind what does not hold it, not even with the pattern's start. -/
theorem of_not_infix (h : ¬ pat <:+: l ++ pat.dropLast) (more : List α) :
    (l ++ pat ++ more).dropInfix? pat = some (l, more) := by
  refine eq_some_iff.2 ⟨rfl, fun p' s' heq => ?_⟩
  by_cases hle : l.length ≤ p'.length
  · exact hle
  · have hlen : (p' ++ pat).length ≤ (l ++ pat.dropLast).length := by
      simp only [List.length_append, List.length_dropLast]
      omega
    have hstart : l ++ pat.dropLast <+: l ++ pat ++ more :=
      ((List.prefix_append_right_inj l).2 (List.dropLast_prefix pat)).trans (List.prefix_append _ more)
    obtain ⟨s'', hs''⟩ := List.prefix_of_prefix_length_le ⟨s', heq.symm⟩ hstart hlen
    exact absurd ⟨p', s'', hs''⟩ h

/-- An element that is not the pattern's first is before the occurrence. -/
theorem cons_of_ne {a b : α} (hne : b ≠ a) (h : l.dropInfix? (a :: pat) = some (p, s)) :
    (b :: l).dropInfix? (a :: pat) = some (b :: p, s) := by
  obtain ⟨rfl, hmin⟩ := eq_some_iff.1 h
  refine eq_some_iff.2 ⟨rfl, fun p' s' heq => ?_⟩
  cases p' with
  | nil => exact absurd (List.cons.inj heq).1 hne
  | cons c p' => exact Nat.succ_le_succ (hmin p' s' (List.cons.inj heq).2)

/-- So is a whole piece without it. -/
theorem append_of_notMem {a : α} {piece : List α} (hno : a ∉ piece) (h : l.dropInfix? (a :: pat) = some (p, s)) :
    (piece ++ l).dropInfix? (a :: pat) = some (piece ++ p, s) := by
  induction piece with
  | nil => exact h
  | cons b piece ih =>
    obtain ⟨hb, hpiece⟩ := not_or.1 (mt List.mem_cons.2 hno)
    exact cons_of_ne (Ne.symm hb) (ih hpiece)

/-- An occurrence does not reach over an element that the pattern does not have. -/
theorem append_cons_of_none {a : α} {l' : List α} (hno : a ∉ pat) (h : l.dropInfix? pat = none)
    (h' : (a :: l').dropInfix? pat = some (p, s)) : (l ++ a :: l').dropInfix? pat = some (l ++ p, s) := by
  obtain ⟨heq, hmin⟩ := eq_some_iff.1 h'
  refine eq_some_iff.2 ⟨by rw [heq, List.append_assoc, List.append_assoc, List.append_assoc], fun p' s' hp' => ?_⟩
  rw [List.append_assoc] at hp'
  rcases List.append_eq_append_iff.1 hp' with ⟨c, rfl, hc⟩ | ⟨c, rfl, hc⟩
  · have hle := hmin c s' (by rw [hc, List.append_assoc])
    simp only [List.length_append]
    omega
  · -- it starts inside `l`
    rcases List.append_eq_append_iff.1 hc with ⟨d, rfl, hd⟩ | ⟨d, rfl, hd⟩
    · exact absurd ⟨p', d, List.append_assoc p' pat d⟩ (eq_none_iff.1 h)
    · cases d with
      | nil =>
        refine absurd ⟨p', [], ?_⟩ (eq_none_iff.1 h)
        rw [List.append_nil, List.append_nil]
      | cons b d =>
        obtain ⟨rfl, _⟩ := List.cons.inj hd
        exact absurd (List.mem_append_right _ List.mem_cons_self) hno

/-- **A pattern whose first element does not come again in it** is found where it is first written. -/
theorem of_none {a : α} (hfirst : a ∉ pat) (h : l.dropInfix? (a :: pat) = none) (more : List α) :
    (l ++ (a :: pat) ++ more).dropInfix? (a :: pat) = some (l, more) := by
  refine of_not_infix (fun hinfix => ?_) more
  obtain ⟨p', s', heq⟩ := hinfix
  have hlens := congrArg List.length heq
  simp only [List.length_append, List.length_dropLast, List.length_cons] at hlens
  by_cases hin : p'.length + (pat.length + 1) ≤ l.length
  · -- inside `l`
    obtain ⟨s'', hs''⟩ := List.prefix_of_prefix_length_le ⟨s', heq⟩ (List.prefix_append l _)
      (by simp only [List.length_append, List.length_cons]; omega)
    exact eq_none_iff.1 h ⟨p', s'', hs''⟩
  · -- over the end of `l`, where the pattern starts again
    rw [List.append_assoc] at heq
    rcases List.append_eq_append_iff.1 heq with ⟨c, rfl, hc⟩ | ⟨c, rfl, hc⟩
    · rw [List.length_append] at hlens hin
      cases c with
      | nil =>
        have hlen := congrArg List.length hc
        simp only [List.length_append, List.length_cons, List.length_dropLast, List.length_nil] at hlen
        omega
      | cons b c =>
        obtain ⟨rfl, hrest⟩ := List.cons.inj hc
        rw [List.length_cons] at hlens hin
        rcases List.append_eq_append_iff.1 hrest with ⟨d, rfl, _⟩ | ⟨d, rfl, hd⟩
        · rw [List.length_append] at hin
          omega
        · rw [List.length_append] at hin hlens
          cases d with
          | nil =>
            rw [List.length_nil] at hin
            omega
          | cons e d =>
            rw [List.dropLast_cons_of_ne_nil (by simp)] at hd
            obtain ⟨rfl, _⟩ := List.cons.inj hd
            exact hfirst (List.mem_append_right _ List.mem_cons_self)
    · rw [List.length_append] at hlens
      omega

/-- One element is found behind those that differ from it. -/
theorem singleton (a : α) (l more : List α) :
    ∃ s, (l ++ a :: more).dropInfix? [a] = some (l.takeWhile (· != a), s) := by
  induction l with
  | nil => exact ⟨more, eq_some_iff.2 ⟨rfl, fun _ _ _ => Nat.zero_le _⟩⟩
  | cons b l ih =>
    by_cases hb : b = a
    · subst hb
      refine ⟨l ++ b :: more, eq_some_iff.2 ⟨?_, fun _ _ _ => ?_⟩⟩ <;> simp
    · obtain ⟨s, hs⟩ := ih
      refine ⟨s, ?_⟩
      rw [List.takeWhile_cons_of_pos (by simpa using hb)]
      exact cons_of_ne hb hs

end FirstInfix
