import Mathlib.Data.List.Basic

/-
# Frames ended by a two-symbol separator

`frames` cuts a buffer into its complete frames and the unfinished rest. A reader that keeps
the rest and appends what arrives next sees the same frames however the input was cut
(`frames_append`, `feed_eq`).
-/
namespace Framing

variable {α β : Type} [DecidableEq α] (a b : α)

/-- Index of the first `a` followed by `b`. -/
def findPair : List α → Option Nat
  | [] => none
  | [_] => none
  | x :: y :: rest => if x = a ∧ y = b then some 0 else (findPair (y :: rest)).map (· + 1)

theorem findPair_lt : ∀ {data : List α} {pos : Nat}, findPair a b data = some pos →
    pos + 2 ≤ data.length
  | [], _, h => by simp [findPair] at h
  | [_], _, h => by simp [findPair] at h
  | x :: y :: rest, pos, h => by
    simp only [findPair] at h
    split at h
    · obtain rfl := Option.some.inj h
      simp only [List.length_cons]; omega
    · obtain ⟨p, hp, rfl⟩ := Option.map_eq_some_iff.1 h
      have := findPair_lt hp
      simp only [List.length_cons] at this ⊢; omega

/-- What arrives later does not move a separator already there. -/
theorem findPair_append (more : List α) : ∀ {data : List α} {pos : Nat},
    findPair a b data = some pos → findPair a b (data ++ more) = some pos
  | [], _, h => by simp [findPair] at h
  | [_], _, h => by simp [findPair] at h
  | x :: y :: rest, pos, h => by
    simp only [findPair, List.cons_append] at h ⊢
    split at h
    · rename_i hxy
      rw [if_pos hxy]; exact h
    · rename_i hxy
      obtain ⟨p, hp, rfl⟩ := Option.map_eq_some_iff.1 h
      have ih := findPair_append more hp
      rw [List.cons_append] at ih
      rw [if_neg hxy, ih, Option.map_some]

/-- The complete frames of a buffer and the unfinished rest. -/
def frames (data : List α) : List (List α) × List α :=
  match _h : findPair a b data with
  | none => ([], data)
  | some pos =>
    let r := frames (data.drop (pos + 2))
    (data.take pos :: r.1, r.2)
termination_by data.length
decreasing_by
  have := findPair_lt a b _h
  rw [List.length_drop]; omega

theorem frames_none {data : List α} (h : findPair a b data = none) : frames a b data = ([], data) := by
  rw [frames]; split
  · rfl
  · rename_i hs; rw [h] at hs; cases hs

theorem frames_some {data : List α} {pos : Nat} (h : findPair a b data = some pos) :
    frames a b data =
      (data.take pos :: (frames a b (data.drop (pos + 2))).1, (frames a b (data.drop (pos + 2))).2) := by
  rw [frames]; split
  · rename_i hs; rw [h] at hs; cases hs
  · rename_i p hs
    rw [h] at hs
    obtain rfl := Option.some.inj hs
    rfl

/-- The first separator is found behind what has none. -/
theorem findPair_of_none (more : List α) : ∀ {data : List α}, findPair a b (data ++ [a]) = none →
    findPair a b (data ++ a :: b :: more) = some data.length
  | [], _ => by simp [findPair]
  | [x], h => by
    simp only [List.cons_append, List.nil_append, findPair] at h ⊢
    split at h
    · cases h
    · rename_i hx
      simp [hx]
  | x :: y :: rest, h => by
    simp only [List.cons_append, findPair] at h ⊢
    split at h
    · cases h
    · rename_i hxy
      have hrest : findPair a b (y :: rest ++ [a]) = none := Option.map_eq_none_iff.1 h
      have ih := findPair_of_none more hrest
      rw [List.cons_append] at ih
      rw [if_neg hxy, ih]
      rfl

/-- A frame and its separator come first. -/
theorem frames_pair {data : List α} (h : findPair a b (data ++ [a]) = none) (more : List α) :
    frames a b (data ++ a :: b :: more) = (data :: (frames a b more).1, (frames a b more).2) := by
  have hdrop : (data ++ a :: b :: more).drop (data.length + 2) = more := by
    rw [← List.drop_drop, List.drop_left]
    rfl
  rw [frames_some a b (findPair_of_none a b more h), hdrop, List.take_left]

/-- **Frames of an append**: those of the first part, then those of its rest with the second. -/
theorem frames_append (data more : List α) :
    frames a b (data ++ more) =
      ((frames a b data).1 ++ (frames a b ((frames a b data).2 ++ more)).1,
        (frames a b ((frames a b data).2 ++ more)).2) := by
  cases h : findPair a b data with
  | none => rw [frames_none a b h]; rfl
  | some pos =>
    have hlt := findPair_lt a b h
    have ih := frames_append (data.drop (pos + 2)) more
    rw [frames_some a b h, frames_some a b (findPair_append a b more h),
      List.drop_append_of_le_length hlt, List.take_append_of_le_length (by omega), ih]
    rfl
termination_by data.length
decreasing_by
  rw [List.length_drop]; omega

/-- The rest holds no separator. -/
theorem frames_rest (data : List α) : findPair a b (frames a b data).2 = none := by
  cases h : findPair a b data with
  | none => rw [frames_none a b h]; exact h
  | some pos =>
    have hlt := findPair_lt a b h
    rw [frames_some a b h]
    exact frames_rest (data.drop (pos + 2))
termination_by data.length
decreasing_by
  rw [List.length_drop]; omega

/-- A reader: the unfinished rest and what it has made of the frames so far. -/
def feed (step : β → List α → β) (s : List α × β) (chunk : List α) : List α × β :=
  let r := frames a b (s.1 ++ chunk)
  (r.2, r.1.foldl step s.2)

variable (step : β → List α → β)

theorem feed_nil {s : List α × β} (h : findPair a b s.1 = none) : feed a b step s [] = s := by
  unfold feed
  rw [List.append_nil, frames_none a b h]
  rfl

theorem feed_feed (s : List α × β) (c c' : List α) :
    feed a b step (feed a b step s c) c' = feed a b step s (c ++ c') := by
  unfold feed
  dsimp only
  rw [← List.append_assoc, frames_append a b (s.1 ++ c) c', List.foldl_append]

/-- **The cuts do not matter**: reading chunk by chunk comes to reading everything at once. -/
theorem feed_chunks : ∀ (chunks : List (List α)) {s : List α × β}, findPair a b s.1 = none →
    chunks.foldl (feed a b step) s = feed a b step s chunks.flatten
  | [], s, h => (feed_nil a b step h).symm
  | c :: chunks, s, _ => by
    rw [List.foldl_cons, feed_chunks chunks (frames_rest a b (s.1 ++ c)), feed_feed, List.flatten_cons]

end Framing
