import Mathlib.Data.List.AList
import Mathlib.Data.Set.Card

/-
# Finite maps with in-place entries

A hash map as Mathlib's `AList`, with the two ways a Rust map is written in place:
`entry(k).or_insert(init)` followed by a change (`upsert`), and `get_mut(k)` (`adjust`).
-/

/-- A finite map from `κ` to `β`. -/
abbrev KeyMap (κ : Type) (β : Type) := AList (fun _ : κ => β)

namespace KeyMap

variable {κ β : Type} [DecidableEq κ]

/-- `*entry(k).or_insert(init)` rewritten by `f`. -/
def upsert (m : KeyMap κ β) (k : κ) (init : β) (f : β → β) : KeyMap κ β :=
  m.insert k (f ((m.lookup k).getD init))

/-- `if let Some(v) = get_mut(k)` rewritten by `f`. -/
def adjust (m : KeyMap κ β) (k : κ) (f : β → β) : KeyMap κ β :=
  match m.lookup k with
  | some v => m.insert k (f v)
  | none => m

/-- `retain`: the entries whose value passes. -/
def retain (m : KeyMap κ β) (keep : β → Bool) : KeyMap κ β where
  entries := m.entries.filter fun e => keep e.2
  nodupKeys := m.nodupKeys.sublist List.filter_sublist

/-- The entries whose key passes. -/
def retainKeys (m : KeyMap κ β) (keep : κ → Bool) : KeyMap κ β where
  entries := m.entries.filter fun e => keep e.1
  nodupKeys := m.nodupKeys.sublist List.filter_sublist

/-- The map that holds `v` at each key of `ks`. -/
def ofKeys (ks : List κ) (v : β) : KeyMap κ β := ks.foldr (fun k m => m.insert k v) ∅

theorem lookup_singleton (k : κ) (v : β) : (AList.singleton k v : KeyMap κ β).lookup k = some v := by
  rw [← AList.insert_empty, AList.lookup_insert]

@[simp] theorem lookup_upsert_self (m : KeyMap κ β) (k : κ) (init : β) (f : β → β) :
    (m.upsert k init f).lookup k = some (f ((m.lookup k).getD init)) := by
  unfold upsert; rw [AList.lookup_insert]

@[simp] theorem lookup_upsert_ne (m : KeyMap κ β) {k k' : κ} (init : β) (f : β → β) (h : k' ≠ k) :
    (m.upsert k init f).lookup k' = m.lookup k' := by
  unfold upsert; rw [AList.lookup_insert_ne h]

@[simp] theorem lookup_adjust_self (m : KeyMap κ β) (k : κ) (f : β → β) :
    (m.adjust k f).lookup k = (m.lookup k).map f := by
  unfold adjust
  cases h : m.lookup k with
  | none => simp [h]
  | some v => simp

@[simp] theorem lookup_adjust_ne (m : KeyMap κ β) {k k' : κ} (f : β → β) (h : k' ≠ k) :
    (m.adjust k f).lookup k' = m.lookup k' := by
  unfold adjust
  cases m.lookup k with
  | none => rfl
  | some v => exact AList.lookup_insert_ne h

theorem lookup_retain (m : KeyMap κ β) (keep : β → Bool) (k : κ) :
    (m.retain keep).lookup k = (m.lookup k).filter keep := by
  ext v
  rw [Option.filter_eq_some_iff, ← Option.mem_def, ← Option.mem_def, AList.mem_lookup_iff, AList.mem_lookup_iff]
  simp [retain]

theorem lookup_retainKeys (m : KeyMap κ β) (keep : κ → Bool) (k : κ) :
    (m.retainKeys keep).lookup k = if keep k then m.lookup k else none := by
  ext v
  rw [← Option.mem_def, ← Option.mem_def, AList.mem_lookup_iff]
  split
  · rename_i hkeep
    rw [AList.mem_lookup_iff]
    simp [retainKeys, hkeep]
  · rename_i hkeep
    simp [retainKeys, hkeep]

theorem lookup_of_retain {m : KeyMap κ β} {keep : β → Bool} {k : κ} {v : β}
    (h : (m.retain keep).lookup k = some v) : m.lookup k = some v := by
  rw [lookup_retain, Option.filter_eq_some_iff] at h
  exact h.1

theorem lookup_ofKeys {ks : List κ} {k : κ} (v : β) (h : k ∈ ks) :
    (ofKeys ks v).lookup k = some v := by
  induction ks with
  | nil => cases h
  | cons a ks ih =>
    by_cases hk : k = a
    · subst hk; simp [ofKeys]
    · have hmem : k ∈ ks := (List.mem_cons.1 h).resolve_left hk
      have := ih hmem
      simp only [ofKeys, List.foldr_cons] at this ⊢
      rw [AList.lookup_insert_ne hk, this]

theorem lookup_ofKeys_not_mem {ks : List κ} {k : κ} (v : β) (h : k ∉ ks) :
    (ofKeys ks v).lookup k = none := by
  induction ks with
  | nil => rfl
  | cons a ks ih =>
    simp only [List.mem_cons, not_or] at h
    have := ih h.2
    simp only [ofKeys, List.foldr_cons] at this ⊢
    rw [AList.lookup_insert_ne h.1, this]

/-- Entries are counted by their keys. -/
theorem countP_entries (m : KeyMap κ β) (p : β → Bool) :
    m.entries.countP (fun e => p e.2) = Set.ncard {k | (m.lookup k).any p = true} := by
  have hkeys : {k | (m.lookup k).any p = true} = ↑((m.entries.filter fun e => p e.2).map (·.1)).toFinset := by
    ext k
    simp only [Set.mem_ofPred_eq, Option.any_eq_true, List.coe_toFinset, List.mem_map, List.mem_filter,
      ← Option.mem_def, AList.mem_lookup_iff]
    constructor
    · rintro ⟨v, hv, hp⟩
      exact ⟨⟨k, v⟩, ⟨hv, hp⟩, rfl⟩
    · rintro ⟨⟨_, v⟩, ⟨hv, hp⟩, rfl⟩
      exact ⟨v, hv, hp⟩
  have hnodup : ((m.entries.filter fun e => p e.2).map (·.1)).Nodup :=
    (List.filter_sublist.map _).nodup m.nodupKeys
  rw [hkeys, Set.ncard_coe_finset, List.toFinset_card_of_nodup hnodup, List.length_map, List.countP_eq_length_filter]

/-- The sum of the values. -/
def total (m : KeyMap κ Nat) : Nat := (m.entries.map (·.2)).sum

theorem sum_kerase (k : κ) : ∀ l : List (Sigma fun _ : κ => Nat),
    ((List.kerase k l).map (·.2)).sum + (List.dlookup k l).getD 0 = (l.map (·.2)).sum
  | [] => rfl
  | ⟨k', n⟩ :: l => by
    by_cases h : k = k'
    · subst h
      have herase : List.kerase k (⟨k, n⟩ :: l) = l := List.kerase_cons_eq rfl
      have hlookup : List.dlookup k (⟨k, n⟩ :: l) = some n := List.dlookup_cons_eq l k n
      rw [herase, hlookup]
      exact Nat.add_comm _ _
    · have herase : List.kerase k (⟨k', n⟩ :: l) = ⟨k', n⟩ :: List.kerase k l := List.kerase_cons_ne h
      have hlookup : List.dlookup k (⟨k', n⟩ :: l) = List.dlookup k l := List.dlookup_cons_ne l ⟨k', n⟩ h
      rw [herase, hlookup, List.map_cons, List.sum_cons, Nat.add_assoc, sum_kerase k l]
      rfl

/-- A new value changes the sum by what it is more than the old one. -/
theorem total_insert (m : KeyMap κ Nat) (k : κ) (n : Nat) :
    total (m.insert k n) + (m.lookup k).getD 0 = m.total + n := by
  unfold total
  rw [AList.entries_insert, List.map_cons, List.sum_cons, Nat.add_assoc]
  exact (congrArg (n + ·) (sum_kerase k m.entries)).trans (Nat.add_comm _ _)

end KeyMap
