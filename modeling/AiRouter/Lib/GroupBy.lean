import AiRouter.Lib.KeyMap
import Mathlib.Algebra.BigOperators.Group.Finset.Piecewise
import Mathlib.Data.List.Dedup
import Mathlib.Tactic.Abel

/-
# Groups of rows, and groups merged into a keyed table

`groups` is `GROUP BY`, `insertOrMerge` is `INSERT .. ON CONFLICT (key) DO UPDATE`: it fails when two
of its rows share the key or when a value it would write does not fit its column. A sum over the rows
of some keys is not changed by grouping (`sumWhere_groups`) and is what a merge adds to the table
(`tableSum_insertOrMerge`).
-/
namespace GroupBy

variable {ρ κ ν M : Type} [AddCommMonoid M]

/-- The sum of `f` over the rows that `p` holds of. -/
def sumWhere (p : ρ → Bool) (f : ρ → M) (rows : List ρ) : M := ((rows.filter p).map f).sum

@[simp] theorem sumWhere_nil (p : ρ → Bool) (f : ρ → M) : sumWhere p f [] = 0 := rfl

@[simp] theorem sumWhere_cons (p : ρ → Bool) (f : ρ → M) (r : ρ) (rows : List ρ) :
    sumWhere p f (r :: rows) = (if p r then f r else 0) + sumWhere p f rows := by
  unfold sumWhere
  by_cases h : p r = true
  · simp [h]
  · simp [h]

theorem sumWhere_append (p : ρ → Bool) (f : ρ → M) (rows rows' : List ρ) :
    sumWhere p f (rows ++ rows') = sumWhere p f rows + sumWhere p f rows' := by
  unfold sumWhere
  rw [List.filter_append, List.map_append, List.sum_append]

theorem sumWhere_map {σ : Type} (p : ρ → Bool) (f : ρ → M) (g : σ → ρ) (rows : List σ) :
    sumWhere p f (rows.map g) = sumWhere (p <| g ·) (f <| g ·) rows := by
  unfold sumWhere
  rw [List.filter_map, List.map_map]
  rfl

/-! ## Groups -/

section
variable [DecidableEq κ] (key : ρ → κ)

/-- One group for each key, with its rows. -/
def groups (rows : List ρ) : List (κ × List ρ) :=
  (rows.map key).dedup.map fun k => (k, rows.filter (key · = k))

theorem groups_nodup (rows : List ρ) : ((groups key rows).map (·.1)).Nodup := by
  unfold groups
  rw [List.map_map]
  simpa [Function.comp_def] using List.nodup_dedup (rows.map key)

/-- There is a group for a key that a row has. -/
theorem mem_groups_keys {rows : List ρ} {k : κ} : k ∈ (groups key rows).map (·.1) ↔ ∃ r ∈ rows, key r = k := by
  unfold groups
  rw [List.map_map]
  simp [Function.comp_def]

/-- Over distinct keys that are all there, the rows are counted once each. -/
theorem sum_over_keys (p : κ → Bool) (f : ρ → M) {ks : List κ} (hks : ks.Nodup) :
    ∀ {rows : List ρ}, (∀ r ∈ rows, key r ∈ ks) →
      (ks.map fun k => if p k then ((rows.filter (key · = k)).map f).sum else 0).sum = sumWhere (p <| key ·) f rows := by
  intro rows
  induction rows with
  | nil => simp
  | cons r rows ih =>
    intro hmem
    have hrest := ih fun r' hr' => hmem r' (List.mem_cons_of_mem _ hr')
    have hsplit : ∀ k, (if p k then (((r :: rows).filter (key · = k)).map f).sum else 0)
        = (if k = key r then (if p (key r) then f r else 0) else 0)
          + if p k then ((rows.filter (key · = k)).map f).sum else 0 := by
      intro k
      by_cases hk : key r = k
      · subst hk
        by_cases hp : p (key r) = true <;> simp [hp]
      · simp [hk, Ne.symm hk]
    have hone : (ks.map fun k => if k = key r then (if p (key r) then f r else 0) else 0).sum
        = if p (key r) then f r else 0 := by
      rw [← List.sum_toFinset _ hks, Finset.sum_ite_eq', if_pos (List.mem_toFinset.2 (hmem r List.mem_cons_self))]
    simp only [hsplit]
    rw [List.sum_map_add, hone, hrest, sumWhere_cons]

/-- **Grouping loses nothing.** -/
theorem sumWhere_groups (p : κ → Bool) (f : ρ → M) (rows : List ρ) :
    sumWhere (p ·.1) (fun g => (g.2.map f).sum) (groups key rows) = sumWhere (p <| key ·) f rows := by
  rw [← sum_over_keys key p f (List.nodup_dedup (rows.map key))
    fun r hr => List.mem_dedup.2 (List.mem_map_of_mem hr)]
  unfold groups
  induction (rows.map key).dedup with
  | nil => rfl
  | cons k ks ih => rw [List.map_cons, List.map_cons, sumWhere_cons, List.sum_cons, ih]

end

/-! ## Merging rows into a keyed table -/

section
variable [DecidableEq κ] (merge : ν → ν → ν)

/-- What stands in the table for a proposed value: itself, or merged into the one already there. -/
def merged (old : Option ν) (value : ν) : ν :=
  match old with
  | none => value
  | some old => merge old value

def mergeRow (table : KeyMap κ ν) (row : κ × ν) : KeyMap κ ν :=
  table.insert row.1 (merged merge (table.lookup row.1) row.2)

/-- The rows share no key, and every value, alone and merged, fits its column. -/
def Insertable (fits : ν → Bool) (rows : List (κ × ν)) (table : KeyMap κ ν) : Prop :=
  (rows.map (·.1)).Nodup ∧ ∀ row ∈ rows, fits row.2 = true ∧ fits (merged merge (table.lookup row.1) row.2) = true

instance (fits : ν → Bool) (rows : List (κ × ν)) (table : KeyMap κ ν) :
    Decidable (Insertable merge fits rows table) := by
  unfold Insertable
  infer_instance

/-- `INSERT .. ON CONFLICT (key) DO UPDATE`. Distinct keys do not see each other's merge, so the values
are those that the table has before. -/
def insertOrMerge (fits : ν → Bool) (rows : List (κ × ν)) (table : KeyMap κ ν) : Option (KeyMap κ ν) :=
  if Insertable merge fits rows table then some (rows.foldl (mergeRow merge) table) else none

/-- The sum of `f` over the entries whose key `p` holds of. -/
def tableSum (p : κ → Bool) (f : ν → M) (table : KeyMap κ ν) : M :=
  sumWhere (p ·.1) (f ·.2) table.entries

variable {merge} {f : ν → M}

/-- **Step**: a merge adds its value. -/
theorem tableSum_mergeRow (hf : ∀ old value, f (merge old value) = f old + f value) (p : κ → Bool)
    (table : KeyMap κ ν) (row : κ × ν) :
    tableSum p f (mergeRow merge table row) = tableSum p f table + if p row.1 then f row.2 else 0 := by
  obtain ⟨k, value⟩ := row
  unfold mergeRow tableSum
  rw [AList.entries_insert]
  cases hold : table.lookup k with
  | none =>
    have habsent : k ∉ table.entries.keys := AList.lookup_eq_none.1 hold
    rw [List.kerase_of_notMem_keys habsent, sumWhere_cons]
    exact add_comm _ _
  | some old =>
    have hmem : k ∈ table.entries.keys := AList.lookup_isSome.1 (by rw [hold]; rfl)
    obtain ⟨old', l₁, l₂, hl₁, hentries, herased⟩ := List.exists_of_kerase hmem
    have hsame : old' = old := by
      have hfound : table.lookup k = some old' := by
        unfold AList.lookup
        rw [hentries, List.dlookup_append, List.dlookup_eq_none.2 hl₁]
        simp
      rw [hold] at hfound
      exact (Option.some.inj hfound).symm
    rw [herased, hentries, sumWhere_cons, sumWhere_append, sumWhere_append, sumWhere_cons, hsame]
    by_cases hp : p k = true
    · simp only [merged, hp, if_true, hf]
      abel
    · simp [hp]

/-- **Run**: the table gains the sum of the rows. -/
theorem tableSum_foldl (hf : ∀ old value, f (merge old value) = f old + f value) (p : κ → Bool)
    (rows : List (κ × ν)) : ∀ table : KeyMap κ ν,
      tableSum p f (rows.foldl (mergeRow merge) table) = tableSum p f table + sumWhere (p ·.1) (f ·.2) rows := by
  induction rows with
  | nil => simp
  | cons row rows ih =>
    intro table
    rw [List.foldl_cons, ih, tableSum_mergeRow hf, sumWhere_cons, add_assoc]

/-- **An insert** that succeeds adds the sum of its rows. -/
theorem tableSum_insertOrMerge (hf : ∀ old value, f (merge old value) = f old + f value) (p : κ → Bool)
    {fits : ν → Bool} {rows : List (κ × ν)} {table table' : KeyMap κ ν}
    (h : insertOrMerge merge fits rows table = some table') :
    tableSum p f table' = tableSum p f table + sumWhere (p ·.1) (f ·.2) rows := by
  unfold insertOrMerge at h
  split at h
  · cases h
    exact tableSum_foldl hf p rows table
  · cases h

omit [DecidableEq κ] in
/-- Rows that are not summed may go. -/
theorem tableSum_retainKeys {p keep : κ → Bool} (h : ∀ k, p k = true → keep k = true) (f : ν → M)
    (table : KeyMap κ ν) : tableSum p f (table.retainKeys keep) = tableSum p f table := by
  unfold tableSum sumWhere KeyMap.retainKeys
  rw [List.filter_filter]
  refine congrArg (fun rows => (List.map _ rows).sum) (List.filter_congr fun e _ => ?_)
  by_cases hp : p e.1 = true
  · rw [hp, h e.1 hp]
    rfl
  · simp [hp]

end

end GroupBy
