import AiRouter.StickyHistory

/-
# The sticky store under interleaved calls (router/sticky.rs:24-53)

`set` and `touch` are one step on the map each. `get` is one step while its entry is alive or missing, and two when
it has expired: the guard is dropped before `remove`, and `remove` does not look again.

| here | there |
| --- | --- |
| `RaceStep.lookup` | `sessions.get(..)` with the test under its guard (sticky.rs:26-29) |
| `RaceStep.remove` | `sessions.remove(..)` (sticky.rs:32) |
-/
namespace AiRouter

inductive RaceStep where
  | set (sessionId : String) (endpointIndex : Nat)
  | touch (sessionId : String)
  | lookup (caller : Nat) (sessionId : String)
  | remove (caller : Nat)
deriving DecidableEq, Repr

structure TimedStep where
  time : Nat
  step : RaceStep
deriving DecidableEq, Repr

structure Race where
  store : SessionStickyStore
  /-- the session that a `get` has found expired and is about to remove, by caller -/
  removing : KeyMap Nat String

namespace Race

def start (ttlSecs : Nat) : Race := { store := .new ttlSecs, removing := ∅ }

def step (r : Race) (c : TimedStep) : Race :=
  match c.step with
  | .set sessionId endpointIndex => { r with store := r.store.set sessionId endpointIndex c.time }
  | .touch sessionId => { r with store := r.store.touch sessionId c.time }
  | .lookup caller sessionId =>
    match r.removing.lookup caller, r.store.sessions.lookup sessionId with
    | none, some entry =>
      if (c.time - entry.lastAccess) / 10 ^ 9 < r.store.ttlSecs then r
      else { r with removing := r.removing.insert caller sessionId }
    -- nothing there, or the caller is still in its last call
    | _, _ => r
  | .remove caller =>
    match r.removing.lookup caller with
    | some sessionId =>
      { store := { r.store with sessions := r.store.sessions.erase sessionId }
        removing := r.removing.erase caller }
    | none => r

def after (ttlSecs : Nat) (steps : List TimedStep) : Race := Steps.run step (start ttlSecs) steps

/-- No call is between two of its steps. -/
def Settled (r : Race) : Prop := ∀ caller, r.removing.lookup caller = none

/-- With nothing in between, the two steps are `get`. -/
theorem lookup_remove_eq_get {r : Race} {caller : Nat} (h : r.removing.lookup caller = none) (sessionId : String)
    (t : Nat) : ((r.step ⟨t, .lookup caller sessionId⟩).step ⟨t, .remove caller⟩).store
      = (r.store.get sessionId t).1 := by
  unfold SessionStickyStore.get
  cases hentry : r.store.sessions.lookup sessionId with
  | none => simp only [step, h, hentry]
  | some entry =>
    by_cases hfresh : (t - entry.lastAccess) / 10 ^ 9 < r.store.ttlSecs
    · simp only [step, h, hentry, if_pos hfresh]
    · simp only [step, h, hentry, if_neg hfresh, AList.lookup_insert]

end Race

open Race

/-! ## What is claimed of a run -/

def lastSetStep (sessionId : String) (last : Option (Nat × Nat)) (c : TimedStep) : Option (Nat × Nat) :=
  match c.step with
  | .set k i => if k = sessionId then some (i, c.time) else last
  | _ => last

/-- Index and time of the last `set` of the session. -/
def lastSet (sessionId : String) (steps : List TimedStep) : Option (Nat × Nat) :=
  Steps.run (lastSetStep sessionId) none steps

/-- After these steps, a `get` returns what was last set, as long as that is younger than the TTL. -/
def Kept (ttlSecs : Nat) (steps : List TimedStep) : Prop :=
  ∀ sessionId index setAt t, lastSet sessionId steps = some (index, setAt) → (∀ c ∈ steps, c.time ≤ t) →
    Within ttlSecs setAt t → ((after ttlSecs steps).store.get sessionId t).2 = some index

def TimedStep.IsRemove (c : TimedStep) : Prop := ∃ caller, c.step = .remove caller

/-- At each point of the run, however the calls under way then finish. -/
def KeepsBindings (ttlSecs : Nat) (steps : List TimedStep) : Prop :=
  ∀ seen, seen <+: steps → ∀ finish : List TimedStep, (∀ c ∈ finish, c.IsRemove) →
    (seen ++ finish).Pairwise (·.time ≤ ·.time) → (after ttlSecs (seen ++ finish)).Settled →
    Kept ttlSecs (seen ++ finish)

/-- No `set` comes between the two steps of another request's `get` of the session. -/
def NoSetInGap (ttlSecs : Nat) (steps : List TimedStep) : Prop :=
  ∀ before later t sessionId index, steps = before ++ ⟨t, .set sessionId index⟩ :: later →
    ∀ caller, (after ttlSecs before).removing.lookup caller ≠ some sessionId

/-! ## One step -/

/-- The binding is there, accessed since it was set, and nobody is about to remove it. -/
def Bound (r : Race) (sessionId : String) (index setAt : Nat) : Prop :=
  (∃ a, setAt ≤ a ∧ r.store.sessions.lookup sessionId = some { endpointIndex := index, lastAccess := a }) ∧
    ∀ caller, r.removing.lookup caller ≠ some sessionId

/-- The last `set` has expired, or its binding is there and nobody is about to remove it. -/
def Safe (ttlSecs now : Nat) (r : Race) (sessionId : String) : Option (Nat × Nat) → Prop
  | none => True
  | some (index, setAt) => setAt ≤ now ∧ (Within ttlSecs setAt now →
      (∃ a, setAt ≤ a ∧ r.store.sessions.lookup sessionId = some { endpointIndex := index, lastAccess := a }) ∧
        ∀ caller, r.removing.lookup caller ≠ some sessionId)

section
variable {ttlSecs now t : Nat} {r : Race} {sessionId : String} {last : Option (Nat × Nat)}

theorem Safe.mono (h : Safe ttlSecs now r sessionId last) (hle : now ≤ t) : Safe ttlSecs t r sessionId last := by
  cases last with
  | none => trivial
  | some last => exact ⟨h.1.trans hle, fun hw => h.2 (hw.mono hle)⟩

theorem Within.later {ttlSecs a a' t : Nat} (h : Within ttlSecs a t) (hle : a ≤ a') : Within ttlSecs a' t := by
  unfold Within at h ⊢
  omega

/-- What keeps the binding of a `set` that has not expired keeps the session safe. -/
theorem Safe.map {r' : Race} (h : Safe ttlSecs now r sessionId last) (hstep : ∀ index setAt, setAt ≤ now →
    Within ttlSecs setAt now → Bound r sessionId index setAt → Bound r' sessionId index setAt) :
    Safe ttlSecs now r' sessionId last := by
  cases last with
  | none => trivial
  | some last => exact ⟨h.1, fun hw => hstep last.1 last.2 h.1 hw (h.2 hw)⟩

variable {index setAt : Nat}

theorem Bound.set_other (h : Bound r sessionId index setAt) {k : String} (hk : k ≠ sessionId) (i : Nat) :
    Bound (r.step ⟨t, .set k i⟩) sessionId index setAt := by
  obtain ⟨⟨a, hle, hentry⟩, hfree⟩ := h
  exact ⟨⟨a, hle, (AList.lookup_insert_ne (Ne.symm hk)).trans hentry⟩, hfree⟩

theorem Bound.touch (h : Bound r sessionId index setAt) (hle : setAt ≤ t) (k : String) :
    Bound (r.step ⟨t, .touch k⟩) sessionId index setAt := by
  obtain ⟨⟨a, ha, hentry⟩, hfree⟩ := h
  refine ⟨?_, hfree⟩
  by_cases hk : k = sessionId
  · subst hk
    refine ⟨t, hle, ?_⟩
    show AList.lookup k (KeyMap.adjust _ _ _) = _
    rw [KeyMap.lookup_adjust_self, hentry, Option.map_some]
  · exact ⟨a, ha, (KeyMap.lookup_adjust_ne _ _ (Ne.symm hk)).trans hentry⟩

/-- What is about to be removed has expired, so it is another session. -/
theorem Bound.lookup (hr : r.store.ttlSecs = ttlSecs) (h : Bound r sessionId index setAt)
    (hw : Within ttlSecs setAt t) (caller : Nat) (k : String) :
    Bound (r.step ⟨t, .lookup caller k⟩) sessionId index setAt := by
  obtain ⟨⟨a, hle, hentry⟩, hfree⟩ := h
  dsimp only [Race.step]
  split
  · rename_i entry hcaller hlookup
    split
    · exact ⟨⟨a, hle, hentry⟩, hfree⟩
    · rename_i hstale
      have hne : k ≠ sessionId := by
        rintro rfl
        rw [hentry] at hlookup
        obtain rfl := Option.some.inj hlookup
        rw [hr, within_iff] at hstale
        exact hstale (hw.later hle)
      refine ⟨⟨a, hle, hentry⟩, fun other => ?_⟩
      by_cases hother : other = caller
      · subst hother
        rw [AList.lookup_insert]
        simpa using hne
      · rw [AList.lookup_insert_ne hother]
        exact hfree other
  · exact ⟨⟨a, hle, hentry⟩, hfree⟩

theorem Bound.remove (h : Bound r sessionId index setAt) (caller : Nat) :
    Bound (r.step ⟨t, .remove caller⟩) sessionId index setAt := by
  obtain ⟨⟨a, hle, hentry⟩, hfree⟩ := h
  dsimp only [Race.step]
  split
  · rename_i k hcaller
    have hne : sessionId ≠ k := by
      rintro rfl
      exact hfree caller hcaller
    refine ⟨⟨a, hle, (AList.lookup_erase_ne hne).trans hentry⟩, fun other => ?_⟩
    by_cases hother : other = caller
    · subst hother
      rw [AList.lookup_erase]
      simp
    · rw [AList.lookup_erase_ne hother]
      exact hfree other
  · exact ⟨⟨a, hle, hentry⟩, hfree⟩

/-- **One step** at its own time, a `set` under the condition. -/
theorem Safe.step {c : TimedStep} (hr : r.store.ttlSecs = ttlSecs) (h : Safe ttlSecs c.time r sessionId last)
    (hset : ∀ index, c.step = .set sessionId index → ∀ caller, r.removing.lookup caller ≠ some sessionId) :
    Safe ttlSecs c.time (r.step c) sessionId (lastSetStep sessionId last c) := by
  obtain ⟨t, step⟩ := c
  cases step with
  | set k i =>
    dsimp only [lastSetStep]
    by_cases hk : k = sessionId
    · subst hk
      rw [if_pos rfl]
      exact ⟨le_rfl, fun _ => ⟨⟨t, le_rfl, AList.lookup_insert _⟩, hset i rfl⟩⟩
    · rw [if_neg hk]
      exact h.map fun _ _ _ _ hbound => hbound.set_other hk i
  | touch k => exact h.map fun _ _ hle _ hbound => hbound.touch hle k
  | lookup caller k => exact h.map fun _ _ _ hw hbound => hbound.lookup hr hw caller k
  | remove caller => exact h.map fun _ _ _ _ hbound => hbound.remove caller

end

theorem step_ttlSecs (r : Race) (c : TimedStep) : (r.step c).store.ttlSecs = r.store.ttlSecs := by
  obtain ⟨t, step⟩ := c
  cases step with
  | lookup caller k =>
    dsimp only [Race.step]
    split
    · split <;> rfl
    · rfl
  | remove caller =>
    dsimp only [Race.step]
    split <;> rfl
  | _ => rfl

theorem race_ttlSecs (ttlSecs : Nat) (steps : List TimedStep) : (Race.after ttlSecs steps).store.ttlSecs = ttlSecs :=
  Steps.run_keeps (I := fun r => r.store.ttlSecs = ttlSecs) (P := fun _ _ => True)
    (fun r c _ h => (step_ttlSecs r c).trans h) steps (start ttlSecs) (Steps.every_true steps _) rfl

/-! ## Runs -/

section
variable {ttlSecs now t : Nat} {steps : List TimedStep} {sessionId : String}

theorem race_concat (ttlSecs : Nat) (steps : List TimedStep) (c : TimedStep) :
    Race.after ttlSecs (steps ++ [c]) = (Race.after ttlSecs steps).step c := Steps.run_append _ _ _

theorem lastSet_concat (sessionId : String) (steps : List TimedStep) (c : TimedStep) :
    lastSet sessionId (steps ++ [c]) = lastSetStep sessionId (lastSet sessionId steps) c := Steps.run_append _ _ _

/-- **Run**: a `set` that comes in no gap is safe until it expires. -/
theorem NoSetInGap.safe (h : NoSetInGap ttlSecs steps) (hordered : steps.Pairwise (·.time ≤ ·.time))
    (hnow : ∀ c ∈ steps, c.time ≤ now) (sessionId : String) :
    Safe ttlSecs now (Race.after ttlSecs steps) sessionId (lastSet sessionId steps) := by
  induction steps using List.reverseRecOn generalizing now with
  | nil => trivial
  | append_singleton steps c ih =>
    rw [race_concat, lastSet_concat]
    suffices hat : Safe ttlSecs c.time _ sessionId _ from hat.mono (hnow c (by simp))
    have hle : ∀ d ∈ steps, d.time ≤ c.time := fun d hd =>
      (List.pairwise_append.1 hordered).2.2 d hd c (List.mem_singleton_self c)
    have hgap : NoSetInGap ttlSecs steps := fun before later t k index hsplit =>
      h before (later ++ [c]) t k index (by simp [hsplit])
    refine (ih hgap (List.pairwise_append.1 hordered).1 hle).step (race_ttlSecs ttlSecs steps) fun index hset => ?_
    obtain ⟨t, step⟩ := c
    obtain rfl : step = .set sessionId index := hset
    exact h steps [] t sessionId index rfl

theorem NoSetInGap.append_removes {finish : List TimedStep} (h : NoSetInGap ttlSecs steps)
    (hfinish : ∀ c ∈ finish, c.IsRemove) : NoSetInGap ttlSecs (steps ++ finish) := by
  intro before later t k index hsplit
  rcases List.append_eq_append_iff.1 hsplit with ⟨mid, hbefore, hmid⟩ | ⟨mid, hsteps, hmid⟩
  · obtain ⟨caller, hremove⟩ := hfinish ⟨t, .set k index⟩ (by rw [hmid]; simp)
    cases hremove
  · cases mid with
    | nil =>
      obtain ⟨caller, hremove⟩ := hfinish ⟨t, .set k index⟩ (by simp at hmid; simp [← hmid])
      cases hremove
    | cons c mid =>
      obtain rfl : ⟨t, .set k index⟩ = c := (List.cons.inj hmid).1
      exact h before mid t k index hsteps

theorem kept_of_safe (h : ∀ now sessionId, (∀ c ∈ steps, c.time ≤ now) →
    Safe ttlSecs now (Race.after ttlSecs steps) sessionId (lastSet sessionId steps)) : Kept ttlSecs steps := by
  intro k index setAt t hlast htimes hw
  have hsafe := h t k htimes
  rw [hlast] at hsafe
  obtain ⟨⟨a, hle, hentry⟩, _⟩ := hsafe.2 hw
  rw [get_snd, hentry, race_ttlSecs, Option.filter_some, if_pos (decide_eq_true (within_iff.2 (hw.later hle))),
    Option.map_some]

end

/-! ## The calls under way finish -/

section
variable {t : Nat} {r : Race} {caller : Nat} {sessionId : String}

theorem remove_removing (r : Race) (t caller other : Nat) :
    (r.step ⟨t, .remove caller⟩).removing.lookup other = if other = caller then none else r.removing.lookup other := by
  dsimp only [Race.step]
  by_cases hother : other = caller
  · subst hother
    rw [if_pos rfl]
    split
    · exact AList.lookup_erase _ _
    · assumption
  · rw [if_neg hother]
    split
    · exact AList.lookup_erase_ne hother
    · rfl

theorem remove_keeps_none (h : r.store.sessions.lookup sessionId = none) :
    (r.step ⟨t, .remove caller⟩).store.sessions.lookup sessionId = none := by
  dsimp only [Race.step]
  split
  · rename_i k _
    by_cases hk : sessionId = k
    · subst hk
      exact AList.lookup_erase _ _
    · exact (AList.lookup_erase_ne hk).trans h
  · exact h

theorem remove_session (h : r.removing.lookup caller = some sessionId) :
    (r.step ⟨t, .remove caller⟩).store.sessions.lookup sessionId = none := by
  simp only [Race.step, h]
  exact AList.lookup_erase _ _

/-- The callers' `remove`s, in turn. -/
def removals (t : Nat) (callers : List Nat) : List TimedStep := callers.map fun caller => ⟨t, .remove caller⟩

theorem removals_removing (t : Nat) (callers : List Nat) (other : Nat) :
    ∀ r : Race, (Steps.run Race.step r (removals t callers)).removing.lookup other =
      if other ∈ callers then none else r.removing.lookup other := by
  induction callers with
  | nil => exact fun r => by simp [removals]
  | cons caller callers ih =>
    intro r
    refine (ih (r.step ⟨t, .remove caller⟩)).trans ?_
    rw [remove_removing]
    by_cases hmem : other ∈ callers <;> by_cases hother : other = caller <;> simp [hmem, hother]

/-- All that is about to be removed is. -/
theorem removals_settled (t : Nat) (r : Race) : (Steps.run Race.step r (removals t r.removing.keys)).Settled := by
  intro other
  rw [removals_removing]
  split
  · rfl
  · exact AList.lookup_eq_none.2 (mt AList.mem_keys.2 ‹_›)

theorem removals_sorted {seen : List TimedStep} {t : Nat} (h : seen.Pairwise (·.time ≤ ·.time))
    (hle : ∀ c ∈ seen, c.time ≤ t) (callers : List Nat) :
    (seen ++ removals t callers).Pairwise (·.time ≤ ·.time) := by
  refine List.pairwise_append.2 ⟨h, ?_, fun c hc d hd => ?_⟩
  · exact List.pairwise_map.2 (List.pairwise_of_forall fun _ _ => le_rfl)
  · obtain ⟨other, _, rfl⟩ := List.mem_map.1 hd
    exact hle c hc

theorem removals_keep_none (t : Nat) (callers : List Nat) : ∀ r : Race, r.store.sessions.lookup sessionId = none →
    (Steps.run Race.step r (removals t callers)).store.sessions.lookup sessionId = none := by
  induction callers with
  | nil => exact fun r h => h
  | cons caller callers ih => exact fun r h => ih _ (remove_keeps_none h)

theorem removals_session (t : Nat) {callers : List Nat} (hmem : caller ∈ callers) :
    ∀ r : Race, r.removing.lookup caller = some sessionId →
      (Steps.run Race.step r (removals t callers)).store.sessions.lookup sessionId = none := by
  induction callers with
  | nil => cases hmem
  | cons first callers ih =>
    intro r h
    by_cases hfirst : caller = first
    · subst hfirst
      exact removals_keep_none t callers _ (remove_session h)
    · refine ih ((List.mem_cons.1 hmem).resolve_left hfirst) _ ?_
      rw [remove_removing, if_neg hfirst]
      exact h

theorem lastSet_removals (sessionId : String) (steps : List TimedStep) (t : Nat) (callers : List Nat) :
    lastSet sessionId (steps ++ removals t callers) = lastSet sessionId steps := by
  induction callers using List.reverseRecOn with
  | nil => rw [removals, List.map_nil, List.append_nil]
  | append_singleton callers caller ih =>
    rw [removals, List.map_append, ← List.append_assoc, List.map_singleton, lastSet_concat]
    exact ih

end

section
variable {ttlSecs : Nat} {steps : List TimedStep}

/-- A `set` in a gap is lost once the `get` goes on. -/
theorem KeepsBindings.noSetInGap (hordered : steps.Pairwise (·.time ≤ ·.time)) (httl : ttlSecs ≠ 0)
    (h : KeepsBindings ttlSecs steps) : NoSetInGap ttlSecs steps := by
  rintro before later t sessionId index rfl caller hgap
  let seen := before ++ [⟨t, .set sessionId index⟩]
  let callers := (Race.after ttlSecs seen).removing.keys
  have hseen : (Race.after ttlSecs seen).removing.lookup caller = some sessionId := by
    show (Race.after ttlSecs (before ++ [_])).removing.lookup caller = _
    rw [race_concat]
    exact hgap
  have hrun : Race.after ttlSecs (seen ++ removals t callers)
      = Steps.run Race.step (Race.after ttlSecs seen) (removals t callers) := Steps.run_append _ _ _
  have hle : ∀ c ∈ before, c.time ≤ t := fun c hc =>
    (List.pairwise_append.1 hordered).2.2 c hc _ List.mem_cons_self
  have hle' : ∀ c ∈ seen, c.time ≤ t := by
    intro c hc
    rcases List.mem_append.1 hc with hc | hc
    · exact hle c hc
    · rw [List.mem_singleton.1 hc]
  have hat : ∀ c ∈ seen ++ removals t callers, c.time ≤ t := by
    intro c hc
    rcases List.mem_append.1 hc with hc | hc
    · exact hle' c hc
    · obtain ⟨other, _, rfl⟩ := List.mem_map.1 hc
      exact le_rfl
  have hsorted := removals_sorted (hordered.sublist (by simp [seen])) hle' callers
  have hsettled : (Race.after ttlSecs (seen ++ removals t callers)).Settled := by
    rw [hrun]
    exact removals_settled t _
  have hkept := h seen (by simp [seen]) (removals t callers)
    (fun c hc => by obtain ⟨other, _, rfl⟩ := List.mem_map.1 hc; exact ⟨other, rfl⟩) hsorted hsettled
  have hlast : lastSet sessionId (seen ++ removals t callers) = some (index, t) := by
    rw [lastSet_removals, lastSet_concat]
    exact if_pos rfl
  have hgone : (Race.after ttlSecs (seen ++ removals t callers)).store.sessions.lookup sessionId = none := by
    rw [hrun]
    exact removals_session t (AList.mem_keys.1 (AList.lookup_isSome.1 (by rw [hseen]; rfl))) _ hseen
  have hget := hkept sessionId index t t hlast hat (by unfold Within; omega)
  rw [get_snd, hgone] at hget
  cases hget

/-- **No binding is lost** to another request exactly where no `set` comes between the two steps of a `get`. -/
theorem sticky_race_iff (hordered : steps.Pairwise (·.time ≤ ·.time)) :
    KeepsBindings ttlSecs steps ↔ ttlSecs = 0 ∨ NoSetInGap ttlSecs steps := by
  constructor
  · intro h
    by_cases httl : ttlSecs = 0
    · exact Or.inl httl
    · exact Or.inr (h.noSetInGap hordered httl)
  · rintro (rfl | hgap) seen hseen finish hfinish hsorted _
    · intro _ _ _ _ _ _ hw
      simp [Within] at hw
    · obtain ⟨rest, rfl⟩ := hseen
      have hprefix : NoSetInGap ttlSecs seen := fun before later t k index hsplit =>
        hgap before (later ++ rest) t k index (by simp [hsplit])
      exact kept_of_safe fun now k htimes => ( hprefix.append_removes hfinish).safe hsorted htimes k

end

/-! A session that has run out, and a request that binds it anew while another is about to remove it. -/

def raceSteps : List TimedStep :=
  [⟨0, .set "conversation" 0⟩, ⟨61000000000, .lookup 1 "conversation"⟩, ⟨61000000000, .set "conversation" 1⟩,
    ⟨61000000000, .remove 1⟩]

theorem sticky_binding_lost :
    (Race.after 60 raceSteps).removing = ∅ ∧ lastSet "conversation" raceSteps = some (1, 61000000000) ∧
      ((Race.after 60 raceSteps).store.get "conversation" 61000000000).2 = none ∧
      ¬ ∀ ttlSecs steps, List.Pairwise (fun a b : TimedStep => a.time ≤ b.time) steps →
        (Race.after ttlSecs steps).Settled → Kept ttlSecs steps := by
  have hempty : (Race.after 60 raceSteps).removing = ∅ := rfl
  have hnone : ((Race.after 60 raceSteps).store.get "conversation" 61000000000).2 = none := by decide
  refine ⟨hempty, by decide, hnone, fun h => ?_⟩
  have hsettled : (Race.after 60 raceSteps).Settled := fun caller => by rw [hempty]; rfl
  have hkept := h 60 raceSteps (by decide) hsettled "conversation" 1 61000000000 61000000000 (by decide) (by decide)
    (by simp [Within])
  rw [hnone] at hkept
  cases hkept

/-- The same requests one after the other. -/
theorem sticky_binding_kept : KeepsBindings 60 [⟨0, .set "conversation" 0⟩, ⟨61000000000, .lookup 1 "conversation"⟩,
    ⟨61000000000, .remove 1⟩, ⟨61000000000, .set "conversation" 1⟩] := by
  refine (sticky_race_iff (by decide)).2 (Or.inr ?_)
  intro before later t k index h
  match before, h with
  | [], _ => exact fun caller hcaller => by cases hcaller
  | [_], h => cases h
  | [_, _], h => cases h
  | [_, _, _], h =>
    cases h
    exact fun caller hcaller => by cases hcaller
  | _ :: _ :: _ :: _ :: before, h => simp at h

end AiRouter
