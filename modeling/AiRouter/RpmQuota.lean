import Mathlib.Logic.Function.Basic
import AiRouter.Config
import AiRouter.Limiter

/-
# The quota behind RPM verdicts

Three operations of the store make a key's pair of limiters when there is none: `check`, which
knows the key's RPM, and `consume_tpm` and `get_tpm_state`, which pass an RPM of 0. The pair keeps
the quota it was made with.
-/
namespace AiRouter

/-- A timed operation on the store; the limits of a key are the same throughout. -/
inductive LimiterOp where
  | check (key : String) (estimatedTokens : Nat) (scope : RateLimitScope) (now : Nat)
  | consumeTpm (key : String) (tokens now : Nat)
  | getTpmState (key : String) (now : Nat)
deriving DecidableEq, Repr

namespace LimiterOp

variable (limits : String → LimitsConfig)

def key : LimiterOp → String
  | check key _ _ _ => key
  | consumeTpm key _ _ => key
  | getTpmState key _ => key

def isCheck : LimiterOp → Bool
  | check _ _ _ _ => true
  | _ => false

/-- Does the operation make the key's pair, where there is none? -/
def opens : LimiterOp → Bool
  | check key estimatedTokens _ _ =>
    decide (0 < (limits key).rpm ∨ (0 < (limits key).tpm ∧ 0 < estimatedTokens))
  | consumeTpm key tokens _ => decide (0 < (limits key).tpm ∧ 0 < tokens)
  | getTpmState key _ => decide (0 < (limits key).tpm)

def apply (s : RateLimiterStore) : LimiterOp → RateLimiterStore
  | check key estimatedTokens scope now =>
    (s.check key (limits key).rpm (limits key).tpm estimatedTokens scope now).1
  | consumeTpm key tokens now => s.consumeTpm key (limits key).tpm tokens now
  | getTpmState key now => (s.getTpmState key (limits key).tpm now).1

/-- The RPM verdict of a check. -/
def verdict (s : RateLimiterStore) : LimiterOp → Option Bool
  | check key _ _ now => some (s.checkRpm key (limits key).rpm (limits key).tpm now).2.isOk
  | _ => none

/-! What a quota of `rpm` per minute gives, from the arrival times of the keys. -/

def quotaCheck (tats : String → Option Nat) (key : String) (now : Nat) : Option Nat × Bool :=
  (quotaPerMinute (limits key).rpm).check (tats key) ((limits key).rpm * now)

def quotaApply (tats : String → Option Nat) : LimiterOp → (String → Option Nat)
  | check key _ _ now =>
    if 0 < (limits key).rpm then Function.update tats key (quotaCheck limits tats key now).1 else tats
  | _ => tats

def quotaVerdict (tats : String → Option Nat) : LimiterOp → Option Bool
  | check key _ _ now =>
    some (if 0 < (limits key).rpm then (quotaCheck limits tats key now).2 else true)
  | _ => none

end LimiterOp

/-- The store after a sequence of operations. -/
def runOps (limits : String → LimitsConfig) (s : RateLimiterStore) (ops : List LimiterOp) :
    RateLimiterStore := ops.foldl (fun s op => op.apply limits s) s

def runQuotas (limits : String → LimitsConfig) (tats : String → Option Nat) (ops : List LimiterOp) :
    String → Option Nat := ops.foldl (fun tats op => op.quotaApply limits tats) tats

/-- The verdicts of a sequence of operations, in order. -/
def verdicts (limits : String → LimitsConfig) : RateLimiterStore → List LimiterOp → List (Option Bool)
  | _, [] => []
  | s, op :: ops => op.verdict limits s :: verdicts limits (op.apply limits s) ops

def quotaVerdicts (limits : String → LimitsConfig) :
    (String → Option Nat) → List LimiterOp → List (Option Bool)
  | _, [] => []
  | tats, op :: ops => op.quotaVerdict limits tats :: quotaVerdicts limits (op.quotaApply limits tats) ops

/-- From an empty store, every verdict is the one the key's own quota gives. -/
def VerdictsRight (limits : String → LimitsConfig) (ops : List LimiterOp) : Prop :=
  verdicts limits { limiters := ∅ } ops = quotaVerdicts limits (fun _ => none) ops

/-- The first operation to make the pair of a key with an RPM of two or more is a check. -/
def CheckedFirst (limits : String → LimitsConfig) (ops : List LimiterOp) : Prop :=
  ∀ key, 1 < (limits key).rpm → ∀ op,
    ops.find? (fun o => o.key == key && o.opens limits) = some op → op.isCheck = true

/-! ## What an operation does to quotas -/

/-- The quota of a key's pair and where it stands. -/
def RateLimiterStore.quotaOf (s : RateLimiterStore) (key : String) : Option (Nat × Option Nat) :=
  (s.limiters.lookup key).map fun p => (p.rpm, p.tat)

namespace RateLimiterStore

variable (s : RateLimiterStore) {k : String}

theorem quotaOf_put (p : RateLimitPair) : (s.put k p).quotaOf k = some (p.rpm, p.tat) := by
  unfold quotaOf
  rw [put_lookup_self, Option.map_some]

theorem getOrCreate_quota (rpm tpm now : Nat) :
    ((s.getOrCreate k rpm tpm now).rpm, (s.getOrCreate k rpm tpm now).tat)
      = (s.quotaOf k).getD (if 0 < rpm then rpm else 1, none) := by
  unfold getOrCreate quotaOf
  cases s.limiters.lookup k <;> rfl

/-- An RPM check is a cell of the pair's quota, made with the key's own when there was none. -/
theorem checkRpm_quotaOf {rpm : Nat} (tpm now : Nat) (h : 0 < rpm) :
    let q := (s.quotaOf k).getD (rpm, none)
    (s.checkRpm k rpm tpm now).1.quotaOf k = some (q.1, ((quotaPerMinute q.1).check q.2 (q.1 * now)).1) ∧
      (s.checkRpm k rpm tpm now).2.isOk = ((quotaPerMinute q.1).check q.2 (q.1 * now)).2 := by
  have hq := s.getOrCreate_quota (k := k) rpm tpm now
  rw [if_pos h] at hq
  obtain ⟨hpair, hok⟩ := ((s.getOrCreate k rpm tpm now).touch now).checkRpm_spec now
  unfold checkRpm
  rw [if_pos h]
  dsimp only
  rw [quotaOf_put, hpair, hok, ← hq]
  exact ⟨rfl, rfl⟩

/-- The other operations leave a pair's quota alone, and make one with the RPM they pass. -/
theorem checkTpm_quotaOf (rpm tpm n now : Nat) :
    (s.checkTpm k rpm tpm n now).1.quotaOf k =
      if 0 < tpm ∧ 0 < n then some ((s.quotaOf k).getD (if 0 < rpm then rpm else 1, none))
      else s.quotaOf k := by
  unfold checkTpm
  split
  · rw [quotaOf_put, ← s.getOrCreate_quota rpm tpm now]
    rfl
  · rfl

theorem consumeTpm_quotaOf (tpm n now : Nat) :
    (s.consumeTpm k tpm n now).quotaOf k =
      if 0 < tpm ∧ 0 < n then some ((s.quotaOf k).getD (1, none)) else s.quotaOf k := by
  have hq := s.getOrCreate_quota (k := k) 0 tpm now
  rw [if_neg (Nat.lt_irrefl 0)] at hq
  unfold consumeTpm
  by_cases h : 0 < tpm ∧ 0 < n
  · rw [if_neg (by omega), if_pos h, quotaOf_put, ← hq]
    rfl
  · rw [if_pos (by omega), if_neg h]

theorem getTpmState_quotaOf (tpm now : Nat) :
    (s.getTpmState k tpm now).1.quotaOf k =
      if 0 < tpm then some ((s.quotaOf k).getD (1, none)) else s.quotaOf k := by
  have hq := s.getOrCreate_quota (k := k) 0 tpm now
  rw [if_neg (Nat.lt_irrefl 0)] at hq
  unfold getTpmState
  by_cases h : 0 < tpm
  · rw [if_neg (by omega), if_pos h, quotaOf_put, ← hq]
  · rw [if_pos (by omega), if_neg h]

/-- The TPM half of a check finds the pair the RPM half has used. -/
theorem check_quotaOf {rpm : Nat} (tpm n now : Nat) (scope : RateLimitScope) (h : 0 < rpm) :
    let q := (s.quotaOf k).getD (rpm, none)
    (s.check k rpm tpm n scope now).1.quotaOf k
      = some (q.1, ((quotaPerMinute q.1).check q.2 (q.1 * now)).1) := by
  dsimp only
  have hrpm := (s.checkRpm_quotaOf (k := k) tpm now h).1
  rw [check_fst]
  split
  · exact hrpm
  · rw [checkTpm_quotaOf, hrpm, Option.getD_some, ite_self]

theorem check_quotaOf_zero (tpm n now : Nat) (scope : RateLimitScope) :
    (s.check k 0 tpm n scope now).1.quotaOf k =
      if 0 < tpm ∧ 0 < n then some ((s.quotaOf k).getD (1, none)) else s.quotaOf k := by
  have hrpm : s.checkRpm k 0 tpm now = (s, .ok ()) := if_neg (Nat.lt_irrefl 0)
  rw [check_fst, hrpm]
  dsimp only
  rw [checkTpm_quotaOf, if_neg (Nat.lt_irrefl 0)]

end RateLimiterStore

namespace LimiterOp

variable {limits : String → LimitsConfig} {s : RateLimiterStore} {tats : String → Option Nat}
  {key : String} {op : LimiterOp}

/-- An operation touches no other key. -/
theorem apply_lookup_ne (h : key ≠ op.key) : (op.apply limits s).limiters.lookup key = s.limiters.lookup key := by
  cases op with
  | check k n scope now => exact s.check_lookup_ne _ _ _ _ _ h
  | consumeTpm k n now => exact s.consumeTpm_lookup_ne _ _ _ h
  | getTpmState k now => exact s.getTpmState_lookup_ne _ _ h

theorem apply_quotaOf_ne (h : key ≠ op.key) : (op.apply limits s).quotaOf key = s.quotaOf key := by
  unfold RateLimiterStore.quotaOf
  rw [apply_lookup_ne h]

/-- An operation that is no RPM check makes a quota of one, where it makes any. -/
theorem apply_quotaOf_low (h : op.isCheck = true → (limits op.key).rpm = 0) :
    (op.apply limits s).quotaOf op.key =
      if op.opens limits then some ((s.quotaOf op.key).getD (1, none)) else s.quotaOf op.key := by
  cases op with
  | check k n scope now =>
    have hrpm : (limits k).rpm = 0 := h rfl
    simp only [apply, opens, LimiterOp.key, hrpm, RateLimiterStore.check_quotaOf_zero, Nat.lt_irrefl,
      false_or, decide_eq_true_eq]
  | consumeTpm k n now =>
    simp only [apply, opens, LimiterOp.key, RateLimiterStore.consumeTpm_quotaOf, decide_eq_true_eq]
  | getTpmState k now =>
    simp only [apply, opens, LimiterOp.key, RateLimiterStore.getTpmState_quotaOf, decide_eq_true_eq]

/-- A pair, once made, stays, with the quota it was made with. -/
theorem apply_quotaOf_some {r : Nat} {tat : Option Nat} (h : s.quotaOf key = some (r, tat)) :
    ∃ tat', (op.apply limits s).quotaOf key = some (r, tat') := by
  by_cases hkey : key = op.key
  · subst hkey
    by_cases hcheck : op.isCheck = true → (limits op.key).rpm = 0
    · rw [apply_quotaOf_low hcheck, h, Option.getD_some, ite_self]
      exact ⟨tat, rfl⟩
    · cases op with
      | check k n scope now =>
        have hrpm : 0 < (limits k).rpm := Nat.pos_of_ne_zero fun hz => hcheck fun _ => hz
        have hq := s.check_quotaOf (k := k) (limits k).tpm n now scope hrpm
        rw [show s.quotaOf k = some (r, tat) from h] at hq
        exact ⟨_, hq⟩
      | consumeTpm k n now => exact absurd (fun hc => by cases hc) hcheck
      | getTpmState k now => exact absurd (fun hc => by cases hc) hcheck
  · exact ⟨tat, (apply_quotaOf_ne hkey).trans h⟩

/-- An operation that opens a key leaves it a pair. -/
theorem apply_quotaOf_opened (h : op.opens limits = true) :
    ∃ q, (op.apply limits s).quotaOf op.key = some q := by
  by_cases hcheck : op.isCheck = true → (limits op.key).rpm = 0
  · rw [apply_quotaOf_low hcheck, if_pos h]
    exact ⟨_, rfl⟩
  · cases op with
    | check k n scope now =>
      have hrpm : 0 < (limits k).rpm := Nat.pos_of_ne_zero fun hz => hcheck fun _ => hz
      exact ⟨_, s.check_quotaOf (k := k) (limits k).tpm n now scope hrpm⟩
    | consumeTpm k n now => exact absurd (fun hc => by cases hc) hcheck
    | getTpmState k now => exact absurd (fun hc => by cases hc) hcheck

/-- A key without a pair had none before, and the operation was not one to make it. -/
theorem apply_quotaOf_none (h : (op.apply limits s).quotaOf key = none) :
    s.quotaOf key = none ∧ (op.key == key && op.opens limits) = false := by
  constructor
  · cases hs : s.quotaOf key with
    | none => rfl
    | some q =>
      have hstays : ∃ tat', (op.apply limits s).quotaOf key = some (q.1, tat') := apply_quotaOf_some hs
      obtain ⟨tat', htat⟩ := hstays
      rw [htat] at h
      cases h
  · by_contra hopens
    simp only [Bool.not_eq_false, Bool.and_eq_true, beq_iff_eq] at hopens
    obtain ⟨rfl, ho⟩ := hopens
    obtain ⟨q, hq⟩ := apply_quotaOf_opened (s := s) ho
    rw [hq] at h
    cases h

end LimiterOp

/-! ## Where every pair was made by a check -/

section
variable {limits : String → LimitsConfig}

/-- Every limited key's pair has the key's own quota and stands where that quota stands. -/
def Agrees (limits : String → LimitsConfig) (s : RateLimiterStore) (tats : String → Option Nat) : Prop :=
  ∀ key, 0 < (limits key).rpm → (s.quotaOf key).getD ((limits key).rpm, none) = ((limits key).rpm, tats key)

/-- An RPM check keeps the agreement and gives the quota's verdict. -/
theorem Agrees.check {s : RateLimiterStore} {tats : String → Option Nat} (h : Agrees limits s tats)
    (key : String) (n : Nat) (scope : RateLimitScope) (now : Nat) :
    LimiterOp.verdict limits s (.check key n scope now) = LimiterOp.quotaVerdict limits tats (.check key n scope now) ∧
      Agrees limits (LimiterOp.apply limits s (.check key n scope now))
        (LimiterOp.quotaApply limits tats (.check key n scope now)) := by
  by_cases hrpm : 0 < (limits key).rpm
  · have hq := h key hrpm
    have hcheck := s.check_quotaOf (k := key) (limits key).tpm n now scope hrpm
    have hverdict := (s.checkRpm_quotaOf (k := key) (limits key).tpm now hrpm).2
    dsimp only at hcheck hverdict
    rw [hq] at hcheck hverdict
    simp only [LimiterOp.verdict, LimiterOp.quotaVerdict, LimiterOp.quotaApply, if_pos hrpm]
    refine ⟨congrArg some hverdict, fun key' hrpm' => ?_⟩
    by_cases hkey : key' = key
    · subst hkey
      rw [Function.update_self]
      unfold LimiterOp.apply
      rw [hcheck, Option.getD_some]
      rfl
    · rw [Function.update_of_ne hkey, LimiterOp.apply_quotaOf_ne hkey]
      exact h key' hrpm'
  · have hzero : (limits key).rpm = 0 := by omega
    have hverdict : s.checkRpm key (limits key).rpm (limits key).tpm now = (s, .ok ()) := if_neg hrpm
    simp only [LimiterOp.verdict, LimiterOp.quotaVerdict, LimiterOp.quotaApply, if_neg hrpm, hverdict]
    refine ⟨rfl, fun key' hrpm' => ?_⟩
    have hkey : key' ≠ key := by
      rintro rfl
      exact hrpm hrpm'
    rw [LimiterOp.apply_quotaOf_ne hkey]
    exact h key' hrpm'

/-- Another operation keeps it where it makes no pair, or one for a key with an RPM of at most 1. -/
theorem Agrees.other {s : RateLimiterStore} {tats : String → Option Nat} (h : Agrees limits s tats)
    {op : LimiterOp} (hop : op.isCheck = false)
    (hlow : s.quotaOf op.key = none → op.opens limits = true → (limits op.key).rpm ≤ 1) :
    Agrees limits (op.apply limits s) tats := by
  intro key hrpm
  have hq := h key hrpm
  by_cases hkey : key = op.key
  · subst hkey
    rw [LimiterOp.apply_quotaOf_low fun hc => by rw [hop] at hc; cases hc]
    split
    · rename_i hopens
      rw [← hq]
      cases hs : s.quotaOf op.key with
      | some q => rfl
      | none =>
        have hone : (limits op.key).rpm = 1 := by
          have := hlow hs hopens
          omega
        rw [hone]
        rfl
    · exact hq
  · rw [LimiterOp.apply_quotaOf_ne hkey]
    exact hq

/-- `CheckedFirst` from a store in which some keys have their pair. -/
def ChecksFirst (limits : String → LimitsConfig) (s : RateLimiterStore) (ops : List LimiterOp) : Prop :=
  ∀ key, 1 < (limits key).rpm → s.quotaOf key = none → ∀ op,
    ops.find? (fun o => o.key == key && o.opens limits) = some op → op.isCheck = true

theorem ChecksFirst.tail {s : RateLimiterStore} {op : LimiterOp} {ops : List LimiterOp}
    (h : ChecksFirst limits s (op :: ops)) : ChecksFirst limits (op.apply limits s) ops := by
  intro key hrpm hnone o ho
  obtain ⟨hbefore, hskip⟩ := LimiterOp.apply_quotaOf_none hnone
  refine h key hrpm hbefore o ?_
  rw [List.find?_cons_of_neg (by simp [hskip])]
  exact ho

theorem ChecksFirst.low {s : RateLimiterStore} {op : LimiterOp} {ops : List LimiterOp}
    (h : ChecksFirst limits s (op :: ops)) (hop : op.isCheck = false) (hnone : s.quotaOf op.key = none)
    (hopens : op.opens limits = true) : (limits op.key).rpm ≤ 1 := by
  by_contra hrpm
  have hcheck := h op.key (by omega) hnone op (List.find?_cons_of_pos (by simp [hopens]))
  rw [hop] at hcheck
  cases hcheck

/-- **Run**: the verdicts are the quotas' own. -/
theorem verdicts_of_checksFirst : ∀ {ops : List LimiterOp} {s : RateLimiterStore}
    {tats : String → Option Nat}, Agrees limits s tats → ChecksFirst limits s ops →
    verdicts limits s ops = quotaVerdicts limits tats ops
  | [], _, _, _, _ => rfl
  | op :: ops, s, tats, hagrees, hfirst => by
    have hstep : op.verdict limits s = op.quotaVerdict limits tats ∧
        Agrees limits (op.apply limits s) (op.quotaApply limits tats) := by
      cases op with
      | check key n scope now => exact hagrees.check key n scope now
      | consumeTpm key n now => exact ⟨rfl, hagrees.other rfl (hfirst.low rfl)⟩
      | getTpmState key now => exact ⟨rfl, hagrees.other rfl (hfirst.low rfl)⟩
    unfold verdicts quotaVerdicts
    rw [hstep.1, verdicts_of_checksFirst hstep.2 hfirst.tail]

theorem right_of_checkedFirst {ops : List LimiterOp} (h : CheckedFirst limits ops) :
    VerdictsRight limits ops :=
  verdicts_of_checksFirst (fun _ _ => rfl) fun key hrpm _ => h key hrpm

/-- Further checks leave the first operations first. -/
theorem CheckedFirst.append {ops checks : List LimiterOp} (h : CheckedFirst limits ops)
    (hchecks : ∀ c ∈ checks, c.isCheck = true) : CheckedFirst limits (ops ++ checks) := by
  intro key hrpm op hfind
  rw [List.find?_append] at hfind
  rcases hops : ops.find? (fun o => o.key == key && o.opens limits) with _ | o
  · rw [hops, Option.none_or] at hfind
    exact hchecks op (List.mem_of_find?_eq_some hfind)
  · rw [hops, Option.some_or] at hfind
    exact h key hrpm op (hops.trans hfind)

/-! ## Where another operation was first -/

theorem verdicts_append (ops more : List LimiterOp) (s : RateLimiterStore) :
    verdicts limits s (ops ++ more)
      = verdicts limits s ops ++ verdicts limits (runOps limits s ops) more := by
  induction ops generalizing s with
  | nil => rfl
  | cons op ops ih => simp only [List.cons_append, verdicts, runOps, List.foldl_cons, ih]

theorem quotaVerdicts_append (ops more : List LimiterOp) (tats : String → Option Nat) :
    quotaVerdicts limits tats (ops ++ more) = quotaVerdicts limits tats ops ++
      quotaVerdicts limits (runQuotas limits tats ops) more := by
  induction ops generalizing tats with
  | nil => rfl
  | cons op ops ih => simp only [List.cons_append, quotaVerdicts, runQuotas, List.foldl_cons, ih]

theorem length_verdicts (ops : List LimiterOp) (s : RateLimiterStore) :
    (verdicts limits s ops).length = ops.length := by
  induction ops generalizing s with
  | nil => rfl
  | cons op ops ih => simp only [verdicts, List.length_cons, ih]

theorem length_quotaVerdicts (ops : List LimiterOp) (tats : String → Option Nat) :
    (quotaVerdicts limits tats ops).length = ops.length := by
  induction ops generalizing tats with
  | nil => rfl
  | cons op ops ih => simp only [quotaVerdicts, List.length_cons, ih]

/-- Operations that do not open a key leave it without a pair. -/
theorem run_quotaOf_none {key : String} (ops : List LimiterOp) (s : RateLimiterStore)
    (hops : ∀ op ∈ ops, (op.key == key && op.opens limits) = false) (h : s.quotaOf key = none) :
    (runOps limits s ops).quotaOf key = none := by
  induction ops generalizing s with
  | nil => exact h
  | cons op ops ih =>
    refine ih _ (fun o ho => hops o (List.mem_cons_of_mem _ ho)) ?_
    by_cases hkey : key = op.key
    · subst hkey
      have hclosed : op.opens limits = false := by
        have := hops op List.mem_cons_self
        simpa using this
      have hcheck : op.isCheck = true → (limits op.key).rpm = 0 := by
        intro hc
        cases op with
        | check k n scope now =>
          simp only [LimiterOp.opens, decide_eq_false_iff_not, not_or, Nat.not_lt, Nat.le_zero] at hclosed
          exact hclosed.1
        | consumeTpm k n now => cases hc
        | getTpmState k now => cases hc
      rw [LimiterOp.apply_quotaOf_low hcheck, hclosed]
      exact h
    · rw [LimiterOp.apply_quotaOf_ne hkey]
      exact h

theorem run_quotaOf_some {key : String} {r : Nat} (ops : List LimiterOp) (s : RateLimiterStore)
    {tat : Option Nat} (h : s.quotaOf key = some (r, tat)) :
    ∃ tat', (runOps limits s ops).quotaOf key = some (r, tat') := by
  induction ops generalizing s tat with
  | nil => exact ⟨tat, h⟩
  | cons op ops ih =>
    have hstays : ∃ tat', (op.apply limits s).quotaOf key = some (r, tat') :=
      LimiterOp.apply_quotaOf_some h
    obtain ⟨tat', htat⟩ := hstays
    exact ih _ htat

/-- **A pair that no check has made** holds a quota of one, for good. -/
theorem quota_of_one {ops : List LimiterOp} (h : ¬ CheckedFirst limits ops) :
    ∃ key tat, 1 < (limits key).rpm ∧
      (runOps limits { limiters := ∅ } ops).quotaOf key = some (1, tat) := by
  unfold CheckedFirst at h
  push Not at h
  obtain ⟨key, hrpm, op, hfind, hcheck⟩ := h
  rw [List.find?_eq_some_iff_append] at hfind
  obtain ⟨hop, before, after, rfl, hbefore⟩ := hfind
  simp only [Bool.and_eq_true, beq_iff_eq] at hop
  obtain ⟨rfl, hopens⟩ := hop
  have hnone : (runOps limits { limiters := ∅ } before).quotaOf op.key = none :=
    run_quotaOf_none before _ (fun o ho => by simpa only [Bool.not_eq_true'] using hbefore o ho) rfl
  have hmade : (op.apply limits (runOps limits { limiters := ∅ } before)).quotaOf op.key
      = some (1, none) := by
    rw [LimiterOp.apply_quotaOf_low fun hc => absurd hc hcheck, if_pos hopens, hnone]
    rfl
  obtain ⟨tat, htat⟩ := run_quotaOf_some after _ hmade
  refine ⟨op.key, tat, hrpm, ?_⟩
  unfold runOps at htat ⊢
  rw [List.foldl_append, List.foldl_cons]
  exact htat

/-- Two checks of an idle key at one moment: a quota of one rejects the second. -/
theorem second_rejected {key : String} {tat : Option Nat} {s : RateLimiterStore} {t : Nat}
    (hrpm : 0 < (limits key).rpm) (hs : s.quotaOf key = some (1, tat)) (hidle : tat.getD t ≤ t) :
    verdicts limits s [.check key 0 .token t, .check key 0 .token t] = [some true, some false] := by
  have hidle' : tat.getD (1 * t) ≤ 1 * t := by rw [Nat.one_mul]; exact hidle
  have hfirst := Gcra.check_idle (quotaPerMinute 1) hidle'
  have hsecond : (quotaPerMinute 1).check (some (1 * t + perMinute)) (1 * t)
      = (some (1 * t + perMinute), false) :=
    Gcra.check_burst_one (q := quotaPerMinute 1) (Nat.le_refl 1) (by decide) (1 * t)
  have hverdict := (s.checkRpm_quotaOf (k := key) (limits key).tpm t hrpm).2
  have hstate := s.check_quotaOf (k := key) (limits key).tpm 0 t .token hrpm
  dsimp only at hverdict hstate
  rw [hs, Option.getD_some, hfirst] at hverdict hstate
  have hverdict' := ((LimiterOp.apply limits s (.check key 0 .token t)).checkRpm_quotaOf
    (k := key) (limits key).tpm t hrpm).2
  rw [show (LimiterOp.apply limits s (.check key 0 .token t)).quotaOf key = some (1, some (1 * t + perMinute))
    from hstate, Option.getD_some, hsecond] at hverdict'
  simp only [verdicts, LimiterOp.verdict, hverdict, hverdict']

/-- A quota of two or more admits it. -/
theorem second_admitted {key : String} {tats : String → Option Nat} {t : Nat}
    (hrpm : 1 < (limits key).rpm)
    (hidle : (tats key).getD ((limits key).rpm * t) ≤ (limits key).rpm * t) :
    quotaVerdicts limits tats [.check key 0 .token t, .check key 0 .token t] = [some true, some true] := by
  have hpos : 0 < (limits key).rpm := by omega
  have hfirst := Gcra.check_idle (quotaPerMinute (limits key).rpm) hidle
  have hsecond : ((quotaPerMinute (limits key).rpm).check
      (some ((limits key).rpm * t + perMinute)) ((limits key).rpm * t)).2 = true :=
    Gcra.check_burst_two (q := quotaPerMinute (limits key).rpm) hrpm _
  simp only [quotaVerdicts, LimiterOp.quotaVerdict, LimiterOp.quotaApply, if_pos hpos,
    LimiterOp.quotaCheck, hfirst, Function.update_self]
  rw [show (quotaPerMinute (limits key).rpm).emission = perMinute from rfl, hsecond]

end

/-- **RPM verdicts are those of the keys' quotas, now and after any further checks, exactly where
every key with an RPM of two or more was checked before anything else opened it.** The further
checks may be put off to any moment `t`. -/
theorem verdicts_right_iff (limits : String → LimitsConfig) (ops : List LimiterOp) (t : Nat) :
    (∀ checks : List LimiterOp, (∀ c ∈ checks, ∃ key n scope now, c = .check key n scope now ∧ t ≤ now) →
        VerdictsRight limits (ops ++ checks)) ↔
      CheckedFirst limits ops := by
  constructor
  · intro h
    by_contra hnot
    obtain ⟨key, tat, hrpm, hquota⟩ := quota_of_one hnot
    -- a moment at which the key is idle for both quotas
    obtain ⟨now, hnow, hidle, hidle'⟩ : ∃ now, t ≤ now ∧ tat.getD now ≤ now ∧
        (runQuotas limits (fun _ => none) ops key).getD
          ((limits key).rpm * now) ≤ (limits key).rpm * now := by
      generalize runQuotas limits (fun _ => none) ops key = tat'
      refine ⟨t + tat.getD 0 + tat'.getD 0, by omega, ?_, ?_⟩
      · cases tat with
        | none => exact Nat.le_refl _
        | some x => simp only [Option.getD_some]; omega
      · cases tat' with
        | none => exact Nat.le_refl _
        | some x =>
          have hmul := Nat.le_mul_of_pos_left (t + tat.getD 0 + x) (show 0 < (limits key).rpm by omega)
          simp only [Option.getD_some]
          omega
    have hright := h [.check key 0 .token now, .check key 0 .token now]
      (fun c hc => ⟨key, 0, .token, now, by simpa using hc, hnow⟩)
    unfold VerdictsRight at hright
    rw [verdicts_append, quotaVerdicts_append] at hright
    have htail := (List.append_inj hright ((length_verdicts _ _).trans (length_quotaVerdicts _ _).symm)).2
    rw [second_rejected (by omega) hquota hidle, second_admitted hrpm hidle'] at htail
    cases htail
  · intro h checks hchecks
    refine right_of_checkedFirst (h.append fun c hc => ?_)
    obtain ⟨key, n, scope, now, rfl, _⟩ := hchecks c hc
    rfl

/-- A statistics page read before the first request of a token with 600 requests per minute: of
two requests right after it the second is rejected, and with the read deleted both pass. -/
theorem stats_read_takes_quota :
    let limits : String → LimitsConfig := fun _ => { rpm := 600, tpm := 100000 }
    let read : LimiterOp := .getTpmState "sk-client" 0
    let ask : LimiterOp := .check "sk-client" 1 .token 0
    verdicts limits { limiters := ∅ } [read, ask, ask] = [none, some true, some false] ∧
      verdicts limits { limiters := ∅ } [ask, ask] = [some true, some true] ∧
      quotaVerdicts limits (fun _ => none) [read, ask, ask] = [none, some true, some true] :=
  ⟨rfl, rfl, rfl⟩

end AiRouter
