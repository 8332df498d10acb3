import AiRouter.Generic
import AiRouter.Ledger
import AiRouter.BanRespect
import Mathlib.Algebra.GroupWithZero.Nat

/-
# What a request is charged for its tokens

One token is reserved before the call and the rest of the usage is charged after it. The
reservations and the charges of a request are made in different places, each of which decides for
itself which buckets apply: `proxy_generic` charges an endpoint's bucket it has never reserved from,
and a bucket that two of a request's keys share is reserved from twice.
-/
namespace AiRouter

/-! ## Reading a ledger -/

/-- Tokens taken from a bucket. -/
def tokensOn (key : String) (ledger : List Charge) : Nat :=
  ((ledger.filter fun c => c.key = key).map (·.tokens)).sum

/-- Charges of one phase to a bucket. -/
def chargesOn (phase : Phase) (key : String) (ledger : List Charge) : Nat :=
  ledger.countP fun c => c.phase = phase ∧ c.key = key

/-- The bucket is charged `max 1 total` tokens: one reservation, and at most one charge after it. -/
structure ChargedOnce (ledger : List Charge) (key : String) (total : Nat) : Prop where
  tokens : tokensOn key ledger = max 1 total
  reserved : chargesOn .reservation key ledger = 1
  charged : chargesOn .postFact key ledger ≤ 1

/-- The buckets with a limit that apply to a request. -/
def limitedBuckets (team tokenKey epKey : String) (teamTpm tokenTpm endpointTpm : Nat) : List String :=
  (if 0 < teamTpm then [teamKey team] else []) ++ (if 0 < tokenTpm then [tokenKey] else []) ++
    (if 0 < endpointTpm then [epRlKey epKey] else [])

/-- The attempts of a run that reserved from a bucket: those on endpoints with a TPM limit kept
under that key, let through by their limits. -/
def attemptsOn (key : String) (trace : List Visit) : Nat :=
  chargesOn .reservation key (trace.flatMap Visit.reservation)

/-- The usage an upstream's answer states: an event stream where one was asked for and the answer is
a success, a whole body otherwise. -/
def answerTotal (deps : Externs) (isStream : Bool) (status : Nat) (body : List Chunk) : Nat :=
  (statedUsage deps (isStream && isSuccess status) body).total

/-- The body arrived and has at most 1 MiB. -/
def BodyRead (body : List Chunk) : Prop :=
  ∃ bytes, readAll body = .ok bytes ∧ bytes.length ≤ mebibyte

section
variable (key : String) (phase : Phase)

theorem tokensOn_append (l l' : List Charge) : tokensOn key (l ++ l') = tokensOn key l + tokensOn key l' := by
  unfold tokensOn
  rw [List.filter_append, List.map_append, List.sum_append]

theorem chargesOn_append (l l' : List Charge) :
    chargesOn phase key (l ++ l') = chargesOn phase key l + chargesOn phase key l' := List.countP_append

/-- Does the limited bucket `key'` count for `key`? -/
def hit (key' : String) (tpm : Nat) : Nat := if 0 < tpm ∧ key' = key then 1 else 0

theorem reserve_tally (key' : String) (tpm : Nat) :
    chargesOn .reservation key (reserve key' tpm) = hit key key' tpm ∧
      chargesOn .postFact key (reserve key' tpm) = 0 ∧ tokensOn key (reserve key' tpm) = hit key key' tpm := by
  unfold reserve hit
  by_cases htpm : 0 < tpm
  · by_cases hkey : key' = key
    · subst hkey
      simp [htpm, chargesOn, tokensOn]
    · simp [htpm, hkey, chargesOn, tokensOn]
  · simp [htpm, chargesOn, tokensOn]

theorem late_tally (key' : String) (tpm total : Nat) :
    chargesOn .reservation key (late key' tpm total) = 0 ∧
      chargesOn .postFact key (late key' tpm total) = (if 1 < total then hit key key' tpm else 0) ∧
      tokensOn key (late key' tpm total) = (if 1 < total then hit key key' tpm * (total - 1) else 0) := by
  unfold late hit
  by_cases htotal : 1 < total
  · by_cases htpm : 0 < tpm
    · by_cases hkey : key' = key
      · subst hkey
        simp [htotal, htpm, chargesOn, tokensOn]
      · simp [htotal, htpm, hkey, chargesOn, tokensOn]
    · simp [htotal, htpm, chargesOn, tokensOn]
  · simp [htotal, chargesOn, tokensOn]

/-- A visit's reservation is of one token. -/
theorem reservation_tally (v : Visit) :
    chargesOn .postFact key v.reservation = 0 ∧
      tokensOn key v.reservation = chargesOn .reservation key v.reservation := by
  unfold Visit.reservation
  split
  · have h := reserve_tally key
    exact ⟨(h _ _).2.1, (h _ _).2.2.trans (h _ _).1.symm⟩
  · have h := reserve_tally key
    exact ⟨(h _ _).2.1, (h _ _).2.2.trans (h _ _).1.symm⟩
  · exact ⟨rfl, rfl⟩

theorem trace_tally (trace : List Visit) :
    chargesOn .postFact key (trace.flatMap Visit.reservation) = 0 ∧
      tokensOn key (trace.flatMap Visit.reservation) = attemptsOn key trace := by
  unfold attemptsOn
  induction trace with
  | nil => exact ⟨rfl, rfl⟩
  | cons v trace ih =>
    obtain ⟨hpost, htokens⟩ := reservation_tally key v
    rw [List.flatMap_cons, chargesOn_append, chargesOn_append, tokensOn_append, hpost, htokens, ih.1, ih.2]
    exact ⟨rfl, rfl⟩

/-- An attempt is kept under an endpoint's key, never under a team's. -/
theorem attemptsOn_team (team : String) (trace : List Visit) : attemptsOn (teamKey team) trace = 0 := by
  have hreserve : ∀ epKey tpm, chargesOn .reservation (teamKey team) (reserve (epRlKey epKey) tpm) = 0 := by
    intro epKey tpm
    rw [(reserve_tally _ _ _).1]
    exact if_neg fun hand => teamKey_ne_epRlKey team epKey hand.2.symm
  unfold attemptsOn
  induction trace with
  | nil => rfl
  | cons v trace ih =>
    rw [List.flatMap_cons, chargesOn_append, ih]
    unfold Visit.reservation
    split
    · exact hreserve _ _
    · exact hreserve _ _
    · rfl

end

/-! ## Every bucket once -/

/-- What the ledger of a request holds for each key, when the upstream's usage was charged as `read`
and `attempts` of the loop reserved. -/
structure Tally (team tokenKey epKey : String) (teamTpm tokenTpm endpointTpm read : Nat)
    (attempts : String → Nat) (ledger : List Charge) : Prop where
  reserved : ∀ key, chargesOn .reservation key ledger
    = hit key (teamKey team) teamTpm + hit key tokenKey tokenTpm + attempts key
  charged : ∀ key, chargesOn .postFact key ledger = if 1 < read then
      hit key (teamKey team) teamTpm + hit key tokenKey tokenTpm + hit key (epRlKey epKey) endpointTpm
    else 0
  tokens : ∀ key, tokensOn key ledger
    = chargesOn .reservation key ledger + chargesOn .postFact key ledger * (read - 1)

/-- **The ledger of a request** is its reservations and its late charges. -/
theorem tally_of_ledger (team tokenKey epKey : String) (teamTpm tokenTpm endpointTpm read : Nat)
    (trace : List Visit) :
    Tally team tokenKey epKey teamTpm tokenTpm endpointTpm read (attemptsOn · trace)
      (reserve (teamKey team) teamTpm ++ reserve tokenKey tokenTpm ++ trace.flatMap Visit.reservation ++
        lateCharges team tokenKey epKey teamTpm tokenTpm endpointTpm read) := by
  have htrace := fun key => trace_tally key trace
  refine ⟨fun key => ?_, fun key => ?_, fun key => ?_⟩
  · simp only [lateCharges, chargesOn_append, (reserve_tally _ _ _).1, (late_tally _ _ _ _).1, Nat.add_zero]
    rfl
  · simp only [lateCharges, chargesOn_append, (reserve_tally _ _ _).2.1, (late_tally _ _ _ _).2.1,
      (htrace _).1, Nat.zero_add]
    split <;> rfl
  · simp only [lateCharges, chargesOn_append, tokensOn_append, (reserve_tally _ _ _).1,
      (reserve_tally _ _ _).2.1, (reserve_tally _ _ _).2.2, (late_tally _ _ _ _).1,
      (late_tally _ _ _ _).2.1, (late_tally _ _ _ _).2.2, (htrace _).1, (htrace _).2,
      Nat.add_zero, Nat.zero_add]
    unfold attemptsOn
    split
    · rw [Nat.add_mul, Nat.add_mul]
    · simp

section
variable {team tokenKey epKey : String} {teamTpm tokenTpm endpointTpm read total : Nat}
  {attempts : String → Nat} {ledger : List Charge}

theorem hit_self {key : String} {tpm : Nat} (h : 0 < tpm) : hit key key tpm = 1 := if_pos ⟨h, rfl⟩

theorem hit_ne {key key' : String} (tpm : Nat) (h : key' ≠ key) : hit key key' tpm = 0 :=
  if_neg fun hand => h hand.2

/-- A bucket that is reserved from once and charged once is charged the usage that was read. -/
theorem Tally.once_iff (h : Tally team tokenKey epKey teamTpm tokenTpm endpointTpm read attempts ledger)
    {key : String} (hreserved : chargesOn .reservation key ledger = 1)
    (hcharged : chargesOn .postFact key ledger = if 1 < read then 1 else 0) :
    ChargedOnce ledger key total ↔ max 1 read = max 1 total := by
  have htokens := h.tokens key
  rw [hreserved, hcharged] at htokens
  constructor
  · intro honce
    have := honce.tokens
    rw [htokens] at this
    split at this <;> omega
  · intro hmax
    refine ⟨?_, hreserved, ?_⟩
    · rw [htokens]
      split <;> omega
    · rw [hcharged]
      split <;> omega

theorem forall_limited {P : String → Prop} :
    (∀ key ∈ limitedBuckets team tokenKey epKey teamTpm tokenTpm endpointTpm, P key) ↔
      (0 < teamTpm → P (teamKey team)) ∧ (0 < tokenTpm → P tokenKey) ∧ (0 < endpointTpm → P (epRlKey epKey)) := by
  simp only [limitedBuckets, List.mem_append, List.mem_ite_nil_right, List.mem_singleton]
  constructor
  · intro h
    exact ⟨fun ht => h _ (Or.inl (Or.inl ⟨ht, rfl⟩)), fun ht => h _ (Or.inl (Or.inr ⟨ht, rfl⟩)),
      fun ht => h _ (Or.inr ⟨ht, rfl⟩)⟩
  · rintro ⟨hteam, htoken, hep⟩ key ((⟨ht, rfl⟩ | ⟨ht, rfl⟩) | ⟨ht, rfl⟩)
    · exact hteam ht
    · exact htoken ht
    · exact hep ht

/-- Where no two of the request's limited buckets are one, each is reserved from and charged once. -/
theorem Tally.single (h : Tally team tokenKey epKey teamTpm tokenTpm endpointTpm read attempts ledger)
    (hteam : attempts (teamKey team) = 0) (hseparate : 0 < teamTpm → 0 < tokenTpm → tokenKey ≠ teamKey team)
    (htoken : 0 < tokenTpm → attempts tokenKey = 0) (hep : 0 < endpointTpm → attempts (epRlKey epKey) = 1) :
    ∀ key ∈ limitedBuckets team tokenKey epKey teamTpm tokenTpm endpointTpm,
      chargesOn .reservation key ledger = 1 ∧ chargesOn .postFact key ledger = if 1 < read then 1 else 0 := by
  have hother : 0 < tokenTpm → 0 < endpointTpm → tokenKey ≠ epRlKey epKey := by
    rintro hla hle heq
    have h1 := htoken hla
    have h2 := hep hle
    rw [heq] at h1
    omega
  have hTE : teamKey team ≠ epRlKey epKey := teamKey_ne_epRlKey team epKey
  rw [forall_limited]
  refine ⟨fun ht => ?_, fun ht => ?_, fun ht => ?_⟩
  · have htok : hit (teamKey team) tokenKey tokenTpm = 0 := if_neg fun hand => hseparate ht hand.1 hand.2
    rw [h.reserved, h.charged, hit_self ht, htok, hit_ne _ hTE.symm, hteam]
    exact ⟨rfl, rfl⟩
  · have hteam' : hit tokenKey (teamKey team) teamTpm = 0 :=
      if_neg fun hand => hseparate hand.1 ht hand.2.symm
    have hend : hit tokenKey (epRlKey epKey) endpointTpm = 0 :=
      if_neg fun hand => hother ht hand.1 hand.2.symm
    rw [h.reserved, h.charged, hit_self ht, hteam', hend, htoken ht]
    exact ⟨rfl, rfl⟩
  · have htok : hit (epRlKey epKey) tokenKey tokenTpm = 0 := if_neg fun hand => hother hand.1 ht hand.2
    rw [h.reserved, h.charged, hit_self ht, hit_ne _ hTE, htok, hep ht]
    exact ⟨rfl, rfl⟩

/-- **Every limited bucket is charged once**, in `proxy_handler`: the attempt on the serving endpoint
is one of those that reserved. -/
theorem Tally.each_once_iff
    (h : Tally team tokenKey epKey teamTpm tokenTpm endpointTpm read attempts ledger)
    (hteam : attempts (teamKey team) = 0) (hserving : 0 < endpointTpm → 0 < attempts (epRlKey epKey)) :
    (∀ key ∈ limitedBuckets team tokenKey epKey teamTpm tokenTpm endpointTpm, ChargedOnce ledger key total) ↔
      limitedBuckets team tokenKey epKey teamTpm tokenTpm endpointTpm = [] ∨
        (max 1 read = max 1 total ∧ (0 < teamTpm → 0 < tokenTpm → tokenKey ≠ teamKey team) ∧
          (0 < tokenTpm → attempts tokenKey = 0) ∧ (0 < endpointTpm → attempts (epRlKey epKey) = 1)) := by
  constructor
  · intro hall
    by_cases hnil : limitedBuckets team tokenKey epKey teamTpm tokenTpm endpointTpm = []
    · exact Or.inl hnil
    · obtain ⟨hT, hA, hE⟩ := forall_limited.1 fun key hkey => (hall key hkey).reserved
      have hseparate : 0 < teamTpm → 0 < tokenTpm → tokenKey ≠ teamKey team := by
        rintro hlt hla rfl
        have := hT hlt
        rw [h.reserved, hit_self hlt, hit_self hla] at this
        omega
      have htoken : 0 < tokenTpm → attempts tokenKey = 0 := by
        intro hla
        have := hA hla
        rw [h.reserved, hit_self hla] at this
        omega
      have hep : 0 < endpointTpm → attempts (epRlKey epKey) = 1 := by
        intro hle
        have := hE hle
        have hpos := hserving hle
        rw [h.reserved] at this
        omega
      obtain ⟨key, hkey⟩ := List.exists_mem_of_ne_nil _ hnil
      obtain ⟨hreserved, hcharged⟩ := h.single hteam hseparate htoken hep key hkey
      exact Or.inr ⟨(h.once_iff hreserved hcharged).1 (hall key hkey), hseparate, htoken, hep⟩
  · rintro (hnil | ⟨hmax, hseparate, htoken, hep⟩) key hkey
    · rw [hnil] at hkey
      cases hkey
    · obtain ⟨hreserved, hcharged⟩ := h.single hteam hseparate htoken hep key hkey
      exact (h.once_iff hreserved hcharged).2 hmax

/-- **In `proxy_generic`** nothing is reserved from the endpoint's bucket: it is charged right only
where it is the token's own and nothing is charged after the call. -/
theorem Tally.each_once_generic_iff
    (h : Tally team tokenKey epKey teamTpm tokenTpm endpointTpm read (fun _ => 0) ledger) :
    (∀ key ∈ limitedBuckets team tokenKey epKey teamTpm tokenTpm endpointTpm, ChargedOnce ledger key total) ↔
      limitedBuckets team tokenKey epKey teamTpm tokenTpm endpointTpm = [] ∨
        (max 1 read = max 1 total ∧ (0 < teamTpm → 0 < tokenTpm → tokenKey ≠ teamKey team) ∧
          (0 < endpointTpm → 0 < tokenTpm ∧ tokenKey = epRlKey epKey ∧ total ≤ 1)) := by
  by_cases hle : 0 < endpointTpm
  · have hreserved : chargesOn .reservation (epRlKey epKey) ledger = hit (epRlKey epKey) tokenKey tokenTpm := by
      rw [h.reserved, hit_ne _ (teamKey_ne_epRlKey team epKey), Nat.zero_add, Nat.add_zero]
    constructor
    · intro hall
      obtain ⟨hT, hA, hE⟩ := forall_limited.1 hall
      have hshared : 0 < tokenTpm ∧ tokenKey = epRlKey epKey := by
        by_contra hno
        have := (hE hle).reserved
        rw [hreserved, hit, if_neg hno] at this
        cases this
      obtain ⟨hla, rfl⟩ := hshared
      have hfew : ¬ 1 < read := by
        intro hmore
        have := (hE hle).charged
        rw [h.charged, if_pos hmore, hit_self hla, hit_self hle] at this
        omega
      have hcharged : chargesOn .postFact (epRlKey epKey) ledger = 0 := by
        rw [h.charged, if_neg hfew]
      have htotal := (hE hle).tokens
      rw [h.tokens, (hE hle).reserved, hcharged] at htotal
      refine Or.inr ⟨by omega, fun _ _ he => teamKey_ne_epRlKey team epKey he.symm, fun _ => ⟨hla, rfl, by omega⟩⟩
    · rintro (hnil | ⟨hmax, hseparate, hep⟩)
      · rw [hnil]
        intro key hkey
        cases hkey
      · obtain ⟨hla, rfl, htotal⟩ := hep hle
        have hfew : ¬ 1 < read := by omega
        have hboth : ∀ key, chargesOn .postFact key ledger = 0 := fun key => by rw [h.charged, if_neg hfew]
        have honce : ∀ key, chargesOn .reservation key ledger = 1 → ChargedOnce ledger key total := by
          intro key hres
          refine (h.once_iff hres ?_).2 hmax
          rw [hboth, if_neg hfew]
        rw [forall_limited]
        refine ⟨fun hlt => honce _ ?_, fun _ => honce _ ?_, fun _ => honce _ ?_⟩
        · rw [h.reserved, hit_self hlt, hit_ne _ (teamKey_ne_epRlKey team epKey).symm]
        · rw [hreserved, hit_self hla]
        · rw [hreserved, hit_self hla]
  · -- without a limit on the endpoint it is the other handler's case with no attempts
    rw [h.each_once_iff rfl fun hpos => absurd hpos hle]
    simp [hle]

end

/-! ## The usage that is charged -/

/-- The usage that `proxy_generic` charges. -/
def Generic.chargedTotal (deps : Externs) (isStream : Bool) (status : Nat) (body : List Chunk) : Nat :=
  if isStream then
    if isSuccess status then ((Generic.streamUsage deps body).map (·.total)).getD 0 else 0
  else (bodyUsage (deps.fromSlice (toBytes body))).total

section
variable {deps : Externs} (hempty : deps.fromSlice [] = none)
include hempty

/-- A body that is too long, or that breaks off, is charged as empty. -/
theorem whole_read_iff (body : List Chunk) :
    max 1 (bodyUsage (deps.fromSlice (toBytes body))).total = max 1 (statedUsage deps false body).total ↔
      (statedUsage deps false body).total ≤ 1 ∨ BodyRead body := by
  by_cases hread : BodyRead body
  · obtain ⟨bytes, hbytes, hlen⟩ := hread
    rw [toBytes_stated deps hbytes hlen]
    exact ⟨fun _ => Or.inr ⟨bytes, hbytes, hlen⟩, fun _ => rfl⟩
  · have hnone : toBytes body = [] := by
      unfold toBytes
      split
      · rename_i bytes hbytes
        exact if_neg fun hlen => hread ⟨bytes, hbytes, hlen⟩
      · rfl
    have hzero : (bodyUsage (deps.fromSlice (toBytes body))).total = 0 := by rw [hnone, hempty]; rfl
    rw [hzero]
    constructor
    · intro h
      exact Or.inl (by omega)
    · rintro (h | h)
      · omega
      · exact absurd h hread

/-- `proxy_handler` charges what the answer states, for a stream that succeeded and for a whole body
of at most 1 MiB. -/
theorem chargedTotal_iff (isStream : Bool) (status : Nat) (body : List Chunk) :
    max 1 (chargedTotal deps isStream status body) = max 1 (answerTotal deps isStream status body) ↔
      answerTotal deps isStream status body ≤ 1 ∨
        (if isStream then isSuccess status = true else BodyRead body) := by
  unfold chargedTotal answerTotal
  cases isStream with
  | false => exact whole_read_iff hempty body
  | true =>
    cases hok : isSuccess status with
    | false =>
      simp only [Bool.false_eq_true, if_true, if_false, Bool.and_false, or_false]
      omega
    | true =>
      simp only [if_true, Bool.and_true, streamUsage_stated, or_true]

/-- `proxy_generic` likewise, but for a stream only when it arrived whole. -/
theorem genericChargedTotal_iff (isStream : Bool) (status : Nat) (body : List Chunk) :
    max 1 (Generic.chargedTotal deps isStream status body) = max 1 (answerTotal deps isStream status body) ↔
      answerTotal deps isStream status body ≤ 1 ∨
        (if isStream then isSuccess status = true ∧ ∃ bytes, readAll body = .ok bytes else BodyRead body) := by
  unfold Generic.chargedTotal answerTotal
  cases isStream with
  | false => exact whole_read_iff hempty body
  | true =>
    cases hok : isSuccess status with
    | false =>
      simp only [Bool.false_eq_true, false_and, if_true, if_false, Bool.and_false, or_false]
      omega
    | true =>
      simp only [if_true, Bool.and_true, true_and]
      cases husage : Generic.streamUsage deps body with
      | some usage =>
        rw [genericStreamUsage_stated husage, Option.map_some, Option.getD_some]
        have hread : ∃ bytes, readAll body = .ok bytes := by
          unfold Generic.streamUsage at husage
          split at husage
          · exact ⟨_, by assumption⟩
          · cases husage
        exact ⟨fun _ => Or.inr hread, fun _ => rfl⟩
      | none =>
        have hread : ¬ ∃ bytes, readAll body = .ok bytes := by
          rintro ⟨bytes, hbytes⟩
          unfold Generic.streamUsage at husage
          rw [hbytes] at husage
          cases husage
        simp only [Option.map_none, Option.getD_none, hread, or_false]
        omega

end

/-! ## Runs -/

/-- **A run of `proxy_handler` that ends in an answer.** -/
theorem proxyHandler_tally {deps : Externs} {env : Env} (henv : env.KeepsConfig) {fuel : Nat}
    {app : AppState} {req : ChatRequest} {a : Answer} {k : String}
    (ha : (proxyHandler deps env fuel app req).ending.bind (·.answer) = some a)
    (hk : Handler.epKey a.endpoint.url a.endpoint.apiKey = .ok k) :
    Tally req.auth.team req.auth.tokenKey k (teamTpm app.config req.auth.team) req.auth.tpm
        a.endpoint.endpointLimitsTpm
        (if a.settled then chargedTotal deps req.isStream a.status a.body else 0)
        (attemptsOn · (proxyHandler deps env fuel app req).trace)
        (proxyHandler deps env fuel app req).ledger ∧
      (0 < a.endpoint.endpointLimitsTpm → 0 < attemptsOn (epRlKey k) (proxyHandler deps env fuel app req).trace) := by
  unfold proxyHandler at ha ⊢
  cases hprep : prepare env app req with
  | error run =>
    rw [hprep] at ha
    have hnone := (prepare_error hprep).2.2
    rw [hnone] at ha
    cases ha
  | ok start =>
    obtain ⟨ctx, s⟩ := start
    rw [hprep] at ha
    have hp := prepare_ok henv.1 henv.2.1 hprep
    obtain ⟨app', hadmitted⟩ := hp.admitted
    have hbase := enters_rateChecks app.config req.auth.team req.auth.tokenKey req.auth.rpm req.auth.tpm
      env.limitsAt { app := app', ledger := [] } (congrArg Prod.snd hadmitted)
    have hcharged : (Gate.runAll (rateChecks app.config req.auth.team req.auth.tokenKey req.auth.rpm
        req.auth.tpm env.limitsAt) { app := app', ledger := [] }).1 = s.charged := congrArg Prod.fst hadmitted
    rw [hcharged] at hbase
    have hteam : ctx.teamTpm = teamTpm app.config ctx.req.auth.team := by rw [hp.teamTpm_eq, hp.req_eq]
    obtain ⟨k', before, v, hk', htrace, hv, hledger⟩ := retryLoop_ledger henv hteam hp.config rfl hp.trace fuel ha
    rw [hk] at hk'
    obtain rfl := Except.ok.inj hk'
    have hbase' : s.ledger = reserve (teamKey req.auth.team) (teamTpm app.config req.auth.team) ++
        reserve req.auth.tokenKey req.auth.tpm := hbase
    refine ⟨?_, fun hle => ?_⟩
    · have htally := tally_of_ledger req.auth.team req.auth.tokenKey k (teamTpm app.config req.auth.team)
        req.auth.tpm a.endpoint.endpointLimitsTpm
        (if a.settled then chargedTotal deps req.isStream a.status a.body else 0)
        (retryLoop deps env ctx fuel s).state.trace
      have hlate : a.late deps ctx k = lateCharges req.auth.team req.auth.tokenKey k
          (teamTpm app.config req.auth.team) req.auth.tpm a.endpoint.endpointLimitsTpm
          (if a.settled then chargedTotal deps req.isStream a.status a.body else 0) := by
        unfold Answer.late
        rw [hp.teamTpm_eq, hp.req_eq]
        split
        · rfl
        · simp [lateCharges, late]
      rw [hbase', hlate] at hledger
      dsimp only
      rw [hledger]
      exact htally
    · dsimp only
      unfold attemptsOn
      rw [htrace, List.flatMap_append, chargesOn_append, List.flatMap_singleton, hv, (reserve_tally _ _ _).1,
        hit_self hle]
      omega

theorem answer_ledger (deps : Externs) (c : GenericCall) (isStream : Bool) (s : Charged) (status : Nat)
    (body : List Chunk) (startAt now : Nat) :
    (c.answer deps isStream s (.response status body) startAt now).1.ledger = s.ledger ++
      lateCharges c.auth.team c.auth.tokenKey c.epKey c.teamTpm c.auth.tpm c.endpoint.endpointLimitsTpm
        (Generic.chargedTotal deps isStream status body) := by
  have hnone : lateCharges c.auth.team c.auth.tokenKey c.epKey c.teamTpm c.auth.tpm
      c.endpoint.endpointLimitsTpm 0 = [] := by simp [lateCharges, late]
  unfold GenericCall.answer Generic.chargedTotal
  dsimp only
  cases isStream with
  | false => exact chargeUsage_ledger _ _ _ _ _ _ _ _ _
  | true =>
    simp only [if_true, GenericCall.streamed]
    by_cases hok : isSuccess status = true
    · rw [if_pos hok, if_pos hok]
      cases Generic.streamUsage deps body with
      | none => exact (List.append_nil _).symm.trans (congrArg _ hnone.symm)
      | some usage => exact chargeUsage_ledger _ _ _ _ _ _ _ _ _
    · rw [if_neg hok, if_neg hok, hnone, List.append_nil]

/-- **A run of `proxy_generic` that an upstream answered.** -/
theorem proxyGeneric_tally {deps : Externs} {env : GenericEnv} (henv : env.KeepsConfig) {app : AppState}
    {req : GenericRequest} {ep : SelectedEndpoint} {status : Nat} {body : List Chunk} {k : String}
    {modelName : String} {isStream : Bool} (hreply : env.reply = .response status body)
    (hbody : Generic.resolveBody app.config req.path req.body = .ok (modelName, isStream))
    (hk : Handler.epKey ep.url ep.apiKey = .ok k)
    (hv : { endpoint := ep, step := .sent env.reply } ∈ (proxyGeneric deps env app req).trace) :
    Tally req.auth.team req.auth.tokenKey k (teamTpm app.config req.auth.team) req.auth.tpm
      ep.endpointLimitsTpm (Generic.chargedTotal deps isStream status body) (fun _ => 0)
      (proxyGeneric deps env app req).ledger := by
  obtain ⟨c, s, modelName', isStream', hbody', hk', rfl, hauth, hteam, hnone, hledger, _, hcharged⟩ :=
    proxyGeneric_sent henv.1 hv
  rw [hbody] at hbody'
  obtain ⟨rfl, rfl⟩ := Prod.mk.inj (Except.ok.inj hbody')
  rw [hk] at hk'
  obtain rfl := Except.ok.inj hk'
  have hbase := enters_rateChecks app.config req.auth.team req.auth.tokenKey req.auth.rpm req.auth.tpm
    env.limitsAt { app := app, ledger := [] } hnone
  have htally := tally_of_ledger req.auth.team req.auth.tokenKey c.epKey (teamTpm app.config req.auth.team)
    req.auth.tpm c.endpoint.endpointLimitsTpm (Generic.chargedTotal deps isStream status body) []
  rw [hcharged, hreply, answer_ledger, hledger, hauth, hteam]
  unfold checkAllRateLimits
  rw [hbase, List.nil_append]
  rwa [List.flatMap_nil, List.append_nil] at htally

/-! ## The two handlers -/

/-- When the answer of `proxy_handler` is charged right: no limit applies, or its usage is read (or
states at most one token) and no two reservations of the run fall on one of its buckets. -/
def HandlerCharges (deps : Externs) (cfg : AppConfig) (req : ChatRequest) (a : Answer) (k : String)
    (trace : List Visit) : Prop :=
  limitedBuckets req.auth.team req.auth.tokenKey k (teamTpm cfg req.auth.team) req.auth.tpm
      a.endpoint.endpointLimitsTpm = [] ∨
    ((answerTotal deps req.isStream a.status a.body ≤ 1 ∨
        (a.settled = true ∧ if req.isStream then isSuccess a.status = true else BodyRead a.body)) ∧
      (0 < teamTpm cfg req.auth.team → 0 < req.auth.tpm → req.auth.tokenKey ≠ teamKey req.auth.team) ∧
      (0 < req.auth.tpm → attemptsOn req.auth.tokenKey trace = 0) ∧
      (0 < a.endpoint.endpointLimitsTpm → attemptsOn (epRlKey k) trace = 1))

/-- When the answer of `proxy_generic` is: likewise, but an endpoint with a TPM limit is charged
right only where its bucket is the limited token's own and the usage is at most one token. -/
def GenericCharges (deps : Externs) (cfg : AppConfig) (auth : AuthContext) (ep : SelectedEndpoint)
    (k : String) (isStream : Bool) (status : Nat) (body : List Chunk) : Prop :=
  limitedBuckets auth.team auth.tokenKey k (teamTpm cfg auth.team) auth.tpm ep.endpointLimitsTpm = [] ∨
    ((answerTotal deps isStream status body ≤ 1 ∨
        (if isStream then isSuccess status = true ∧ ∃ bytes, readAll body = .ok bytes else BodyRead body)) ∧
      (0 < teamTpm cfg auth.team → 0 < auth.tpm → auth.tokenKey ≠ teamKey auth.team) ∧
      (0 < ep.endpointLimitsTpm →
        0 < auth.tpm ∧ auth.tokenKey = epRlKey k ∧ answerTotal deps isStream status body ≤ 1))

/-- **Each limited bucket of an answered request is charged the answer's usage, once**, exactly when
these conditions hold. -/
theorem charged_once_iff (deps : Externs) (hempty : deps.fromSlice [] = none) :
    (∀ (env : Env) (fuel : Nat) (app : AppState) (req : ChatRequest) (a : Answer) (k : String),
      env.KeepsConfig → (proxyHandler deps env fuel app req).ending.bind (·.answer) = some a →
      Handler.epKey a.endpoint.url a.endpoint.apiKey = .ok k →
      ((∀ key ∈ limitedBuckets req.auth.team req.auth.tokenKey k (teamTpm app.config req.auth.team)
            req.auth.tpm a.endpoint.endpointLimitsTpm,
          ChargedOnce (proxyHandler deps env fuel app req).ledger key
            (answerTotal deps req.isStream a.status a.body)) ↔
        HandlerCharges deps app.config req a k (proxyHandler deps env fuel app req).trace)) ∧
    (∀ (env : GenericEnv) (app : AppState) (req : GenericRequest) (ep : SelectedEndpoint) (k modelName : String)
      (isStream : Bool) (status : Nat) (body : List Chunk),
      env.KeepsConfig → env.reply = .response status body →
      Generic.resolveBody app.config req.path req.body = .ok (modelName, isStream) →
      { endpoint := ep, step := .sent env.reply } ∈ (proxyGeneric deps env app req).trace →
      Handler.epKey ep.url ep.apiKey = .ok k →
      ((∀ key ∈ limitedBuckets req.auth.team req.auth.tokenKey k (teamTpm app.config req.auth.team)
            req.auth.tpm ep.endpointLimitsTpm,
          ChargedOnce (proxyGeneric deps env app req).ledger key (answerTotal deps isStream status body)) ↔
        GenericCharges deps app.config req.auth ep k isStream status body)) := by
  constructor
  · intro env fuel app req a k henv ha hk
    obtain ⟨htally, hserving⟩ := proxyHandler_tally henv ha hk
    have hread : max 1 (if a.settled then chargedTotal deps req.isStream a.status a.body else 0)
        = max 1 (answerTotal deps req.isStream a.status a.body) ↔
        answerTotal deps req.isStream a.status a.body ≤ 1 ∨
          (a.settled = true ∧ if req.isStream then isSuccess a.status = true else BodyRead a.body) := by
      cases hs : a.settled with
      | true =>
        simp only [if_true, true_and]
        exact chargedTotal_iff hempty req.isStream a.status a.body
      | false =>
        simp only [Bool.false_eq_true, if_false, false_and, or_false]
        omega
    rw [htally.each_once_iff (attemptsOn_team _ _) hserving, hread]
    rfl
  · intro env app req ep k modelName isStream status body henv hreply hbody hv hk
    have htally := proxyGeneric_tally henv hreply hbody hk hv
    rw [htally.each_once_generic_iff, genericChargedTotal_iff hempty]
    rfl

/-! ## One answer through either handler -/

/-- A model with one endpoint, and TPM limits on the team, the token and the endpoint. -/
def limitedConfig : AppConfig where
  teams := [{ name := "dev", models := ["*"], limits := some { rpm := 0, tpm := 1000 }, costMultiplier := none }]
  tokens := [{ key := "sk-client", team := "dev", models := none, limits := some { rpm := 0, tpm := 1000 } }]
  models :=
    [{ name := "gpt-4", aliases := [], modelType := "chat"
       endpoints :=
        [{ url := "https://api.openai.com", key := "sk-upstream-1", limits := some { rpm := 0, tpm := 1000 }
           cost := none, weight := 1 }] }]
  fail2ban := .default

def limitedAuth : AuthContext where
  tokenKey := "sk-client"
  team := "dev"
  models := ["*"]
  rpm := 0
  tpm := 1000
  costMultiplier := 1

def usageRun : Run :=
  proxyGeneric .reading { GenericEnv.answering with reply := usageReply }
    (startApp limitedConfig { counters := ∅ } [] { limiters := ∅ })
    { auth := limitedAuth, path := "/v1/embeddings", body := .json (some "gpt-4") none }

/-- Twelve tokens of usage through `proxy_generic` cost the endpoint's bucket eleven: none is reserved. -/
theorem generic_undercharges_endpoint :
    limitedConfig.Accepted ∧ authenticate limitedConfig "sk-client" = some limitedAuth ∧
      usageRun.trace.map (·.endpoint.url) = ["https://api.openai.com"] ∧
      answerTotal .reading false 200 [.ok usageText] = 12 ∧
      tokensOn "sk-client" usageRun.ledger = 12 ∧ tokensOn "team:dev" usageRun.ledger = 12 ∧
      tokensOn "ep:https://api.openai.com:sk-u...am-1" usageRun.ledger = 11 :=
  ⟨rfl, rfl, rfl, rfl, rfl, rfl, rfl⟩

/-- The same usage through `proxy_handler`. -/
def handledRun : Run :=
  proxyHandler .reading (.quiet fun _ => { answeringTurn with reply := usageReply }) 1
    (startApp limitedConfig { counters := ∅ } [] { limiters := ∅ })
    { singleRequest with auth := limitedAuth }

/-- Through `proxy_handler` the same answer costs every bucket twelve tokens, once. -/
theorem handler_charges_once :
    ChargedOnce handledRun.ledger "team:dev" 12 ∧ ChargedOnce handledRun.ledger "sk-client" 12 ∧
      ChargedOnce handledRun.ledger "ep:https://api.openai.com:sk-u...am-1" 12 := by
  have honce := ((charged_once_iff .reading rfl).1 (.quiet fun _ => { answeringTurn with reply := usageReply }) 1
    (startApp limitedConfig { counters := ∅ } [] { limiters := ∅ }) { singleRequest with auth := limitedAuth }
    { endpoint := (EndpointConfig.selected ⟨"https://api.openai.com", "sk-upstream-1", some ⟨0, 1000⟩, none, 1⟩ 0 1)
      status := 200, body := [.ok usageText], settled := true } "https://api.openai.com:sk-u...am-1"
    ⟨fun _ => rfl, fun _ => rfl, fun _ => ⟨fun _ => rfl, fun _ => rfl⟩⟩ rfl rfl).2
    (Or.inr ⟨Or.inr ⟨rfl, usageText, rfl, by decide⟩, fun _ _ => by decide, fun _ => rfl, fun _ => rfl⟩)
  have hbuckets : limitedBuckets "dev" "sk-client" "https://api.openai.com:sk-u...am-1" 1000 1000 1000
      = ["team:dev", "sk-client", "ep:https://api.openai.com:sk-u...am-1"] := rfl
  exact ⟨honce _ (hbuckets ▸ by simp), honce _ (hbuckets ▸ by simp), honce _ (hbuckets ▸ by simp)⟩

end AiRouter
