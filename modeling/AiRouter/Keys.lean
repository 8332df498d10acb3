import AiRouter.Lib.ByteSlice

/-
# Masked keys and endpoint keys

Every piece of per-endpoint state of the router is kept under the string `url:mask_key(key)`.
`mask_key` is written out five times.

| here | there |
| --- | --- |
| `maskWith`          | the body all five copies share |
| `Handler.maskKey`   | `mask_key` (proxy/handler.rs:935) |
| `Utils.maskKey`     | `mask_key` (utils.rs:2), used by health/checker.rs:147 |
| `Dashboard.maskKey` | `mask_key` (health/dashboard.rs:353) |
| `Loader.maskKey`    | `mask_key` (config/loader.rs:106) |
| `Balancer.maskKey`  | `mask_key` (router/balancer.rs:171), with 6 and 3 for 8 and 4 |
| `Handler.epKey`     | `format!("{}:{}", url, mask_key(key))` in handler.rs, checker.rs, dashboard.rs |
| `Balancer.epKey`    | the same format in balancer.rs:87 |

A slice that cuts a character in two panics; the two key functions differ in where they cut.
-/
namespace AiRouter

/-- Why the task serving a request unwinds. -/
inductive Panic where
  | charBoundary
  | indexOutOfBounds
  | remainderByZero
  | instantOverflow
deriving DecidableEq, Repr

/-- Keys of at most `short` bytes are hidden, longer ones keep `edge` bytes at either end. -/
def maskWith (short edge : Nat) (key : String) : Except Panic String :=
  if key.utf8ByteSize ≤ short then .ok "***"
  else
    match ByteSlice.sliceTo key edge, ByteSlice.sliceFrom key (key.utf8ByteSize - edge) with
    | some pre, some suf => .ok (pre ++ "..." ++ suf)
    | _, _ => .error .charBoundary

def Handler.maskKey : String → Except Panic String := maskWith 8 4
def Utils.maskKey : String → Except Panic String := maskWith 8 4
def Dashboard.maskKey : String → Except Panic String := maskWith 8 4
def Loader.maskKey : String → Except Panic String := maskWith 8 4
def Balancer.maskKey : String → Except Panic String := maskWith 6 3

/-- `format!("{}:{}", url, masked)` -/
def joinKey (url masked : String) : String := url ++ ":" ++ masked

def Handler.epKey (url key : String) : Except Panic String :=
  (Handler.maskKey key).map (joinKey url)

def Balancer.epKey (url key : String) : Except Panic String :=
  (Balancer.maskKey key).map (joinKey url)

theorem joinKey_inj {url m m' : String} : joinKey url m = joinKey url m' ↔ m = m' := by
  unfold joinKey
  rw [← String.toList_inj, String.toList_append (t := m), String.toList_append (t := m'),
    List.append_cancel_left_eq, String.toList_inj]

/-- Masking panics where one of the two cuts falls inside a character. -/
theorem maskWith_isOk_iff {short edge : Nat} {key : String} :
    (maskWith short edge key).isOk = true ↔
      key.utf8ByteSize ≤ short ∨
        ByteSlice.IsBoundary key edge ∧ ByteSlice.IsBoundary key (key.utf8ByteSize - edge) := by
  rw [← ByteSlice.sliceTo_isSome_iff, ← ByteSlice.sliceFrom_isSome_iff]
  unfold maskWith
  by_cases h : key.utf8ByteSize ≤ short
  · simp [h, Except.isOk, Except.toBool]
  · rw [if_neg h]
    cases ByteSlice.sliceTo key edge with
    | none => simp [h, Except.isOk, Except.toBool]
    | some pre =>
      cases ByteSlice.sliceFrom key (key.utf8ByteSize - edge) <;> simp [h, Except.isOk, Except.toBool]

/-- A mask is the three stars of a short key, or `2 * edge + 3` bytes. -/
theorem maskWith_ok {short edge : Nat} (hse : edge ≤ short) {key m : String}
    (h : maskWith short edge key = .ok m) :
    (key.utf8ByteSize ≤ short ∧ m = "***") ∨
      (short < key.utf8ByteSize ∧ m.utf8ByteSize = 2 * edge + 3) := by
  unfold maskWith at h
  split at h
  · rename_i hs
    cases h
    exact Or.inl ⟨hs, rfl⟩
  · rename_i hs
    split at h
    · rename_i pre suf hpre hsuf
      cases h
      have h1 := ByteSlice.sliceTo_size hpre
      have h2 := ByteSlice.sliceFrom_size hsuf
      refine Or.inr ⟨by omega, ?_⟩
      rw [String.utf8ByteSize_append, String.utf8ByteSize_append,
        show ("..." : String).utf8ByteSize = 3 from rfl]
      omega
    · cases h

/-- **The two masks agree on short keys only**: from seven bytes on the handler's mask has 3 or
11 bytes and the balancer's 9. -/
theorem mask_agree_iff {key h b : String} (hh : Handler.maskKey key = .ok h)
    (hb : Balancer.maskKey key = .ok b) : h = b ↔ key.utf8ByteSize ≤ 6 := by
  have h1 := maskWith_ok (by omega) hh
  have h2 := maskWith_ok (by omega) hb
  have hstar : ("***" : String).utf8ByteSize = 3 := rfl
  constructor
  · rintro rfl
    rcases h2 with ⟨hle, _⟩ | ⟨_, hsize⟩
    · exact hle
    · rcases h1 with ⟨_, rfl⟩ | ⟨_, hsize'⟩
      · omega
      · omega
  · intro hle
    rcases h1 with ⟨_, rfl⟩ | ⟨hlt, _⟩
    · rcases h2 with ⟨_, rfl⟩ | ⟨hlt, _⟩
      · rfl
      · omega
    · omega

theorem Handler.epKey_ok {url key k : String} (h : Handler.epKey url key = .ok k) :
    ∃ m, Handler.maskKey key = .ok m ∧ k = joinKey url m := by
  unfold Handler.epKey at h
  cases hm : Handler.maskKey key with
  | error e => rw [hm] at h; cases h
  | ok m => rw [hm] at h; cases h; exact ⟨m, rfl, rfl⟩

theorem Balancer.epKey_ok {url key k : String} (h : Balancer.epKey url key = .ok k) :
    ∃ m, Balancer.maskKey key = .ok m ∧ k = joinKey url m := by
  unfold Balancer.epKey at h
  cases hm : Balancer.maskKey key with
  | error e => rw [hm] at h; cases h
  | ok m => rw [hm] at h; cases h; exact ⟨m, rfl, rfl⟩

/-- The handler and the balancer mean the same string by an endpoint exactly when its API key
has at most six bytes. -/
theorem epKey_agree_iff {url key h b : String} (hh : Handler.epKey url key = .ok h)
    (hb : Balancer.epKey url key = .ok b) : h = b ↔ key.utf8ByteSize ≤ 6 := by
  obtain ⟨mh, hmh, rfl⟩ := Handler.epKey_ok hh
  obtain ⟨mb, hmb, rfl⟩ := Balancer.epKey_ok hb
  rw [joinKey_inj]
  exact mask_agree_iff hmh hmb

end AiRouter
