import Mathlib.Data.List.Basic
import Mathlib.Algebra.GroupWithZero.Nat

/-
# Lossy UTF-8 decoding

Bytes are read one at a time. What is no UTF-8 becomes one replacement character for each longest piece that could
still have become a character. ASCII bytes are themselves, whatever stands around them (`fromLossy_ascii`), and
nothing else becomes ASCII (`mem_fromLossy`).
-/
namespace Utf8

def replacement : Char := Char.ofNat 0xFFFD

inductive State where
  | start
  /-- the bits read so far, the range of the next byte, and how many bytes are due after it -/
  | pending (bits lo hi more : Nat)

/-- A character that ends here is cut off. -/
def flush : State → List Char
  | .start => []
  | .pending .. => [replacement]

/-- A byte at the start of a character. -/
def first (b : UInt8) : List Char × State :=
  let n := b.toNat
  if n < 0x80 then ([Char.ofNat n], .start)
  else if 0xC2 ≤ n ∧ n ≤ 0xDF then ([], .pending (n - 0xC0) 0x80 0xBF 0)
  else if n = 0xE0 then ([], .pending 0 0xA0 0xBF 1)
  else if n = 0xED then ([], .pending 0xD 0x80 0x9F 1)
  else if 0xE1 ≤ n ∧ n ≤ 0xEF then ([], .pending (n - 0xE0) 0x80 0xBF 1)
  else if n = 0xF0 then ([], .pending 0 0x90 0xBF 2)
  else if 0xF1 ≤ n ∧ n ≤ 0xF3 then ([], .pending (n - 0xF0) 0x80 0xBF 2)
  else if n = 0xF4 then ([], .pending 4 0x80 0x8F 2)
  else ([replacement], .start)

/-- The bits so far, with this many bytes due. -/
def advance (bits : Nat) : Nat → List Char × State
  | 0 => ([Char.ofNat bits], .start)
  | more + 1 => ([], .pending bits 0x80 0xBF more)

def next : State → UInt8 → List Char × State
  | .start, b => first b
  | .pending bits lo hi more, b =>
    if lo ≤ b.toNat ∧ b.toNat ≤ hi then advance (bits * 64 + (b.toNat - 0x80)) more
    else (replacement :: (first b).1, (first b).2)

def run : State → List UInt8 → List Char
  | st, [] => flush st
  | st, b :: bytes => (next st b).1 ++ run (next st b).2 bytes

def fromLossy (bytes : List UInt8) : List Char := run .start bytes

/-! ## ASCII -/

/-- The characters of ASCII bytes. -/
def ascii (bytes : List UInt8) : List Char := bytes.map fun b => Char.ofNat b.toNat

/-- The ranges of later bytes are beyond ASCII, and so is the character in the end. -/
def Beyond : State → Prop
  | .start => True
  | .pending bits lo _ more => 0x80 ≤ lo ∧ 0x80 ≤ (bits * 64 + (lo - 0x80)) * 64 ^ more

theorem first_ascii {b : UInt8} (h : b.toNat < 0x80) : first b = ([Char.ofNat b.toNat], .start) := if_pos h

theorem first_beyond (b : UInt8) : Beyond (first b).2 := by
  unfold first
  dsimp only
  split_ifs <;> simp only [Beyond] <;> omega

section
variable {bits lo hi more : Nat} {b : UInt8}

theorem next_in (h : lo ≤ b.toNat ∧ b.toNat ≤ hi) :
    next (.pending bits lo hi more) b = advance (bits * 64 + (b.toNat - 0x80)) more := if_pos h

theorem next_out (h : ¬ (lo ≤ b.toNat ∧ b.toNat ≤ hi)) :
    next (.pending bits lo hi more) b = (replacement :: (first b).1, (first b).2) := if_neg h

/-- A byte in range keeps the bits large enough. -/
theorem advance_large (h : Beyond (.pending bits lo hi more)) (hb : lo ≤ b.toNat) :
    0x80 ≤ (bits * 64 + (b.toNat - 0x80)) * 64 ^ more := by
  have hmono : bits * 64 + (lo - 0x80) ≤ bits * 64 + (b.toNat - 0x80) := by omega
  exact Nat.le_trans h.2 (Nat.mul_le_mul_right _ hmono)

end

theorem next_beyond {st : State} (h : Beyond st) (b : UInt8) : Beyond (next st b).2 := by
  cases st with
  | start => exact first_beyond b
  | pending bits lo hi more =>
    by_cases hin : lo ≤ b.toNat ∧ b.toNat ≤ hi
    · have hlarge := advance_large h hin.1
      rw [next_in hin]
      cases more with
      | zero => trivial
      | succ more =>
        refine ⟨Nat.le_refl _, ?_⟩
        rw [Nat.sub_self, Nat.add_zero, Nat.mul_assoc, ← Nat.pow_succ']
        exact hlarge
    · rw [next_out hin]
      exact first_beyond b

theorem next_ascii {st : State} (hst : Beyond st) {b : UInt8} (h : b.toNat < 0x80) :
    next st b = (flush st ++ [Char.ofNat b.toNat], .start) := by
  cases st with
  | start => exact first_ascii h
  | pending bits lo hi more =>
    have hout : ¬ (lo ≤ b.toNat ∧ b.toNat ≤ hi) := fun hin => by
      have hlo := hst.1
      omega
    rw [next_out hout, first_ascii h]
    rfl

theorem run_ascii {b : UInt8} (h : b.toNat < 0x80) (after before : List UInt8) : ∀ {st : State}, Beyond st →
    run st (before ++ b :: after) = run st before ++ Char.ofNat b.toNat :: run .start after := by
  induction before with
  | nil =>
    intro st hst
    show (next st b).1 ++ run (next st b).2 after = _
    rw [next_ascii hst h, List.append_assoc]
    rfl
  | cons b' before ih =>
    intro st hst
    show (next st b').1 ++ run (next st b').2 (before ++ b :: after) = (next st b').1 ++ run (next st b').2 before ++ _
    rw [ih (next_beyond hst b'), List.append_assoc]

/-- **An ASCII byte is decoded as it stands**, and cuts what is around it. -/
theorem fromLossy_byte {b : UInt8} (h : b.toNat < 0x80) (before after : List UInt8) :
    fromLossy (before ++ b :: after) = fromLossy before ++ Char.ofNat b.toNat :: fromLossy after :=
  run_ascii h after before trivial

def Ascii (bytes : List UInt8) : Prop := ∀ b ∈ bytes, b.toNat < 0x80

instance : DecidablePred Ascii := fun _ => List.decidableBAll _ _

theorem fromLossy_ascii {bytes : List UInt8} (h : Ascii bytes) (hne : bytes ≠ [])
    (before after : List UInt8) :
    fromLossy (before ++ (bytes ++ after)) = fromLossy before ++ (ascii bytes ++ fromLossy after) := by
  induction bytes generalizing before with
  | nil => exact absurd rfl hne
  | cons b bytes ih =>
    obtain ⟨hb, hbytes⟩ := List.forall_mem_cons.1 h
    rw [List.cons_append, fromLossy_byte hb]
    by_cases hnil : bytes = []
    · subst hnil
      rfl
    · have hrest := ih hbytes hnil []
      rw [List.nil_append] at hrest
      rw [hrest]
      rfl

theorem toNat_byte (b : UInt8) : (Char.ofNat b.toNat).toNat = b.toNat := by
  have hvalid : b.toNat.isValidChar := Or.inl (by have hb := b.toNat_lt; omega)
  unfold Char.ofNat
  rw [dif_pos hvalid]
  rfl

/-- A character beyond ASCII, or `NUL` where the number is none. -/
theorem ofNat_beyond {n : Nat} (h : 0x80 ≤ n) {c : Char} (hc : c = Char.ofNat n) (h0 : c.toNat ≠ 0) :
    0x80 ≤ c.toNat := by
  subst hc
  unfold Char.ofNat at h0 ⊢
  by_cases hvalid : n.isValidChar
  · rw [dif_pos hvalid]
    exact h
  · rw [dif_neg hvalid] at h0
    exact absurd rfl h0

theorem mem_first {b : UInt8} {c : Char} (h : c ∈ (first b).1) (hc : c.toNat < 0x80) : c = Char.ofNat b.toNat := by
  have hno : c ≠ replacement := by
    rintro rfl
    exact absurd hc (by decide)
  unfold first at h
  dsimp only at h
  split_ifs at h <;> simp_all

theorem mem_next {st : State} (hst : Beyond st) {b : UInt8} {c : Char} (h : c ∈ (next st b).1) (h0 : c.toNat ≠ 0)
    (hc : c.toNat < 0x80) : c = Char.ofNat b.toNat := by
  cases st with
  | start => exact mem_first h hc
  | pending bits lo hi more =>
    by_cases hin : lo ≤ b.toNat ∧ b.toNat ≤ hi
    · rw [next_in hin] at h
      cases more with
      | succ more => cases h
      | zero =>
        have hlarge := advance_large hst hin.1
        have hbeyond := ofNat_beyond (by omega) (List.mem_singleton.1 h) h0
        omega
    · rw [next_out hin] at h
      rcases List.mem_cons.1 h with rfl | hmem
      · exact absurd hc (by decide)
      · exact mem_first hmem hc

/-- **Nothing but itself is decoded to an ASCII character** (other than `NUL`). -/
theorem mem_fromLossy {bytes : List UInt8} {c : Char} (h : c ∈ fromLossy bytes) (h0 : c.toNat ≠ 0)
    (hc : c.toNat < 0x80) : ∃ b ∈ bytes, c = Char.ofNat b.toNat := by
  have hrun : ∀ (bytes : List UInt8) (st : State), Beyond st → c ∈ run st bytes →
      ∃ b ∈ bytes, c = Char.ofNat b.toNat := by
    intro bytes
    induction bytes with
    | nil =>
      intro st _ hmem
      cases st with
      | start => cases hmem
      | pending =>
        rw [List.mem_singleton.1 hmem] at hc
        exact absurd hc (by decide)
    | cons b bytes ih =>
      intro st hst hmem
      rcases List.mem_append.1 hmem with hnow | hlater
      · exact ⟨b, List.mem_cons_self, mem_next hst hnow h0 hc⟩
      · obtain ⟨b', hb', heq⟩ := ih _ (next_beyond hst b) hlater
        exact ⟨b', List.mem_cons_of_mem b hb', heq⟩
  exact hrun bytes .start trivial h

/-- A byte is not swallowed. -/
theorem run_cons_ne_nil (st : State) (b : UInt8) : run st [b] ≠ [] := by
  have hfirst : (first b).1 ++ flush (first b).2 ≠ [] := by
    unfold first
    dsimp only
    split_ifs <;> simp [flush]
  cases st with
  | start => exact hfirst
  | pending bits lo hi more =>
    by_cases hin : lo ≤ b.toNat ∧ b.toNat ≤ hi
    · show (next (.pending bits lo hi more) b).1 ++ flush (next (.pending bits lo hi more) b).2 ≠ []
      rw [next_in hin]
      cases more <;> simp [advance, flush]
    · show (next (.pending bits lo hi more) b).1 ++ _ ≠ []
      rw [next_out hin]
      simp

/-- What ends with a byte other than a line feed, say, does not end with a line feed. -/
theorem fromLossy_last {b : UInt8} {c : Char} (h0 : c.toNat ≠ 0) (hc : c.toNat < 0x80) (hb : c ≠ Char.ofNat b.toNat)
    (bytes : List UInt8) : ∃ before last, fromLossy (bytes ++ [b]) = before ++ [last] ∧ last ≠ c := by
  have hlast : ∀ st : State, Beyond st → ∃ before last, run st [b] = before ++ [last] ∧ last ≠ c := by
    intro st hst
    have hne := run_cons_ne_nil st b
    refine ⟨_, _, (List.dropLast_concat_getLast hne).symm, ?_⟩
    rintro rfl
    rcases List.mem_append.1 (List.getLast_mem hne) with hnow | hflush
    · exact hb (mem_next hst hnow h0 hc)
    · cases hnext : (next st b).2 with
      | start =>
        rw [hnext] at hflush
        cases hflush
      | pending =>
        rw [hnext] at hflush
        rw [List.mem_singleton.1 hflush] at hc
        exact absurd hc (by decide)
  have hrun : ∀ (bytes : List UInt8) (st : State), Beyond st →
      ∃ before last, run st (bytes ++ [b]) = before ++ [last] ∧ last ≠ c := by
    intro bytes
    induction bytes with
    | nil => exact hlast
    | cons b' bytes ih =>
      intro st hst
      obtain ⟨before, last, heq, hne⟩ := ih _ (next_beyond hst b')
      refine ⟨(next st b').1 ++ before, last, ?_, hne⟩
      show (next st b').1 ++ run (next st b').2 (bytes ++ [b]) = _
      rw [heq, List.append_assoc]
  exact hrun bytes .start trivial

end Utf8
