import Mathlib.Data.List.Basic

/-
# Event streams

The `text/event-stream` format, on bytes: lines ended by LF, CR or CR LF, a blank line at the end of each event,
`data` fields whose values are joined by line feeds. What is not ended is dropped. Line ends, colons and spaces
are ASCII, so that decoding does not move them.
-/
namespace EventStream

def lf : UInt8 := 10
def cr : UInt8 := 13
def colon : UInt8 := 58

/-- `data` -/
def dataName : List UInt8 := [100, 97, 116, 97]

/-- The lines that are ended. -/
def completeLines : List UInt8 → List (List UInt8)
  | [] => []
  | 13 :: 10 :: rest => [] :: completeLines rest
  | b :: rest =>
    if b = lf ∨ b = cr then [] :: completeLines rest
    else match completeLines rest with
      | [] => []
      | line :: lines => (b :: line) :: lines

/-- Without a byte order mark. -/
def withoutMark : List UInt8 → List UInt8
  | 239 :: 187 :: 191 :: rest => rest
  | line => line

/-- The lines of a stream. A byte order mark comes before the first. -/
def streamLines (body : List UInt8) : List (List UInt8) :=
  match completeLines body with
  | [] => []
  | line :: lines => withoutMark line :: lines

/-- The value of a `data` field, without one space after the colon. -/
def dataValue (line : List UInt8) : Option (List UInt8) :=
  if line.takeWhile (· ≠ colon) = dataName then
    match (line.dropWhile (· ≠ colon)).drop 1 with
    | 32 :: value => some value
    | value => some value
  else none

/-- An event without `data` is none. -/
def eventData (values : List (List UInt8)) : Option (List UInt8) :=
  if values = [] then none else some (List.intercalate [lf] values)

/-- A blank line ends an event. -/
def dispatch : List (List UInt8) → List (List UInt8) → List (List UInt8)
  | _, [] => []
  | values, [] :: lines => (eventData values).toList ++ dispatch [] lines
  | values, line :: lines => dispatch (values ++ (dataValue line).toList) lines

/-- The data of each event. -/
def payloads (body : List UInt8) : List (List UInt8) := dispatch [] (streamLines body)

/-! ## Lines and events -/

theorem completeLines_cons {b : UInt8} (hlf : b ≠ lf) (hcr : b ≠ cr) (rest : List UInt8) :
    completeLines (b :: rest) = match completeLines rest with
      | [] => []
      | line :: lines => (b :: line) :: lines := by
  rw [completeLines]
  · rw [if_neg (not_or.2 ⟨hlf, hcr⟩)]
  · rintro _ rfl
    exact fun _ => hcr rfl

theorem completeLines_lf (rest : List UInt8) : completeLines (lf :: rest) = [] :: completeLines rest := by
  rw [completeLines]
  · rfl
  · rintro _ h
    cases h

/-- A line and its line feed come first. -/
theorem completeLines_line {line : List UInt8} (h : ∀ b ∈ line, b ≠ lf ∧ b ≠ cr) (rest : List UInt8) :
    completeLines (line ++ lf :: rest) = line :: completeLines rest := by
  induction line with
  | nil => exact completeLines_lf rest
  | cons b line ih =>
    obtain ⟨⟨hlf, hcr⟩, hline⟩ := List.forall_mem_cons.1 h
    rw [List.cons_append, completeLines_cons hlf hcr, ih hline]

/-- The lines of an event and the blank line after it. -/
theorem completeLines_event {lines : List (List UInt8)} (h : ∀ line ∈ lines, ∀ b ∈ line, b ≠ lf ∧ b ≠ cr)
    (rest : List UInt8) :
    completeLines (lines.flatMap (· ++ [lf]) ++ lf :: rest) = lines ++ [] :: completeLines rest := by
  induction lines with
  | nil => exact completeLines_lf rest
  | cons line lines ih =>
    obtain ⟨hline, hlines⟩ := List.forall_mem_cons.1 h
    have hfirst := completeLines_line hline (lines.flatMap (· ++ [lf]) ++ lf :: rest)
    rw [List.flatMap_cons, List.append_assoc, List.append_assoc, List.singleton_append, hfirst, ih hlines]
    rfl

theorem dispatch_event {lines : List (List UInt8)} (h : ∀ line ∈ lines, line ≠ []) (values more : List (List UInt8)) :
    dispatch values (lines ++ [] :: more)
      = (eventData (values ++ lines.filterMap dataValue)).toList ++ dispatch [] more := by
  induction lines generalizing values with
  | nil =>
    rw [List.filterMap_nil, List.append_nil]
    rfl
  | cons line lines ih =>
    obtain ⟨hline, hlines⟩ := List.forall_mem_cons.1 h
    have hstep : dispatch values (line :: (lines ++ [] :: more))
        = dispatch (values ++ (dataValue line).toList) (lines ++ [] :: more) := by
      rw [dispatch]
      exact hline
    rw [List.cons_append, hstep, ih hlines, List.filterMap_cons]
    cases dataValue line <;> simp

/-! ## CR LF -/

/-- CR LF for LF. -/
def crlf (body : List UInt8) : List UInt8 := body.flatMap fun b => if b = lf then [cr, lf] else [b]

@[simp] theorem crlf_nil : crlf [] = [] := rfl

@[simp] theorem crlf_lf (body : List UInt8) : crlf (lf :: body) = cr :: lf :: crlf body := rfl

theorem crlf_cons {b : UInt8} (h : b ≠ lf) (body : List UInt8) : crlf (b :: body) = b :: crlf body := by
  unfold crlf
  rw [List.flatMap_cons, if_neg h]
  rfl

theorem completeLines_crlf {body : List UInt8} (h : cr ∉ body) : completeLines (crlf body) = completeLines body := by
  induction body with
  | nil => rfl
  | cons b body ih =>
    have hrest := ih fun hmem => h (List.mem_cons_of_mem b hmem)
    by_cases hlf : b = lf
    · subst hlf
      rw [crlf_lf]
      show [] :: completeLines (crlf body) = completeLines (lf :: body)
      rw [hrest, completeLines_lf]
    · have hcr : b ≠ cr := fun heq => h (heq ▸ List.mem_cons_self)
      rw [crlf_cons hlf, completeLines_cons hlf hcr, completeLines_cons hlf hcr, hrest]

/-- **The line ends are not part of the data.** -/
theorem payloads_crlf {body : List UInt8} (h : cr ∉ body) : payloads (crlf body) = payloads body := by
  unfold payloads streamLines
  rw [completeLines_crlf h]

end EventStream
