import AiRouter.Lib.FirstInfix
import AiRouter.Lib.Utf8
import AiRouter.Fail2ban
import AiRouter.Generic
import Mathlib.Data.List.TakeWhile

/-
# `parse_multipart_model` against multipart forms

| here | there |
| --- | --- |
| `parseMultipartModel`      | `parse_multipart_model` (handler.rs:1558) |
| `List.dropInfix?`          | `find`, and the slices before and after what is found |
| `FormPart`, `Form`         | what a client sends: parts between delimiters, each with its header lines |

The boundary is cut out of the content type and then not used.
-/
namespace AiRouter

/-! ## The scan -/

/-- `name="model"` -/
def modelMarker : List Char := ['n', 'a', 'm', 'e', '=', '"', 'm', 'o', 'd', 'e', 'l', '"']

/-- `\r\n\r\n` -/
def blankLine : List Char := ['\r', '\n', '\r', '\n']

/-- The line after the first blank line after the first marker. -/
def modelField (bodyStr : List Char) : Option String :=
  match bodyStr.dropInfix? modelMarker with
  | none => none
  | some (_, afterMarker) =>
    match afterMarker.dropInfix? blankLine with
    | none => none
    | some (_, value) => (value.dropInfix? ['\r']).map fun r => String.ofList (trim r.1)

def parseMultipartModel (body : List UInt8) (contentType : String) : Option String :=
  if containsStr contentType "boundary=" then modelField (Utf8.fromLossy body) else none

/-! ## Forms -/

/-- The bytes of an ASCII text. -/
def asciiBytes (s : String) : List UInt8 := s.toList.map fun c => UInt8.ofNat c.toNat

def crlfBytes : List UInt8 := [13, 10]

/-- No line end. -/
def OneLine (bytes : List UInt8) : Prop := ∀ b ∈ bytes, b ≠ 13 ∧ b ≠ 10

instance : DecidablePred OneLine := fun _ => List.decidableBAll _ _

/-- ASCII letters in lower case. -/
def lowered (bytes : List UInt8) : List UInt8 := bytes.map fun b => if 65 ≤ b ∧ b ≤ 90 then b + 32 else b

/-- Printable, without quotes, semicolons and equals signs. -/
def Token (bytes : List UInt8) : Prop := ∀ b ∈ bytes, 32 < b ∧ b < 127 ∧ b ≠ 34 ∧ b ≠ 59 ∧ b ≠ 61

instance : DecidablePred Token := fun _ => List.decidableBAll _ _

/-- A parameter of `Content-Disposition` other than the field name, such as a file name. -/
structure DispositionParam where
  key : List UInt8
  value : List UInt8
  key_token : Token key ∧ lowered key ≠ asciiBytes "name"
  value_quoted : OneLine value ∧ (34 : UInt8) ∉ value

def DispositionParam.bytes (p : DispositionParam) : List UInt8 :=
  asciiBytes "; " ++ p.key ++ asciiBytes "=\"" ++ p.value ++ asciiBytes "\""

/-- A part: its field name as it stands between the quotes, the parameters and header lines before and after it, and
the content. -/
structure FormPart where
  name : List UInt8
  label : List UInt8
  paramsBefore : List DispositionParam
  paramsAfter : List DispositionParam
  headersBefore : List (List UInt8)
  headersAfter : List (List UInt8)
  content : List UInt8
  name_quoted : OneLine name ∧ (34 : UInt8) ∉ name
  label_named : lowered label = asciiBytes "content-disposition"
  headers_ended : ∀ line ∈ headersBefore ++ headersAfter, line ≠ [] ∧ OneLine line

namespace FormPart

/-- The start of the `Content-Disposition` line. -/
def lineStart (p : FormPart) : List UInt8 :=
  p.label ++ asciiBytes ": form-data" ++ p.paramsBefore.flatMap (·.bytes) ++ asciiBytes "; "

/-- Up to the field name. -/
def opening (p : FormPart) (boundary : List UInt8) : List UInt8 :=
  ((asciiBytes "--" ++ boundary) :: p.headersBefore).flatMap (· ++ crlfBytes) ++ p.lineStart

/-- The end of that line, after the field name. -/
def lineEnd (p : FormPart) : List UInt8 := p.paramsAfter.flatMap (·.bytes)

/-- The headers after the field name. -/
def remaining (p : FormPart) : List UInt8 := p.lineEnd ++ p.headersAfter.flatMap (crlfBytes ++ ·)

def bytes (p : FormPart) (boundary : List UInt8) : List UInt8 :=
  p.opening boundary ++ (asciiBytes "name=\"" ++ p.name ++ asciiBytes "\"")
    ++ (p.remaining ++ (crlfBytes ++ crlfBytes) ++ (p.content ++ crlfBytes))

def isModel (p : FormPart) : Bool := p.name == asciiBytes "model"

/-- The value that a reader of the form sees. -/
def value (p : FormPart) : String := String.ofList (Utf8.fromLossy p.content)

/-- One line, with nothing to trim. -/
def Plain (p : FormPart) : Prop :=
  '\r' ∉ Utf8.fromLossy p.content ∧ trim (Utf8.fromLossy p.content) = Utf8.fromLossy p.content

end FormPart

/-- Parts between delimiters. Field names are quoted and have no escapes; the delimiter does not come in a content, nor
in what is written before the first part. -/
structure Form where
  boundary : List UInt8
  preamble : List UInt8
  parts : List FormPart
  epilogue : List UInt8
  boundary_line : boundary ≠ [] ∧ OneLine boundary
  preamble_ended : preamble = [] ∨ crlfBytes <:+ preamble
  preamble_clear : ¬ crlfBytes ++ asciiBytes "--" ++ boundary <:+: crlfBytes ++ preamble
  epilogue_started : epilogue = [] ∨ crlfBytes <+: epilogue
  delimited : ∀ p ∈ parts, ¬ crlfBytes ++ asciiBytes "--" ++ boundary <:+: crlfBytes ++ p.content

namespace Form

def closing (f : Form) : List UInt8 := asciiBytes "--" ++ f.boundary ++ asciiBytes "--"

def bytes (f : Form) : List UInt8 :=
  f.preamble ++ f.parts.flatMap (·.bytes f.boundary) ++ (f.closing ++ f.epilogue)

/-- What comes before the field name of the first `model` part. -/
def lead (f : Form) : List UInt8 :=
  match f.parts.find? (·.isModel) with
  | none => f.bytes
  | some m =>
    f.preamble ++ (f.parts.takeWhile (!·.isModel)).flatMap (·.bytes f.boundary) ++ m.opening f.boundary

end Form

/-- Every part with the field name `model` has the value that is returned, and without one nothing is. -/
structure ReadsModel (f : Form) (contentType : String) : Prop where
  value : ∀ p ∈ f.parts, p.isModel = true → parseMultipartModel f.bytes contentType = some p.value
  absent : (∀ p ∈ f.parts, p.isModel = false) → parseMultipartModel f.bytes contentType = none

/-- The marker is there, later a blank line, and later the end of a line. -/
def HasDecoy (text : List Char) : Prop := ∃ a b c d, text = a ++ modelMarker ++ b ++ blankLine ++ (c ++ '\r' :: d)

/-- The first line after the first blank line after the first marker. -/
structure DecoyLine (text line : List Char) : Prop where
  ended : '\r' ∉ line
  found : ∃ a afterMarker b rest, FirstInfix.IsFirst modelMarker text a afterMarker ∧
    FirstInfix.IsFirst blankLine afterMarker b (line ++ '\r' :: rest)

/-- No decoy before the field, and a plain value; or one whose line happens to be the value. Without a field, no
decoy at all. -/
def Form.Unspoofed (f : Form) (contentType : String) : Prop :=
  match f.parts.find? (·.isModel) with
  | none => containsStr contentType "boundary=" = true → ¬ HasDecoy (Utf8.fromLossy f.lead)
  | some m =>
    containsStr contentType "boundary=" = true ∧ (¬ HasDecoy (Utf8.fromLossy f.lead) → m.Plain) ∧
      (∀ line, DecoyLine (Utf8.fromLossy f.lead) line → String.ofList (trim line) = m.value) ∧
      ∀ p ∈ f.parts, p.isModel = true → p.value = m.value

/-! ## What the scan comes to -/

section
variable {text lead rest : List Char}

theorem dropInfix_blankLine (more : List Char) : (blankLine ++ more).dropInfix? blankLine = some ([], more) :=
  FirstInfix.eq_some_iff.2 ⟨rfl, fun _ _ _ => Nat.zero_le _⟩

/-- A line end before a character other than `\r` is not the start of a blank line. -/
theorem dropInfix_lineEnd {c : Char} {l p s : List Char} (hc : c ≠ '\r')
    (h : (c :: l).dropInfix? blankLine = some (p, s)) :
    ('\r' :: '\n' :: c :: l).dropInfix? blankLine = some ('\r' :: '\n' :: p, s) := by
  obtain ⟨heq, hmin⟩ := FirstInfix.eq_some_iff.1 h
  refine FirstInfix.eq_some_iff.2 ⟨by rw [heq]; rfl, fun p' s' hp' => ?_⟩
  match p' with
  | [] =>
    unfold blankLine at hp'
    simp only [List.nil_append, List.cons_append, List.cons.injEq] at hp'
    exact absurd hp'.2.2.1 hc
  | [x] =>
    unfold blankLine at hp'
    simp only [List.nil_append, List.cons_append, List.cons.injEq] at hp'
    exact absurd hp'.2.1 (by decide)
  | x :: y :: p' =>
    simp only [List.cons_append, List.cons.injEq] at hp'
    exact Nat.succ_le_succ (Nat.succ_le_succ (hmin p' s' hp'.2.2))

/-- The blank line after lines that are not blank. -/
theorem dropInfix_headers {ls : List (List Char)} (hls : ∀ l ∈ ls, l ≠ [] ∧ '\r' ∉ l) {piece : List Char}
    (hpiece : '\r' ∉ piece) (more : List Char) :
    (piece ++ ls.flatMap ('\r' :: '\n' :: ·) ++ blankLine ++ more).dropInfix? blankLine
      = some (piece ++ ls.flatMap ('\r' :: '\n' :: ·), more) := by
  induction ls generalizing piece with
  | nil =>
    rw [List.flatMap_nil, List.append_nil, List.append_assoc]
    have hfound := FirstInfix.append_of_notMem hpiece (dropInfix_blankLine more)
    rw [List.append_nil] at hfound
    exact hfound
  | cons l ls ih =>
    obtain ⟨⟨hne, hl⟩, hls⟩ := List.forall_mem_cons.1 hls
    have hrest := ih hls hl
    obtain ⟨c, l, rfl⟩ := List.exists_cons_of_ne_nil hne
    have hc : c ≠ '\r' := fun heq => hl (heq ▸ List.mem_cons_self)
    have hline : (piece ++ '\r' :: '\n' :: (c :: l ++ ls.flatMap ('\r' :: '\n' :: ·) ++ blankLine ++ more)).dropInfix?
        blankLine = some (piece ++ '\r' :: '\n' :: (c :: l ++ ls.flatMap ('\r' :: '\n' :: ·)), more) :=
      FirstInfix.append_of_notMem hpiece (dropInfix_lineEnd hc hrest)
    rw [List.flatMap_cons]
    simpa [List.append_assoc] using hline

/-- What the scan makes of a text with the marker and then a blank line. -/
theorem modelField_of_found {p s q r : List Char} (hmarker : text.dropInfix? modelMarker = some (p, s))
    (hblank : s.dropInfix? blankLine = some (q, r)) :
    modelField text = (r.dropInfix? ['\r']).map fun r => String.ofList (trim r.1) := by
  unfold modelField
  rw [hmarker]
  dsimp only
  rw [hblank]

theorem takeWhile_line {value : List Char} (h : '\r' ∉ value) : value.takeWhile (· != '\r') = value :=
  List.takeWhile_eq_self_iff.2 fun c hc => by simpa using fun heq : c = '\r' => h (heq ▸ hc)

/-- **What is returned** is the line, trimmed. -/
theorem modelField_eq_some_iff {v : String} :
    modelField text = some v ↔ ∃ line, DecoyLine text line ∧ String.ofList (trim line) = v := by
  constructor
  · intro hv
    unfold modelField at hv
    cases hmarker : text.dropInfix? modelMarker with
    | none =>
      rw [hmarker] at hv
      cases hv
    | some ps =>
      rw [hmarker] at hv
      dsimp only at hv
      cases hblank : ps.2.dropInfix? blankLine with
      | none =>
        rw [hblank] at hv
        cases hv
      | some qr =>
        rw [hblank] at hv
        obtain ⟨⟨line, rest⟩, hline, htrim⟩ := Option.map_eq_some_iff.1 hv
        have hend := FirstInfix.eq_some_iff.1 hline
        have hno : '\r' ∉ line := hend.notMem
        have hafter : qr.2 = line ++ '\r' :: rest := by
          rw [hend.split]
          simp
        have hfound := FirstInfix.eq_some_iff.1 hblank
        rw [hafter] at hfound
        exact ⟨line, ⟨hno, ps.1, ps.2, qr.1, rest, FirstInfix.eq_some_iff.1 hmarker, hfound⟩, htrim⟩
  · rintro ⟨line, ⟨hno, a, afterMarker, b, rest, hmarker, hblank⟩, htrim⟩
    obtain ⟨s, hs⟩ := FirstInfix.singleton '\r' line rest
    rw [modelField_of_found (FirstInfix.eq_some_iff.2 hmarker) (FirstInfix.eq_some_iff.2 hblank), hs, takeWhile_line hno]
    exact congrArg some htrim

/-- The first marker and the first blank line after it are no later than any others. -/
theorem first_blank {a b c : List Char} (h : text = a ++ modelMarker ++ b ++ blankLine ++ c) :
    ∃ p s q r, text.dropInfix? modelMarker = some (p, s) ∧ s.dropInfix? blankLine = some (q, r) ∧ c <:+ r := by
  have hinfix : modelMarker <:+: text := ⟨a, b ++ blankLine ++ c, by rw [h]; simp⟩
  obtain ⟨p, s, hmarker⟩ := FirstInfix.exists_first hinfix
  obtain ⟨heq, hmin⟩ := FirstInfix.eq_some_iff.1 hmarker
  have hle := hmin a (b ++ blankLine ++ c) (by rw [h]; simp)
  have hafter : b ++ blankLine ++ c <:+ s := by
    have h1 : s <:+ text := ⟨p ++ modelMarker, heq.symm⟩
    have h2 : b ++ blankLine ++ c <:+ text := ⟨a ++ modelMarker, by rw [h]; simp⟩
    refine List.suffix_of_suffix_length_le h2 h1 ?_
    have hlen := congrArg List.length (h.symm.trans heq)
    simp only [List.length_append] at hlen ⊢
    omega
  obtain ⟨t, ht⟩ := hafter
  have hs : s = t ++ b ++ blankLine ++ c := by rw [← ht]; simp
  obtain ⟨q, r, hblank⟩ := FirstInfix.exists_first (show blankLine <:+: s from ⟨t ++ b, c, hs.symm⟩)
  obtain ⟨heq', hmin'⟩ := FirstInfix.eq_some_iff.1 hblank
  have hle' := hmin' (t ++ b) c hs
  refine ⟨p, s, q, r, hmarker, hblank, ?_⟩
  have h1 : r <:+ s := ⟨q ++ blankLine, heq'.symm⟩
  have h2 : c <:+ s := ⟨t ++ b ++ blankLine, hs.symm⟩
  refine List.suffix_of_suffix_length_le h2 h1 ?_
  have hlen := congrArg List.length (hs.symm.trans heq')
  simp only [List.length_append] at hlen hle'
  omega

/-- Something is returned exactly if there is a decoy. -/
theorem hasDecoy_iff : HasDecoy text ↔ ∃ v, modelField text = some v := by
  constructor
  · rintro ⟨a, b, c, d, htext⟩
    obtain ⟨p, s, q, r, hmarker, hblank, hsuffix⟩ := first_blank htext
    have hr : '\r' ∈ r := hsuffix.subset (by simp)
    obtain ⟨l, l', rfl⟩ := List.append_of_mem hr
    obtain ⟨s', hs'⟩ := FirstInfix.singleton '\r' l l'
    exact ⟨_, by rw [modelField_of_found hmarker hblank, hs']; rfl⟩
  · rintro ⟨v, hv⟩
    obtain ⟨line, ⟨_, a, afterMarker, b, rest, hmarker, hblank⟩, _⟩ := modelField_eq_some_iff.1 hv
    refine ⟨a, b, line, rest, ?_⟩
    rw [hmarker.split, hblank.split]
    simp

/-- A decoy whose line is ended decides, whatever comes later. -/
theorem modelField_append (more : List Char) {v : String} (h : modelField text = some v) :
    modelField (text ++ more) = some v := by
  obtain ⟨a, b, c, d, htext⟩ := hasDecoy_iff.2 ⟨v, h⟩
  obtain ⟨p, s, q, r, hmarker, hblank, _⟩ := first_blank htext
  rw [modelField_of_found hmarker hblank] at h
  obtain ⟨⟨line, tail⟩, hline, rfl⟩ := Option.map_eq_some_iff.1 h
  rw [modelField_of_found (FirstInfix.append_of_some more hmarker) (FirstInfix.append_of_some more hblank),
    FirstInfix.append_of_some more hline]
  rfl

/-- The value up to the end of its first line. -/
def firstLine (value : List Char) : String := String.ofList (trim (value.takeWhile (· != '\r')))

/-- Where no marker with a blank line after it comes before the field, the field itself is found. -/
theorem modelField_field (h : ∀ a b c, lead ≠ a ++ modelMarker ++ b ++ blankLine ++ c) {ls : List (List Char)}
    (hls : ∀ l ∈ ls, l ≠ [] ∧ '\r' ∉ l) {piece : List Char} (hpiece : '\r' ∉ piece) (value tail : List Char) :
    modelField (lead ++ modelMarker ++ (piece ++ ls.flatMap ('\r' :: '\n' :: ·) ++ blankLine ++ (value ++ '\r' :: tail)))
      = some (firstLine value) := by
  have hline : ((value ++ '\r' :: tail).dropInfix? ['\r']).map (fun r => String.ofList (trim r.1))
      = some (firstLine value) := by
    obtain ⟨s, hs⟩ := FirstInfix.singleton '\r' value tail
    rw [hs]
    rfl
  cases hmarker : lead.dropInfix? modelMarker with
  | none =>
    have hfound := FirstInfix.of_none (show 'n' ∉ modelMarker.tail by decide) hmarker
    exact (modelField_of_found (hfound _) (dropInfix_headers hls hpiece _)).trans hline
  | some ps =>
    -- a marker without a blank line after it: the first one is that of the field
    have hnone : ps.2.dropInfix? blankLine = none := by
      cases hblank : ps.2.dropInfix? blankLine with
      | none => rfl
      | some qr =>
        refine absurd ?_ (h ps.1 qr.1 qr.2)
        rw [(FirstInfix.eq_some_iff.1 hmarker).split, (FirstInfix.eq_some_iff.1 hblank).split]
        simp
    have hafter : '\r' ∉ modelMarker.tail ++ piece := fun hmem => by
      rcases List.mem_append.1 hmem with hname | hin
      · exact absurd hname (by decide)
      · exact hpiece hin
    have hheaders := dropInfix_headers hls hafter (value ++ '\r' :: tail)
    have hblank := FirstInfix.append_cons_of_none (by decide) hnone
      (FirstInfix.cons_of_ne (show 'n' ≠ '\r' by decide) hheaders)
    have htext := FirstInfix.append_of_some (modelMarker ++ (piece ++ ls.flatMap ('\r' :: '\n' :: ·) ++ blankLine
      ++ (value ++ '\r' :: tail))) hmarker
    rw [← List.append_assoc] at htext
    have hsame : 'n' :: (modelMarker.tail ++ piece ++ ls.flatMap ('\r' :: '\n' :: ·) ++ blankLine
        ++ (value ++ '\r' :: tail))
        = modelMarker ++ (piece ++ ls.flatMap ('\r' :: '\n' :: ·) ++ blankLine ++ (value ++ '\r' :: tail)) := by
      simp [modelMarker]
    rw [hsame] at hblank
    exact (modelField_of_found htext hblank).trans hline

/-- There is only one last `\r`. -/
theorem last_return {a b a' b' : List Char} (h : a ++ '\r' :: b = a' ++ '\r' :: b') (hb : '\r' ∉ b) (hb' : '\r' ∉ b') :
    a = a' := by
  rcases List.append_eq_append_iff.1 h with ⟨c, rfl, hc⟩ | ⟨c, rfl, hc⟩
  · cases c with
    | nil => rw [List.append_nil]
    | cons x c =>
      rw [(List.cons.inj hc).2] at hb
      exact absurd (List.mem_append_right c List.mem_cons_self) hb
  · cases c with
    | nil => rw [List.append_nil]
    | cons x c =>
      rw [(List.cons.inj hc).2] at hb'
      exact absurd (List.mem_append_right c List.mem_cons_self) hb'

/-- Where the last line end of the text comes after a character, the line after a blank line is ended. -/
theorem decoy_of_blank {c : Char} {before after a b r : List Char} (hc : c ≠ '\n') (hafter : '\r' ∉ after)
    (htext : text = before ++ [c] ++ '\r' :: '\n' :: after) (h : text = a ++ modelMarker ++ b ++ blankLine ++ r) :
    HasDecoy text := by
  by_cases hr : '\r' ∈ r
  · obtain ⟨l, l', rfl⟩ := List.append_of_mem hr
    exact ⟨a, b, l, l', h⟩
  · have hsplit : a ++ modelMarker ++ b ++ ['\r', '\n'] ++ '\r' :: '\n' :: r
        = before ++ [c] ++ '\r' :: '\n' :: after := by
      rw [← htext, h]
      simp [blankLine]
    have hlast := last_return hsplit (by simpa using hr) (by simpa using hafter)
    have hend : '\n' = c := by simpa using congrArg List.getLast? hlast
    exact absurd hend.symm hc

theorem firstLine_eq_iff (value : List Char) :
    firstLine value = String.ofList value ↔ '\r' ∉ value ∧ trim value = value := by
  unfold firstLine
  rw [String.ofList_inj]
  constructor
  · intro h
    have hno : '\r' ∉ value := fun hmem => by
      obtain ⟨l, l', rfl⟩ := List.append_of_mem hmem
      have hlen := congrArg List.length h
      have htrim : ∀ s : List Char, (trim s).length ≤ s.length := fun s => by
        unfold trim
        have h1 := List.length_dropWhile_le isWhiteSpace s
        have h2 := List.length_dropWhile_le isWhiteSpace (s.dropWhile isWhiteSpace).reverse
        simp only [List.length_reverse] at h2 ⊢
        omega
      have htake : ((l ++ '\r' :: l').takeWhile (· != '\r')).length ≤ l.length := by
        rw [List.takeWhile_append]
        split
        · simp
        · exact (List.takeWhile_prefix _).length_le
      have hle := htrim ((l ++ '\r' :: l').takeWhile (· != '\r'))
      rw [hlen, List.length_append, List.length_cons] at hle
      omega
    rw [takeWhile_line hno] at h
    exact ⟨hno, h⟩
  · rintro ⟨hno, htrim⟩
    rw [takeWhile_line hno, htrim]

end

/-! ## Decoding a form -/

section
variable {bytes : List UInt8}

theorem ascii_crlf (before after : List UInt8) :
    Utf8.fromLossy (before ++ (crlfBytes ++ after)) = Utf8.fromLossy before ++ '\r' :: '\n' :: Utf8.fromLossy after :=
  Utf8.fromLossy_ascii (by decide) (by decide) before after

/-- A carriage return or a line feed is decoded from itself only. -/
theorem oneLine_decoded (h : OneLine bytes) : '\r' ∉ Utf8.fromLossy bytes := by
  intro hmem
  obtain ⟨b, hb, heq⟩ := Utf8.mem_fromLossy hmem (by decide) (by decide)
  have hbyte := congrArg Char.toNat heq
  rw [Utf8.toNat_byte] at hbyte
  exact (h b hb).1 (UInt8.toNat_inj.1 hbyte.symm)

/-- The last character before a line end. -/
theorem decoded_last (hne : bytes ≠ []) (h : OneLine bytes) (before : List UInt8) :
    ∃ s c, Utf8.fromLossy (before ++ bytes) = s ++ [c] ∧ c ≠ '\n' := by
  obtain ⟨init, b, rfl⟩ := (List.eq_nil_or_concat bytes).resolve_left hne
  have hb : '\n' ≠ Char.ofNat b.toNat := fun heq => by
    have hbyte := congrArg Char.toNat heq
    rw [Utf8.toNat_byte] at hbyte
    exact (h b (by simp)).2 (UInt8.toNat_inj.1 hbyte.symm)
  rw [List.concat_eq_append, ← List.append_assoc]
  exact Utf8.fromLossy_last (by decide) (by decide) hb (before ++ init)

theorem decoded_ne_nil (hne : bytes ≠ []) (h : OneLine bytes) : Utf8.fromLossy bytes ≠ [] := by
  obtain ⟨s, c, heq, _⟩ := decoded_last hne h []
  rw [List.nil_append] at heq
  rw [heq]
  simp

/-- Header lines are decoded line by line. -/
theorem decoded_headers (ls : List (List UInt8)) (piece : List UInt8) :
    Utf8.fromLossy (piece ++ ls.flatMap (crlfBytes ++ ·))
      = Utf8.fromLossy piece ++ (ls.map Utf8.fromLossy).flatMap ('\r' :: '\n' :: ·) := by
  induction ls generalizing piece with
  | nil => simp
  | cons l ls ih =>
    rw [List.flatMap_cons, List.append_assoc, ascii_crlf, ih]
    simp

theorem OneLine.append {bytes' : List UInt8} (h : OneLine bytes) (h' : OneLine bytes') : OneLine (bytes ++ bytes') :=
  fun b hb => (List.mem_append.1 hb).elim (h b) (h' b)

theorem Token.oneLine (h : Token bytes) : OneLine bytes := by
  intro b hb
  have hprintable := (h b hb).1
  constructor
  · rintro rfl
    exact absurd hprintable (by decide)
  · rintro rfl
    exact absurd hprintable (by decide)

theorem params_oneLine (ps : List DispositionParam) : OneLine (ps.flatMap (·.bytes)) := by
  intro b hb
  obtain ⟨p, -, hbytes⟩ := List.mem_flatMap.1 hb
  have hstart : OneLine (asciiBytes "; ") := by decide
  have hopen : OneLine (asciiBytes "=\"") := by decide
  have hclose : OneLine (asciiBytes "\"") := by decide
  exact ((((hstart.append p.key_token.1.oneLine).append hopen).append p.value_quoted.1).append hclose) b hbytes

/-- What reads `content-disposition` in lower case has no line end. -/
theorem label_oneLine (p : FormPart) : OneLine p.label := by
  have hname : OneLine (lowered p.label) := by
    rw [p.label_named]
    decide
  intro b hb
  have hlower := hname _ (List.mem_map_of_mem hb)
  constructor
  · rintro rfl
    exact hlower.1 rfl
  · rintro rfl
    exact hlower.2 rfl

theorem lineStart_oneLine (p : FormPart) : OneLine p.lineStart := by
  have hkind : OneLine (asciiBytes ": form-data") := by decide
  have hlast : OneLine (asciiBytes "; ") := by decide
  exact (((label_oneLine p).append hkind).append (params_oneLine p.paramsBefore)).append hlast

end

section
variable {f : Form} {m : FormPart}

/-- The text of a form around its `model` field. -/
theorem Form.text_of_model (hfirst : f.parts.find? (·.isModel) = some m) :
    ∃ tail, Utf8.fromLossy f.bytes = Utf8.fromLossy f.lead ++ modelMarker
      ++ (Utf8.fromLossy m.lineEnd ++ (m.headersAfter.map Utf8.fromLossy).flatMap ('\r' :: '\n' :: ·)
        ++ blankLine ++ (Utf8.fromLossy m.content ++ '\r' :: tail)) := by
  obtain ⟨hmodel, pre, post, hparts, hpre⟩ := List.find?_eq_some_iff_append.1 hfirst
  have htake : f.parts.takeWhile (!·.isModel) = pre := by
    rw [hparts, List.takeWhile_append_of_pos hpre, List.takeWhile_cons_of_neg (by simp [hmodel]), List.append_nil]
  have hname : m.name = asciiBytes "model" := by simpa [FormPart.isModel] using hmodel
  have hmarker : asciiBytes "name=\"" ++ m.name ++ asciiBytes "\"" = asciiBytes "name=\"model\"" := by
    rw [hname]
    decide
  have hlead : f.lead = f.preamble ++ pre.flatMap (·.bytes f.boundary) ++ m.opening f.boundary := by
    unfold Form.lead
    rw [hfirst, htake]
  have hbytes : f.bytes = f.lead ++ (asciiBytes "name=\"model\"" ++ (m.remaining ++ ((crlfBytes ++ crlfBytes)
      ++ (m.content ++ (crlfBytes ++ (post.flatMap (·.bytes f.boundary) ++ (f.closing ++ f.epilogue))))))) := by
    unfold Form.bytes
    rw [hlead, hparts, List.flatMap_append, List.flatMap_cons, ← hmarker]
    unfold FormPart.bytes
    simp only [List.append_assoc]
  refine ⟨'\n' :: Utf8.fromLossy (post.flatMap (·.bytes f.boundary) ++ (f.closing ++ f.epilogue)), ?_⟩
  rw [hbytes, Utf8.fromLossy_ascii (by decide) (by decide), Utf8.fromLossy_ascii (by decide) (by decide), ascii_crlf]
  unfold FormPart.remaining
  rw [decoded_headers]
  have hchars : Utf8.ascii (asciiBytes "name=\"model\"") = modelMarker := by decide
  have hblank : Utf8.ascii (crlfBytes ++ crlfBytes) = blankLine := by decide
  rw [hchars, hblank]
  simp only [List.append_assoc]

/-- The last line end before the field comes after a character of a line. -/
theorem Form.lead_line (hfirst : f.parts.find? (·.isModel) = some m) : ∃ before c after, c ≠ '\n' ∧ '\r' ∉ after ∧
    Utf8.fromLossy f.lead = before ++ [c] ++ '\r' :: '\n' :: after := by
  have hdashes : OneLine (asciiBytes "--") := by decide
  obtain ⟨init, last, hlines⟩ := (List.eq_nil_or_concat ((asciiBytes "--" ++ f.boundary) :: m.headersBefore)).resolve_left
    (List.cons_ne_nil _ _)
  rw [List.concat_eq_append] at hlines
  have hlast : last ≠ [] ∧ OneLine last := by
    have hmem : last ∈ (asciiBytes "--" ++ f.boundary) :: m.headersBefore := by rw [hlines]; simp
    rcases List.mem_cons.1 hmem with rfl | hheader
    · exact ⟨by simp [asciiBytes], hdashes.append f.boundary_line.2⟩
    · exact m.headers_ended last (List.mem_append_left _ hheader)
  obtain ⟨s, c, heq, hc⟩ := decoded_last hlast.1 hlast.2 (f.preamble
    ++ (f.parts.takeWhile (!·.isModel)).flatMap (·.bytes f.boundary) ++ init.flatMap (· ++ crlfBytes))
  refine ⟨s, c, Utf8.fromLossy m.lineStart, hc, oneLine_decoded (lineStart_oneLine m), ?_⟩
  rw [← heq, ← ascii_crlf]
  unfold Form.lead
  rw [hfirst]
  dsimp only
  unfold FormPart.opening
  rw [hlines, List.flatMap_append]
  simp only [List.flatMap_cons, List.flatMap_nil, List.append_assoc, List.append_nil]

/-- What is returned for a form with a `model` field. -/
theorem Form.modelField_of_model (hfirst : f.parts.find? (·.isModel) = some m) :
    (HasDecoy (Utf8.fromLossy f.lead) → modelField (Utf8.fromLossy f.bytes) = modelField (Utf8.fromLossy f.lead)) ∧
      (¬ HasDecoy (Utf8.fromLossy f.lead) →
        modelField (Utf8.fromLossy f.bytes) = some (firstLine (Utf8.fromLossy m.content))) := by
  obtain ⟨tail, htext⟩ := Form.text_of_model hfirst
  constructor
  · intro hdecoy
    obtain ⟨v, hv⟩ := hasDecoy_iff.1 hdecoy
    rw [htext, List.append_assoc, hv]
    exact modelField_append _ hv
  · intro hdecoy
    have hheaders : ∀ l ∈ m.headersAfter.map Utf8.fromLossy, l ≠ [] ∧ '\r' ∉ l := by
      intro l hl
      obtain ⟨line, hline, rfl⟩ := List.mem_map.1 hl
      obtain ⟨hne, hend⟩ := m.headers_ended line (List.mem_append_right _ hline)
      exact ⟨decoded_ne_nil hne hend, oneLine_decoded hend⟩
    obtain ⟨before, c, after, hc, hafter, hline⟩ := Form.lead_line hfirst
    rw [htext]
    exact modelField_field (fun a b r heq => hdecoy (decoy_of_blank hc hafter hline heq)) hheaders
      (oneLine_decoded (params_oneLine m.paramsAfter)) _ tail

theorem parseMultipartModel_eq_some_iff {body : List UInt8} {contentType v : String} :
    parseMultipartModel body contentType = some v ↔
      containsStr contentType "boundary=" = true ∧ modelField (Utf8.fromLossy body) = some v := by
  unfold parseMultipartModel
  split <;> simp_all

/-- Without a `model` field. -/
theorem Form.readsModel_of_none {contentType : String} (hfirst : f.parts.find? (·.isModel) = none) :
    ReadsModel f contentType ↔
      (containsStr contentType "boundary=" = true → ¬ HasDecoy (Utf8.fromLossy f.lead)) := by
  have hnot : ∀ p ∈ f.parts, p.isModel = false := by simpa using hfirst
  have hlead : f.lead = f.bytes := by
    unfold Form.lead
    rw [hfirst]
  rw [hlead]
  constructor
  · intro h hboundary hdecoy
    obtain ⟨v, hv⟩ := hasDecoy_iff.1 hdecoy
    have hsome := parseMultipartModel_eq_some_iff.2 ⟨hboundary, hv⟩
    rw [h.absent hnot] at hsome
    cases hsome
  · intro h
    constructor
    case value =>
      intro p hp hmodel
      rw [hnot p hp] at hmodel
      cases hmodel
    case absent =>
      intro _
      cases hv : parseMultipartModel f.bytes contentType with
      | none => rfl
      | some v =>
        obtain ⟨hboundary, hfield⟩ := parseMultipartModel_eq_some_iff.1 hv
        exact absurd (hasDecoy_iff.2 ⟨v, hfield⟩) (h hboundary)

/-- With one: all of them have the value that the scan comes to. -/
theorem Form.readsModel_of_some {contentType : String} (hfirst : f.parts.find? (·.isModel) = some m) :
    ReadsModel f contentType ↔
      containsStr contentType "boundary=" = true ∧ modelField (Utf8.fromLossy f.bytes) = some m.value ∧
        ∀ p ∈ f.parts, p.isModel = true → p.value = m.value := by
  obtain ⟨hmodel, pre, post, hparts, _⟩ := List.find?_eq_some_iff_append.1 hfirst
  have hm : m ∈ f.parts := by rw [hparts]; simp
  constructor
  · intro h
    have hvalue := h.value m hm hmodel
    obtain ⟨hboundary, hfield⟩ := parseMultipartModel_eq_some_iff.1 hvalue
    refine ⟨hboundary, hfield, fun p hp hpm => ?_⟩
    have hvalue' := h.value p hp hpm
    rw [hvalue] at hvalue'
    exact (Option.some.inj hvalue').symm
  · rintro ⟨hboundary, hfield, hall⟩
    constructor
    case value =>
      intro p hp hpm
      rw [hall p hp hpm]
      exact parseMultipartModel_eq_some_iff.2 ⟨hboundary, hfield⟩
    case absent =>
      intro hnone
      rw [hnone m hm] at hmodel
      cases hmodel

/-- **The field is read exactly if the form is unspoofed.** -/
theorem reads_model_iff (f : Form) (contentType : String) : ReadsModel f contentType ↔ f.Unspoofed contentType := by
  unfold Form.Unspoofed
  cases hfirst : f.parts.find? (·.isModel) with
  | none => exact Form.readsModel_of_none hfirst
  | some m =>
    obtain ⟨hspoofed, hfound⟩ := Form.modelField_of_model hfirst
    have hplain : some (firstLine (Utf8.fromLossy m.content)) = some m.value ↔ m.Plain := by
      rw [Option.some.injEq]
      exact firstLine_eq_iff _
    rw [Form.readsModel_of_some hfirst]
    constructor
    · rintro ⟨hboundary, hfield, hall⟩
      refine ⟨hboundary, fun hdecoy => ?_, fun line hline => ?_, hall⟩
      · rw [hfound hdecoy] at hfield
        exact hplain.1 hfield
      · have hreturned := modelField_eq_some_iff.2 ⟨line, hline, rfl⟩
        rw [hspoofed (hasDecoy_iff.2 ⟨_, hreturned⟩), hreturned] at hfield
        exact Option.some.inj hfield
    · rintro ⟨hboundary, hno, hyes, hall⟩
      refine ⟨hboundary, ?_, hall⟩
      by_cases hdecoy : HasDecoy (Utf8.fromLossy f.lead)
      · obtain ⟨v, hv⟩ := hasDecoy_iff.1 hdecoy
        obtain ⟨line, hline, rfl⟩ := modelField_eq_some_iff.1 hv
        rw [hspoofed hdecoy, hv, hyes line hline]
      · rw [hfound hdecoy]
        exact hplain.2 (hno hdecoy)

end

/-! ## A decoy -/

/-- A field of one line without other headers. -/
def plainPart (name content : String) (params : List DispositionParam)
    (hname : OneLine (asciiBytes name) ∧ (34 : UInt8) ∉ asciiBytes name) : FormPart where
  name := asciiBytes name
  label := asciiBytes "Content-Disposition"
  paramsBefore := []
  paramsAfter := params
  headersBefore := []
  headersAfter := []
  content := asciiBytes content
  name_quoted := hname
  label_named := by decide
  headers_ended := by simp

/-- A file that is called `model`, and then the field. -/
def decoyForm : Form where
  boundary := asciiBytes "b"
  preamble := []
  epilogue := []
  parts :=
    [plainPart "file" "tiny" [⟨asciiBytes "filename", asciiBytes "model", by decide, by decide⟩] (by decide),
      plainPart "model" "gpt-4" [] (by decide)]
  boundary_line := by decide
  preamble_ended := Or.inl rfl
  preamble_clear := by decide
  epilogue_started := Or.inl rfl
  delimited := by decide

/-- The content of the file is taken for the model. -/
theorem file_name_is_taken :
    parseMultipartModel decoyForm.bytes "multipart/form-data; boundary=b" = some "tiny" ∧
      (decoyForm.parts.filter (·.isModel)).map (·.value) = ["gpt-4"] ∧
      ¬ ReadsModel decoyForm "multipart/form-data; boundary=b" := by
  have htiny : parseMultipartModel decoyForm.bytes "multipart/form-data; boundary=b" = some "tiny" := by decide +kernel
  refine ⟨htiny, by decide +kernel, fun h => ?_⟩
  have hvalue := h.value (decoyForm.parts.getLast (by decide)) (List.getLast_mem _) (by decide +kernel)
  rw [htiny] at hvalue
  exact absurd hvalue (by decide +kernel)

end AiRouter
