import AiRouter.Expansion

/-
# Comments in the configuration file (config/loader.rs:11-79)

`load_config` substitutes in the whole text and parses what comes out, so a `${..}` in a comment is a placeholder
like any other. The YAML parser is a parameter: it passes over the lines without content, outside of scalars.
-/
namespace AiRouter

/-! ## Comment lines -/

/-- What may be before the `#`: spaces, and tabs where the parser takes them. -/
def isBlank (tabs : Bool) (c : Char) : Bool := c == ' ' || tabs && c == '\t'

/-- The line breaks of YAML. -/
def isBreak (c : Char) : Bool := ['\n', '\r', '\u0085', '\u2028', '\u2029'].contains c

/-- `#` comes first, after blanks. -/
def isComment (tabs : Bool) (line : List Char) : Bool := (line.dropWhile (isBlank tabs)).head? == some '#'

/-- The lines that are neither comments nor blank. -/
def contentLines (tabs : Bool) (text : List Char) : List (List Char) :=
  (text.splitOnP isBreak).filter fun line => !(isComment tabs line || line.all (isBlank tabs))

structure CommentLine (tabs : Bool) (line : List Char) : Prop where
  comment : isComment tabs line = true
  single : ∀ c ∈ line, isBreak c = false

/-- A break, or several: CR LF is two here. -/
structure LineEnd (eol : List Char) : Prop where
  breaks : ∀ c ∈ eol, isBreak c = true
  nonempty : eol ≠ []

def EndsLine (text : List Char) : Prop := ∃ c ∈ text.getLast?, isBreak c = true

/-- What is relied on of the parser: lines without content are ignored where no scalar goes on over the line break. -/
structure IgnoresComments (parseYaml : String → Option AppConfig) (tabs : Bool)
    (inScalar : List Char → List Char → Prop) : Prop where
  ignored : ∀ before passed later, EndsLine before → EndsLine passed → contentLines tabs passed = [] →
    ¬ inScalar before later →
    parseYaml (String.ofList (before ++ (passed ++ later))) = parseYaml (String.ofList (before ++ later))

def expanded (env : String → Option String) (text : List Char) : Option (List Char) :=
  (expandFrom env .text text []).toOption

def textFile (env : String → Option String) (text : List Char) : FileSeen where
  content := some (String.ofList text)
  env := env

/-- The line has no effect in any text, at the end of any line that is not inside of a `${..}` or of a scalar. -/
def Neutral (tabs : Bool) (env : String → Option String) (line : List Char) : Prop :=
  ∀ (l : Loader) (inScalar : List Char → List Char → Prop), IgnoresComments l.parseYaml tabs inScalar →
    ∀ (t : Template) (eol later : List Char), t.WellFormed → t.unclosed = none → EndsLine t.text → LineEnd eol →
      (∀ b a, expanded env t.text = some b → expanded env later = some a → ¬ inScalar b a) →
      l.accepts (textFile env (t.text ++ (line ++ (eol ++ later)))) = l.accepts (textFile env (t.text ++ later))

/-- The placeholders of the line are closed, none fails or is an empty default that is lost, and with their values
the line has no content. -/
def StaysComment (tabs : Bool) (env : String → Option String) (line : List Char) : Prop :=
  ∃ (t : Template) (out : List Char), t.WellFormed ∧ t.text = line ∧ t.value env = some out ∧
    (∀ part ∈ t.parts, ¬ part.2.Lost env) ∧ contentLines tabs out = []

/-! ## Lines without content -/

section
variable {tabs : Bool}

theorem contentLines_nil : contentLines tabs [] = [] := rfl

theorem contentLines_append (before : List Char) {c : Char} (hc : isBreak c = true) (later : List Char) :
    contentLines tabs (before ++ c :: later) = contentLines tabs before ++ contentLines tabs later := by
  unfold contentLines
  rw [List.splitOnP_append_cons before later hc, List.filter_append]

theorem contentLines_lineEnd {eol : List Char} (h : ∀ c ∈ eol, isBreak c = true) (later : List Char) :
    contentLines tabs (eol ++ later) = contentLines tabs later := by
  induction eol with
  | nil => rfl
  | cons c eol ih =>
    obtain ⟨hc, heol⟩ := List.forall_mem_cons.1 h
    have happend := @contentLines_append tabs [] c hc (eol ++ later)
    rw [List.nil_append, contentLines_nil, List.nil_append] at happend
    rw [List.cons_append, happend, ih heol]

/-- A line counts by itself, whatever comes before and after. -/
theorem contentLines_line {eol : List Char} (h : LineEnd eol) (line later : List Char) :
    contentLines tabs (line ++ (eol ++ later)) = contentLines tabs line ++ contentLines tabs later := by
  obtain ⟨c, eol, rfl⟩ := List.exists_cons_of_ne_nil h.nonempty
  obtain ⟨hc, heol⟩ := List.forall_mem_cons.1 h.breaks
  rw [List.cons_append, contentLines_append line hc, contentLines_lineEnd heol]

theorem CommentLine.contentLines_eq {line : List Char} (h : CommentLine tabs line) : contentLines tabs line = [] := by
  unfold contentLines
  rw [List.splitOnP_eq_singleton h.single]
  simp [h.comment]

theorem lineEnd_newline : LineEnd ['\n'] := ⟨List.forall_mem_singleton.2 rfl, by simp⟩

theorem LineEnd.endsLine {eol : List Char} (h : LineEnd eol) (line : List Char) : EndsLine (line ++ eol) := by
  have hlast := List.getLast?_eq_some_getLast h.nonempty
  refine ⟨eol.getLast h.nonempty, ?_, h.breaks _ (List.getLast_mem h.nonempty)⟩
  rw [List.getLast?_append_of_ne_nil _ h.nonempty, hlast]
  rfl

theorem LineEnd.no_placeholder {eol : List Char} (h : LineEnd eol) : ¬ ['$', '{'] <:+: eol := fun hin =>
  absurd (h.breaks '$' (hin.mem (by simp))) (by decide)

end

/-! ## Substitution piece by piece -/

section
variable {env : String → Option String}

/-- What has been put out stays. -/
theorem expandFrom_append (r : List Char) (mode : ExpandMode) (cs result : List Char) :
    expandFrom env mode cs (r ++ result) = (expandFrom env mode cs result).map (r ++ ·) := by
  fun_induction expandFrom env mode cs result with
  | case1 result => rfl
  | case2 result cs ih => rw [expandFrom, ih]
  | case3 result c cs hnot ih =>
    rw [expandFrom, List.append_assoc, ih]
    exact hnot
  | case4 name dflt inDefault result =>
    rw [expandFrom]
    cases substitute env name dflt <;> simp [Except.map]
  | case5 name dflt inDefault cs result val hval ih =>
    rw [expandFrom, hval]
    dsimp only
    rw [List.append_assoc, ih]
  | case6 name dflt inDefault cs result e he =>
    rw [expandFrom, he]
    rfl
  | case7 name dflt cs result ih => rw [expandFrom, ih]
  | case8 name dflt c cs result hclose hdflt ih =>
    rw [expandFrom, ih]
    · exact hclose
    · exact hdflt
  | case9 name dflt c cs result hclose ih =>
    rw [expandFrom, ih]
    exact hclose

theorem expandFrom_text (cs result : List Char) :
    (expandFrom env .text cs result).toOption = (expanded env cs).map (result ++ ·) := by
  have happend := @expandFrom_append env result .text cs []
  rw [List.append_nil] at happend
  rw [happend, expanded]
  cases expandFrom env .text cs [] <;> rfl

theorem expanded_literal {literal : List Char} (h : ¬ ['$', '{'] <:+: literal) (rest : List Char)
    (hrest : literal.getLast? = some '$' → rest.head? ≠ some '{') :
    expanded env (literal ++ rest) = (expanded env rest).map (literal ++ ·) := by
  rw [expanded, expand_literal env h hrest, expandFrom_text, List.nil_append]

theorem expanded_lineEnd {eol : List Char} (h : LineEnd eol) (later : List Char) :
    expanded env (eol ++ later) = (expanded env later).map (eol ++ ·) :=
  expanded_literal h.no_placeholder later fun hlast =>
    absurd (h.breaks '$' (List.mem_of_getLast? hlast)) (by decide)

theorem LineEnd.head_ne {eol : List Char} (h : LineEnd eol) (later : List Char) : (eol ++ later).head? ≠ some '{' := by
  intro heq
  rw [List.head?_append_of_ne_nil _ h.nonempty] at heq
  exact absurd (h.breaks '{' (List.mem_of_head? heq)) (by decide)

variable {t : Template}

theorem expanded_closed (h : t.WellFormed) (hclosed : t.unclosed = none) :
    expanded env t.text = (Template.join (·.scanned env) t.parts).map (· ++ t.last) := by
  rw [expanded, expand_text env h, hclosed, Option.map_eq_bind]
  rfl

/-- A closed text is substituted by itself, whatever follows but the brace after a dollar. -/
theorem expanded_append (h : t.WellFormed) (hclosed : t.unclosed = none) (rest : List Char)
    (hrest : t.last.getLast? = some '$' → rest.head? ≠ some '{') :
    expanded env (t.text ++ rest) = (expanded env t.text).bind fun before => (expanded env rest).map (before ++ ·) := by
  have htext : t.text ++ rest = t.parts.flatMap Template.partText ++ (t.last ++ rest) := by
    simp [Template.text, hclosed]
  rw [expanded_closed h hclosed, htext, expanded, expand_parts env h.literals h.placeholders]
  cases Template.join (·.scanned env) t.parts with
  | none => rfl
  | some val =>
    rw [Option.bind_some, List.nil_append, expand_literal env h.last hrest, expandFrom_text]
    rfl

/-- A text that ends a line ends in a literal. -/
theorem last_of_text (hclosed : t.unclosed = none) (hline : EndsLine t.text) : EndsLine t.last := by
  obtain ⟨c, hlast, hc⟩ := hline
  unfold Template.text at hlast
  rw [hclosed, Option.map_none, Option.getD_none, List.append_nil] at hlast
  by_cases hempty : t.last = []
  · -- the text would end in a brace
    rcases List.eq_nil_or_concat t.parts with hparts | ⟨parts, part, hparts⟩
    · simp [hparts, hempty] at hlast
    · simp only [hparts, hempty, Template.partText, List.concat_eq_append, List.flatMap_append, List.flatMap_singleton,
        List.append_nil, ← List.append_assoc, List.getLast?_concat, Option.mem_def, Option.some.injEq] at hlast
      subst hlast
      exact absurd hc (by decide)
  · rw [List.getLast?_append_of_ne_nil _ hempty] at hlast
    exact ⟨c, hlast, hc⟩

theorem dollar_of_text (hclosed : t.unclosed = none) (hline : EndsLine t.text) : t.last.getLast? ≠ some '$' := by
  obtain ⟨c, hlast, hc⟩ := last_of_text hclosed hline
  intro hdollar
  obtain rfl := Option.some.inj (hlast.symm.trans hdollar)
  exact absurd hc (by decide)

theorem expanded_endsLine (h : t.WellFormed) (hclosed : t.unclosed = none) (hline : EndsLine t.text)
    {before : List Char} (hbefore : expanded env t.text = some before) : EndsLine before := by
  obtain ⟨c, hlast, hc⟩ := last_of_text hclosed hline
  rw [expanded_closed h hclosed] at hbefore
  obtain ⟨val, _, rfl⟩ := Option.map_eq_some_iff.1 hbefore
  refine ⟨c, ?_, hc⟩
  rw [List.getLast?_append, Option.mem_def.1 hlast]
  rfl

end

/-! ## A line that stays a comment -/

/-- `load_config` accepts what the parser and the validation make of the expanded text. -/
theorem accepts_textFile (l : Loader) (env : String → Option String) (text : List Char) :
    l.accepts (textFile env text) = (expanded env text).bind fun out =>
      (l.parseYaml (String.ofList out)).bind fun cfg => if validateConfig cfg = .ok none then some cfg else none := by
  unfold Loader.accepts Loader.loadConfig textFile expandEnvVars expanded
  simp only [String.toList_ofList]
  cases expandFrom env .text text [] with
  | error e => rfl
  | ok out =>
    simp only [Except.map, Except.toOption, Option.bind_some]
    cases l.parseYaml (String.ofList out) with
    | none => rfl
    | some cfg => rcases hvalid : validateConfig cfg with _ | _ | _ <;> simp [hvalid]

section
variable {tabs : Bool} {env : String → Option String} {line : List Char}

theorem expanded_stays (h : StaysComment tabs env line) {eol : List Char} (heol : LineEnd eol) (later : List Char) :
    ∃ out, contentLines tabs out = [] ∧
      expanded env (line ++ (eol ++ later)) = (expanded env later).map (out ++ eol ++ ·) := by
  obtain ⟨t, out, ht, rfl, hvalue, hkept, hcontent⟩ := h
  have hclosed : t.unclosed = none := by
    cases hunclosed : t.unclosed with
    | none => rfl
    | some p =>
      unfold Template.value at hvalue
      rw [hunclosed] at hvalue
      cases hvalue
  have hout : expanded env t.text = some out := by
    have hscanned := @Template.join_congr _ _ t.parts fun part hpart => Placeholder.scanned_eq_value (hkept part hpart)
    rw [expanded_closed ht hclosed, hscanned, ← hvalue]
    unfold Template.value
    rw [hclosed]
  refine ⟨out, hcontent, ?_⟩
  rw [expanded_append ht hclosed _ fun _ => heol.head_ne later, hout, expanded_lineEnd heol]
  cases expanded env later <;> simp

theorem StaysComment.neutral (h : StaysComment tabs env line) : Neutral tabs env line := by
  intro l inScalar hl t eol later ht hclosed hend heol hscalar
  have hdollar := dollar_of_text hclosed hend
  obtain ⟨out, hcontent, hline⟩ := expanded_stays h heol later
  rw [accepts_textFile, accepts_textFile, expanded_append ht hclosed _ fun hd => absurd hd hdollar,
    expanded_append ht hclosed _ fun hd => absurd hd hdollar, hline]
  cases hbefore : expanded env t.text with
  | none => rfl
  | some before =>
    cases hlater : expanded env later with
    | none => rfl
    | some after =>
      have hpassed : contentLines tabs (out ++ eol) = [] := by
        have happend := @contentLines_line tabs eol heol out []
        rwa [List.append_nil, hcontent] at happend
      have hparse := hl.ignored before (out ++ eol) after (expanded_endsLine ht hclosed hend hbefore)
        (heol.endsLine out) hpassed (hscalar before after hbefore hlater)
      simp only [Option.bind_some, Option.map_some, hparse]

/-- A comment without placeholders stays one. -/
theorem CommentLine.stays (hline : CommentLine tabs line) (h : ¬ ['$', '{'] <:+: line) : StaysComment tabs env line :=
  ⟨⟨[], line, none⟩, line, ⟨by simp, h, by simp, by simp⟩, by simp [Template.text], rfl, by simp,
    hline.contentLines_eq⟩

/-! ## A line that does not

The parser takes one configuration. -/

/-- The file with the given lines of content, whatever its comments. -/
def parsesContent (tabs : Bool) (lines : List (List Char)) (cfg : AppConfig) : Loader where
  path := "\"config.yaml\""
  parseYaml := fun text => if contentLines tabs text.toList = lines then some cfg else none

theorem contentLines_endsLine {before : List Char} (h : EndsLine before) (later : List Char) :
    contentLines tabs (before ++ later) = contentLines tabs before ++ contentLines tabs later := by
  obtain ⟨c, hlast, hc⟩ := h
  obtain ⟨before, rfl⟩ := List.getLast?_eq_some_iff.1 hlast
  rw [List.append_assoc, List.singleton_append, contentLines_append before hc, contentLines_append before hc,
    contentLines_nil, List.append_nil]

theorem parsesContent_ignores (tabs : Bool) (lines : List (List Char)) (cfg : AppConfig) :
    IgnoresComments (parsesContent tabs lines cfg).parseYaml tabs fun _ _ => False where
  ignored := by
    intro before passed later hbefore hpassed hnone _
    simp only [parsesContent, String.toList_ofList]
    rw [contentLines_endsLine hbefore, contentLines_endsLine hbefore, contentLines_endsLine hpassed, hnone,
      List.nil_append]

def serverText : Template where
  parts := []
  last := "server: \x7b\n".toList
  unclosed := none

/-- A neutral line leaves the content of what comes after it. -/
theorem Neutral.content (h : Neutral tabs env line) (later : List Char) {a : List Char}
    (ha : expanded env later = some a) :
    ∃ out, expanded env (line ++ '\n' :: later) = some out ∧ contentLines tabs out = contentLines tabs a := by
  have hwf : serverText.WellFormed := ⟨by simp [serverText], by decide, by simp [serverText], by simp [serverText]⟩
  have hend : EndsLine serverText.text := ⟨'\n', by decide, by decide⟩
  have hdollar := dollar_of_text (t := serverText) rfl hend
  have hserver : expanded env serverText.text = some serverText.text := by
    rw [expanded_closed hwf rfl]
    rfl
  have hsame := h (parsesContent tabs (contentLines tabs (serverText.text ++ a)) emptyConfig) _
    (parsesContent_ignores ..) serverText ['\n'] later hwf rfl hend lineEnd_newline fun _ _ _ _ => not_false
  rw [accepts_textFile, accepts_textFile, expanded_append hwf rfl _ fun hd => absurd hd hdollar,
    expanded_append hwf rfl _ fun hd => absurd hd hdollar, hserver, ha] at hsame
  have hvalid : validateConfig emptyConfig = .ok none := by rfl
  simp only [parsesContent, Option.bind_some, Option.map_some, String.toList_ofList, if_true, hvalid,
    Option.bind_eq_some_iff, Option.map_eq_some_iff] at hsame
  obtain ⟨_, ⟨out, hout, rfl⟩, cfg, hcfg, _⟩ := hsame
  refine ⟨out, hout, ?_⟩
  split at hcfg
  · rename_i hlines
    rw [contentLines_endsLine hend, contentLines_endsLine hend] at hlines
    exact List.append_cancel_left hlines
  · cases hcfg

/-- A placeholder that the line leaves open takes the next brace, and the white space before it. -/
theorem Neutral.closed (h : Neutral tabs env line) {t : Template} (ht : t.WellFormed) (htext : t.text = line) :
    t.unclosed = none := by
  cases hunclosed : t.unclosed with
  | none => rfl
  | some p =>
    -- the brace comes at the start of a line, or after a space
    obtain ⟨out, hout, hcontent⟩ := h.content ['}'] rfl
    obtain ⟨out', hout', hcontent'⟩ := h.content [' ', '}'] rfl
    have hsame : some out = some out' := by
      rw [← hout, ← hout', ← htext]
      have hspace : ∀ c ∈ ['\n', ' '], isWhiteSpace c = true :=
        List.forall_mem_cons.2 ⟨rfl, List.forall_mem_singleton.2 rfl⟩
      exact (expand_closed_late env ht hunclosed ['\n'] (by simp) (List.forall_mem_singleton.2 rfl)).trans
        (expand_closed_late env ht hunclosed ['\n', ' '] (by simp) hspace).symm
    obtain rfl := Option.some.inj hsame
    rw [hcontent] at hcontent'
    cases tabs <;> exact absurd hcontent' (by decide)

theorem Neutral.stays (h : Neutral tabs env line) : StaysComment tabs env line := by
  obtain ⟨t, ht, htext⟩ := Template.exists_template line
  have hclosed := h.closed ht htext
  obtain ⟨out, hout, hcontent⟩ := h.content [] rfl
  rw [← htext, expanded_append ht hclosed ['\n'] fun _ => lineEnd_newline.head_ne [],
    expanded_closed ht hclosed] at hout
  cases hjoin : Template.join (·.scanned env) t.parts with
  | none =>
    rw [hjoin] at hout
    cases hout
  | some val =>
    rw [hjoin] at hout
    obtain rfl : val ++ t.last ++ ['\n'] = out := Option.some.inj hout
    have hkept : ∀ part ∈ t.parts, ¬ part.2.Lost env := fun part hpart hlost => by
      rw [Template.join_eq_none_iff.2 ⟨part, hpart, Placeholder.scanned_lost hlost⟩] at hjoin
      cases hjoin
    refine ⟨t, val ++ t.last, ht, htext, ?_, hkept, ?_⟩
    · unfold Template.value
      rw [hclosed]
      dsimp only
      rw [← Template.join_congr fun part hpart => Placeholder.scanned_eq_value (hkept part hpart), hjoin]
      rfl
    · have hline := @contentLines_line tabs ['\n'] lineEnd_newline (val ++ t.last) []
      rw [List.append_nil, contentLines_nil, List.append_nil] at hline
      rw [← hline, hcontent, contentLines_nil]

end

/-- **A comment has no effect**, wherever it is put, exactly if it stays a comment. So it is with any line. -/
theorem comment_neutral_iff (tabs : Bool) (env : String → Option String) (line : List Char) :
    Neutral tabs env line ↔ StaysComment tabs env line :=
  ⟨Neutral.stays, StaysComment.neutral⟩

/-- A comment without placeholders never has an effect. -/
theorem CommentLine.neutral {tabs : Bool} {line : List Char} (hline : CommentLine tabs line)
    (h : ¬ ['$', '{'] <:+: line) (env : String → Option String) : Neutral tabs env line :=
  (hline.stays h).neutral

/-! A comment of `config.example.yaml`: line 15. -/

def variableComment : List Char := "#   $\x7bVAR\x7d          — required variable (error if not set)".toList

theorem variableComment_line : CommentLine false variableComment where
  comment := by decide
  single c hc := by
    have hall : (variableComment.all fun c => !isBreak c) = true := by decide
    simpa using List.all_eq_true.1 hall c hc

def listenContent : List (List Char) := ["server:".toList, "  listen: a".toList]

theorem variable_comment_rejected :
    (parsesContent false listenContent emptyConfig).accepts
        (textFile (fun _ => none) ("server:\n".toList ++ "  listen: a\n".toList)) = some emptyConfig ∧
      (parsesContent false listenContent emptyConfig).loadConfig
        (textFile (fun _ => none) ("server:\n".toList ++ variableComment ++ '\n' :: "  listen: a\n".toList))
          = .ok (.error "Environment variable 'VAR' is not set (and no default provided)") ∧
      ¬ ∀ (env : String → Option String) (line : List Char), CommentLine false line → Neutral false env line := by
  refine ⟨by decide +kernel, by rfl, fun h => ?_⟩
  obtain ⟨out, hout, _⟩ := (h (fun _ => none) _ variableComment_line).content [] rfl
  cases hout

end AiRouter
