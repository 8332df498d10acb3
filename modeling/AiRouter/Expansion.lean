import AiRouter.Lib.FirstInfix
import AiRouter.Watcher
import Mathlib.Data.List.Infix
import Mathlib.Data.List.TakeWhile

/-
# What `expand_env_vars` makes of a text (config/loader.rs:26-79)

A text is cut into literals and placeholders; `Template.value` is what they should come to. The scanner makes the
buffer of a default with its first character, so an empty default is none, and it takes the end of the input for the
end of a placeholder.
-/
namespace AiRouter

/-- `${NAME}`, or `${NAME:-default}` -/
structure Placeholder where
  name : List Char
  dflt : Option (List Char)
deriving DecidableEq, Repr

/-- Literals before a placeholder each, the last literal, and the placeholder that is never closed. -/
structure Template where
  parts : List (List Char × Placeholder)
  last : List Char
  unclosed : Option Placeholder
deriving DecidableEq, Repr

namespace Placeholder

/-- What stands between the braces. -/
def inner (p : Placeholder) : List Char := p.name ++ (p.dflt.map (':' :: '-' :: ·)).getD []

structure WellFormed (p : Placeholder) : Prop where
  name : '}' ∉ p.name ∧ ¬ [':', '-'] <:+: p.name
  dflt : ∀ d ∈ p.dflt, '}' ∉ d

/-- A blank name, or an unset variable without a default. -/
def Fails (env : String → Option String) (p : Placeholder) : Prop :=
  trim p.name = [] ∨ env (String.ofList (trim p.name)) = none ∧ p.dflt = none

/-- An unset variable with the empty default. -/
def Lost (env : String → Option String) (p : Placeholder) : Prop :=
  trim p.name ≠ [] ∧ env (String.ofList (trim p.name)) = none ∧ p.dflt = some []

/-- The variable's value, or the trimmed default. -/
def value (env : String → Option String) (p : Placeholder) : Option (List Char) :=
  if trim p.name = [] then none
  else ((env (String.ofList (trim p.name))).map String.toList).orElse fun _ => p.dflt.map trim

/-- The default that is in the scanner's buffer. -/
def buffer : Option (List Char) → Option (List Char)
  | some [] => none
  | dflt => dflt

/-- What the scanner puts in its place. -/
def scanned (env : String → Option String) (p : Placeholder) : Option (List Char) :=
  (substitute env p.name (buffer p.dflt)).toOption

theorem buffer_of_ne {d : List Char} (h : d ≠ []) : buffer (some d) = some d := by
  cases d with
  | nil => exact absurd rfl h
  | cons => rfl

theorem value_eq_none_iff {env : String → Option String} {p : Placeholder} : p.value env = none ↔ p.Fails env := by
  unfold value Fails
  by_cases hblank : trim p.name = []
  · simp [hblank]
  · cases env (String.ofList (trim p.name)) <;> simp [hblank]

theorem scanned_lost {env : String → Option String} {p : Placeholder} (h : p.Lost env) : p.scanned env = none := by
  obtain ⟨hname, hunset, hdflt⟩ := h
  simp [scanned, substitute, hname, hunset, hdflt, buffer, Except.toOption]

theorem scanned_eq_value {env : String → Option String} {p : Placeholder} (h : ¬ p.Lost env) :
    p.scanned env = p.value env := by
  unfold scanned value substitute
  by_cases hblank : trim p.name = []
  · simp [hblank, Except.toOption]
  · cases hset : env (String.ofList (trim p.name)) with
    | some val => simp [hblank, hset, Except.toOption]
    | none =>
      cases hdflt : p.dflt with
      | none => simp [hblank, hset, buffer, Except.toOption]
      | some d =>
        have hd : d ≠ [] := by
          rintro rfl
          exact h ⟨hblank, hset, hdflt⟩
        simp [hblank, hset, buffer_of_ne hd, Except.toOption]

end Placeholder

namespace Template

def partText (part : List Char × Placeholder) : List Char := part.1 ++ '$' :: '{' :: part.2.inner ++ ['}']

def text (t : Template) : List Char :=
  t.parts.flatMap partText ++ t.last ++ (t.unclosed.map fun p => '$' :: '{' :: p.inner).getD []

structure WellFormed (t : Template) : Prop where
  literals : ∀ part ∈ t.parts, ¬ ['$', '{'] <:+: part.1
  last : ¬ ['$', '{'] <:+: t.last
  placeholders : ∀ part ∈ t.parts, part.2.WellFormed
  unclosed : ∀ p ∈ t.unclosed, p.WellFormed

/-- The parts with `f` of the placeholders. -/
def join (f : Placeholder → Option (List Char)) : List (List Char × Placeholder) → Option (List Char)
  | [] => some []
  | (literal, p) :: parts => (f p).bind fun val => (join f parts).map (literal ++ val ++ ·)

/-- What the text should come to; `none` where it should fail. -/
def value (env : String → Option String) (t : Template) : Option (List Char) :=
  match t.unclosed with
  | some _ => none
  | none => (join (·.value env) t.parts).map (· ++ t.last)

/-- When the scanner does as it should: no empty default is lost, and no unclosed placeholder goes through, but for
texts that fail at another place. -/
def Agrees (env : String → Option String) (t : Template) : Prop :=
  match t.unclosed with
  | none => (∃ part ∈ t.parts, part.2.Fails env) ∨ ∀ part ∈ t.parts, ¬ part.2.Lost env
  | some p => (∃ part ∈ t.parts, part.2.Fails env ∨ part.2.Lost env) ∨ p.Fails env ∨ p.Lost env

theorem join_eq_none_iff {f : Placeholder → Option (List Char)} {parts : List (List Char × Placeholder)} :
    join f parts = none ↔ ∃ part ∈ parts, f part.2 = none := by
  induction parts with
  | nil => simp [join]
  | cons part parts ih =>
    obtain ⟨literal, p⟩ := part
    cases hp : f p with
    | none => simp [join, hp]
    | some val => simp [join, hp, ih]

theorem join_congr {f g : Placeholder → Option (List Char)} {parts : List (List Char × Placeholder)}
    (h : ∀ part ∈ parts, f part.2 = g part.2) : join f parts = join g parts := by
  induction parts with
  | nil => rfl
  | cons part parts ih =>
    obtain ⟨hpart, hrest⟩ := List.forall_mem_cons.1 h
    obtain ⟨literal, p⟩ := part
    rw [join, join, ih hrest, hpart]

/-- What stands between braces is a name, or a name and a default. -/
theorem exists_placeholder {inner : List Char} (h : '}' ∉ inner) :
    ∃ p : Placeholder, p.WellFormed ∧ p.inner = inner := by
  by_cases hdflt : [':', '-'] <:+: inner
  · obtain ⟨name, d, hfirst⟩ := FirstInfix.exists_first hdflt
    have hfirst := FirstInfix.eq_some_iff.1 hfirst
    rw [hfirst.split] at h
    refine ⟨⟨name, some d⟩, ⟨⟨fun hname => h (by simp [hname]), hfirst.not_infix (by simp)⟩, ?_⟩, ?_⟩
    · rintro d' hd
      obtain rfl := Option.mem_some.1 hd
      exact fun hd => h (by simp [hd])
    · rw [hfirst.split]
      simp [Placeholder.inner]
  · exact ⟨⟨inner, none⟩, ⟨⟨h, hdflt⟩, by simp⟩, by simp [Placeholder.inner]⟩

/-- **Every text** is cut so. -/
theorem exists_template (text : List Char) : ∃ t : Template, t.WellFormed ∧ t.text = text := by
  induction hlen : text.length using Nat.strongRecOn generalizing text with
  | _ n ih =>
    by_cases hopen : ['$', '{'] <:+: text
    · obtain ⟨literal, rest, hfirst⟩ := FirstInfix.exists_first hopen
      have hfirst := FirstInfix.eq_some_iff.1 hfirst
      have hliteral := hfirst.not_infix (by simp)
      by_cases hclose : '}' ∈ rest
      · obtain ⟨inner, later, rfl, hnone⟩ := List.eq_append_cons_of_mem hclose
        have hlater : later.length < n := by
          rw [← hlen, hfirst.split]
          simp only [List.length_append, List.length_cons]
          omega
        obtain ⟨t, ht, rfl⟩ := ih later.length hlater later rfl
        obtain ⟨p, hp, rfl⟩ := exists_placeholder hnone
        refine ⟨{ t with parts := (literal, p) :: t.parts }, ⟨?_, ht.last, ?_, ht.unclosed⟩, ?_⟩
        · exact List.forall_mem_cons.2 ⟨hliteral, ht.literals⟩
        · exact List.forall_mem_cons.2 ⟨hp, ht.placeholders⟩
        · rw [hfirst.split]
          simp [Template.text, partText]
      · obtain ⟨p, hp, hinner⟩ := exists_placeholder hclose
        refine ⟨⟨[], literal, some p⟩, ⟨by simp, hliteral, by simp, ?_⟩, ?_⟩
        · rintro q hq
          obtain rfl := Option.mem_some.1 hq
          exact hp
        · rw [hfirst.split]
          simp [Template.text, hinner]
    · exact ⟨⟨[], text, none⟩, ⟨by simp, hopen, by simp, by simp⟩, by simp [Template.text]⟩

end Template

/-! ## The scanner -/

open Placeholder (buffer buffer_of_ne)

section
variable (env : String → Option String)

theorem expand_char {c : Char} {cs : List Char} (h : c = '$' → cs.head? ≠ some '{') (result : List Char) :
    expandFrom env .text (c :: cs) result = expandFrom env .text cs (result ++ [c]) := by
  rw [expandFrom]
  rintro cs' rfl rfl
  exact h rfl rfl

/-- A literal comes out as it is. -/
theorem expand_literal {literal rest : List Char} (h : ¬ ['$', '{'] <:+: literal)
    (hrest : literal.getLast? = some '$' → rest.head? ≠ some '{') :
    ∀ result, expandFrom env .text (literal ++ rest) result = expandFrom env .text rest (result ++ literal) := by
  induction literal with
  | nil => simp
  | cons c literal ih =>
    intro result
    have htail : ¬ ['$', '{'] <:+: literal := fun hin => h (hin.trans (List.suffix_cons c literal).isInfix)
    have hnext : c = '$' → (literal ++ rest).head? ≠ some '{' := by
      rintro rfl
      cases literal with
      | nil => exact hrest rfl
      | cons d literal =>
        rintro hd
        obtain rfl : d = '{' := by simpa using hd
        exact h ⟨[], literal, rfl⟩
    have hlast : literal.getLast? = some '$' → rest.head? ≠ some '{' := by
      intro hlast
      cases literal with
      | nil => cases hlast
      | cons d literal => exact hrest (by rwa [List.getLast?_cons_cons])
    rw [List.cons_append, expand_char env hnext, ih htail hlast]
    simp

/-- Up to the end of the name. -/
theorem expand_name {name rest : List Char} (hclose : '}' ∉ name) (hdflt : ¬ [':', '-'] <:+: name)
    (hrest : rest.head? ≠ some '-') : ∀ (read result : List Char),
      expandFrom env (.var read none false) (name ++ rest) result
        = expandFrom env (.var (read ++ name) none false) rest result := by
  induction name with
  | nil => simp
  | cons c name ih =>
    intro read result
    have htail : ¬ [':', '-'] <:+: name := fun hin => hdflt (hin.trans (List.suffix_cons c name).isInfix)
    rw [List.mem_cons, not_or] at hclose
    have hnext : c = ':' → (name ++ rest).head? ≠ some '-' := by
      rintro rfl
      cases name with
      | nil => exact hrest
      | cons d name =>
        rintro hd
        obtain rfl : d = '-' := by simpa using hd
        exact hdflt ⟨[], name, rfl⟩
    have hstep : expandFrom env (.var read none false) (c :: (name ++ rest)) result
        = expandFrom env (.var (read ++ [c]) none false) (name ++ rest) result := by
      rw [expandFrom]
      · rintro rfl
        exact hclose.1 rfl
      · rintro cs' rfl heq
        exact hnext rfl (by rw [heq]; rfl)
    rw [List.cons_append, hstep, ih hclose.2 htail]
    simp

/-- Up to the end of the default: the buffer is made with the first character. -/
theorem expand_default {d rest : List Char} (hclose : '}' ∉ d) : ∀ (name result : List Char)
    (dflt : Option (List Char)), expandFrom env (.var name dflt true) (d ++ rest) result
      = expandFrom env (.var name (if d = [] then dflt else some (dflt.getD [] ++ d)) true) rest result := by
  induction d with
  | nil => simp
  | cons c d ih =>
    intro name result dflt
    rw [List.mem_cons, not_or] at hclose
    have hstep : expandFrom env (.var name dflt true) (c :: (d ++ rest)) result
        = expandFrom env (.var name (some (dflt.getD [] ++ [c])) true) (d ++ rest) result := by
      rw [expandFrom]
      rintro rfl
      exact hclose.1 rfl
    rw [List.cons_append, hstep, ih hclose.2]
    by_cases hd : d = []
    · simp [hd]
    · simp [hd]

/-- The scanner at the end of a placeholder. -/
theorem expand_inner {p : Placeholder} (h : p.WellFormed) {rest : List Char} (hrest : rest.head? ≠ some '-')
    (result : List Char) : ∃ inDefault, expandFrom env (.var [] none false) (p.inner ++ rest) result
      = expandFrom env (.var p.name (buffer p.dflt) inDefault) rest result := by
  unfold Placeholder.inner
  cases hdflt : p.dflt with
  | none =>
    refine ⟨false, ?_⟩
    rw [Option.map_none, Option.getD_none, List.append_nil, expand_name env h.name.1 h.name.2 hrest]
    rfl
  | some d =>
    refine ⟨true, ?_⟩
    rw [Option.map_some, Option.getD_some, List.append_assoc, expand_name env h.name.1 h.name.2 (by simp),
      List.cons_append, List.cons_append, expandFrom, expand_default env (h.dflt d hdflt)]
    by_cases hd : d = []
    · simp [hd, buffer]
    · simp [hd, buffer_of_ne hd]

theorem expand_close (name : List Char) (dflt : Option (List Char)) (inDefault : Bool) (rest result : List Char) :
    (expandFrom env (.var name dflt inDefault) ('}' :: rest) result).toOption
      = (substitute env name dflt).toOption.bind fun val => (expandFrom env .text rest (result ++ val)).toOption := by
  rw [expandFrom]
  cases substitute env name dflt <;> rfl

theorem expand_end (name : List Char) (dflt : Option (List Char)) (inDefault : Bool) (result : List Char) :
    (expandFrom env (.var name dflt inDefault) [] result).toOption
      = (substitute env name dflt).toOption.map (result ++ ·) := by
  rw [expandFrom]
  cases substitute env name dflt <;> rfl

/-- **One part**: its literal, then what the scanner has for its placeholder. -/
theorem expand_part {part : List Char × Placeholder} (hliteral : ¬ ['$', '{'] <:+: part.1) (hp : part.2.WellFormed)
    (rest result : List Char) : (expandFrom env .text (Template.partText part ++ rest) result).toOption
      = (part.2.scanned env).bind fun val => (expandFrom env .text rest (result ++ (part.1 ++ val))).toOption := by
  have htext : Template.partText part ++ rest = part.1 ++ '$' :: '{' :: (part.2.inner ++ '}' :: rest) := by
    simp [Template.partText]
  obtain ⟨inDefault, hinner⟩ := @expand_inner env part.2 hp ('}' :: rest) (by simp) (result ++ part.1)
  rw [htext, expand_literal env hliteral (by simp), expandFrom_open, hinner, expand_close]
  simp only [Placeholder.scanned, List.append_assoc]

theorem expand_parts {parts : List (List Char × Placeholder)} (hliterals : ∀ part ∈ parts, ¬ ['$', '{'] <:+: part.1)
    (hplaceholders : ∀ part ∈ parts, part.2.WellFormed) (rest : List Char) : ∀ result,
      (expandFrom env .text (parts.flatMap Template.partText ++ rest) result).toOption
        = (Template.join (·.scanned env) parts).bind fun val =>
          (expandFrom env .text rest (result ++ val)).toOption := by
  induction parts with
  | nil => simp [Template.join]
  | cons part parts ih =>
    intro result
    obtain ⟨hliteral, hliterals⟩ := List.forall_mem_cons.1 hliterals
    obtain ⟨hp, hplaceholders⟩ := List.forall_mem_cons.1 hplaceholders
    rw [List.flatMap_cons, List.append_assoc, expand_part env hliteral hp, Template.join]
    cases part.2.scanned env with
    | none => rfl
    | some val =>
      rw [Option.bind_some, Option.bind_some, ih hliterals hplaceholders, Option.bind_map]
      simp

theorem trim_append_space {ws : List Char} (h : ∀ c ∈ ws, isWhiteSpace c = true) (s : List Char) :
    trim (s ++ ws) = trim s := by
  have hdrop : ws.dropWhile isWhiteSpace = [] := List.dropWhile_eq_nil_iff.2 h
  have hdrop' : ws.reverse.dropWhile isWhiteSpace = [] :=
    List.dropWhile_eq_nil_iff.2 fun c hc => h c (List.mem_reverse.1 hc)
  unfold trim
  rw [List.dropWhile_append]
  split
  · rename_i hempty
    rw [hdrop, List.isEmpty_iff.1 hempty]
  · rw [List.reverse_append, List.dropWhile_append, hdrop']
    rfl

theorem substitute_space {ws : List Char} (h : ∀ c ∈ ws, isWhiteSpace c = true) (name : List Char)
    (dflt : Option (List Char)) : substitute env (name ++ ws) dflt = substitute env name dflt := by
  unfold substitute
  rw [trim_append_space h]

theorem substitute_default_space {ws : List Char} (h : ∀ c ∈ ws, isWhiteSpace c = true) (name d : List Char) :
    substitute env name (some (d ++ ws)) = substitute env name (some d) := by
  unfold substitute
  dsimp only
  rw [trim_append_space h]

/-- An unclosed placeholder that is closed after more white space has the value that it has without. -/
theorem expand_closed_late {t : Template} {p : Placeholder} (h : t.WellFormed) (hp : t.unclosed = some p)
    (ws : List Char) (hne : ws ≠ []) (hspace : ∀ c ∈ ws, isWhiteSpace c = true) :
    (expandFrom env .text (t.text ++ (ws ++ ['}'])) []).toOption
      = (Template.join (·.scanned env) t.parts).bind fun val =>
        (substitute env p.name p.dflt).toOption.map (val ++ t.last ++ ·) := by
  have hclose : '}' ∉ ws := fun hc => absurd (hspace _ hc) (by decide)
  have hdflt : ¬ [':', '-'] <:+: ws := fun hc => absurd (hspace ':' (hc.mem (by simp))) (by decide)
  have hfirst : (ws ++ ['}']).head? ≠ some '-' := by
    intro heq
    rw [List.head?_append_of_ne_nil _ hne] at heq
    exact absurd (hspace _ (List.mem_of_head? heq)) (by decide)
  have hwf := h.unclosed p hp
  have htext : t.text ++ (ws ++ ['}'])
      = t.parts.flatMap Template.partText ++ (t.last ++ '$' :: '{' :: (p.inner ++ (ws ++ ['}']))) := by
    simp [Template.text, hp]
  rw [htext, expand_parts env h.literals h.placeholders]
  congr 1
  funext val
  rw [List.nil_append, expand_literal env h.last (by simp), expandFrom_open, Option.map_eq_bind]
  unfold Placeholder.inner
  cases hd : p.dflt with
  | none =>
    rw [Option.map_none, Option.getD_none, List.append_nil, expand_name env hwf.name.1 hwf.name.2 hfirst,
      expand_name env hclose hdflt (by simp), expand_close, List.nil_append, substitute_space env hspace]
    rfl
  | some d =>
    rw [Option.map_some, Option.getD_some, List.append_assoc, expand_name env hwf.name.1 hwf.name.2 (by simp),
      List.cons_append, List.cons_append, expandFrom, expand_default env (hwf.dflt d hd), expand_default env hclose,
      if_neg hne, expand_close]
    have hbuffer : (if d = [] then none else some ((none : Option (List Char)).getD [] ++ d)).getD [] = d := by
      by_cases hd' : d = []
      · simp [hd']
      · simp [hd']
    rw [hbuffer, List.nil_append, substitute_default_space env hspace]
    rfl

/-- **What the scanner makes of a text.** -/
theorem expand_text {t : Template} (h : t.WellFormed) :
    (expandFrom env .text t.text []).toOption = (Template.join (·.scanned env) t.parts).bind fun val =>
      match t.unclosed with
      | none => some (val ++ t.last)
      | some p => (p.scanned env).map (val ++ t.last ++ ·) := by
  unfold Template.text
  rw [List.append_assoc, expand_parts env h.literals h.placeholders]
  congr 1
  funext val
  rw [List.nil_append, expand_literal env h.last fun _ => by cases t.unclosed <;> simp]
  cases hunclosed : t.unclosed with
  | none => simp [expandFrom, Except.toOption]
  | some p =>
    obtain ⟨inDefault, hinner⟩ := @expand_inner env p (h.unclosed p hunclosed) [] (by simp) (val ++ t.last)
    rw [List.append_nil] at hinner
    rw [Option.map_some, Option.getD_some, expandFrom_open, hinner, expand_end]
    rfl

end

theorem Template.value_eq_none_iff {env : String → Option String} {t : Template} :
    t.value env = none ↔ t.unclosed.isSome ∨ ∃ part ∈ t.parts, part.2.Fails env := by
  unfold Template.value
  cases t.unclosed with
  | none => simp [join_eq_none_iff, Placeholder.value_eq_none_iff]
  | some p => simp

theorem scanned_eq_none_iff {env : String → Option String} {p : Placeholder} :
    p.scanned env = none ↔ p.Fails env ∨ p.Lost env := by
  by_cases hlost : p.Lost env
  · simp [Placeholder.scanned_lost hlost, hlost]
  · simp [Placeholder.scanned_eq_value hlost, hlost, Placeholder.value_eq_none_iff]

/-- **`expand_env_vars`** makes of a text what it should, or fails where it should, exactly under `Agrees`. -/
theorem expand_env_vars_iff {env : String → Option String} {t : Template} (h : t.WellFormed) :
    (expandEnvVars env (String.ofList t.text)).toOption = (t.value env).map String.ofList ↔ t.Agrees env := by
  have hmap : (expandEnvVars env (String.ofList t.text)).toOption
      = (expandFrom env .text t.text []).toOption.map String.ofList := by
    unfold expandEnvVars
    rw [String.toList_ofList]
    cases expandFrom env .text t.text [] <;> rfl
  rw [hmap, (Option.map_injective fun _ _ => String.ofList_injective).eq_iff, expand_text env h]
  unfold Template.value Template.Agrees
  cases t.unclosed with
  | some p =>
    -- an unclosed placeholder should fail
    simp only [Option.bind_eq_none_iff, Option.map_eq_none_iff, scanned_eq_none_iff]
    constructor
    · intro hnone
      cases hjoin : Template.join (·.scanned env) t.parts with
      | none =>
        obtain ⟨part, hpart, hfails⟩ := Template.join_eq_none_iff.1 hjoin
        exact Or.inl ⟨part, hpart, scanned_eq_none_iff.1 hfails⟩
      | some val => exact Or.inr (hnone val hjoin)
    · rintro (⟨part, hpart, hfails⟩ | hfails) val hval
      · rw [Template.join_eq_none_iff.2 ⟨part, hpart, scanned_eq_none_iff.2 hfails⟩] at hval
        cases hval
      · exact hfails
  | none =>
    have hbind : ((Template.join (·.scanned env) t.parts).bind fun val => some (val ++ t.last))
        = (Template.join (·.scanned env) t.parts).map (· ++ t.last) := Option.map_eq_bind.symm
    dsimp only
    rw [hbind, (Option.map_injective fun _ _ => List.append_cancel_right).eq_iff]
    constructor
    · intro heq
      by_cases hfails : ∃ part ∈ t.parts, part.2.Fails env
      · exact Or.inl hfails
      · refine Or.inr fun part hpart hlost => ?_
        rw [Template.join_eq_none_iff.2 ⟨part, hpart, Placeholder.scanned_lost hlost⟩, eq_comm,
          Template.join_eq_none_iff] at heq
        obtain ⟨other, hother, hnone⟩ := heq
        exact hfails ⟨other, hother, Placeholder.value_eq_none_iff.1 hnone⟩
    · rintro (⟨part, hpart, hfails⟩ | hkept)
      · rw [Template.join_eq_none_iff.2 ⟨part, hpart, scanned_eq_none_iff.2 (Or.inl hfails)⟩,
          Template.join_eq_none_iff.2 ⟨part, hpart, Placeholder.value_eq_none_iff.2 hfails⟩]
      · exact Template.join_congr fun part hpart => Placeholder.scanned_eq_value (hkept part hpart)

/-! An unset variable with the empty default, and a placeholder that is not closed. -/

def emptyDefault : Template where
  parts := [([], { name := "UNDEFINED_VAR".toList, dflt := some [] })]
  last := []
  unclosed := none

def unclosedName : Template where
  parts := []
  last := "key: ".toList
  unclosed := some { name := "API_TOKEN".toList, dflt := none }

def apiToken (name : String) : Option String := if name = "API_TOKEN" then some "sk-1" else none

theorem emptyDefault_wellFormed : emptyDefault.WellFormed := by
  constructor
  · simp [emptyDefault]
  · simp [emptyDefault]
  · rintro part hpart
    obtain rfl := List.mem_singleton.1 hpart
    exact ⟨⟨by decide, by decide⟩, fun d hd => by cases hd; simp⟩
  · simp [emptyDefault]

theorem empty_default_lost :
    emptyDefault.text = "$\x7bUNDEFINED_VAR:-\x7d".toList ∧ emptyDefault.value (fun _ => none) = some [] ∧
      expandEnvVars (fun _ => none) "$\x7bUNDEFINED_VAR:-\x7d"
        = .error "Environment variable 'UNDEFINED_VAR' is not set (and no default provided)" ∧
      unclosedName.value apiToken = none ∧ expandEnvVars apiToken "key: $\x7bAPI_TOKEN" = .ok "key: sk-1" ∧
      ¬ ∀ (env : String → Option String) (t : Template), t.WellFormed →
        (expandEnvVars env (String.ofList t.text)).toOption = (t.value env).map String.ofList := by
  refine ⟨rfl, rfl, rfl, rfl, rfl, fun h => ?_⟩
  have heq := h (fun _ => none) emptyDefault emptyDefault_wellFormed
  cases heq

/-- Set, the variable does not need the default. -/
theorem empty_default_set :
    (expandEnvVars (fun _ => some "sk-1") (String.ofList emptyDefault.text)).toOption = some "sk-1" :=
  (expand_env_vars_iff emptyDefault_wellFormed).2 (Or.inr fun part hpart hlost => by
    obtain rfl := List.mem_singleton.1 hpart
    cases hlost.2.1)

end AiRouter
