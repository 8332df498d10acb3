import AiRouter.Lib.Trim

/-
# The base path

| here | there |
| --- | --- |
| `trimSlashes`    | `trim_start_matches('/').trim_end_matches('/')` |
| `mountPrefix`    | `bp` of `main` (main.rs:210-216) |
| `stripBasePath`  | `strip_base_path` (handler.rs:114) |
-/
namespace AiRouter

def trimSlashes (s : String) : String := String.ofList (Trim.ends (· == '/') s.toList)

/-- What `main` puts before every route. -/
def mountPrefix (basePath : String) : String :=
  if basePath = "" then "" else "/" ++ trimSlashes basePath

/-- `path.strip_prefix(start).unwrap_or(path)` -/
def stripStart (path start : String) : String := ((path.toList.dropPrefix? start.toList).map String.ofList).getD path

def stripBasePath (path basePath : String) : String :=
  let bp := trimSlashes basePath
  if bp = "" then path else stripStart path ("/" ++ bp)

/-- The path goes on after `start` with something that is no end of a segment. -/
def GoesOn (start path : String) : Prop :=
  ∃ c rest, path.toList = start.toList ++ c :: rest ∧ c ≠ '/' ∧ c ≠ '?'

/-- The path is `start`, or goes on with a segment or a query. -/
def AtBoundary (start path : String) : Prop :=
  ∃ rest, path.toList = start.toList ++ rest ∧ (rest = [] ∨ ∃ c tail, rest = c :: tail ∧ (c = '/' ∨ c = '?'))

/-- `main` and `strip_base_path` agree on a route suffix, and on any other path. -/
structure PrefixesAgree (basePath suffix path : String) : Prop where
  stripped : stripBasePath (mountPrefix basePath ++ suffix) basePath = suffix
  bare : trimSlashes basePath = "" → mountPrefix basePath ++ suffix = suffix
  unchanged : ¬ AtBoundary (mountPrefix basePath) path → stripBasePath path basePath = path

section
variable {path start : String}

theorem stripStart_append (rest : String) : stripStart (start ++ rest) start = rest := by
  have hdrop : (start.toList ++ rest.toList).dropPrefix? start.toList = some rest.toList :=
    List.dropPrefix?_eq_some_iff.2 ⟨start.toList, rfl, beq_self_eq_true _⟩
  unfold stripStart
  rw [String.toList_append, hdrop]
  exact String.ofList_toList

/-- A path without the prefix is left as it is. -/
theorem stripStart_of_not (h : ¬ start.toList <+: path.toList) : stripStart path start = path := by
  unfold stripStart
  cases hdrop : path.toList.dropPrefix? start.toList with
  | none => rfl
  | some rest =>
    obtain ⟨p, hp, heq⟩ := List.dropPrefix?_eq_some_iff.1 hdrop
    obtain rfl := eq_of_beq heq
    exact absurd ⟨rest, hp.symm⟩ h

/-- A path with it is not. -/
theorem stripStart_ne {rest : List Char} (hne : start ≠ "") (h : path.toList = start.toList ++ rest) :
    stripStart path start ≠ path := by
  have hpath : path = start ++ String.ofList rest := by
    rw [← String.ofList_toList (s := path), h, String.ofList_append, String.ofList_toList]
  intro heq
  rw [hpath, stripStart_append] at heq
  have hlen := congrArg (fun s : String => s.toList.length) heq
  simp only [String.toList_append, List.length_append] at hlen
  have hzero : start.toList = [] := List.length_eq_zero_iff.1 (by omega)
  exact hne (String.toList_eq_nil_iff.1 hzero)

/-- Not at a boundary: either without the prefix, or the path goes on in the segment. -/
theorem not_atBoundary_iff : ¬ AtBoundary start path ↔ ¬ start.toList <+: path.toList ∨ GoesOn start path := by
  constructor
  · intro h
    by_cases hprefix : start.toList <+: path.toList
    · obtain ⟨rest, hrest⟩ := hprefix
      cases rest with
      | nil => exact absurd ⟨[], hrest.symm, Or.inl rfl⟩ h
      | cons c rest =>
        refine Or.inr ⟨c, rest, hrest.symm, fun hc => ?_, fun hc => ?_⟩
        · exact h ⟨c :: rest, hrest.symm, Or.inr ⟨c, rest, rfl, Or.inl hc⟩⟩
        · exact h ⟨c :: rest, hrest.symm, Or.inr ⟨c, rest, rfl, Or.inr hc⟩⟩
    · exact Or.inl hprefix
  · rintro h ⟨rest, hrest, hend⟩
    rcases h with hprefix | ⟨c, tail, htail, hslash, hquery⟩
    · exact hprefix ⟨rest, hrest.symm⟩
    · obtain rfl := List.append_cancel_left (hrest.symm.trans htail)
      rcases hend with hnil | ⟨c', tail', heq, hc⟩
      · cases hnil
      · obtain ⟨rfl, rfl⟩ := List.cons.inj heq
        exact hc.elim hslash hquery

end

section
variable {basePath : String}

/-- An empty base path is mounted at the root and never stripped. -/
theorem prefixesAgree_empty (suffix path : String) : PrefixesAgree "" suffix path := by
  have hmount : mountPrefix "" = "" := if_pos rfl
  have hkept : ∀ path, stripBasePath path "" = path := by
    intro path
    unfold stripBasePath
    exact if_pos rfl
  refine ⟨?_, fun _ => ?_, fun _ => hkept path⟩
  · rw [hmount, String.empty_append, hkept]
  · rw [hmount, String.empty_append]

/-- Of slashes alone `main` makes a slash of its own. -/
theorem not_prefixesAgree_slashes (hempty : basePath ≠ "") (htrimmed : trimSlashes basePath = "")
    (suffix path : String) : ¬ PrefixesAgree basePath suffix path := by
  have hmount : mountPrefix basePath = "/" := by
    unfold mountPrefix
    rw [if_neg hempty, htrimmed]
    rfl
  intro h
  have hlen := congrArg (fun s : String => s.toList.length) (h.bare htrimmed)
  rw [hmount] at hlen
  simp at hlen

/-- With more than slashes both have the same prefix. -/
theorem prefixesAgree_trimmed (htrimmed : trimSlashes basePath ≠ "") (suffix path : String) :
    PrefixesAgree basePath suffix path ↔ ¬ GoesOn (mountPrefix basePath) path := by
  have hempty : basePath ≠ "" := by
    rintro rfl
    exact htrimmed rfl
  have hmount : mountPrefix basePath = "/" ++ trimSlashes basePath := if_neg hempty
  have hstrip : ∀ path, stripBasePath path basePath = stripStart path (mountPrefix basePath) := by
    intro path
    rw [hmount]
    exact if_neg htrimmed
  have hmounted : mountPrefix basePath ≠ "" := by
    rw [hmount]
    exact fun h => by simpa using congrArg String.toList h
  constructor
  · intro h hon
    have hsame := h.unchanged (not_atBoundary_iff.2 (Or.inr hon))
    obtain ⟨c, rest, hrest, _⟩ := hon
    rw [hstrip] at hsame
    exact stripStart_ne hmounted hrest hsame
  · intro hon
    refine ⟨?_, fun h => absurd h htrimmed, fun h => ?_⟩
    · rw [hstrip]
      exact stripStart_append suffix
    · rw [hstrip]
      exact stripStart_of_not ((not_atBoundary_iff.1 h).resolve_right hon)

end

/-- **The two functions agree exactly if** the base path is empty or more than slashes, and the other path does not
go on in the segment after a prefix that is mounted. -/
theorem prefixes_agree_iff (basePath suffix path : String) :
    PrefixesAgree basePath suffix path ↔
      (basePath = "" ∨ trimSlashes basePath ≠ "") ∧
        ¬ (trimSlashes basePath ≠ "" ∧ GoesOn (mountPrefix basePath) path) := by
  by_cases htrimmed : trimSlashes basePath = ""
  · by_cases hempty : basePath = ""
    · subst hempty
      exact iff_of_true (prefixesAgree_empty suffix path) ⟨Or.inl rfl, fun h => h.1 htrimmed⟩
    · exact iff_of_false (not_prefixesAgree_slashes hempty htrimmed suffix path)
        (fun h => h.1.elim hempty fun hne => hne htrimmed)
  · rw [prefixesAgree_trimmed htrimmed]
    constructor
    · exact fun hon => ⟨Or.inr htrimmed, fun h => hon h.2⟩
    · exact fun h hon => h.2 ⟨htrimmed, hon⟩

/-- With `/` everything is mounted under `//`, and under `/api` the path `/apifoo` loses its start. -/
theorem prefixes_disagree :
    mountPrefix "/" ++ "/v1/models" = "//v1/models" ∧ stripBasePath "//v1/models" "/" = "//v1/models" ∧
      ¬ PrefixesAgree "/" "/v1/models" "/" ∧
      stripBasePath "/apifoo" "api" = "foo" ∧ ¬ AtBoundary (mountPrefix "api") "/apifoo" ∧
      ¬ PrefixesAgree "api" "/v1/models" "/apifoo" := by
  have hgo : GoesOn (mountPrefix "api") "/apifoo" := ⟨'f', "oo".toList, by decide, by decide, by decide⟩
  refine ⟨by decide, by decide, fun h => ?_, by decide, not_atBoundary_iff.2 (Or.inr hgo), fun h => ?_⟩
  · exact absurd (h.bare (by decide)) (by decide)
  · exact absurd (h.unchanged (not_atBoundary_iff.2 (Or.inr hgo))) (by decide)

end AiRouter
