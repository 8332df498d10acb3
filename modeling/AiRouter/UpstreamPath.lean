import AiRouter.BasePath
import AiRouter.Lib.DotSegments

/-
# The path that is requested upstream

| here | there |
| --- | --- |
| `upstreamUrl`    | handler.rs:1243 |
| `afterAuthority`, `pathSegments`, `UrlLibrary` | the parser of `http` and `https` URLs, which is not the router's code |
-/
namespace AiRouter

open DotSegments

/-- `url.trim_end_matches('/')` -/
def trimEndSlashes (url : String) : String := String.ofList (url.toList.rdropWhile (· == '/'))

def upstreamUrl (url reqPath : String) : String := trimEndSlashes url ++ reqPath

/-! ## Parsing the URL -/

/-- A backslash counts as a slash. -/
def isSlash (c : Char) : Bool := c == '/' || c == '\\'

/-- A query or a fragment starts. -/
def endsPath (c : Char) : Bool := c == '?' || c == '#'

/-- What comes after the scheme, any number of slashes and the host. -/
def afterAuthority (url : List Char) : List Char :=
  (((url.dropWhile (· != ':')).drop 1).dropWhile isSlash).dropWhile fun c => !(isSlash c || endsPath c)

def pathPart (s : List Char) : List Char := s.takeWhile fun c => !endsPath c

/-- `.` and `..`, where a dot may be written `%2e`. -/
def segmentKind (segment : List Char) : Kind :=
  let s := segment.map Char.toLower
  if s ∈ [".".toList, "%2e".toList] then .here
  else if s ∈ ["..".toList, ".%2e".toList, "%2e.".toList, "%2e%2e".toList] then .up
  else .name

def splitSlashes (s : List Char) : List (List Char) := s.splitOnP isSlash

/-- The segments of a path, with the dot segments resolved. -/
def pathSegments (s : List Char) : List (List Char) :=
  match pathPart s with
  | [] => [[]]
  | _ :: path => resolve segmentKind [] [] (splitSlashes path)

/-- The segments of a base path. Another segment follows each of them. -/
def baseSegments (s : List Char) : List (List Char) :=
  match pathPart s with
  | [] => []
  | _ :: path => (splitSlashes path).foldl (push segmentKind) []

/-- How the characters of a segment are written. -/
structure UrlLibrary where
  encode : List Char → List Char
  encode_v1 : encode "v1".toList = "v1".toList
  encode_slash : ∀ segment, '/' ∉ segment → '/' ∉ encode segment

namespace UrlLibrary

def write (lib : UrlLibrary) (segments : List (List Char)) : List Char := (segments.map lib.encode).flatMap ('/' :: ·)

/-- The path of a URL. -/
def path (lib : UrlLibrary) (url : String) : List Char := lib.write (pathSegments (afterAuthority url.toList))

/-- The path of a base URL, without the slashes at its end. -/
def basePath (lib : UrlLibrary) (url : String) : List Char :=
  lib.write (baseSegments (afterAuthority (trimEndSlashes url).toList))

end UrlLibrary

/-- A URL with a host. -/
structure BaseUrl where
  scheme : List Char
  slashes : List Char
  authority : List Char
  rest : List Char
  scheme_plain : ':' ∉ scheme
  slashes_only : ∀ c ∈ slashes, isSlash c = true
  authority_nonempty : authority ≠ []
  authority_plain : ∀ c ∈ authority, (isSlash c || endsPath c) = false
  rest_start : ∀ c ∈ rest.head?, (isSlash c || endsPath c) = true

namespace BaseUrl

def text (b : BaseUrl) : String := String.ofList (b.scheme ++ ':' :: (b.slashes ++ (b.authority ++ b.rest)))

/-- What is left of the part after the host when the slashes at the end are trimmed. -/
def trimmed (b : BaseUrl) : List Char := b.rest.rdropWhile (· == '/')

end BaseUrl

/-- The path requested upstream starts with the base path of the endpoint and `/v1/`. -/
def Confined (lib : UrlLibrary) (b : BaseUrl) (basePath target : String) : Prop :=
  lib.basePath b.text ++ "/v1/".toList <+: lib.path (upstreamUrl b.text (stripBasePath target basePath))

/-- The segments of a path after `/v1/`. -/
def segmentsAfterV1 (reqPath : String) : List (List Char) := splitSlashes (pathPart (reqPath.toList.drop 4))

/-- Where the segments after `/v1/` lead: they may climb above it if they come back by the same names and go on. -/
def StaysBelow (lib : UrlLibrary) (base : List (List Char)) (segments : List (List Char)) : Prop :=
  let stack := base ++ ["v1".toList]
  let r := route segmentKind [] segments
  ∃ more, more ≠ [] ∧ r.names.map lib.encode = (stack.drop (stack.length - r.ups)).map lib.encode ++ more

/-! ## Taking the URL apart -/

section
variable (b : BaseUrl)

theorem rdropWhile_append_of_last (p : Char → Bool) {l : List Char} {c : Char} (hc : p c = false) (l' : List Char) :
    (l ++ [c] ++ l').rdropWhile p = l ++ [c] ++ l'.rdropWhile p := by
  unfold List.rdropWhile
  rw [List.reverse_append, List.dropWhile_append]
  split
  · rename_i hnil
    rw [List.isEmpty_iff.1 hnil, List.reverse_append, List.reverse_singleton, List.singleton_append,
      List.dropWhile_cons_of_neg (by simp [hc])]
    simp
  · simp

theorem BaseUrl.trimmed_text :
    (trimEndSlashes b.text).toList = b.scheme ++ ':' :: (b.slashes ++ (b.authority ++ b.trimmed)) := by
  obtain ⟨init, c, hauthority⟩ := (List.eq_nil_or_concat b.authority).resolve_left b.authority_nonempty
  rw [List.concat_eq_append] at hauthority
  have hc : (c == '/') = false := by
    have hplain := b.authority_plain c (by rw [hauthority]; simp)
    simp only [isSlash, endsPath, Bool.or_eq_false_iff] at hplain
    exact hplain.1.1
  have htext : b.scheme ++ ':' :: (b.slashes ++ (b.authority ++ b.rest))
      = b.scheme ++ ':' :: (b.slashes ++ init) ++ [c] ++ b.rest := by
    rw [hauthority]
    simp
  unfold trimEndSlashes BaseUrl.text BaseUrl.trimmed
  rw [String.toList_ofList, String.toList_ofList, htext, rdropWhile_append_of_last (· == '/') hc, hauthority]
  simp

theorem BaseUrl.trimmed_start {l : List Char} (hl : ∀ c ∈ l.head?, (isSlash c || endsPath c) = true) :
    ∀ c ∈ (b.trimmed ++ l).head?, (isSlash c || endsPath c) = true := by
  have hprefix : b.trimmed <+: b.rest := List.rdropWhile_prefix _ _
  cases htrimmed : b.trimmed with
  | nil => exact hl
  | cons c tail =>
    rw [htrimmed] at hprefix
    obtain ⟨more, hmore⟩ := hprefix
    rintro c ⟨⟩
    exact b.rest_start c (by rw [← hmore]; rfl)

theorem BaseUrl.afterAuthority_append {tail : List Char} (h : ∀ c ∈ tail.head?, (isSlash c || endsPath c) = true) :
    afterAuthority (b.scheme ++ ':' :: (b.slashes ++ (b.authority ++ tail))) = tail := by
  have hscheme : ∀ c ∈ b.scheme, (c != ':') = true := fun c hc => by
    simpa using fun heq : c = ':' => b.scheme_plain (heq ▸ hc)
  have hauthority : ∀ c ∈ b.authority, (!(isSlash c || endsPath c)) = true := fun c hc => by
    rw [b.authority_plain c hc]
    rfl
  obtain ⟨a, authority, ha⟩ := List.exists_cons_of_ne_nil b.authority_nonempty
  have hfirst : isSlash a = false := by
    have hplain := b.authority_plain a (by rw [ha]; simp)
    exact (Bool.or_eq_false_iff.1 hplain).1
  have hslashes : (b.slashes ++ (b.authority ++ tail)).dropWhile isSlash = b.authority ++ tail := by
    rw [List.dropWhile_append_of_pos b.slashes_only, ha, List.cons_append, List.dropWhile_cons_of_neg (by simp [hfirst])]
  unfold afterAuthority
  rw [List.dropWhile_append_of_pos hscheme, List.dropWhile_cons_of_neg (by simp), List.drop_one, List.tail_cons,
    hslashes, List.dropWhile_append_of_pos hauthority]
  cases tail with
  | nil => rfl
  | cons c tail => exact List.dropWhile_cons_of_neg (by simp [h c rfl])

/-- The base path is that of the trimmed rest, and the requested path that of the rest and the target. -/
theorem BaseUrl.parsed {reqPath : String} {t : List Char} (hpath : reqPath.toList = '/' :: t) :
    afterAuthority (trimEndSlashes b.text).toList = b.trimmed ∧
      afterAuthority (upstreamUrl b.text reqPath).toList = b.trimmed ++ '/' :: t := by
  have hbase := b.trimmed_start (l := []) fun c hc => by cases hc
  have htarget := b.trimmed_start (l := '/' :: t) fun c hc => by cases hc; rfl
  rw [List.append_nil] at hbase
  have happend : b.scheme ++ ':' :: (b.slashes ++ (b.authority ++ b.trimmed)) ++ '/' :: t
      = b.scheme ++ ':' :: (b.slashes ++ (b.authority ++ (b.trimmed ++ '/' :: t))) := by simp
  unfold upstreamUrl
  rw [String.toList_append, b.trimmed_text, hpath, happend]
  exact ⟨b.afterAuthority_append hbase, b.afterAuthority_append htarget⟩

end

/-! ## Confinement -/

section
variable {s t : List Char}

theorem splitSlashes_noSlash {segment : List Char} (h : segment ∈ splitSlashes s) : '/' ∉ segment := by
  unfold splitSlashes at h
  induction s generalizing segment with
  | nil =>
    rw [List.splitOnP_nil, List.mem_singleton] at h
    rw [h]
    exact List.not_mem_nil
  | cons c s ih =>
    obtain ⟨first, rest, hsplit⟩ := List.exists_cons_of_ne_nil (List.splitOnP_ne_nil isSlash s)
    rw [List.splitOnP_cons_eq_if_modifyHead] at h
    split at h
    · rcases List.mem_cons.1 h with rfl | hmem
      · exact List.not_mem_nil
      · exact ih hmem
    · rename_i hc
      rw [hsplit, List.modifyHead_cons] at h
      rcases List.mem_cons.1 h with rfl | hmem
      · intro hslash
        rcases List.mem_cons.1 hslash with rfl | hin
        · exact hc rfl
        · exact ih (hsplit ▸ List.mem_cons_self) hin
      · exact ih (hsplit ▸ List.mem_cons_of_mem first hmem)

theorem pathSegments_noSlash {segment : List Char} (h : segment ∈ pathSegments s) : '/' ∉ segment := by
  unfold pathSegments at h
  split at h
  · rw [List.mem_singleton.1 h]
    exact List.not_mem_nil
  · rcases mem_resolve segmentKind [] h with hstack | hsegment | rfl
    · cases hstack
    · exact splitSlashes_noSlash hsegment
    · exact List.not_mem_nil

theorem baseSegments_noSlash {segment : List Char} (h : segment ∈ baseSegments s) : '/' ∉ segment := by
  unfold baseSegments at h
  split at h
  · cases h
  · rcases mem_foldl_push segmentKind h with hstack | hsegment
    · cases hstack
    · exact splitSlashes_noSlash hsegment

/-- Without a query or fragment the target continues the path of the base URL. -/
theorem pathSegments_append (h : ∀ c ∈ s, endsPath c = false) :
    pathSegments (s ++ '/' :: ("v1".toList ++ '/' :: t))
      = resolve segmentKind [] (baseSegments s ++ ["v1".toList]) (splitSlashes (pathPart t)) := by
  have hopen : ∀ c ∈ s, (!endsPath c) = true := fun c hc => by
    rw [h c hc]
    rfl
  have hpart : pathPart (s ++ '/' :: ("v1".toList ++ '/' :: t)) = s ++ '/' :: ("v1".toList ++ '/' :: pathPart t) := by
    unfold pathPart
    rw [List.takeWhile_append_of_pos hopen]
    rfl
  have hself : pathPart s = s := List.takeWhile_eq_self_iff.2 hopen
  have hne : splitSlashes (pathPart t) ≠ [] := List.splitOnP_ne_nil isSlash (pathPart t)
  have hv1 : splitSlashes ("v1".toList ++ '/' :: pathPart t) = ["v1".toList] ++ splitSlashes (pathPart t) :=
    List.splitOnP_append_cons_of_forall_mem (by simp [isSlash]) '/' rfl _
  unfold pathSegments baseSegments
  rw [hpart, hself]
  cases s with
  | nil =>
    show resolve segmentKind [] [] (splitSlashes ("v1".toList ++ '/' :: pathPart t)) = _
    rw [hv1, resolve_append segmentKind [] hne]
    rfl
  | cons d path =>
    have hsplit : splitSlashes (path ++ '/' :: ("v1".toList ++ '/' :: pathPart t))
        = (splitSlashes path ++ ["v1".toList]) ++ splitSlashes (pathPart t) := by
      rw [List.append_assoc, ← hv1]
      exact List.splitOnP_append_cons path _ rfl
    show resolve segmentKind [] [] (splitSlashes (path ++ '/' :: ("v1".toList ++ '/' :: pathPart t))) = _
    rw [hsplit, resolve_append segmentKind [] hne, List.foldl_append]
    rfl

/-- With a query or fragment in the base URL the target is no part of the path. -/
theorem pathSegments_of_query {c : Char} (hc : c ∈ s) (hends : endsPath c = true) :
    (pathSegments (s ++ t)).length ≤ (baseSegments s).length + 1 := by
  have hpart : pathPart (s ++ t) = pathPart s := by
    unfold pathPart
    rw [List.takeWhile_append, if_neg fun hlen => ?_]
    have hself := List.takeWhile_eq_self_iff.1
      ((List.takeWhile_prefix (fun c => !endsPath c)).eq_of_length hlen) c hc
    rw [hends] at hself
    cases hself
  unfold pathSegments baseSegments
  rw [hpart]
  split
  · exact Nat.le_refl 1
  · exact resolve_length_le segmentKind [] _ []

end

section
variable (b : BaseUrl)

/-- Trimming the slashes at the end takes no query or fragment off. -/
theorem BaseUrl.trimmed_open_iff :
    (∀ c ∈ b.trimmed, endsPath c = false) ↔ ∀ c ∈ b.rest, endsPath c = false := by
  have hsplit : b.trimmed ++ b.rest.rtakeWhile (· == '/') = b.rest := List.rdropWhile_append_rtakeWhile
  constructor
  · intro h c hc
    rw [← hsplit] at hc
    rcases List.mem_append.1 hc with hin | hslash
    · exact h c hin
    · have hall := List.mem_rtakeWhile_imp hslash
      rw [beq_iff_eq.1 hall]
      rfl
  · exact fun h c hc => h c ((List.rdropWhile_prefix _ _).subset hc)

/-- Confinement, read on the segments of the two URLs. -/
theorem confined_iff_segments (lib : UrlLibrary) {basePath target : String} {t : List Char}
    (hreq : (stripBasePath target basePath).toList = '/' :: ("v1".toList ++ '/' :: t)) :
    Confined lib b basePath target ↔ ∃ more, more ≠ [] ∧
      (pathSegments (b.trimmed ++ '/' :: ("v1".toList ++ '/' :: t))).map lib.encode
        = (baseSegments b.trimmed ++ ["v1".toList]).map lib.encode ++ more := by
  obtain ⟨hbase, hurl⟩ := b.parsed hreq
  have hnoSlash : ∀ (segments : List (List Char)), (∀ x ∈ segments, '/' ∉ x) →
      ∀ x ∈ segments.map lib.encode, '/' ∉ x := by
    intro segments h x hx
    obtain ⟨segment, hsegment, rfl⟩ := List.mem_map.1 hx
    exact lib.encode_slash segment (h segment hsegment)
  rw [← text_prefix_iff (hnoSlash _ fun x hx => ?_) (hnoSlash _ fun x hx => pathSegments_noSlash hx)]
  · unfold Confined UrlLibrary.basePath UrlLibrary.path UrlLibrary.write
    rw [hbase, hurl, List.map_append, List.flatMap_append, List.map_singleton, lib.encode_v1]
    simp
  · rcases List.mem_append.1 hx with hin | hv1
    · exact baseSegments_noSlash hin
    · rw [List.mem_singleton.1 hv1]
      decide

end

/-- **The requested path is confined exactly if** the base URL has no query or fragment, and the target does not climb
above `/v1/`, or comes back by the same names. -/
theorem confined_iff (lib : UrlLibrary) (b : BaseUrl) {basePath target : String}
    (haccepted : "/v1/".toList <+: (stripBasePath target basePath).toList) :
    Confined lib b basePath target ↔ (∀ c ∈ b.rest, endsPath c = false) ∧
      StaysBelow lib (baseSegments b.trimmed) (segmentsAfterV1 (stripBasePath target basePath)) := by
  obtain ⟨t, ht⟩ := haccepted
  have hreq : (stripBasePath target basePath).toList = '/' :: ("v1".toList ++ '/' :: t) := ht.symm
  have hafter : segmentsAfterV1 (stripBasePath target basePath) = splitSlashes (pathPart t) := by
    unfold segmentsAfterV1
    rw [hreq]
    rfl
  rw [confined_iff_segments b lib hreq, hafter, ← b.trimmed_open_iff]
  by_cases hopen : ∀ c ∈ b.trimmed, endsPath c = false
  · rw [pathSegments_append hopen, below_iff segmentKind [] lib.encode]
    exact (and_iff_right hopen).symm
  · -- a query swallows the target
    refine iff_of_false ?_ fun h => hopen h.1
    rintro ⟨more, hne, heq⟩
    simp only [not_forall, Bool.not_eq_false] at hopen
    obtain ⟨c, hc, hends⟩ := hopen
    have hle := pathSegments_of_query (t := '/' :: ("v1".toList ++ '/' :: t)) hc hends
    have hlen := congrArg List.length heq
    have hpos := List.length_pos_iff.2 hne
    simp only [List.length_map, List.length_append, List.length_singleton] at hlen
    omega

/-- Nothing in the segments has to be written otherwise. -/
def UrlLibrary.plain : UrlLibrary where
  encode := id
  encode_v1 := rfl
  encode_slash := fun _ h => h

/-- `https://api.example.com/openai/` -/
def openaiBase : BaseUrl where
  scheme := "https".toList
  slashes := "//".toList
  authority := "api.example.com".toList
  rest := "/openai/".toList
  scheme_plain := by decide
  slashes_only := List.all_eq_true.1 rfl
  authority_nonempty := by decide
  authority_plain := by simp [isSlash, endsPath]
  rest_start := by
    rintro c ⟨⟩
    rfl

/-- A path that climbs to the root of the host and comes back. -/
theorem round_trip_is_confined : Confined .plain openaiBase "/router" "/router/v1/../../openai/v1/./models?limit=1" :=
  (confined_iff .plain openaiBase ⟨"../../openai/v1/./models?limit=1".toList, by decide +kernel⟩).2
    ⟨by simp [openaiBase, endsPath], ["models".toList], by decide, by decide +kernel⟩

/-- One `..`, written in either way, leads out of `/v1/`. -/
theorem dots_lead_out :
    ("/v1/".toList <+: (stripBasePath "/v1/../admin/keys" "").toList) ∧
      String.ofList (UrlLibrary.plain.path (upstreamUrl openaiBase.text (stripBasePath "/v1/../admin/keys" "")))
        = "/openai/admin/keys" ∧
      ("/v1/".toList <+: (stripBasePath "/v1/%2E%2e/admin/keys" "").toList) ∧
      String.ofList (UrlLibrary.plain.path (upstreamUrl openaiBase.text (stripBasePath "/v1/%2E%2e/admin/keys" "")))
        = "/openai/admin/keys" ∧
      String.ofList (UrlLibrary.plain.basePath openaiBase.text) = "/openai" ∧
      ¬ Confined .plain openaiBase "" "/v1/../admin/keys" ∧ ¬ Confined .plain openaiBase "" "/v1/%2E%2e/admin/keys" := by
  unfold Confined
  decide +kernel

end AiRouter
