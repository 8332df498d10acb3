import AiRouter.Lib.SortedAssoc
import AiRouter.Usage
import Mathlib.Data.List.Forall2
import Mathlib.Data.String.Basic

/-
# `normalize_openai_response` (handler.rs:83-111)

An object of `serde_json` keeps its fields in the order of their keys.
-/
namespace AiRouter

abbrev Fields := List (String × Json)

namespace Json

/-- `if let Some(obj) = value.as_object_mut()` -/
def mapObject (f : Fields → Fields) : Json → Json
  | .object fields => .object (f fields)
  | value => value

/-- `if let Some(xs) = value.as_array_mut()` -/
def mapArray (f : Json → Json) : Json → Json
  | .array xs => .array (xs.map f)
  | value => value

end Json

def removeAll (keys : List String) (fields : Fields) : Fields :=
  keys.foldl (fun fields key => SortedAssoc.erase key fields) fields

def rootExtensions : List String := ["prompt_logprobs", "prompt_token_ids", "kv_transfer_params"]

def choiceExtensions : List String := ["stop_reason", "token_ids", "provider_specific_fields"]

def normalizeMessage (msg : Json) : Json := msg.mapObject (SortedAssoc.erase "provider_specific_fields")

def normalizeChoice (choice : Json) : Json :=
  choice.mapObject fun choiceObj =>
    SortedAssoc.adjust "message" normalizeMessage (removeAll choiceExtensions choiceObj)

def normalizeOpenaiResponse (value : Json) (requestedModel : String) : Json :=
  value.mapObject fun obj =>
    SortedAssoc.adjust "choices" (Json.mapArray normalizeChoice)
      (removeAll rootExtensions (SortedAssoc.insert "model" (.string requestedModel) obj))

/-! ## What is left of the fields -/

section
variable {key : String} {keys : List String} {fields : Fields}

theorem lookup_removeAll_mem (h : key ∈ keys) : (removeAll keys fields).lookup key = none := by
  unfold removeAll
  induction keys generalizing fields with
  | nil => cases h
  | cons k keys ih =>
    rw [List.foldl_cons]
    by_cases hmem : key ∈ keys
    · exact ih hmem
    · -- nothing puts the removed field back
      obtain rfl := (List.mem_cons.1 h).resolve_right hmem
      have hkeep : ∀ (keys : List String) (fields : Fields), key ∉ keys → fields.lookup key = none →
          (keys.foldl (fun fields k => SortedAssoc.erase k fields) fields).lookup key = none := by
        intro keys
        induction keys with
        | nil => intro fields _ hnone; exact hnone
        | cons k keys ih =>
          intro fields hnot hnone
          rw [List.mem_cons, not_or] at hnot
          exact ih _ hnot.2 (by rw [SortedAssoc.lookup_erase_ne hnot.1, hnone])
      exact hkeep keys _ hmem (SortedAssoc.lookup_erase_self key fields)

theorem lookup_removeAll_not_mem (h : key ∉ keys) : (removeAll keys fields).lookup key = fields.lookup key := by
  unfold removeAll
  induction keys generalizing fields with
  | nil => rfl
  | cons k keys ih =>
    rw [List.mem_cons, not_or] at h
    rw [List.foldl_cons, ih h.2, SortedAssoc.lookup_erase_ne h.1]

theorem sorted_removeAll (h : SortedAssoc.Sorted fields) : SortedAssoc.Sorted (removeAll keys fields) := by
  unfold removeAll
  induction keys generalizing fields with
  | nil => exact h
  | cons k keys ih => exact ih (SortedAssoc.sorted_erase k h)

end

/-- The model is the requested one. -/
theorem normalize_model (obj : Fields) (requestedModel : String) :
    (normalizeOpenaiResponse (.object obj) requestedModel).get "model" = some (.string requestedModel) := by
  unfold normalizeOpenaiResponse Json.mapObject Json.get
  dsimp only
  rw [SortedAssoc.lookup_adjust_ne (by decide), lookup_removeAll_not_mem (by decide),
    SortedAssoc.lookup_insert_self]

/-- The extensions are gone. -/
theorem normalize_extension {key : String} (value : Json) (requestedModel : String) (h : key ∈ rootExtensions) :
    (normalizeOpenaiResponse value requestedModel).get key = none := by
  have hne : key ≠ "choices" := by rintro rfl; exact absurd h (by decide)
  cases value with
  | object obj =>
    unfold normalizeOpenaiResponse Json.mapObject Json.get
    dsimp only
    rw [SortedAssoc.lookup_adjust_ne hne, lookup_removeAll_mem h]
  | _ => rfl

/-- Every other field but the choices stays. -/
theorem normalize_other {key : String} (value : Json) (requestedModel : String)
    (h : key ∉ "model" :: "choices" :: rootExtensions) :
    (normalizeOpenaiResponse value requestedModel).get key = value.get key := by
  rw [List.mem_cons, List.mem_cons, not_or, not_or] at h
  cases value with
  | object obj =>
    unfold normalizeOpenaiResponse Json.mapObject Json.get
    dsimp only
    rw [SortedAssoc.lookup_adjust_ne h.2.1, lookup_removeAll_not_mem h.2.2, SortedAssoc.lookup_insert_ne h.1]
  | _ => rfl

/-- The usage a body states survives its normalization. -/
theorem bodyUsage_normalize (json : Option Json) (requestedModel : String) :
    bodyUsage (json.map (normalizeOpenaiResponse · requestedModel)) = bodyUsage json := by
  cases json with
  | none => rfl
  | some value =>
    have husage : (normalizeOpenaiResponse value requestedModel).get "usage" = value.get "usage" :=
      normalize_other value requestedModel (by decide)
    unfold bodyUsage
    simp only [Option.map_some, Option.bind_some, husage]

/-- The fields stay in order. -/
theorem normalize_sorted {obj : Fields} (requestedModel : String) (h : SortedAssoc.Sorted obj) :
    ∃ obj', normalizeOpenaiResponse (.object obj) requestedModel = .object obj' ∧ SortedAssoc.Sorted obj' :=
  ⟨_, rfl, SortedAssoc.sorted_adjust _ _ (sorted_removeAll (SortedAssoc.sorted_insert _ _ h))⟩

/-! ## Twice -/

theorem removeAll_eq_filter (keys : List String) (fields : Fields) :
    removeAll keys fields = fields.filter fun field => decide (field.1 ∉ keys) := by
  unfold removeAll
  induction keys generalizing fields with
  | nil => simp
  | cons k keys ih =>
    rw [List.foldl_cons, ih, SortedAssoc.erase, List.filter_filter]
    refine List.filter_congr fun field _ => ?_
    simp [Bool.and_comm]

section
variable {key : String} {keys : List String}

theorem insert_removeAll_insert (h : key ∉ keys) (v v' : Json) (fields : Fields) :
    SortedAssoc.insert key v' (removeAll keys (SortedAssoc.insert key v fields))
      = removeAll keys (SortedAssoc.insert key v' fields) := by
  simp only [removeAll_eq_filter]
  exact SortedAssoc.insert_filter_insert (p := fun k => decide (k ∉ keys)) (decide_eq_true h) v v' fields

theorem removeAll_adjust (h : key ∉ keys) (f : Json → Json) (fields : Fields) :
    removeAll keys (SortedAssoc.adjust key f fields) = SortedAssoc.adjust key f (removeAll keys fields) := by
  simp only [removeAll_eq_filter]
  exact SortedAssoc.filter_adjust (p := fun k => decide (k ∉ keys)) (decide_eq_true h) f fields

theorem removeAll_removeAll (keys : List String) (fields : Fields) :
    removeAll keys (removeAll keys fields) = removeAll keys fields := by
  simp only [removeAll_eq_filter, List.filter_filter, Bool.and_self]

end

theorem normalizeMessage_twice (msg : Json) : normalizeMessage (normalizeMessage msg) = normalizeMessage msg := by
  cases msg with
  | object fields => simp [normalizeMessage, Json.mapObject, SortedAssoc.erase]
  | _ => rfl

theorem normalizeChoice_twice (choice : Json) : normalizeChoice (normalizeChoice choice) = normalizeChoice choice := by
  cases choice with
  | object fields =>
    have hmsg : normalizeMessage ∘ normalizeMessage = normalizeMessage := funext normalizeMessage_twice
    simp only [normalizeChoice, Json.mapObject]
    rw [removeAll_adjust (by decide), removeAll_removeAll, SortedAssoc.adjust_adjust, hmsg]
  | _ => rfl

theorem normalizeChoices_twice :
    Json.mapArray normalizeChoice ∘ Json.mapArray normalizeChoice = Json.mapArray normalizeChoice := by
  funext choices
  cases choices with
  | array xs => simp [Json.mapArray, normalizeChoice_twice]
  | _ => rfl

/-- The second name replaces the first. -/
theorem normalize_normalize (value : Json) (m m' : String) :
    normalizeOpenaiResponse (normalizeOpenaiResponse value m) m' = normalizeOpenaiResponse value m' := by
  cases value with
  | object obj =>
    simp only [normalizeOpenaiResponse, Json.mapObject]
    rw [SortedAssoc.insert_adjust (by decide), insert_removeAll_insert (by decide), removeAll_adjust (by decide),
      removeAll_removeAll, SortedAssoc.adjust_adjust, normalizeChoices_twice]
  | _ => rfl

/-! ## The whole of the difference -/

/-- An object becomes an object whose fields are related to its own, key by key; any other value stays. -/
inductive Json.Rewritten (P : String → Option Json → Option Json → Prop) : Json → Json → Prop
  | object {fields out : Fields} (sorted : SortedAssoc.Sorted fields → SortedAssoc.Sorted out)
      (field : ∀ key, P key (fields.lookup key) (out.lookup key)) : Rewritten P (.object fields) (.object out)
  | other {value : Json} (h : ∀ fields, value ≠ .object fields) : Rewritten P value value

/-- An array keeps its order and length; any other value stays. -/
inductive Json.Elementwise (P : Json → Json → Prop) : Json → Json → Prop
  | array {xs ys : List Json} (elements : List.Forall₂ P xs ys) : Elementwise P (.array xs) (.array ys)
  | other {value : Json} (h : ∀ xs, value ≠ .array xs) : Elementwise P value value

def MessageField (key : String) (before after : Option Json) : Prop :=
  after = if key = "provider_specific_fields" then none else before

def ChoiceField (key : String) (before after : Option Json) : Prop :=
  if key ∈ choiceExtensions then after = none
  else if key = "message" then Option.Rel (Json.Rewritten MessageField) before after
  else after = before

def RootField (requestedModel key : String) (before after : Option Json) : Prop :=
  if key = "model" then after = some (.string requestedModel)
  else if key ∈ rootExtensions then after = none
  else if key = "choices" then Option.Rel (Json.Elementwise (Json.Rewritten ChoiceField)) before after
  else after = before

theorem rel_map {P : Json → Json → Prop} {f : Json → Json} (h : ∀ value, P value (f value)) :
    ∀ o : Option Json, Option.Rel P o (o.map f)
  | none => .none
  | some value => .some (h value)

theorem normalizeMessage_rewritten (msg : Json) : Json.Rewritten MessageField msg (normalizeMessage msg) := by
  cases msg with
  | object fields =>
    refine .object (SortedAssoc.sorted_erase _) fun key => ?_
    unfold MessageField
    split
    · subst key
      exact SortedAssoc.lookup_erase_self _ fields
    · exact SortedAssoc.lookup_erase_ne ‹_› fields
  | _ => exact .other fun _ h => by cases h

theorem normalizeChoice_rewritten (choice : Json) : Json.Rewritten ChoiceField choice (normalizeChoice choice) := by
  cases choice with
  | object fields =>
    refine .object (fun h => SortedAssoc.sorted_adjust _ _ (sorted_removeAll h)) fun key => ?_
    unfold ChoiceField
    split
    case isTrue hext =>
      have hne : key ≠ "message" := by rintro rfl; exact absurd hext (by decide)
      rw [SortedAssoc.lookup_adjust_ne hne, lookup_removeAll_mem hext]
    case isFalse hext =>
      split
      case isTrue hmsg =>
        rw [hmsg, SortedAssoc.lookup_adjust_self, lookup_removeAll_not_mem (by decide)]
        exact rel_map normalizeMessage_rewritten _
      case isFalse hmsg => rw [SortedAssoc.lookup_adjust_ne hmsg, lookup_removeAll_not_mem hext]
  | _ => exact .other fun _ h => by cases h

theorem normalizeChoices_elementwise (choices : Json) :
    Json.Elementwise (Json.Rewritten ChoiceField) choices (choices.mapArray normalizeChoice) := by
  cases choices with
  | array xs => exact .array (List.forall₂_map_right_iff.2 (List.forall₂_same.2 fun choice _ =>
      normalizeChoice_rewritten choice))
  | _ => exact .other fun _ h => by cases h

theorem normalize_rewritten (value : Json) (m : String) :
    Json.Rewritten (RootField m) value (normalizeOpenaiResponse value m) := by
  cases value with
  | object obj =>
    refine .object (fun h => SortedAssoc.sorted_adjust _ _ (sorted_removeAll (SortedAssoc.sorted_insert _ _ h)))
      fun key => ?_
    unfold RootField
    split
    case isTrue hmodel =>
      rw [hmodel]
      exact normalize_model obj m
    case isFalse hmodel =>
      split
      case isTrue hext => exact normalize_extension (.object obj) m hext
      case isFalse hext =>
        split
        case isTrue hchoices =>
          rw [hchoices, SortedAssoc.lookup_adjust_self, lookup_removeAll_not_mem (by decide),
            SortedAssoc.lookup_insert_ne (by decide)]
          exact rel_map normalizeChoices_elementwise _
        case isFalse hchoices => exact normalize_other (.object obj) m (by simp [hmodel, hchoices, hext])
  | _ => exact .other fun _ h => by cases h

/-- **Normalization** can be repeated under the same name, the last name wins, and nothing but the model and the
listed extensions changes. -/
theorem normalization_frame :
    (∀ value m, normalizeOpenaiResponse (normalizeOpenaiResponse value m) m = normalizeOpenaiResponse value m) ∧
      (∀ value m m', normalizeOpenaiResponse (normalizeOpenaiResponse value m) m' = normalizeOpenaiResponse value m') ∧
      ∀ value m, Json.Rewritten (RootField m) value (normalizeOpenaiResponse value m) :=
  ⟨fun value m => normalize_normalize value m m, normalize_normalize, normalize_rewritten⟩

end AiRouter
