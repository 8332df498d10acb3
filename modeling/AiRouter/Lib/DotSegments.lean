import Mathlib.Data.List.Basic

/-
# Dot segments

A path is read segment by segment onto a stack: one kind of segment stays, one is dropped, one takes the last segment
off. Whatever the stack, a list of segments takes some off it and puts some on it (`resolve_eq`).
-/
namespace DotSegments

inductive Kind where
  | name
  | here
  | up

variable {α β : Type} (kind : α → Kind) (empty : α)

def push (stack : List α) (segment : α) : List α :=
  match kind segment with
  | .name => stack ++ [segment]
  | .here => stack
  | .up => stack.dropLast

/-- A dot segment at the end leaves an empty segment there. -/
def resolve (stack : List α) : List α → List α
  | [] => stack
  | [last] =>
    match kind last with
    | .name => stack ++ [last]
    | _ => push kind stack last ++ [empty]
  | segment :: rest => resolve (push kind stack segment) rest

/-- So many segments off, then these on. -/
structure Route (α : Type) where
  ups : Nat
  names : List α

namespace Route

def stay : Route α := ⟨0, []⟩

def step (r : Route α) (segment : α) : Route α :=
  match kind segment with
  | .name => { r with names := r.names ++ [segment] }
  | .here => r
  | .up => if r.names = [] then { r with ups := r.ups + 1 } else { r with names := r.names.dropLast }

def apply (r : Route α) (stack : List α) : List α := stack.take (stack.length - r.ups) ++ r.names

end Route

/-- The route of a list of segments. -/
def routeFrom (r : Route α) : List α → Route α
  | [] => r
  | [last] =>
    match kind last with
    | .name => { r with names := r.names ++ [last] }
    | _ => { r.step kind last with names := (r.step kind last).names ++ [empty] }
  | segment :: rest => routeFrom (r.step kind segment) rest

def route (segments : List α) : Route α := routeFrom kind empty .stay segments

theorem push_apply (r : Route α) (stack : List α) (segment : α) :
    push kind (r.apply stack) segment = (r.step kind segment).apply stack := by
  unfold push Route.step
  cases kind segment with
  | name => exact List.append_assoc ..
  | here => rfl
  | up =>
    unfold Route.apply
    by_cases hnil : r.names = []
    · simp only [hnil, if_true, List.append_nil]
      rw [List.dropLast_eq_take, List.length_take, List.take_take]
      congr 1
      omega
    · simp only [hnil, if_false]
      exact List.dropLast_append_of_ne_nil hnil

/-- **What a list of segments does to a stack.** -/
theorem resolve_apply (segments : List α) : ∀ (r : Route α) (stack : List α),
    resolve kind empty (r.apply stack) segments = (routeFrom kind empty r segments).apply stack := by
  induction segments with
  | nil => exact fun _ _ => rfl
  | cons segment rest ih =>
    intro r stack
    cases rest with
    | nil =>
      unfold resolve routeFrom
      rw [push_apply]
      cases kind segment <;> exact List.append_assoc ..
    | cons next rest =>
      show resolve kind empty (push kind (r.apply stack) segment) (next :: rest) = _
      rw [push_apply, ih]
      rfl

theorem resolve_eq (stack segments : List α) :
    resolve kind empty stack segments = (route kind empty segments).apply stack := by
  have hstay : (Route.stay : Route α).apply stack = stack := by simp [Route.stay, Route.apply]
  have happly := resolve_apply kind empty segments .stay stack
  rw [hstay] at happly
  exact happly

/-- Segments before the last part are pushed. -/
theorem resolve_append {rest : List α} (hne : rest ≠ []) (front : List α) : ∀ stack : List α,
    resolve kind empty stack (front ++ rest) = resolve kind empty (front.foldl (push kind) stack) rest := by
  induction front with
  | nil => exact fun _ => rfl
  | cons segment front ih =>
    intro stack
    obtain ⟨next, more, hnext⟩ := List.exists_cons_of_ne_nil (List.append_ne_nil_of_right_ne_nil front hne)
    rw [List.foldl_cons, ← ih, List.cons_append, hnext]
    rfl

theorem mem_push {stack : List α} {segment x : α} (h : x ∈ push kind stack segment) : x ∈ stack ∨ x = segment := by
  unfold push at h
  split at h
  · simpa using h
  · exact Or.inl h
  · exact Or.inl ((List.dropLast_sublist stack).subset h)

/-- Nothing new comes onto the stack. -/
theorem mem_foldl_push {segments : List α} {x : α} : ∀ {stack : List α}, x ∈ segments.foldl (push kind) stack →
    x ∈ stack ∨ x ∈ segments := by
  induction segments with
  | nil => exact fun h => Or.inl h
  | cons segment rest ih =>
    intro stack h
    rcases ih h with hpush | hrest
    · rcases mem_push kind hpush with hstack | rfl
      · exact Or.inl hstack
      · exact Or.inr List.mem_cons_self
    · exact Or.inr (List.mem_cons_of_mem segment hrest)

theorem mem_resolve {segments : List α} {x : α} : ∀ {stack : List α}, x ∈ resolve kind empty stack segments →
    x ∈ stack ∨ x ∈ segments ∨ x = empty := by
  induction segments with
  | nil => exact fun h => Or.inl h
  | cons segment rest ih =>
    intro stack h
    cases rest with
    | nil =>
      unfold resolve at h
      split at h
      · exact (List.mem_append.1 h).imp_right Or.inl
      · rcases List.mem_append.1 h with hpush | hempty
        · rcases mem_push kind hpush with hstack | rfl
          · exact Or.inl hstack
          · exact Or.inr (Or.inl List.mem_cons_self)
        · exact Or.inr (Or.inr (List.mem_singleton.1 hempty))
    | cons next rest =>
      rcases ih h with hpush | hrest
      · rcases mem_push kind hpush with hstack | rfl
        · exact Or.inl hstack
        · exact Or.inr (Or.inl List.mem_cons_self)
      · exact Or.inr (hrest.imp_left (List.mem_cons_of_mem segment))

theorem resolve_length_le (segments : List α) : ∀ stack : List α,
    (resolve kind empty stack segments).length ≤ (segments.foldl (push kind) stack).length + 1 := by
  induction segments with
  | nil => exact fun stack => Nat.le_succ _
  | cons segment rest ih =>
    intro stack
    cases rest with
    | nil =>
      unfold resolve
      rw [List.foldl_cons, List.foldl_nil]
      unfold push
      cases kind segment <;> simp
    | cons next rest => exact ih (push kind stack segment)

/-- **Below the stack**: a list of segments ends below the stack exactly if it comes back by the segments that it has
taken off, and goes on. -/
theorem below_iff (f : α → β) (stack segments : List α) :
    (∃ more, more ≠ [] ∧ (resolve kind empty stack segments).map f = stack.map f ++ more) ↔
      ∃ more, more ≠ [] ∧ (route kind empty segments).names.map f
        = (stack.drop (stack.length - (route kind empty segments).ups)).map f ++ more := by
  have hsplit : stack.map f = (stack.take (stack.length - (route kind empty segments).ups)).map f
      ++ (stack.drop (stack.length - (route kind empty segments).ups)).map f := by
    rw [← List.map_append, List.take_append_drop]
  rw [resolve_eq]
  unfold Route.apply
  rw [List.map_append]
  constructor
  · rintro ⟨more, hne, hmore⟩
    refine ⟨more, hne, ?_⟩
    rw [hsplit, List.append_assoc] at hmore
    exact List.append_cancel_left hmore
  · rintro ⟨more, hne, hmore⟩
    refine ⟨more, hne, ?_⟩
    rw [hmore, ← List.append_assoc, ← hsplit]

/-! ## As text -/

section
variable {slash : α}

theorem segment_prefix {a c : List α} {x y : List α} (ha : slash ∉ a) (hc : slash ∉ c)
    (hy : y = [] ∨ ∃ tail, y = slash :: tail) (h : a ++ slash :: x <+: c ++ y) : a = c ∧ slash :: x <+: y := by
  induction a generalizing c with
  | nil =>
    cases c with
    | nil => exact ⟨rfl, h⟩
    | cons b c =>
      obtain ⟨rfl, _⟩ := List.cons_prefix_cons.1 h
      exact absurd List.mem_cons_self hc
  | cons b a ih =>
    cases c with
    | nil =>
      rcases hy with rfl | ⟨tail, rfl⟩
      · exact absurd h (by simp)
      · obtain ⟨rfl, _⟩ := List.cons_prefix_cons.1 h
        exact absurd List.mem_cons_self ha
    | cons b' c =>
      obtain ⟨rfl, hrest⟩ := List.cons_prefix_cons.1 h
      obtain ⟨rfl, hx⟩ := ih (fun hmem => ha (List.mem_cons_of_mem b hmem))
        (fun hmem => hc (List.mem_cons_of_mem b hmem)) hrest
      exact ⟨rfl, hx⟩

/-- **A path starts with the text of another and a slash exactly if its segments do and go on.** -/
theorem text_prefix_iff {front path : List (List α)} (hfront : ∀ s ∈ front, slash ∉ s) (hpath : ∀ s ∈ path, slash ∉ s) :
    front.flatMap (slash :: ·) ++ [slash] <+: path.flatMap (slash :: ·) ↔ ∃ more, more ≠ [] ∧ path = front ++ more := by
  have hstart : ∀ path : List (List α),
      path.flatMap (slash :: ·) = [] ∨ ∃ tail, path.flatMap (slash :: ·) = slash :: tail := by
    intro path
    cases path with
    | nil => exact Or.inl rfl
    | cons s path => exact Or.inr ⟨_, rfl⟩
  induction front generalizing path with
  | nil =>
    cases path with
    | nil => simp
    | cons s path => simp
  | cons s front ih =>
    obtain ⟨hs, hfront⟩ := List.forall_mem_cons.1 hfront
    cases path with
    | nil => simp
    | cons s' path =>
      obtain ⟨hs', hpath⟩ := List.forall_mem_cons.1 hpath
      obtain ⟨tail, htail⟩ : ∃ tail, front.flatMap (slash :: ·) ++ [slash] = slash :: tail := by
        cases front with
        | nil => exact ⟨[], rfl⟩
        | cons s front => exact ⟨_, rfl⟩
      have hih := ih hfront hpath
      rw [htail] at hih
      rw [List.flatMap_cons, List.flatMap_cons, List.append_assoc, htail]
      show slash :: (s ++ slash :: tail) <+: slash :: (s' ++ _) ↔ _
      rw [List.cons_prefix_cons]
      constructor
      · rintro ⟨_, h⟩
        obtain ⟨rfl, hrest⟩ := segment_prefix hs hs' (hstart path) h
        obtain ⟨more, hne, rfl⟩ := hih.1 hrest
        exact ⟨more, hne, rfl⟩
      · rintro ⟨more, hne, heq⟩
        obtain ⟨rfl, rfl⟩ := List.cons.inj heq
        exact ⟨rfl, (List.prefix_append_right_inj s').2 (hih.2 ⟨more, hne, rfl⟩)⟩

end

end DotSegments
