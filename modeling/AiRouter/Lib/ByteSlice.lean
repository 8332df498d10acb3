/-
# Byte-offset slices of UTF-8 strings

`&s[..n]` and `&s[n..]` of a Rust `str`. An offset counts UTF-8 bytes; one that is past the
end or inside a character panics, which is `none` here.
-/
namespace ByteSlice

/-- The characters whose encodings fill exactly the first `n` bytes. -/
def takeBytes : Nat → List Char → Option (List Char)
  | 0, _ => some []
  | _ + 1, [] => none
  | n + 1, c :: cs =>
    if c.utf8Size ≤ n + 1 then (takeBytes (n + 1 - c.utf8Size) cs).map (c :: ·) else none

/-- What is left after the first `n` bytes. -/
def dropBytes : Nat → List Char → Option (List Char)
  | 0, cs => some cs
  | _ + 1, [] => none
  | n + 1, c :: cs => if c.utf8Size ≤ n + 1 then dropBytes (n + 1 - c.utf8Size) cs else none

/-- `&s[..n]` -/
def sliceTo (s : String) (n : Nat) : Option String := (takeBytes n s.toList).map String.ofList

/-- `&s[n..]` -/
def sliceFrom (s : String) (n : Nat) : Option String := (dropBytes n s.toList).map String.ofList

theorem size_ofList_cons (c : Char) (cs : List Char) :
    (String.ofList (c :: cs)).utf8ByteSize = c.utf8Size + (String.ofList cs).utf8ByteSize := by
  have hsplit : String.ofList (c :: cs) = String.singleton c ++ String.ofList cs := by
    rw [String.singleton_eq_ofList, ← String.ofList_append, List.singleton_append]
  rw [hsplit, String.utf8ByteSize_append, String.utf8ByteSize_singleton]

theorem takeBytes_size : ∀ {n : Nat} {cs r : List Char},
    takeBytes n cs = some r → (String.ofList r).utf8ByteSize = n
  | 0, _, r, h => by
    simp only [takeBytes, Option.some.injEq] at h
    subst h; rfl
  | n + 1, [], _, h => by simp [takeBytes] at h
  | n + 1, c :: cs, r, h => by
    simp only [takeBytes] at h
    split at h
    · rename_i hc
      obtain ⟨r', hr', rfl⟩ := Option.map_eq_some_iff.1 h
      rw [size_ofList_cons, takeBytes_size hr']
      omega
    · cases h

theorem dropBytes_size : ∀ {n : Nat} {cs r : List Char},
    dropBytes n cs = some r → (String.ofList r).utf8ByteSize + n = (String.ofList cs).utf8ByteSize
  | 0, _, r, h => by
    simp only [dropBytes, Option.some.injEq] at h
    subst h; rfl
  | n + 1, [], _, h => by simp [dropBytes] at h
  | n + 1, c :: cs, r, h => by
    simp only [dropBytes] at h
    split at h
    · rename_i hc
      have ih := dropBytes_size h
      rw [size_ofList_cons]
      omega
    · cases h

/-- A prefix slice that does not panic has the requested number of bytes. -/
theorem sliceTo_size {s t : String} {n : Nat} (h : sliceTo s n = some t) : t.utf8ByteSize = n := by
  obtain ⟨r, hr, rfl⟩ := Option.map_eq_some_iff.1 h
  exact takeBytes_size hr

/-- A suffix slice that does not panic has the bytes after the offset. -/
theorem sliceFrom_size {s t : String} {n : Nat} (h : sliceFrom s n = some t) :
    t.utf8ByteSize + n = s.utf8ByteSize := by
  obtain ⟨r, hr, rfl⟩ := Option.map_eq_some_iff.1 h
  have hsize := dropBytes_size hr
  rwa [String.ofList_toList] at hsize

/-! ## Character boundaries -/

/-- `s.is_char_boundary(n)`: `n` bytes are a whole number of characters. -/
def IsBoundary (s : String) (n : Nat) : Prop := ∃ pre suf : String, s = pre ++ suf ∧ pre.utf8ByteSize = n

theorem takeBytes_prefix : ∀ {n : Nat} {cs r : List Char}, takeBytes n cs = some r → r <+: cs
  | 0, cs, r, h => by
    simp only [takeBytes, Option.some.injEq] at h
    subst h
    exact List.nil_prefix
  | n + 1, [], _, h => by simp [takeBytes] at h
  | n + 1, c :: cs, r, h => by
    simp only [takeBytes] at h
    split at h
    · obtain ⟨r', hr', rfl⟩ := Option.map_eq_some_iff.1 h
      exact (List.cons_prefix_cons).2 ⟨rfl, takeBytes_prefix hr'⟩
    · cases h

theorem dropBytes_suffix : ∀ {n : Nat} {cs r : List Char}, dropBytes n cs = some r → r <:+ cs
  | 0, cs, r, h => by
    simp only [dropBytes, Option.some.injEq] at h
    subst h
    exact List.suffix_rfl
  | n + 1, [], _, h => by simp [dropBytes] at h
  | n + 1, c :: cs, r, h => by
    simp only [dropBytes] at h
    split at h
    · exact (dropBytes_suffix h).trans (List.suffix_cons c cs)
    · cases h

theorem bytes_append : ∀ xs ys : List Char,
    takeBytes (String.ofList xs).utf8ByteSize (xs ++ ys) = some xs ∧
      dropBytes (String.ofList xs).utf8ByteSize (xs ++ ys) = some ys
  | [], ys => ⟨by simp [takeBytes], by simp [dropBytes]⟩
  | c :: xs, ys => by
    obtain ⟨htake, hdrop⟩ := bytes_append xs ys
    have hpos := Char.utf8Size_pos c
    obtain ⟨n, hn⟩ : ∃ n, c.utf8Size + (String.ofList xs).utf8ByteSize = n + 1 :=
      ⟨c.utf8Size + (String.ofList xs).utf8ByteSize - 1, by omega⟩
    have hrest : n + 1 - c.utf8Size = (String.ofList xs).utf8ByteSize := by omega
    rw [size_ofList_cons, hn, List.cons_append]
    simp only [takeBytes, dropBytes]
    rw [if_pos (by omega), if_pos (by omega), hrest, htake, hdrop]
    exact ⟨rfl, rfl⟩

/-- **`&s[..n]` panics** inside a character, and nowhere else. -/
theorem sliceTo_isSome_iff {s : String} {n : Nat} : (sliceTo s n).isSome ↔ IsBoundary s n := by
  constructor
  · intro h
    obtain ⟨t, ht⟩ := Option.isSome_iff_exists.1 h
    obtain ⟨r, hr, rfl⟩ := Option.map_eq_some_iff.1 ht
    obtain ⟨rest, hrest⟩ := takeBytes_prefix hr
    refine ⟨String.ofList r, String.ofList rest, ?_, takeBytes_size hr⟩
    rw [← String.ofList_append, hrest, String.ofList_toList]
  · rintro ⟨pre, suf, rfl, rfl⟩
    have htake := (bytes_append pre.toList suf.toList).1
    rw [String.ofList_toList] at htake
    simp [sliceTo, String.toList_append, htake]

/-- So does `&s[n..]`. -/
theorem sliceFrom_isSome_iff {s : String} {n : Nat} : (sliceFrom s n).isSome ↔ IsBoundary s n := by
  constructor
  · intro h
    obtain ⟨t, ht⟩ := Option.isSome_iff_exists.1 h
    obtain ⟨r, hr, rfl⟩ := Option.map_eq_some_iff.1 ht
    obtain ⟨first, hfirst⟩ := dropBytes_suffix hr
    have hsize := dropBytes_size hr
    have hwhole : s = String.ofList first ++ String.ofList r := by
      rw [← String.ofList_append, hfirst, String.ofList_toList]
    refine ⟨String.ofList first, String.ofList r, hwhole, ?_⟩
    rw [String.ofList_toList, hwhole, String.utf8ByteSize_append] at hsize
    omega
  · rintro ⟨pre, suf, rfl, rfl⟩
    have hdrop := (bytes_append pre.toList suf.toList).2
    rw [String.ofList_toList] at hdrop
    simp [sliceFrom, String.toList_append, hdrop]

/-- Every character fills one byte. -/
def Ascii (s : String) : Prop := ∀ c ∈ s.toList, c.utf8Size = 1

instance (s : String) : Decidable (Ascii s) := List.decidableBAll _ s.toList

theorem size_of_ascii : ∀ {cs : List Char}, (∀ c ∈ cs, c.utf8Size = 1) → (String.ofList cs).utf8ByteSize = cs.length
  | [], _ => rfl
  | c :: cs, h => by
    have hc := h c List.mem_cons_self
    have hcs := size_of_ascii fun d hd => h d (List.mem_cons_of_mem c hd)
    rw [size_ofList_cons, List.length_cons]
    omega

/-- An ASCII string can be cut anywhere. -/
theorem Ascii.isBoundary {s : String} (h : Ascii s) {n : Nat} (hn : n ≤ s.utf8ByteSize) : IsBoundary s n := by
  have hsize := size_of_ascii h
  rw [String.ofList_toList] at hsize
  refine ⟨String.ofList (s.toList.take n), String.ofList (s.toList.drop n), ?_, ?_⟩
  · rw [← String.ofList_append, List.take_append_drop, String.ofList_toList]
  · rw [size_of_ascii fun c hc => h c (List.mem_of_mem_take hc), List.length_take]
    omega

end ByteSlice
