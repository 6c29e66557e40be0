/-
  TreeQuery.Proofs.Text.Boundary

  Boundaries as cuts. Two ways to write one text as a front and a back differ by a
  middle part (`Text.exists_middle`), so between any two boundaries there is a slice,
  and the boundaries of a text put together from parts are those of its parts.
-/

import TreeQuery.Text.Basic

namespace TreeQuery

namespace Text

theorem eq_nil_of_size_eq_zero {t : Text} (h : t.size = 0) : t = [] := by
  cases t with
  | nil => rfl
  | cons c t =>
    have hc := c.utf8Size_pos
    rw [size_cons] at h
    omega

/-- Of two fronts of a text, the shorter one begins the longer one. -/
theorem exists_middle {front front' back back' : Text} (h : front ++ back = front' ++ back')
    (h_size : front.size ≤ front'.size) :
    ∃ middle, front' = front ++ middle ∧ back = middle ++ back' := by
  induction front generalizing front' with
  | nil => exact ⟨front', rfl, h⟩
  | cons c front ih =>
    cases front' with
    | nil =>
      have hc := c.utf8Size_pos
      simp only [size_cons, size_nil] at h_size
      omega
    | cons c' front' =>
      obtain ⟨rfl, htail⟩ := List.cons.inj h
      rw [size_cons, size_cons] at h_size
      obtain ⟨middle, rfl, hback⟩ := ih htail (by omega)
      exact ⟨middle, rfl, hback⟩

/-! ## Boundaries -/

theorem isBoundary_zero (t : Text) : t.isBoundary 0 = true :=
  isBoundary_iff.2 ⟨[], t, rfl, rfl⟩

theorem isBoundary_size (t : Text) : t.isBoundary t.size = true :=
  isBoundary_iff.2 ⟨t, [], (List.append_nil t).symm, rfl⟩

theorem le_size_of_isBoundary {t : Text} {o : Nat} (h : t.isBoundary o = true) :
    o ≤ t.size := by
  obtain ⟨front, back, rfl, rfl⟩ := isBoundary_iff.1 h
  rw [size_append]
  exact Nat.le_add_right _ _

/-- A boundary of the front of a text is one of the text. -/
theorem isBoundary_append_left {s : Text} {o : Nat} (h : s.isBoundary o = true) (t : Text) :
    (s ++ t).isBoundary o = true := by
  obtain ⟨front, back, rfl, ho⟩ := isBoundary_iff.1 h
  exact isBoundary_iff.2 ⟨front, back ++ t, List.append_assoc .., ho⟩

/-- A boundary of the back of a text is one of the text, past the front. -/
theorem isBoundary_append_right (s : Text) {t : Text} {o : Nat} (h : t.isBoundary o = true) :
    (s ++ t).isBoundary (s.size + o) = true := by
  obtain ⟨front, back, rfl, rfl⟩ := isBoundary_iff.1 h
  exact isBoundary_iff.2 ⟨s ++ front, back, (List.append_assoc ..).symm, size_append ..⟩

/-- The boundaries of a text up to the end of a front are those of the front. -/
theorem isBoundary_left_of_append {s t : Text} {o : Nat} (h : (s ++ t).isBoundary o = true)
    (ho : o ≤ s.size) : s.isBoundary o = true := by
  obtain ⟨front, back, heq, rfl⟩ := isBoundary_iff.1 h
  obtain ⟨middle, rfl, -⟩ := exists_middle heq.symm ho
  exact isBoundary_iff.2 ⟨front, middle, rfl, rfl⟩

/-- The boundaries of a text from the end of a front on are those of what follows. -/
theorem isBoundary_right_of_append {s t : Text} {o : Nat}
    (h : (s ++ t).isBoundary (s.size + o) = true) : t.isBoundary o = true := by
  obtain ⟨front, back, heq, hsize⟩ := isBoundary_iff.1 h
  obtain ⟨middle, rfl, rfl⟩ := exists_middle heq (by omega)
  rw [size_append] at hsize
  exact isBoundary_iff.2 ⟨middle, back, rfl, by omega⟩

/-! ## Slices -/

/-- Two boundaries in order part a text in three. -/
theorem exists_split {t : Text} {a b : Nat} (hab : a ≤ b) (ha : t.isBoundary a = true)
    (hb : t.isBoundary b = true) :
    ∃ front middle back, t = front ++ middle ++ back ∧ size front = a ∧ a + size middle = b := by
  obtain ⟨front, back, rfl, rfl⟩ := isBoundary_iff.1 ha
  obtain ⟨front', back', heq, rfl⟩ := isBoundary_iff.1 hb
  obtain ⟨middle, rfl, rfl⟩ := exists_middle heq hab
  exact ⟨front, middle, back', (List.append_assoc ..).symm, rfl, (size_append ..).symm⟩

/-- There is a slice exactly between two boundaries in order. -/
theorem isSome_slice?_iff {t : Text} {a b : Nat} :
    (∃ middle, t.slice? a b = some middle) ↔
      a ≤ b ∧ t.isBoundary a = true ∧ t.isBoundary b = true := by
  constructor
  · rintro ⟨middle, h⟩
    obtain ⟨front, back, rfl, rfl, rfl⟩ := slice?_eq_some_iff.1 h
    refine ⟨Nat.le_add_right _ _, ?_, ?_⟩
    · exact isBoundary_iff.2 ⟨front, middle ++ back, List.append_assoc .., rfl⟩
    · exact isBoundary_iff.2 ⟨front ++ middle, back, rfl, size_append ..⟩
  · rintro ⟨hab, ha, hb⟩
    obtain ⟨front, middle, back, htext, hfront, hend⟩ := exists_split hab ha hb
    exact ⟨middle, slice?_eq_some_iff.2 ⟨front, back, htext, hfront, hend⟩⟩

/-- A slice ends where it starts and its bytes end. -/
theorem add_size_of_slice? {t middle : Text} {a b : Nat} (h : t.slice? a b = some middle) :
    a + middle.size = b := by
  obtain ⟨front, back, -, -, hb⟩ := slice?_eq_some_iff.1 h
  exact hb

/-- Slices that meet make one slice. -/
theorem slice?_trans {t s u : Text} {a b c : Nat} (hs : t.slice? a b = some s)
    (hu : t.slice? b c = some u) : t.slice? a c = some (s ++ u) := by
  obtain ⟨front, back, rfl, rfl, rfl⟩ := slice?_eq_some_iff.1 hs
  obtain ⟨front', back', heq, hsize, rfl⟩ := slice?_eq_some_iff.1 hu
  rw [List.append_assoc front'] at heq
  rw [← size_append] at hsize
  obtain ⟨middle, rfl, rfl⟩ := exists_middle heq (Nat.le_of_eq hsize.symm)
  have hmiddle : middle.size = 0 := by
    rw [size_append _ middle] at hsize
    omega
  obtain rfl := eq_nil_of_size_eq_zero hmiddle
  refine slice?_eq_some_iff.2 ⟨front, back', by simp, rfl, ?_⟩
  rw [size_append]
  omega

/-- The slice from end to end is the text. -/
theorem eq_of_slice?_zero_size {t middle : Text} (h : t.slice? 0 t.size = some middle) :
    t = middle := by
  obtain ⟨front, back, heq, hfront, hsize⟩ := slice?_eq_some_iff.1 h
  obtain rfl := eq_nil_of_size_eq_zero hfront
  have hback : back.size = 0 := by
    rw [heq, List.nil_append, size_append] at hsize
    omega
  obtain rfl := eq_nil_of_size_eq_zero hback
  simpa using heq

/-! ## Bytes -/

/-- The bytes of a text in UTF-8. -/
def bytes (t : Text) : List UInt8 := t.flatMap String.utf8EncodeChar

@[simp] theorem bytes_nil : bytes [] = [] := rfl

@[simp] theorem bytes_cons (c : Char) (t : Text) :
    bytes (c :: t) = String.utf8EncodeChar c ++ bytes t := rfl

@[simp] theorem bytes_append (s t : Text) : bytes (s ++ t) = bytes s ++ bytes t :=
  List.flatMap_append

@[simp] theorem length_bytes (t : Text) : t.bytes.length = t.size := by
  induction t with
  | nil => rfl
  | cons c t ih => rw [bytes_cons, List.length_append, String.length_utf8EncodeChar, ih, size_cons]

/-! ## Cuts at the end of a front -/

theorem before_append (front back : Text) : (front ++ back).before front.size = front := by
  rw [before, cut?_eq_some_iff.2 ⟨rfl, rfl⟩]

theorem after_append (front back : Text) : (front ++ back).after front.size = back := by
  rw [after, cut?_eq_some_iff.2 ⟨rfl, rfl⟩]

end Text
end TreeQuery
