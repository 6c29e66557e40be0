/-
  TreeQuery.Proofs.Document.Buffer

  What the operations of a buffer need and what they do. Every check asks for one thing:
  that an offset is a boundary of the text. An edit that succeeds cuts the text into a
  front, the bytes that go and a back (`Edit.Replaces`), and it takes the boundaries of
  the text before it to boundaries of the text after it (`Edit.remap_isBoundary`), with
  the bytes that they stand at (`Edit.Replaces.take_bytes`, `Edit.Replaces.drop_bytes`).
-/

import TreeQuery.Document.Buffer
import TreeQuery.Proofs.Text.Boundary

namespace TreeQuery

/-! ## Edits of a text -/

/-- The edit puts new bytes between a front and a back of the text. -/
def Edit.Replaces (e : Edit) (before after : Text) : Prop :=
  ∃ front old new back, before = front ++ old ++ back ∧ after = front ++ new ++ back ∧
    e = ⟨front.size, old.size, new.size⟩

/-- **Boundaries go to boundaries.** An offset in the front stays, one in the removed bytes
    goes to the end of the front, and one in the back moves with it. -/
theorem Edit.remap_isBoundary {e : Edit} {before after : Text} (h : e.Replaces before after)
    {o : Nat} (ho : before.isBoundary o = true) : after.isBoundary (e.remap o) = true := by
  obtain ⟨front, old, new, back, rfl, rfl, rfl⟩ := h
  rcases Nat.lt_or_ge front.size o with hfront | hfront
  · rcases Nat.lt_or_ge (front.size + old.size) o with hpast | hinside
    · -- A boundary of the back, counted from where the back starts.
      rw [Edit.remap_past hpast]
      obtain ⟨k, rfl⟩ : ∃ k, o = (front ++ old).size + k :=
        ⟨o - (front ++ old).size, by rw [Text.size_append]; omega⟩
      have hk := Text.isBoundary_right_of_append ho
      have hmoved := Text.isBoundary_append_right (front ++ new) hk
      rw [Text.size_append] at hmoved ⊢
      have heq : front.size + old.size + k - old.size + new.size =
          front.size + new.size + k := by omega
      rw [heq]
      exact hmoved
    · -- The end of the front, wherever in the removed bytes the offset was.
      rw [Edit.remap_inside hfront hinside]
      exact Text.isBoundary_append_left (Text.isBoundary_append_left front.isBoundary_size _) _
  · -- A boundary of the front, which is the same in both texts.
    rw [Edit.remap_of_le hfront]
    rw [List.append_assoc] at ho ⊢
    exact Text.isBoundary_append_left (Text.isBoundary_left_of_append ho hfront) _

/-- What comes before an edit stays, byte for byte. -/
theorem Edit.Replaces.take_bytes {e : Edit} {before after : Text} (h : e.Replaces before after)
    {o : Nat} (ho : o ≤ e.start) : after.bytes.take o = before.bytes.take o := by
  obtain ⟨front, old, new, back, rfl, rfl, rfl⟩ := h
  have hfront : o ≤ front.bytes.length := by rwa [Text.length_bytes]
  simp only [Text.bytes_append, List.append_assoc, List.take_append_of_le_length hfront]

/-- What comes after an edit is found where the offset went, byte for byte. -/
theorem Edit.Replaces.drop_bytes {e : Edit} {before after : Text} (h : e.Replaces before after)
    {o : Nat} (ho : e.start + e.removed < o) :
    after.bytes.drop (e.remap o) = before.bytes.drop o := by
  obtain ⟨front, old, new, back, rfl, rfl, rfl⟩ := h
  have hpast : front.size + old.size < o := ho
  rw [Edit.remap_past ho]
  obtain ⟨k, rfl⟩ : ∃ k, o = (front ++ old).bytes.length + k :=
    ⟨o - (front ++ old).bytes.length, by rw [Text.length_bytes, Text.size_append]; omega⟩
  have hplace : (front ++ old).bytes.length + k - old.size + new.size =
      (front ++ new).bytes.length + k := by
    simp only [Text.length_bytes, Text.size_append]
    omega
  -- Both are the bytes of the back, without the first `k`.
  rw [hplace, Text.bytes_append (front ++ old), Text.bytes_append (front ++ new),
    List.drop_append, List.drop_append, Nat.add_sub_cancel_left, Nat.add_sub_cancel_left,
    List.drop_eq_nil_of_le (Nat.le_add_right _ _), List.drop_eq_nil_of_le (Nat.le_add_right _ _)]

namespace Buffer

/-! ## Checks -/

/-- An offset passes its check exactly when it is a boundary. -/
theorem checkOffset_eq_ok_iff {b : Buffer} {o : Nat} :
    b.checkOffset o = .ok () ↔ b.text.isBoundary o = true := by
  unfold checkOffset
  split
  · next h =>
    simp only [reduceCtorEq, false_iff]
    intro ho
    have hle := Text.le_size_of_isBoundary ho
    omega
  · split <;> simp_all

theorem checkRange_eq_ok_iff {b : Buffer} {start stop : Nat} :
    b.checkRange start stop = .ok () ↔
      start ≤ stop ∧ b.text.isBoundary start = true ∧ b.text.isBoundary stop = true := by
  rw [← checkOffset_eq_ok_iff, ← checkOffset_eq_ok_iff]
  unfold checkRange
  by_cases h : stop < start
  · simp [h, throw, throwThe, MonadExceptOf.throw, bind, Except.bind, Nat.not_le.2 h]
  · cases b.checkOffset start with
    | error e => simp [h, bind, Except.bind]
    | ok _ => simp [h, bind, Except.bind, Nat.not_lt.1 h]

/-! ## Operations -/

theorem setCursor_eq_ok_iff {b b' : Buffer} {o : Nat} :
    b.setCursor o = .ok b' ↔ b.text.isBoundary o = true ∧ b' = { b with cursor := o } := by
  rw [← checkOffset_eq_ok_iff]
  unfold setCursor
  cases b.checkOffset o with
  | error e => simp [bind, Except.bind]
  | ok _ => simp [bind, Except.bind, pure, Except.pure, eq_comm]

/-- A boundary has a line and a column, both at least one. -/
theorem lineColumn_of_isBoundary {b : Buffer} {o : Nat} (h : b.text.isBoundary o = true) :
    ∃ line column, b.lineColumn o = .ok (line, column) ∧ 1 ≤ line ∧ 1 ≤ column := by
  refine ⟨_, _, ?_, Nat.le_add_left 1 (b.text.before o).newlines,
    Nat.le_add_left 1 (b.text.before o).lastLine.length⟩
  rw [lineColumn, checkOffset_eq_ok_iff.2 h]
  rfl

/-- A replacement of the middle of a text. -/
theorem replace_of_text_eq {b : Buffer} {front old back : Text}
    (h : b.text = front ++ old ++ back) (text : Text) :
    let e : Edit := ⟨front.size, old.size, text.size⟩
    b.replace front.size (front.size + old.size) text =
      .ok (⟨front ++ text ++ back, e.remap b.cursor⟩, e) := by
  have hrange : b.checkRange front.size (front.size + old.size) = .ok () := by
    refine checkRange_eq_ok_iff.2 (Text.isSome_slice?_iff.1 ⟨old, ?_⟩)
    exact Text.slice?_eq_some_iff.2 ⟨front, back, h, rfl, rfl⟩
  have hfront : b.text.before front.size = front := by
    rw [h, List.append_assoc]
    exact Text.before_append front (old ++ back)
  have hback : b.text.after (front.size + old.size) = back := by
    rw [h, ← Text.size_append]
    exact Text.after_append (front ++ old) back
  rw [replace, hrange]
  simp only [bind, Except.bind, pure, Except.pure, hfront, hback, Nat.add_sub_cancel_left]

/-- A replacement that fails its checks answers the first that failed. -/
theorem replace_of_checkRange_eq_error {b : Buffer} {start stop : Nat} {text : Text}
    {fault : DocumentError} (h : b.checkRange start stop = .error fault) :
    b.replace start stop text = .error fault := by
  rw [replace, h]
  rfl

/-- A replacement goes through exactly when its range lies between boundaries in order. -/
theorem replace_eq_ok_iff {b b' : Buffer} {start stop : Nat} {text : Text} {e : Edit} :
    b.replace start stop text = .ok (b', e) ↔
      ∃ front old back, b.text = front ++ old ++ back ∧ front.size = start ∧
        start + old.size = stop ∧ e = ⟨start, old.size, text.size⟩ ∧
        b' = ⟨front ++ text ++ back, e.remap b.cursor⟩ := by
  constructor
  · intro h
    cases hcheck : b.checkRange start stop with
    | error fault =>
      rw [replace_of_checkRange_eq_error hcheck] at h
      cases h
    | ok _ =>
      obtain ⟨hle, hstart, hstop⟩ := checkRange_eq_ok_iff.1 hcheck
      obtain ⟨front, old, back, htext, rfl, rfl⟩ := Text.exists_split hle hstart hstop
      obtain ⟨rfl, rfl⟩ := Prod.mk.inj (Except.ok.inj ((replace_of_text_eq htext text).symm.trans h))
      exact ⟨front, old, back, htext, rfl, rfl, rfl, rfl⟩
  · rintro ⟨front, old, back, htext, rfl, rfl, rfl, rfl⟩
    exact replace_of_text_eq htext text

end Buffer
end TreeQuery
