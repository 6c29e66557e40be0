/-
  TreeQuery.Document.Edit

  Edits of a text: from an offset on, a number of bytes is removed and a number of
  bytes is put in their place. An offset into the text before the edit has a place in
  the text after it:

  * offsets up to the start of the edit stay,
  * offsets within the removed bytes, or at their end, go to the start,
  * offsets past them move with the bytes that they stand at.

  Offsets are plain numbers. A greatest offset at which the end of the removed bytes
  had to stop would change nothing for offsets up to it.
-/

import TreeQuery.Text.Record

namespace TreeQuery

/-- One change of a text. -/
structure Edit where
  start : Nat
  removed : Nat
  added : Nat
  deriving DecidableEq, Repr, Inhabited

namespace Edit

/-- Where an offset from before the edit is after it. -/
def remap (e : Edit) (offset : Nat) : Nat :=
  if offset ≤ e.start then offset
  else if offset ≤ e.start + e.removed then e.start
  else offset - e.removed + e.added

/-- The edit as a record. -/
def describe (e : Edit) : String :=
  Record.fields "Edit"
    [("from", toString e.start), ("removed", toString e.removed), ("added", toString e.added)]
    false

/-! ## The three cases -/

theorem remap_of_le {e : Edit} {p : Nat} (h : p ≤ e.start) : e.remap p = p := by
  simp [remap, h]

theorem remap_inside {e : Edit} {p : Nat} (h : e.start < p) (h' : p ≤ e.start + e.removed) :
    e.remap p = e.start := by
  simp [remap, h', Nat.not_le.2 h]

theorem remap_past {e : Edit} {p : Nat} (h : e.start + e.removed < p) :
    e.remap p = p - e.removed + e.added := by
  have : ¬ p ≤ e.start := by omega
  simp [remap, this, Nat.not_le.2 h]

/-- Offsets keep their order. -/
theorem remap_mono (e : Edit) {p q : Nat} (h : p ≤ q) : e.remap p ≤ e.remap q := by
  unfold remap
  split <;> split <;> (try split) <;> (try split) <;> omega

end Edit
end TreeQuery
