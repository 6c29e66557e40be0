/-
  TreeQuery.Proofs.Document.Lines

  Lines and columns of offsets. The answer for an offset is read off the front of the
  text up to it (`Buffer.lineColumn_eq_ok_iff`). A longer front has more line feeds, or as
  many and a longer last line, so the answers are in the order of the offsets
  (`Buffer.lineColumn_lt`). And an offset has an answer just when it is where the answer
  points: behind the lines above and the characters before the column
  (`Buffer.lineColumn_iff_isAt`).
-/

import Mathlib.Data.Prod.Lex
import TreeQuery.Proofs.Document.Buffer
import TreeQuery.Proofs.Except
import TreeQuery.Proofs.Text.Lines

namespace TreeQuery

/-- A line and a column of a text point to this offset: it is the start of the line and the bytes
of the characters of the line before the column. Both count from one. -/
structure Text.IsAt (t : Text) (line column offset : Nat) : Prop where
  one_le_line : 1 ≤ line
  one_le_column : 1 ≤ column
  /-- The line is there, and the column is at most one past its characters. -/
  reached : ∃ content, t.lines[line - 1]? = some content ∧ column - 1 ≤ content.length ∧
    offset = t.lineStart (line - 1) + Text.size (content.take (column - 1))

namespace Buffer

variable {b : Buffer} {o o' : Nat} {p p' : Nat × Nat}

/-- The answer counts the line feeds up to the offset and the characters behind the last one. -/
theorem lineColumn_eq_ok_iff :
    b.lineColumn o = .ok p ↔ ∃ front back, b.text = front ++ back ∧ front.size = o ∧
      p = (front.newlines + 1, front.lastLine.length + 1) := by
  rw [lineColumn, bind_eq_ok_iff]
  constructor
  · rintro ⟨⟨⟩, hcheck, hp⟩
    obtain ⟨front, back, htext, rfl⟩ := Text.isBoundary_iff.1 (checkOffset_eq_ok_iff.1 hcheck)
    rw [htext, Text.before_append] at hp
    exact ⟨front, back, htext, rfl, (Except.ok.inj hp).symm⟩
  · rintro ⟨front, back, htext, rfl, rfl⟩
    refine ⟨(), checkOffset_eq_ok_iff.2 (Text.isBoundary_iff.2 ⟨front, back, htext, rfl⟩), ?_⟩
    rw [htext, Text.before_append]
    rfl

/-- Offsets with an answer are those between characters. -/
theorem exists_lineColumn_iff :
    (∃ p, b.lineColumn o = .ok p) ↔ b.text.isBoundary o = true := by
  simp only [lineColumn_eq_ok_iff, Text.isBoundary_iff]
  constructor
  · rintro ⟨_, front, back, htext, hsize, -⟩
    exact ⟨front, back, htext, hsize⟩
  · rintro ⟨front, back, htext, hsize⟩
    exact ⟨_, front, back, htext, hsize, rfl⟩

/-- Answers are in the order of their offsets. -/
theorem lineColumn_lt (hlt : o < o') (h : b.lineColumn o = .ok p)
    (h' : b.lineColumn o' = .ok p') : toLex p < toLex p' := by
  obtain ⟨front, back, htext, rfl, rfl⟩ := lineColumn_eq_ok_iff.1 h
  obtain ⟨front', back', htext', rfl, rfl⟩ := lineColumn_eq_ok_iff.1 h'
  obtain ⟨middle, rfl, -⟩ := Text.exists_middle (htext.symm.trans htext') hlt.le
  rw [Prod.Lex.toLex_lt_toLex, Text.newlines_append]
  by_cases hmem : '\n' ∈ middle
  · -- A line feed between the offsets puts the later one in a later line.
    have hpos : 0 < middle.newlines := List.count_pos_iff.2 hmem
    exact Or.inl (by omega)
  · have hnone : middle.newlines = 0 := List.count_eq_zero.2 hmem
    have hmiddle : 0 < middle.length := by
      rw [List.length_pos_iff]
      rintro rfl
      simp at hlt
    rw [Text.lastLine_append_of_notMem hmem, List.length_append]
    exact Or.inr ⟨by omega, by omega⟩

/-- No two offsets have the same answer. -/
theorem lineColumn_injective (h : b.lineColumn o = .ok p) (h' : b.lineColumn o' = .ok p) :
    o = o' := by
  rcases Nat.lt_trichotomy o o' with hlt | heq | hlt
  · exact absurd (lineColumn_lt hlt h h') (lt_irrefl _)
  · exact heq
  · exact absurd (lineColumn_lt hlt h' h) (lt_irrefl _)

/-- An answer points to its offset, and what points to an offset is its answer. -/
theorem lineColumn_iff_isAt {line column : Nat} :
    b.lineColumn o = .ok (line, column) ↔ b.text.IsAt line column o := by
  rw [lineColumn_eq_ok_iff]
  constructor
  · rintro ⟨front, back, htext, rfl, hp⟩
    cases hp
    obtain ⟨above, hends, hnewlines⟩ := Text.exists_endsInRow front
    obtain ⟨more, below, -, hline⟩ := hends.exists_hasLine back
    rw [← htext, hnewlines] at hline
    refine ⟨Nat.le_add_left .., Nat.le_add_left .., _, hline.getElem?_lines, ?_, ?_⟩
    · rw [List.length_append]
      exact Nat.le_add_right ..
    · rw [Nat.add_sub_cancel, Nat.add_sub_cancel, hline.lineStart_eq, List.take_left,
        ← Text.size_append, ← hends.text]
  · rintro ⟨hline, hcolumn, content, hcontent, hreached, rfl⟩
    obtain ⟨above, below, hfound⟩ := Text.exists_hasLine_of_getElem? hcontent
    -- The front that ends before the column.
    have hends : Text.EndsInRow (above ++ content.take (column - 1)) above
        (content.take (column - 1)) :=
      ⟨rfl, hfound.start, fun hmem => hfound.single (List.mem_of_mem_take hmem)⟩
    refine ⟨above ++ content.take (column - 1), content.drop (column - 1) ++ below, ?_, ?_, ?_⟩
    · rw [hfound.text, List.append_assoc, ← List.append_assoc (List.take ..),
        List.take_append_drop]
    · rw [hfound.lineStart_eq, Text.size_append]
    · rw [hends.lastLine_eq, hends.newlines_eq, hfound.index, List.length_take_of_le hreached,
        Nat.sub_add_cancel hline, Nat.sub_add_cancel hcolumn]

/-- Lines and columns identify offsets. The offsets between characters are those that have an
answer, and answers are in their order, by line and then by column, so no two have the same.
An answer is the position that points to the offset, behind the lines above and the characters of
its line before the column. -/
theorem line_column_identify (b : Buffer) :
    (∀ o, (∃ p, b.lineColumn o = .ok p) ↔ b.text.isBoundary o = true) ∧
      (∀ o o' p p', o < o' → b.lineColumn o = .ok p → b.lineColumn o' = .ok p' →
        toLex p < toLex p') ∧
      (∀ o o' p, b.lineColumn o = .ok p → b.lineColumn o' = .ok p → o = o') ∧
      ∀ o line column, b.lineColumn o = .ok (line, column) ↔ b.text.IsAt line column o :=
  ⟨fun _ => exists_lineColumn_iff, fun _ _ _ _ => lineColumn_lt, fun _ _ _ => lineColumn_injective,
    fun _ _ _ => lineColumn_iff_isAt⟩

/-- A letter of two bytes behind a line feed, and one more line feed at the end: the last offset
is in a third line that has no characters. -/
theorem line_column_identify_threeLines :
    (ofText "abc\néx\n".toList).lineColumn 6 = .ok (2, 2) ∧
      (ofText "abc\néx\n".toList).lineColumn 8 = .ok (3, 1) ∧
      toLex (2, 2) < toLex (3, 1) ∧ Text.IsAt "abc\néx\n".toList 2 2 6 ∧
      ¬ ∃ p, (ofText "abc\néx\n".toList).lineColumn 5 = .ok p := by
  obtain ⟨hanswered, horder, -, hat⟩ := line_column_identify (ofText "abc\néx\n".toList)
  have hletter : (ofText "abc\néx\n".toList).lineColumn 6 = .ok (2, 2) := by decide
  have hend : (ofText "abc\néx\n".toList).lineColumn 8 = .ok (3, 1) := by decide
  have hinside : ¬ Text.isBoundary "abc\néx\n".toList 5 = true := by decide
  exact ⟨hletter, hend, horder 6 8 _ _ (by decide) hletter hend, (hat 6 2 2).1 hletter,
    fun h => hinside ((hanswered 5).1 h)⟩

end Buffer
end TreeQuery
