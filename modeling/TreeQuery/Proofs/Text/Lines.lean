/-
  TreeQuery.Proofs.Text.Lines

  Rows of a text. A text ends in the row that starts behind its last line feed
  (`Text.exists_endsInRow`), so its rows and columns say where it ends; and where a row
  starts, its line goes on to the first line ending (`Text.exists_isLineEnd`).

  Rows have numbers: a text parts at its line feeds into lines (`Text.lines`), and a line with
  so many line feeds above it is the one with that index (`Text.HasLine.getElem?_lines`) and
  starts where the lines above it and their line feeds end (`Text.HasLine.lineStart_eq`).
-/

import Mathlib.Data.List.TakeWhile
import TreeQuery.Text.Basic

namespace TreeQuery.Text

/-- A row starts behind `above`: nothing stands there, or a line feed does at the end. -/
def IsRowStart (above : Text) : Prop := above = [] ∨ above.getLast? = some '\n'

/-- A text that ends in the row behind `above`, of which it has `passed`. -/
structure EndsInRow (t above passed : Text) : Prop where
  text : t = above ++ passed
  start : IsRowStart above
  single : '\n' ∉ passed

/-- How a line ends, when `below` follows: with a carriage return and a line feed, with a line
feed alone, or with the text. -/
inductive IsLineEnd (line : Text) : (ending below : Text) → Prop
  | crlf (below : Text) : IsLineEnd line ['\r', '\n'] below
  | lf (below : Text) (h : line.getLast? ≠ some '\r') : IsLineEnd line ['\n'] below
  | ended : IsLineEnd line [] []

/-- The row of a text behind `above`: its line, how that ends, and what is below. -/
structure IsRow (t above line ending below : Text) : Prop where
  text : t = above ++ line ++ ending ++ below
  start : IsRowStart above
  single : '\n' ∉ line
  ending : IsLineEnd line ending below

theorem newline_notMem_takeWhile (t : Text) : '\n' ∉ t.takeWhile (· != '\n') := fun hmem =>
  absurd (List.mem_takeWhile_imp hmem) (by decide)

/-- What follows the characters up to a line feed is the line feed. -/
theorem eq_of_dropWhile_eq_cons {t rest : Text} {c : Char}
    (h : t.dropWhile (· != '\n') = c :: rest) : c = '\n' := by
  have hhead := List.head?_dropWhile_not (· != '\n') t
  rw [h] at hhead
  simpa using hhead

/-- All line feeds of a text stand above the row that it ends in. -/
theorem EndsInRow.newlines_eq {t above passed : Text} (h : EndsInRow t above passed) :
    t.newlines = above.newlines := by
  rw [h.text, newlines, newlines, List.count_append, List.count_eq_zero.2 h.single, Nat.add_zero]

/-- What stands before the last line feed is passed, and with it all line feeds. -/
theorem exists_endsInRow (t : Text) :
    ∃ above, EndsInRow t above t.lastLine ∧ above.newlines = t.newlines := by
  have htext : t = (t.reverse.dropWhile (· != '\n')).reverse ++ t.lastLine := by
    rw [lastLine, ← List.reverse_append, List.takeWhile_append_dropWhile, List.reverse_reverse]
  have hsingle : '\n' ∉ t.lastLine := fun hmem =>
    newline_notMem_takeWhile _ (List.mem_reverse.1 hmem)
  have hstart : IsRowStart (t.reverse.dropWhile (· != '\n')).reverse := by
    cases hrest : t.reverse.dropWhile (· != '\n') with
    | nil => exact Or.inl rfl
    | cons c rest =>
      right
      rw [List.getLast?_reverse]
      exact congrArg some (eq_of_dropWhile_eq_cons hrest)
  have hends : EndsInRow t _ t.lastLine := ⟨htext, hstart, hsingle⟩
  exact ⟨_, hends, hends.newlines_eq.symm⟩

/-- The first line of a text has no line feed, and the text goes on with its ending. -/
theorem exists_isLineEnd (t : Text) :
    '\n' ∉ t.firstLine ∧
      ∃ ending below, t = t.firstLine ++ ending ++ below ∧ IsLineEnd t.firstLine ending below := by
  have hsingle := newline_notMem_takeWhile t
  have hsplit := List.takeWhile_append_dropWhile (p := (· != '\n')) (l := t)
  rw [firstLine]
  generalize t.takeWhile (· != '\n') = line at hsingle hsplit ⊢
  cases hrest : t.dropWhile (· != '\n') with
  | nil =>
    -- There is no line feed, and a carriage return at the end is part of the line.
    rw [hrest, List.append_nil] at hsplit
    obtain rfl := hsplit
    simp only [Nat.lt_irrefl, false_and, if_false]
    exact ⟨hsingle, [], [], by simp, .ended⟩
  | cons c below =>
    obtain rfl := eq_of_dropWhile_eq_cons hrest
    rw [hrest] at hsplit
    have hshorter : line.length < t.length := by
      rw [← hsplit, List.length_append, List.length_cons]
      omega
    simp only [hshorter, true_and]
    split
    · next hreturn =>
      obtain ⟨shorter, rfl⟩ := List.getLast?_eq_some_iff.1 hreturn
      rw [List.dropLast_concat]
      refine ⟨fun hmem => hsingle (List.mem_append_left _ hmem), ['\r', '\n'], below, ?_, .crlf _⟩
      simp [← hsplit]
    · next hreturn => exact ⟨hsingle, ['\n'], below, by simp [← hsplit], .lf _ hreturn⟩

/-- The row that a text ends in holds its last line. -/
theorem EndsInRow.lastLine_eq {t above passed : Text} (h : EndsInRow t above passed) :
    t.lastLine = passed := by
  have hpassed : ∀ c ∈ passed.reverse, (c != '\n') = true := by
    intro c hc
    exact bne_iff_ne.2 fun heq => h.single (heq ▸ List.mem_reverse.1 hc)
  have habove : above.reverse.takeWhile (· != '\n') = [] := by
    rcases h.start with rfl | hlast
    · rfl
    · obtain ⟨above, rfl⟩ := List.getLast?_eq_some_iff.1 hlast
      rw [List.reverse_concat]
      rfl
  rw [lastLine, h.text, List.reverse_append, List.takeWhile_append_of_pos hpassed, habove,
    List.append_nil, List.reverse_reverse]

/-- Without a line feed, what follows a text goes on with its last line. -/
theorem lastLine_append_of_notMem {front middle : Text} (h : '\n' ∉ middle) :
    (front ++ middle).lastLine = front.lastLine ++ middle := by
  obtain ⟨above, hends, -⟩ := exists_endsInRow front
  refine EndsInRow.lastLine_eq ⟨?_, hends.start, ?_⟩
  · rw [← List.append_assoc, ← hends.text]
  · rw [List.mem_append]
    exact not_or.2 ⟨hends.single, h⟩

/-! ## Numbered lines -/

/-- The lines of a text. Line feeds part them and belong to none. -/
def lines (t : Text) : List Text := t.splitOn '\n'

/-- Lines as they stand in a text, each with a line feed behind it. -/
def fed (lines : List Text) : Text := lines.flatMap fun line => line ++ ['\n']

/-- Where the line with this index starts: behind the lines before it and their line feeds. -/
def lineStart (t : Text) (index : Nat) : Nat := size (fed (t.lines.take index))

theorem newlines_append (s t : Text) : (s ++ t).newlines = s.newlines + t.newlines :=
  List.count_append

theorem lines_of_notMem {t : Text} (h : '\n' ∉ t) : t.lines = [t] := List.splitOn_eq_singleton h

theorem lines_append (above below : Text) :
    (above ++ '\n' :: below).lines = above.lines ++ below.lines :=
  List.splitOn_append_cons_self above below

theorem lines_ne_nil (t : Text) : t.lines ≠ [] := List.splitOn_ne_nil '\n' t

theorem lines_newline_cons (t : Text) : lines ('\n' :: t) = [] :: t.lines := lines_append [] t

theorem lines_cons_of_ne {c : Char} (h : c ≠ '\n') (t : Text) :
    lines (c :: t) = t.lines.modifyHead (c :: ·) := by
  rw [lines, List.splitOn_cons_eq_if_modifyHead, if_neg (by simpa using h)]
  rfl

theorem length_lines (t : Text) : t.lines.length = t.newlines + 1 := by
  induction t with
  | nil => rfl
  | cons c t ih =>
    by_cases hc : c = '\n'
    · subst hc
      rw [lines_newline_cons, List.length_cons, ih, newlines, newlines, List.count_cons_self]
    · rw [lines_cons_of_ne hc, List.length_modifyHead, ih, newlines, newlines,
        List.count_cons_of_ne hc]

/-- A text is its lines, and they have a line feed too many at the end. -/
theorem fed_lines (t : Text) : fed t.lines = t ++ ['\n'] := by
  induction t with
  | nil => rfl
  | cons c t ih =>
    by_cases hc : c = '\n'
    · subst hc
      rw [lines_newline_cons]
      exact congrArg ('\n' :: ·) ih
    · obtain ⟨line, more, hlines⟩ := List.exists_cons_of_ne_nil (lines_ne_nil t)
      rw [lines_cons_of_ne hc, hlines]
      rw [hlines] at ih
      exact congrArg (c :: ·) ih

/-- The line of a text with this index, and what stands above it and below it. -/
structure HasLine (t : Text) (index : Nat) (above line below : Text) : Prop where
  text : t = above ++ (line ++ below)
  start : IsRowStart above
  single : '\n' ∉ line
  next : ∀ c ∈ below.head?, c = '\n'
  index : above.newlines = index

/-- The first line of what a row starts with is the line of the row. -/
theorem HasLine.exists_lines {t above line below : Text} {index : Nat}
    (h : HasLine t index above line below) :
    ∃ earlier later, t.lines = earlier ++ line :: later ∧ earlier.length = index ∧
      fed earlier = above := by
  obtain ⟨rfl, hstart, hsingle, hnext, rfl⟩ := h
  obtain ⟨later, hlater⟩ : ∃ later, (line ++ below).lines = line :: later := by
    cases below with
    | nil => exact ⟨[], by rw [List.append_nil, lines_of_notMem hsingle]⟩
    | cons c below =>
      obtain rfl := hnext c rfl
      exact ⟨lines below, by rw [lines_append, lines_of_notMem hsingle]; rfl⟩
  rcases hstart with rfl | hlast
  · exact ⟨[], later, hlater, rfl, rfl⟩
  · obtain ⟨above, rfl⟩ := List.getLast?_eq_some_iff.1 hlast
    refine ⟨lines above, later, ?_, ?_, ?_⟩
    · rw [List.append_assoc, List.singleton_append, lines_append, hlater]
    · rw [length_lines, newlines_append]
      rfl
    · exact fed_lines above

theorem HasLine.getElem?_lines {t above line below : Text} {index : Nat}
    (h : HasLine t index above line below) : t.lines[index]? = some line := by
  obtain ⟨earlier, later, hlines, rfl, -⟩ := h.exists_lines
  rw [hlines, List.getElem?_append_right le_rfl, Nat.sub_self]
  rfl

theorem HasLine.lineStart_eq {t above line below : Text} {index : Nat}
    (h : HasLine t index above line below) : t.lineStart index = above.size := by
  obtain ⟨earlier, later, hlines, rfl, hfed⟩ := h.exists_lines
  rw [lineStart, hlines, List.take_left, hfed]

/-- In the row that a front ends in, the line goes on to the next line feed. -/
theorem EndsInRow.exists_hasLine {front above passed : Text} (h : EndsInRow front above passed)
    (back : Text) :
    ∃ more below, back = more ++ below ∧
      HasLine (front ++ back) above.newlines above (passed ++ more) below := by
  have hsplit := (List.takeWhile_append_dropWhile (p := (· != '\n')) (l := back)).symm
  refine ⟨_, _, hsplit, ?_, h.start, ?_, ?_, rfl⟩
  · rw [List.append_assoc, ← hsplit, h.text, List.append_assoc]
  · rw [List.mem_append]
    exact not_or.2 ⟨h.single, newline_notMem_takeWhile back⟩
  · intro c hc
    obtain ⟨rest, hrest⟩ := List.head?_eq_some_iff.1 hc
    exact eq_of_dropWhile_eq_cons hrest

/-- A row starts behind each number of line feeds. -/
theorem exists_isRowStart {t : Text} {index : Nat} (h : index ≤ t.newlines) :
    ∃ above rest, t = above ++ rest ∧ IsRowStart above ∧ above.newlines = index := by
  induction index with
  | zero => exact ⟨[], t, rfl, Or.inl rfl, rfl⟩
  | succ index ih =>
    obtain ⟨above, rest, rfl, -, rfl⟩ := ih (by omega)
    rw [newlines_append] at h
    have hmem : '\n' ∈ rest := List.count_pos_iff.1 (show 0 < rest.newlines by omega)
    obtain ⟨line, below, rfl, hline⟩ := List.eq_append_cons_of_mem hmem
    refine ⟨above ++ line ++ ['\n'], below, by simp, Or.inr List.getLast?_concat, ?_⟩
    rw [newlines_append, newlines_append, newlines, newlines, List.count_eq_zero.2 hline]
    rfl

/-- What is found under an index is the line of a row. -/
theorem exists_hasLine_of_getElem? {t line : Text} {index : Nat}
    (h : t.lines[index]? = some line) : ∃ above below, HasLine t index above line below := by
  have hindex := (List.getElem?_eq_some_iff.1 h).1
  rw [length_lines] at hindex
  obtain ⟨above, rest, rfl, hstart, rfl⟩ := exists_isRowStart (Nat.le_of_lt_succ hindex)
  have hends : EndsInRow above above [] := ⟨(List.append_nil above).symm, hstart, List.not_mem_nil⟩
  obtain ⟨line', below, -, hline⟩ := hends.exists_hasLine rest
  obtain rfl := Option.some.inj (h.symm.trans hline.getElem?_lines)
  exact ⟨above, below, hline⟩

end TreeQuery.Text
