/-
  TreeQuery.Proofs.Query.Coordinates

  Errors in the caller's coordinates. The pattern language refuses a text by an offset of
  the marked text (`Query.Refused`); what is reported is the place of the same character in
  the caller's text, or the start of an operator's name when the offset lies in a mark
  (`Marked.PointsAt`), with its row and column and, where the error shows it, the row itself.

  * `Marked.exists_pointsAt`: every boundary of the marked text points to one of the caller's.
  * `Text.exists_isRow`: the row that is shown over the caret.
  * `Marked.reports_ofFault` puts these together for any fault.
  * `Query.refusals_in_callers_text` states it for the errors of compiling.
-/

import TreeQuery.Proofs.Query.Failures
import TreeQuery.Proofs.Query.Marking
import TreeQuery.Proofs.Text.Lines

namespace TreeQuery

/-! ## Boundaries of the marked text -/

namespace Marked

/-- The place in the caller's text that an offset of the marked text points to: that of the same
character or of the end, and within a mark the start of the operator's name. -/
inductive PointsAt (t : Text) (o : Nat) : Nat → Prop
  | place {b : Nat} (hplace : o = (ofText t).placeOf b)
      (hchar : ((ofText t).text.after o).head? = (t.after b).head?) : PointsAt t o b
  | mark {i : Nat} (hi : i ∈ (ofText t).insertions)
      (hfrom : (ofText t).placeOf i - operatorMark.size ≤ o) (hto : o < (ofText t).placeOf i) :
      PointsAt t o i

/-- Of two ways to part a text, the first front ends within the second, or goes on behind it. -/
theorem exists_split_append {front back mark more : Text} (h : front ++ back = mark ++ more) :
    (∃ front', front = mark ++ front' ∧ more = front' ++ back) ∨
      ∃ x inside, mark = front ++ x :: inside := by
  rcases List.append_eq_append_iff.1 h with ⟨inside, rfl, rfl⟩ | ⟨front', rfl, rfl⟩
  · cases inside with
    | nil => exact Or.inl ⟨[], by simp, rfl⟩
    | cons x inside => exact Or.inr ⟨x, inside, rfl⟩
  · exact Or.inl ⟨front', rfl, rfl⟩

namespace Mirrors

variable {t : Text} {z : Zone} {b m : Place}

theorem offset_eq_placeOf (h : Mirrors t z b m) : m.offset = (ofText t).placeOf b.offset :=
  h.offset_eq

theorem isBoundary (h : Mirrors t z b m) : t.isBoundary b.offset = true := by
  obtain ⟨front, hrest, hoffset⟩ := h.upto
  exact Text.isBoundary_iff.2 ⟨front, b.rest, hrest, by rw [hoffset, Nat.zero_add]⟩

/-- What is put in after a character. -/
theorem rest_eq_cons (h : Mirrors t z b m) {c : Char} {bare : Text} (hb : b.rest = c :: bare) :
    m.rest = c :: ((if marksAfter z c bare then operatorMark else []) ++
      markFrom (z.after c) bare) := by
  rw [h.rest, hb, markFrom_cons]

/-- A character on, and past the mark that is put in after it. -/
theorem next (h : Mirrors t z b m) {c : Char} {bare : Text} (hb : b.rest = c :: bare) :
    Mirrors t (z.after c) (.past b.offset c bare)
      ⟨m.offset + c.utf8Size + Text.size (if marksAfter z c bare then operatorMark else []),
        markFrom (z.after c) bare⟩ := by
  obtain ⟨passed, hinsertions, hpassed, hoffset⟩ := h.passed
  rw [hb, insertionsFrom_cons, ← List.append_assoc] at hinsertions
  refine ⟨h.upto.trans (Place.past_past hb).upto, rfl, _, hinsertions, fun i hi => ?_, ?_⟩
  · rcases List.mem_append.1 hi with hi | hi
    · exact Nat.le_trans (hpassed i hi) (Nat.le_add_right _ _)
    · split at hi
      · exact Nat.le_of_eq (List.mem_singleton.1 hi)
      · cases hi
  · simp only [Place.past, hoffset, List.length_append, Nat.mul_add]
    split
    · rw [List.length_singleton]
      omega
    · rw [List.length_nil, Text.size_nil]
      omega

theorem mem_insertions (h : Mirrors t z b m) {c : Char} {bare : Text} (hb : b.rest = c :: bare)
    (hmark : marksAfter z c bare) : b.offset + c.utf8Size ∈ (ofText t).insertions := by
  obtain ⟨passed, hinsertions, -⟩ := h.passed
  rw [hb, insertionsFrom_cons, if_pos hmark] at hinsertions
  show _ ∈ insertionsFrom .plain 0 t
  rw [hinsertions]
  exact List.mem_append_right _ List.mem_cons_self

/-- Past some characters of the marked text, one is at a place of the caller's text again, or
inside a mark. -/
theorem exists_mirrors_or_inside {offset : Nat} {front back : Text}
    (h : Mirrors t z b ⟨offset, front ++ back⟩) :
    (∃ z' b', Mirrors t z' b' ⟨offset + front.size, back⟩) ∨
      ∃ i ∈ (ofText t).insertions, (ofText t).placeOf i - operatorMark.size ≤ offset + front.size ∧
        offset + front.size < (ofText t).placeOf i := by
  induction hb : b.rest generalizing z b offset front with
  | nil =>
    have hnil : front ++ back = [] := h.rest.trans (congrArg (markFrom z) hb)
    obtain ⟨rfl, rfl⟩ := List.append_eq_nil_iff.1 hnil
    exact Or.inl ⟨z, b, h⟩
  | cons c bare ih =>
    cases front with
    | nil => exact Or.inl ⟨z, b, h⟩
    | cons d front =>
      obtain ⟨rfl, htail⟩ := List.cons.inj (h.rest_eq_cons hb)
      have hnext := h.next hb
      rw [Text.size_cons, ← Nat.add_assoc]
      -- The mark that may follow the first character is passed, or the rest of it is still ahead.
      rcases exists_split_append htail with ⟨front', rfl, hmore⟩ | ⟨x, inside, hmark⟩
      · rw [hmore] at hnext
        rw [Text.size_append, ← Nat.add_assoc]
        exact ih hnext rfl
      · have hmarks : marksAfter z d bare := by
          refine Decidable.byContradiction fun hnone => ?_
          rw [if_neg hnone] at hmark
          exact absurd hmark.symm (by simp)
        rw [if_pos hmarks] at hnext hmark
        have hplace := hnext.offset_eq_placeOf
        have hsize := congrArg Text.size hmark
        have hx := x.utf8Size_pos
        refine Or.inr ⟨_, h.mem_insertions hb hmarks, ?_⟩
        simp only [Place.past, Text.size_append, Text.size_cons] at hplace hsize
        omega

end Mirrors

/-- **Boundaries of the marked text.** Each points to a boundary of the caller's text, and that is
what it is mapped back to. -/
theorem exists_pointsAt {t : Text} {o : Nat} (ho : (ofText t).text.isBoundary o = true) :
    PointsAt t o ((ofText t).toBare o) ∧ t.isBoundary ((ofText t).toBare o) = true := by
  obtain ⟨front, back, htext, rfl⟩ := Text.isBoundary_iff.1 ho
  have hbegin : Mirrors t .plain ⟨0, t⟩ ⟨0, front ++ back⟩ := htext ▸ mirrors_begin t
  have hinside := hbegin.exists_mirrors_or_inside
  rw [Nat.zero_add] at hinside
  rcases hinside with ⟨z, b, hb⟩ | ⟨i, hi, hfrom, hto⟩
  · rw [show (ofText t).toBare front.size = b.offset from hb.toBare_eq]
    refine ⟨.place hb.offset_eq_placeOf ?_, hb.isBoundary⟩
    rw [htext, Text.after_append, hb.after_eq]
    exact hb.head?_eq
  · rw [toBare_of_inside hi hfrom hto]
    obtain ⟨before, rest, rfl, hsize, -⟩ := mem_insertions_iff.1 hi
    exact ⟨.mark hi hfrom hto, Text.isBoundary_iff.2 ⟨before, rest, rfl, hsize⟩⟩

end Marked

/-! ## Rows and carets -/

/-- What the caret text shows: the row of an offset, and a caret under its column. -/
theorem Text.exists_isRow {t : Text} {o : Nat} (ho : t.isBoundary o = true) :
    ∃ above line ending below, IsRow t above line ending below ∧
      EndsInRow (t.before o) above (t.before o).lastLine ∧
      above.newlines = (t.before o).newlines ∧ above.size + (t.before o).lastLine.size = o ∧
      caretText t o =
        line ++ '\n' :: List.replicate (t.before o).lastLine.size ' ' ++ ['^'] := by
  obtain ⟨front, back, rfl, rfl⟩ := isBoundary_iff.1 ho
  rw [caretText, before_append]
  obtain ⟨above, hends, hnewlines⟩ := exists_endsInRow front
  have hsize : above.size + front.lastLine.size = front.size := by
    rw [← size_append, ← hends.text]
  -- The row starts behind `above`, and its line is the first one there.
  have hstart : (front ++ back).after (front.size - front.lastLine.size) =
      front.lastLine ++ back := by
    have habove : front.size - front.lastLine.size = above.size := by omega
    have hparts : front ++ back = above ++ (front.lastLine ++ back) := by
      rw [← List.append_assoc, ← hends.text]
    rw [habove, hparts, after_append]
  obtain ⟨hsingle, ending, below, hline, hending⟩ := exists_isLineEnd (front.lastLine ++ back)
  refine ⟨above, _, ending, below, ⟨?_, hends.start, hsingle, hending⟩, hends, hnewlines, hsize, ?_⟩
  · rw [List.append_assoc above, List.append_assoc above, ← hline, ← List.append_assoc,
      ← hends.text]
  · simp only [rowColumn, hstart]

/-- An error that reports, in a text, what was found at an offset of the marked text. -/
structure QueryError.Reports (source : Text) (o : Nat) (e : QueryError) : Prop where
  le_size : e.offset ≤ source.size
  boundary : source.isBoundary e.offset = true
  points : Marked.PointsAt source o e.offset
  row : e.row = (source.before e.offset).newlines
  /-- The column counts the bytes behind the last line feed. -/
  column : ∃ above passed, Text.EndsInRow (source.before e.offset) above passed ∧
    e.column = passed.size ∧ above.size + e.column = e.offset
  /-- A text that is no pattern, or one that nothing can match, is shown by the row of the place,
  without its ending, and a caret under the column. -/
  shown : e.kind = .malformed ∨ e.kind = .structural →
    ∃ above line ending below, Text.IsRow source above line ending below ∧
      above.newlines = e.row ∧ above.size + e.column = e.offset ∧
      e.text.toList = line ++ '\n' :: List.replicate e.column ' ' ++ ['^']

/-- An error at a boundary, with the caret text if it is to show one. -/
theorem QueryError.reports_ofOffset {source : Text} {o b : Nat} {kind : QueryErrorKind}
    {text : String} (hpoints : Marked.PointsAt source o b) (hb : source.isBoundary b = true)
    (htext : kind = .malformed ∨ kind = .structural → text = String.ofList (caretText source b)) :
    (QueryError.ofOffset source kind b text).Reports source o := by
  obtain ⟨above, line, ending, below, hrow, hends, hnewlines, hsize, hcaret⟩ :=
    Text.exists_isRow hb
  refine ⟨Text.le_size_of_isBoundary hb, hb, hpoints, rfl, ⟨above, _, hends, rfl, hsize⟩, ?_⟩
  intro hkind
  have hshown : text.toList = caretText source b := by
    rw [htext hkind, String.toList_ofList]
  exact ⟨above, line, ending, below, hrow, hnewlines, hsize, hshown.trans hcaret⟩

namespace Marked

/-- **Faults in the caller's text.** Whatever the fault is, when it is found at a boundary of the
marked text its error reports the place that this points to. -/
theorem reports_ofFault {t : Text} {f : Fault} (hf : (ofText t).text.isBoundary f.offset = true) :
    ((ofText t).ofFault f).Reports t f.offset := by
  obtain ⟨hpoints, hboundary⟩ := exists_pointsAt hf
  have hmin : min ((ofText t).toBare f.offset) (ofText t).bare.size = (ofText t).toBare f.offset :=
    Nat.min_eq_left (Text.le_size_of_isBoundary hboundary)
  rw [ofFault]
  simp only [hmin]
  split
  · exact QueryError.reports_ofOffset hpoints hboundary fun _ => rfl
  · exact QueryError.reports_ofOffset hpoints hboundary fun _ => rfl
  all_goals exact QueryError.reports_ofOffset hpoints hboundary (by simp)

end Marked

/-! ## Texts that the pattern language refuses -/

namespace Query

/-- The pattern language refuses a text, by an offset of the marked text, with an error: the text
cannot be read, no tree can match one of its patterns, or a clause that the pattern language reads
itself is not in order. The error of such a clause has no place of its own. -/
inductive Refused (language : Language) (source : Text) : Nat → QueryError → Prop
  | reading {fault : Fault}
      (hread : Pattern.read language.vocabulary (Marked.ofText source).text = .error fault) :
      Refused language source fault.offset ((Marked.ofText source).ofFault fault)
  | impossible {patterns : List Pattern} {names : List String} {o : Nat}
      (hread : Pattern.read language.vocabulary (Marked.ofText source).text =
        .ok (patterns, names))
      (hsome : (patterns.map (Program.ofPattern names)).findSome?
        (·.impossibleAt? language.vocabulary) = some o) :
      Refused language source o ((Marked.ofText source).ofFault ⟨.impossible, o⟩)
  | ownClause {patterns : List Pattern} {names : List String} {fault : FilterFault}
      (hread : Pattern.read language.vocabulary (Marked.ofText source).text =
        .ok (patterns, names))
      (hnone : (patterns.map (Program.ofPattern names)).findSome?
        (·.impossibleAt? language.vocabulary) = none)
      (hprepare : prepare (Marked.ofText source) names
        (patterns.zip (patterns.map (Program.ofPattern names))) = .error fault) :
      Refused language source 0 (filterError fault)

section

variable {language : Language} {source : Text} {names : List String} {o : Nat} {e : QueryError}

theorem Refused.compile_eq (h : Refused language source o e) (registry : Registry) :
    compile language source registry = .error e := by
  rw [compile]
  cases h with
  | reading hread => simp only [hread]
  | impossible hread hsome => simp only [hread, hsome]
  | ownClause hread hnone hprepare => simp only [hread, hnone, hprepare]

theorem ofClause_of_splitClauses {clauses : List Clause} {split : List TextFilter × List Clause}
    (h : splitClauses names clauses = .ok split) :
    ∀ c ∈ clauses, ∃ reading, TextFilter.ofClause names c = .ok reading := by
  induction clauses generalizing split with
  | nil => exact nofun
  | cons c clauses ih =>
    rw [splitClauses] at h
    obtain ⟨reading, hreading, h⟩ := bind_eq_ok_iff.1 h
    obtain ⟨later, hlater, -⟩ := bind_eq_ok_iff.1 h
    exact List.forall_mem_cons.2 ⟨⟨reading, hreading⟩, ih hlater⟩

theorem ofClause_of_prepare {marked : Marked} {patterns : List Pattern}
    {prepared : List Prepared}
    (h : prepare marked names (patterns.zip (patterns.map (Program.ofPattern names))) =
      .ok prepared) :
    ∀ p ∈ patterns, ∀ c ∈ p.item.clauses,
      ∃ reading, TextFilter.ofClause names c = .ok reading := by
  induction patterns generalizing prepared with
  | nil => exact nofun
  | cons p patterns ih =>
    rw [List.map_cons, List.zip_cons_cons, prepare] at h
    obtain ⟨split, hsplit, h⟩ := bind_eq_ok_iff.1 h
    obtain ⟨later, hlater, -⟩ := bind_eq_ok_iff.1 h
    exact List.forall_mem_cons.2 ⟨ofClause_of_splitClauses hsplit, ih hlater⟩

/-- A text that is not accepted is refused. -/
theorem accepted_or_refused (language : Language) (source : Text) :
    (∃ patterns names, Accepted language source patterns names) ∨
      ∃ o e, Refused language source o e := by
  cases hread : Pattern.read language.vocabulary (Marked.ofText source).text with
  | error fault => exact Or.inr ⟨_, _, .reading hread⟩
  | ok read =>
    obtain ⟨patterns, names⟩ := read
    cases hpossible : (patterns.map (Program.ofPattern names)).findSome?
        (·.impossibleAt? language.vocabulary) with
    | some o => exact Or.inr ⟨_, _, .impossible hread hpossible⟩
    | none =>
      cases hprepare : prepare (Marked.ofText source) names
          (patterns.zip (patterns.map (Program.ofPattern names))) with
      | error fault => exact Or.inr ⟨_, _, .ownClause hread hpossible hprepare⟩
      | ok prepared =>
        rw [List.findSome?_eq_none_iff, List.forall_mem_map] at hpossible
        exact Or.inl ⟨_, _, hread, hpossible, ofClause_of_prepare hprepare⟩

/-- The beginning of the marked text points to the beginning of the caller's. -/
theorem pointsAt_zero (source : Text) : Marked.PointsAt source 0 0 := by
  have hbegin := Marked.mirrors_begin source
  refine .place hbegin.offset_eq_placeOf ?_
  rw [show source.after 0 = source from Text.after_append [] source]
  rw [show (Marked.ofText source).text.after 0 = _ from Text.after_append [] _]
  exact hbegin.head?_eq

theorem filterError_eq (source : Text) (fault : FilterFault) :
    filterError fault =
      .ofOffset source .predicateArgument 0 (Marked.cleanText fault.message) := by
  rw [QueryError.ofOffset, show source.before 0 = [] from Text.before_append [] source]
  rfl

/-- **Refusals are reported in the caller's text.** When the pattern language refuses a text by a
boundary of the marked text, compiling ends with an error at a boundary of the caller's text. It is
the place of the same character or the end; or the start of an operator's name, when the boundary
lies in the mark before it. Row and column are those of the place, and a text that is no pattern
or that nothing can match is shown by its row as the caller wrote it, over a caret. -/
theorem refusals_in_callers_text (h : Refused language source o e)
    (ho : (Marked.ofText source).text.isBoundary o = true) (registry : Registry) :
    compile language source registry = .error e ∧ e.Reports source o := by
  refine ⟨h.compile_eq registry, ?_⟩
  cases h with
  | reading => exact Marked.reports_ofFault ho
  | impossible => exact Marked.reports_ofFault (f := ⟨.impossible, o⟩) ho
  | ownClause =>
    rw [filterError_eq source]
    exact QueryError.reports_ofOffset (pointsAt_zero source) (Text.isBoundary_zero source) (by simp)

end

/-! ### Behind two clauses of one row -/

/-- Two operators stand before the fault in the second row, which ends with a carriage return, and
one character of each row takes two bytes. -/
def twoClauses : Text :=
  "; ü\n((identifier) @a (#eq? @a \"é\") (#match? @a !))\r\n(x)".toList

/-- The fault lies at byte 63 of the marked text, behind two marks. -/
theorem refusals_in_callers_text_twoClauses :
    ∃ e, compile .cpp twoClauses Registry.builtins = .error e ∧ e.Reports twoClauses 63 ∧
      (e.row, e.column, e.offset) = (1, 44, 49) := by
  have hread : Pattern.read Language.cpp.vocabulary (Marked.ofText twoClauses).text =
      .error ⟨.malformed, 63⟩ :=
    faultOf?_eq_some_iff.1 (by decide +kernel)
  obtain ⟨hcompile, hreports⟩ :=
    refusals_in_callers_text (.reading hread) (by decide +kernel) Registry.builtins
  exact ⟨_, hcompile, hreports, by decide +kernel⟩

end Query
end TreeQuery
