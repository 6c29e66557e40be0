/-
  TreeQuery.Proofs.Match.Independence

  What an execution keeps of the requests before it. A cursor notes the range that is asked
  for and has its window changed by it when an execution begins. A range that ends before
  it starts changes no window, so the window may stem from an execution long past.

  * A request changes the range only if it sets one, and the window only if it is an
    execution (`Cursor.limits_answer`); by induction, range and window after any history
    (`Cursor.limits_answerAll`).
  * `Cursor.execute_answerAll`: an execution is that of a new cursor under the last range
    in order that stood at an execution, its own included.
  * `Cursor.exists_hidden`: a window that is not all bytes hides some match.
  * `Cursor.execute_forgets_iff` tells the histories that leave no trace from the others.
-/

import Mathlib.Data.List.Induction
import TreeQuery.Proofs.Match.Requests

namespace TreeQuery

/-! ## Ranges of a history -/

/-- Whether a range ends before it starts; an end of zero stands for no end. -/
def Span.isInverted (r : Span) : Bool := r.stop != 0 && r.stop < r.start

namespace CursorRequest

/-- The range that is asked for last in a sequence, or else the one that stood before it. -/
def rangeAfter : Option Span → List CursorRequest → Option Span
  | range, [] => range
  | _, setRange range :: requests => rangeAfter (some range) requests
  | range, _ :: requests => rangeAfter range requests

/-- The ranges that stand when the executions of a sequence begin, one for each execution at
which there is one. -/
def rangesUsed : Option Span → List CursorRequest → List Span
  | _, [] => []
  | _, setRange range :: requests => rangesUsed (some range) requests
  | range, execute .. :: requests => range.toList ++ rangesUsed range requests
  | range, _ :: requests => rangesUsed range requests

/-- The range that a history has asked for last. -/
def rangeAsked (before : List CursorRequest) : Option Span := rangeAfter none before

/-- The range that an execution after a history obeys: the last that is not inverted, among
those that stand at the executions of the history and at this one. -/
def rangeObeyed (before : List CursorRequest) : Option Span :=
  ((rangesUsed none before ++ (rangeAsked before).toList).filter (!·.isInverted)).getLast?

/-- Whether an execution after a history is limited as the history has asked: the range asked
for is not inverted, or no range before it has left a limit. -/
def leavesNoTrace (before : List CursorRequest) : Bool :=
  (rangeAsked before).all (!·.isInverted) || (rangeObeyed before).all (· = ⟨0, 0⟩)

end CursorRequest

namespace Cursor

open CursorRequest

/-! ## Windows -/

theorem ofBounds?_of_isInverted {r : Span} (h : r.isInverted = true) :
    Window.ofBounds? r.start r.stop = none := by
  simp only [Span.isInverted, Bool.and_eq_true, bne_iff_ne, decide_eq_true_eq] at h
  rw [Window.ofBounds?, if_neg h.1, if_neg (Nat.not_le.2 h.2)]

/-- A range that is not inverted is a window of its own. -/
theorem exists_ofBounds? {r : Span} (h : r.isInverted = false) :
    ∃ w, Window.ofBounds? r.start r.stop = some w ∧ w.start = r.start ∧
      w.stop = if r.stop = 0 then none else some r.stop := by
  simp only [Span.isInverted, Bool.and_eq_false_iff, bne_eq_false_iff_eq,
    decide_eq_false_iff_not, Nat.not_lt] at h
  by_cases hstop : r.stop = 0
  · exact ⟨⟨r.start, none⟩, by rw [Window.ofBounds?, if_pos hstop], rfl, by rw [if_pos hstop]⟩
  · exact ⟨⟨r.start, some r.stop⟩,
      by rw [Window.ofBounds?, if_neg hstop, if_pos (h.resolve_left hstop)], rfl,
      by rw [if_neg hstop]⟩

theorem applyRange_of_isInverted (w : Window) {r : Span} (h : r.isInverted = true) :
    applyRange w (some r) = w := by
  rw [applyRange, ofBounds?_of_isInverted h, Option.getD_none]

/-- A range that is not inverted leaves nothing of the window before it. -/
theorem applyRange_eq_of_not_isInverted (w w' : Window) {r : Span} (h : r.isInverted = false) :
    applyRange w (some r) = applyRange w' (some r) := by
  obtain ⟨v, hv, -⟩ := exists_ofBounds? h
  rw [applyRange, applyRange, hv, Option.getD_some, Option.getD_some]

/-- After several ranges the window is that of the last one in order. -/
theorem foldl_applyRange (ranges : List Span) :
    ranges.foldl (fun w r => applyRange w (some r)) .everything =
      applyRange .everything (ranges.filter (!·.isInverted)).getLast? := by
  induction ranges using List.reverseRecOn with
  | nil => rfl
  | append_singleton ranges r ih =>
    -- An inverted range at the end counts for nothing, and any other one alone.
    rw [List.foldl_append, ih, List.filter_append]
    cases hr : r.isInverted with
    | true =>
      rw [List.filter_cons_of_neg (by simp [hr]), List.filter_nil, List.append_nil]
      exact applyRange_of_isInverted _ hr
    | false =>
      rw [List.filter_cons_of_pos (by simp [hr]), List.filter_nil, List.getLast?_concat]
      exact applyRange_eq_of_not_isInverted _ _ hr

/-! ## Range and window over a history -/

/-- Handing out matches changes no limit. -/
theorem limits_next (c : Cursor) : c.next.2.range = c.range ∧ c.next.2.window = c.window := by
  unfold next
  split
  · exact ⟨rfl, rfl⟩
  · split <;> exact ⟨rfl, rfl⟩

theorem limits_take (c : Cursor) (count : Nat) :
    (c.take count).2.range = c.range ∧ (c.take count).2.window = c.window := by
  induction count generalizing c with
  | zero => exact ⟨rfl, rfl⟩
  | succ count ih =>
    have hlimits := limits_next c
    rw [take]
    cases hnext : c.next with
    | mk found after =>
      rw [hnext] at hlimits
      cases found with
      | none => exact hlimits
      | some m => exact ⟨(ih after).1.trans hlimits.1, (ih after).2.trans hlimits.2⟩

/-- One request: the range changes when one is asked for, the window at an execution. -/
theorem limits_answer (c : Cursor) (r : CursorRequest) :
    (c.answer r).2.range = rangeAfter c.range [r] ∧
      (c.answer r).2.window =
        (rangesUsed c.range [r]).foldl (fun w r => applyRange w (some r)) c.window := by
  cases r with
  | setRange range => exact ⟨rfl, rfl⟩
  | execute q n evaluator =>
    refine ⟨rfl, ?_⟩
    cases hrange : c.range <;> simp [answer, execute, begin, rangesUsed, applyRange, hrange]
  | next => exact limits_next c
  | take count => exact limits_take c count
  | rest => exact limits_take c _

theorem rangeAfter_cons (range : Option Span) (r : CursorRequest)
    (requests : List CursorRequest) :
    rangeAfter range (r :: requests) = rangeAfter (rangeAfter range [r]) requests := by
  cases r <;> rfl

theorem rangesUsed_cons (range : Option Span) (r : CursorRequest)
    (requests : List CursorRequest) :
    rangesUsed range (r :: requests) =
      rangesUsed range [r] ++ rangesUsed (rangeAfter range [r]) requests := by
  cases r <;> simp [rangesUsed, rangeAfter]

/-- Any history: the range is the one asked for last, and the window has gone through the
ranges that stood at executions. -/
theorem limits_answerAll (c : Cursor) (requests : List CursorRequest) :
    (c.answerAll requests).2.range = rangeAfter c.range requests ∧
      (c.answerAll requests).2.window =
        (rangesUsed c.range requests).foldl (fun w r => applyRange w (some r)) c.window := by
  induction requests generalizing c with
  | nil => exact ⟨rfl, rfl⟩
  | cons r requests ih =>
    obtain ⟨hrange, hwindow⟩ := limits_answer c r
    rw [answerAll_cons, rangeAfter_cons, rangesUsed_cons, List.foldl_append, ← hrange, ← hwindow]
    exact ih _

/-- The window of an execution after a history. -/
theorem window_execute_answerAll (before : List CursorRequest) :
    applyRange (new.answerAll before).2.window (new.answerAll before).2.range =
      applyRange .everything (rangeObeyed before) := by
  obtain ⟨hrange, hwindow⟩ := limits_answerAll new before
  have hlast : ∀ w, applyRange w (rangeAsked before) =
      (rangeAsked before).toList.foldl (fun w r => applyRange w (some r)) w := by
    intro w
    cases rangeAsked before <;> rfl
  calc applyRange (new.answerAll before).2.window (new.answerAll before).2.range
      = applyRange ((rangesUsed none before).foldl (fun w r => applyRange w (some r)) .everything)
          (rangeAsked before) := by rw [hrange, hwindow]; rfl
    _ = (rangesUsed none before ++ (rangeAsked before).toList).foldl
          (fun w r => applyRange w (some r)) .everything := by rw [hlast, List.foldl_append]
    _ = applyRange .everything (rangeObeyed before) := foldl_applyRange _

/-! ## Executions of new cursors -/

/-- The cursor after a range has been asked for, if there is one to ask for. -/
def limited (c : Cursor) (range : Option Span) : Cursor := range.elim c c.setRange

theorem execute_new_limited (range : Option Span) (q : Query) (n : Node)
    (evaluator : Option Evaluator) :
    (new.limited range).execute q n evaluator =
      { state := .executing
        range := range
        window := applyRange .everything range
        query := some q
        evaluator := evaluator
        pending := candidates q (q.search (applyRange .everything range) n) } := by
  cases range <;> rfl

theorem rest_execute_new_limited (range : Option Span) (q : Query) (n : Node)
    (evaluator : Option Evaluator) :
    ((new.limited range).execute q n evaluator).rest.1 =
      (candidates q (q.search (applyRange .everything range) n)).filter (q.admits evaluator) := by
  rw [rest_fst, remaining_execute]
  cases range <;> rfl

/-- Where no range is asked for at the end, none ever was. -/
theorem rangesUsed_eq_nil {range : Option Span} {requests : List CursorRequest}
    (h : rangeAfter range requests = none) : range = none ∧ rangesUsed range requests = [] := by
  induction requests generalizing range with
  | nil => exact ⟨h, rfl⟩
  | cons r requests ih =>
    rw [rangeAfter_cons] at h
    rw [rangesUsed_cons]
    obtain ⟨hrange, hused⟩ := ih h
    rw [hused, List.append_nil]
    cases r with
    | setRange range => cases hrange
    | execute q n evaluator =>
      refine ⟨hrange, ?_⟩
      rw [show range = none from hrange]
      rfl
    | next => exact ⟨hrange, rfl⟩
    | take count => exact ⟨hrange, rfl⟩
    | rest => exact ⟨hrange, rfl⟩

theorem rangeObeyed_eq_none {before : List CursorRequest} (h : rangeAsked before = none) :
    rangeObeyed before = none := by
  rw [rangeObeyed, (rangesUsed_eq_nil h).2, h]
  rfl

/-- A range in order is obeyed. -/
theorem rangeObeyed_eq_rangeAsked {before : List CursorRequest} {r : Span}
    (h : rangeAsked before = some r) (hr : r.isInverted = false) :
    rangeObeyed before = some r := by
  rw [rangeObeyed, h, Option.toList_some, List.filter_append,
    List.filter_cons_of_pos (by simp [hr]), List.filter_nil, List.getLast?_concat]

/-- The range obeyed is in order. -/
theorem isInverted_of_rangeObeyed {before : List CursorRequest} {r : Span}
    (h : rangeObeyed before = some r) : r.isInverted = false := by
  have hr := (List.mem_filter.1 (List.mem_of_getLast? h)).2
  simpa using hr

/-- **What an execution obeys.** It is that of a new cursor under the range obeyed; only the
    range that it notes is the one asked for. -/
theorem execute_answerAll (before : List CursorRequest) (q : Query) (n : Node)
    (evaluator : Option Evaluator) :
    (new.answerAll before).2.execute q n evaluator =
      { (new.limited (rangeObeyed before)).execute q n evaluator with
        range := rangeAsked before } := by
  rw [execute_new_limited, ← window_execute_answerAll]
  have hrange := (limits_answerAll new before).1
  -- An execution overwrites all that a cursor holds but its range.
  cases hc : (new.answerAll before).2 with
  | mk state range window query evaluator pending =>
    rw [hc] at hrange
    cases hrange
    rfl

theorem rest_execute_answerAll (before : List CursorRequest) (q : Query) (n : Node)
    (evaluator : Option Evaluator) :
    ((new.answerAll before).2.execute q n evaluator).rest.1 =
      ((new.limited (rangeObeyed before)).execute q n evaluator).rest.1 := by
  rw [execute_answerAll, rest_fst, rest_fst]
  rfl

/-- After a history that leaves no trace the window is the one that the range asked for has in
a new cursor. -/
theorem applyRange_of_leavesNoTrace {before : List CursorRequest}
    (h : leavesNoTrace before = true) :
    applyRange .everything (rangeObeyed before) =
      applyRange .everything (rangeAsked before) := by
  cases hasked : rangeAsked before with
  | none => rw [rangeObeyed_eq_none hasked]
  | some r =>
    cases hr : r.isInverted with
    | false => rw [rangeObeyed_eq_rangeAsked hasked hr]
    | true =>
      -- The range asked for is inverted, so no range obeyed before it may be a limit.
      simp only [leavesNoTrace, hasked, Option.all_some, hr, Bool.not_true, Bool.false_or] at h
      rw [applyRange_of_isInverted _ hr]
      cases hobeyed : rangeObeyed before with
      | none => rfl
      | some s =>
        rw [hobeyed, Option.all_some, decide_eq_true_eq] at h
        rw [h]
        rfl

/-! ## What a window hides -/

/-- A source of `p` blanks: its module covers nothing. -/
def blanks (p : Nat) : SyntaxTree :=
  ⟨.python, List.replicate p ' ',
    .node ⟨"module", p, p, true, false, false, none, true, []⟩ []⟩

/-- The program of the pattern `(module) @m`. -/
def modules : Program where
  steps := #[
    { Step.ofTest ⟨.kind "module" true, false, false, none⟩ 0 false with captures := [0] },
    .complete]
  origins := [(0, 0)]

theorem meets_blanks (w : Window) (p : Nat) :
    w.meets none (blanks p).root.label = true ↔ w.start ≤ p ∧ ∀ stop ∈ w.stop, p < stop := by
  change (true && !(decide (p < w.start) || (p != p && p == w.start)) &&
    !w.stop.any (· ≤ p)) = true ↔ _
  cases w.stop <;> simp

/-- At the module a match begins if the module meets the window, and none otherwise. -/
theorem beginAll_blanks (w : Window) (p : Nat) :
    (Search.ofPrograms #[modules] w).beginAll (Sight.ofNode (blanks p).rootNode 0) [] =
      if w.meets none (blanks p).root.label then [⟨0, 0, 0, [], true, false, false⟩] else [] := by
  have hsearch : Search.ofPrograms #[modules] w = ⟨#[modules], [], [(0, ⟨0, true⟩)], w⟩ := rfl
  rw [hsearch]
  cases hmeets : w.meets none (blanks p).root.label <;>
    simp [Search.beginAll, Search.begin, Search.stepAt?, Search.insert, Search.insertBack,
      modules, Step.ofTest, Sight.ofNode, SyntaxTree.rootNode, Sight.label, Node.label,
      Label.isError, errorKind, blanks] at hmeets ⊢ <;>
    simp [hmeets]

/-- The match captures the module and is complete. -/
theorem advance_blanks (p : Nat) :
    Thread.advance #[modules] (Sight.ofNode (blanks p).rootNode 0)
        ⟨0, 0, 0, [], true, false, false⟩ =
      [⟨0, 1, 0, [(0, (blanks p).rootNode)], false, false, false⟩] := by
  simp [Thread.advance, Thread.branch, Sight.fits, Sight.fitsKind, Sight.ofNode,
    Sight.hasLaterSibling, Sight.label, Node.label, SyntaxTree.rootNode, modules, Step.ofTest,
    Step.isWild, Step.complete, blanks]

/-- A search for modules finds the module exactly when it meets the window. -/
theorem run_blanks (w : Window) (p : Nat) :
    (Search.ofPrograms #[modules] w).run (blanks p).rootNode =
      if w.meets none (blanks p).root.label then [⟨0, [(0, (blanks p).rootNode)]⟩] else [] := by
  have hprune : Thread.prune #[modules]
      [⟨0, 1, 0, [(0, (blanks p).rootNode)], false, false, false⟩] =
        ([], [⟨0, [(0, (blanks p).rootNode)]⟩]) := by
    simp [Thread.prune, Thread.meetRivals, Thread.isComplete, Thread.waitsAt, Thread.toMatch,
      modules, Step.complete, Step.isComplete]
  have hprograms : (Search.ofPrograms #[modules] w).programs = #[modules] := rfl
  have hentered : (Search.ofPrograms #[modules] w).enter (Sight.ofNode (blanks p).rootNode 0)
      ⟨[], []⟩ = ⟨[], if w.meets none (blanks p).root.label then
        [⟨0, [(0, (blanks p).rootNode)]⟩] else []⟩ := by
    rw [Search.enter, beginAll_blanks]
    cases w.meets none (blanks p).root.label with
    | false => simp [Thread.prune]
    | true =>
      rw [if_pos rfl, if_pos rfl, List.flatMap_singleton, hprograms, advance_blanks, hprune]
      rfl
  have hroot : (blanks p).rootNode.tree = .node (blanks p).root.label [] := rfl
  have hsight : Sight.ofNode
      ⟨(blanks p).rootNode.source, .node (blanks p).root.label [], (blanks p).rootNode.trail⟩ 0 =
        Sight.ofNode (blanks p).rootNode 0 := rfl
  rw [Search.run, hroot, Search.walk, hsight, hentered]
  -- The module has no children, and nothing is left over for its end.
  simp only [Search.walkList, ite_self, Search.leave, List.filter_nil, List.map_nil,
    List.reverse_nil, List.nil_append]
  cases w.meets none (blanks p).root.label <;> rfl

deriving instance DecidableEq for Step, Program

/-- The query `(module) @m` searches for modules. -/
theorem exists_compile_modules :
    ∃ q, Query.compile .python "(module) @m".toList .builtins = .ok q ∧ q.captures = ["m"] ∧
      ∀ w n, q.search w n = (Search.ofPrograms #[modules] w).run n := by
  have hcompile : (Query.compile .python "(module) @m".toList .builtins).toOption.any
      (fun q => q.captures = ["m"] ∧ q.patterns.map (·.program) = [modules] ∧
        q.patterns.all (·.filters.isEmpty)) = true := by decide +kernel
  obtain ⟨q, hq, htest⟩ := Query.exists_compile_of_any hcompile
  simp only [decide_eq_true_eq] at htest
  obtain ⟨hcaptures, hprograms, hfilters⟩ := htest
  refine ⟨q, hq, hcaptures, fun w n => ?_⟩
  rw [Query.search, hprograms]
  refine List.filter_eq_self.2 fun m _ => ?_
  -- The pattern has no text filters.
  rw [List.getElem?_toArray, List.getElem?_map]
  cases hp : q.patterns[m.pattern]? with
  | none => rfl
  | some p =>
    have hnone := List.all_eq_true.1 hfilters p (List.mem_of_getElem? hp)
    rw [Option.map_some, Option.getD_some, List.isEmpty_iff.1 hnone]
    rfl

/-- A window hides the module that covers nothing, unless it meets it. -/
theorem rest_execute_modules {q : Query} (hcaptures : q.captures = ["m"])
    (hsearch : ∀ w n, q.search w n = (Search.ofPrograms #[modules] w).run n) (c : Cursor)
    (p : Nat) :
    (c.execute q (blanks p).rootNode none).rest.1 =
      if (applyRange c.window c.range).meets none (blanks p).root.label then
        [⟨0, [⟨0, "m", (blanks p).rootNode⟩]⟩]
      else [] := by
  rw [rest_fst, remaining_execute, admits_none, hsearch, run_blanks]
  split <;> simp [candidates, Match.inOrder, Match.ofRaw, Match.ofCaptures, hcaptures]

/-- A window that is not all bytes does not meet some place. -/
theorem exists_not_meets {r : Span} (hr : r.isInverted = false) (hne : r ≠ ⟨0, 0⟩) :
    ∃ p, (applyRange .everything (some r)).meets none (blanks p).root.label = false := by
  obtain ⟨w, hw, hstart, hstop⟩ := exists_ofBounds? hr
  rw [applyRange, hw, Option.getD_some]
  by_cases hzero : r.start = 0
  · -- The window starts with the text, so it has an end, and the place is there.
    have hend : r.stop ≠ 0 := fun hend => hne (by cases r; simp_all)
    refine ⟨r.stop, Bool.eq_false_iff.2 fun hmeets => ?_⟩
    rw [if_neg hend] at hstop
    exact Nat.lt_irrefl _ (((meets_blanks w r.stop).1 hmeets).2 r.stop hstop)
  · refine ⟨0, Bool.eq_false_iff.2 fun hmeets => hzero ?_⟩
    rw [← hstart]
    exact Nat.le_zero.1 ((meets_blanks w 0).1 hmeets).1

/-- What a history that leaves a trace looks like at its end. -/
theorem exists_of_leavesNoTrace_eq_false {before : List CursorRequest}
    (h : leavesNoTrace before = false) :
    ∃ r s, rangeAsked before = some r ∧ r.isInverted = true ∧
      rangeObeyed before = some s ∧ s ≠ ⟨0, 0⟩ := by
  rw [leavesNoTrace, Bool.or_eq_false_iff] at h
  cases hasked : rangeAsked before with
  | none => simp [hasked] at h
  | some r =>
    cases hobeyed : rangeObeyed before with
    | none => simp [hobeyed] at h
    | some s => exact ⟨r, s, rfl, by simpa [hasked] using h.1, rfl, by simpa [hobeyed] using h.2⟩

/-- Where a history leaves a trace, an execution after it misses a match that a new cursor under
the range asked for would find. -/
theorem exists_hidden {before : List CursorRequest} (h : leavesNoTrace before = false) :
    ∃ (q : Query) (t : SyntaxTree),
      Query.compile t.language "(module) @m".toList .builtins = .ok q ∧
      ((new.answerAll before).2.execute q t.rootNode none).rest.1 = [] ∧
      ((new.limited (rangeAsked before)).execute q t.rootNode none).rest.1 ≠ [] := by
  obtain ⟨q, hq, hcaptures, hsearch⟩ := exists_compile_modules
  obtain ⟨r, s, hasked, hr, hobeyed, hne⟩ := exists_of_leavesNoTrace_eq_false h
  obtain ⟨p, hp⟩ := exists_not_meets (isInverted_of_rangeObeyed hobeyed) hne
  refine ⟨q, blanks p, hq, ?_, ?_⟩
  · rw [rest_execute_modules hcaptures hsearch, window_execute_answerAll, hobeyed, hp]
    rfl
  · -- The new cursor takes no window from the inverted range.
    have hmeets : Window.everything.meets none (blanks p).root.label = true :=
      (meets_blanks _ p).2 ⟨Nat.zero_le p, fun _ hnone => by cases hnone⟩
    rw [rest_execute_modules hcaptures hsearch, hasked]
    change (if (applyRange .everything (some r)).meets none (blanks p).root.label then _ else _) ≠ _
    rw [applyRange_of_isInverted _ hr, hmeets]
    exact List.cons_ne_nil _ _

/-- **Which histories leave no trace.** An execution after any history obeys the last range
    that is not inverted, among those that stood at executions and the one that stands now, and
    nothing else of the history. So it hands out what a new cursor under the range asked for
    hands out, whatever the query and the tree, exactly when that range is not inverted or no
    range before it has left a limit; then the two cursors are equal. -/
theorem execute_forgets_iff (before : List CursorRequest) :
    let c := (new.answerAll before).2
    let fresh := new.limited (rangeAsked before)
    (∀ q n evaluator, c.execute q n evaluator =
      { (new.limited (rangeObeyed before)).execute q n evaluator with
        range := rangeAsked before }) ∧
    ((∀ (t : SyntaxTree) (text : Text) (q : Query) (evaluator : Option Evaluator),
        Query.compile t.language text .builtins = .ok q →
          (c.execute q t.rootNode evaluator).rest.1 =
            (fresh.execute q t.rootNode evaluator).rest.1) ↔
      leavesNoTrace before = true) ∧
    (leavesNoTrace before = true → ∀ q n evaluator,
      c.execute q n evaluator = fresh.execute q n evaluator) := by
  intro c fresh
  have hequal : leavesNoTrace before = true → ∀ q n evaluator,
      c.execute q n evaluator = fresh.execute q n evaluator := by
    intro h q n evaluator
    rw [execute_answerAll, execute_new_limited, execute_new_limited,
      applyRange_of_leavesNoTrace h]
  refine ⟨execute_answerAll before, ⟨fun hsame => ?_, fun h t text q evaluator _ => ?_⟩, hequal⟩
  · by_contra htrace
    obtain ⟨q, t, hq, hmissed, hfound⟩ := exists_hidden (Bool.eq_false_iff.2 htrace)
    exact hfound ((hsame t _ q none hq).symm.trans hmissed)
  · rw [hequal h]

/-! ## A trace -/

/-- Two numbers are looked for in the second line, then in a range that is inverted. -/
def invertedAfterLine (q : Query) : List CursorRequest :=
  [.setRange ⟨2, 3⟩, .execute q twoNumbers.rootNode none, .setRange ⟨3, 1⟩]

theorem spans_twoNumbers :
    ∃ q, Query.compile .python "(integer) @n".toList .builtins = .ok q ∧
      (((new.limited (some ⟨2, 3⟩)).execute q twoNumbers.rootNode none).rest.1).map (·.span?) =
        [some ⟨2, 3⟩] ∧
      (((new.limited (some ⟨3, 1⟩)).execute q twoNumbers.rootNode none).rest.1).map (·.span?) =
        [some ⟨0, 1⟩, some ⟨2, 3⟩] := by
  have hrun : (Query.compile .python "(integer) @n".toList .builtins).toOption.any (fun q =>
      (candidates q (q.search ⟨2, some 3⟩ twoNumbers.rootNode)).map (·.span?) = [some ⟨2, 3⟩] ∧
      (candidates q (q.search .everything twoNumbers.rootNode)).map (·.span?) =
        [some ⟨0, 1⟩, some ⟨2, 3⟩]) = true := by
    simp only [Query.candidates_eq_insertionSort]
    decide +kernel
  obtain ⟨q, hq, hspans⟩ := Query.exists_compile_of_any hrun
  obtain ⟨hline, hall⟩ := of_decide_eq_true hspans
  refine ⟨q, hq, ?_, ?_⟩
  · rw [rest_execute_new_limited, admits_none]
    exact hline
  · rw [rest_execute_new_limited, admits_none]
    exact hall

/-- The past is not forgotten: after an inverted range the limit of the execution before still
    holds, where a new cursor has none. -/
theorem forgets_fails_twoNumbers :
    ∃ q, Query.compile .python "(integer) @n".toList .builtins = .ok q ∧
      (((new.answerAll (invertedAfterLine q)).2.execute q twoNumbers.rootNode none).rest.1).map
        (·.span?) = [some ⟨2, 3⟩] ∧
      (((new.setRange ⟨3, 1⟩).execute q twoNumbers.rootNode none).rest.1).map (·.span?) =
        [some ⟨0, 1⟩, some ⟨2, 3⟩] := by
  obtain ⟨q, hq, hline, hall⟩ := spans_twoNumbers
  refine ⟨q, hq, ?_, hall⟩
  rw [rest_execute_answerAll]
  exact hline

/-- Its history leaves a trace: the range obeyed is that of the second line, so some query and
    tree tell the cursor from a new one. -/
theorem execute_forgets_invertedAfterLine :
    ∃ q, Query.compile .python "(integer) @n".toList .builtins = .ok q ∧
      rangeAsked (invertedAfterLine q) = some ⟨3, 1⟩ ∧
      rangeObeyed (invertedAfterLine q) = some ⟨2, 3⟩ ∧
      ¬ ∀ (t : SyntaxTree) (text : Text) (p : Query) (evaluator : Option Evaluator),
        Query.compile t.language text .builtins = .ok p →
          ((new.answerAll (invertedAfterLine q)).2.execute p t.rootNode evaluator).rest.1 =
            ((new.setRange ⟨3, 1⟩).execute p t.rootNode evaluator).rest.1 := by
  obtain ⟨q, hq, -⟩ := spans_twoNumbers
  obtain ⟨-, hiff, -⟩ := execute_forgets_iff (invertedAfterLine q)
  refine ⟨q, hq, rfl, rfl, fun hsame => ?_⟩
  have hforgets := hiff.1 hsame
  have htrace : leavesNoTrace (invertedAfterLine q) = false := rfl
  rw [htrace] at hforgets
  cases hforgets

end Cursor
end TreeQuery
