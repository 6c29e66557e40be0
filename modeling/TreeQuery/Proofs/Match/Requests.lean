/-
  TreeQuery.Proofs.Match.Requests

  Whole lives of a cursor. A caller sends a cursor any sequence of requests: limit the
  range, execute, hand out one match, some, or all that remain. `Cursor.answer` is the
  reply to one request, `Cursor.answerAll` those to a sequence.

  * One request hands out matches from the front of what remains
    (`Cursor.found_append_remaining`) and ends the run when it meets none
    (`Cursor.state_answer`).
  * By induction the same holds of every sequence without an execution
    (`Cursor.found_append_remaining_all`, `Cursor.state_answerAll`).
  * `Cursor.requests_law` puts both after an execution: the replies, with what remains,
    are the accepted candidates in order.
-/

import TreeQuery.Proofs.Match.Cursor
import TreeQuery.Proofs.Query.Compile

namespace TreeQuery

/-! ## Requests and replies -/

/-- What a caller can ask of a cursor. -/
inductive CursorRequest where
  | setRange (range : Span)
  | execute (q : Query) (n : Node) (evaluator : Option Evaluator)
  | next
  | take (count : Nat)
  | rest

/-- What a caller gets for a request: matches, and whether the last answer was that there is
none. -/
structure CursorReply where
  found : List Match
  ended : Bool

namespace CursorRequest

def isExecute : CursorRequest → Bool
  | execute .. => true
  | setRange _ | next | take _ | rest => false

def asksForMatches : CursorRequest → Bool
  | next | take _ | rest => true
  | setRange _ | execute .. => false

end CursorRequest

/-- The matches of several replies, one reply after the other. -/
def CursorReply.allFound (replies : List CursorReply) : List Match := replies.flatMap (·.found)

/-- `arranged` holds the matches `found` in order: those without captures first, the others by
start and the longer first, and matches of equal place as they were found. -/
structure Match.Arranged (found arranged : List Match) : Prop where
  perm : arranged.Perm found
  ordered : arranged.Pairwise (·.mayPrecede · = true)
  stable : ∀ a b, a.mayPrecede b = true → [a, b].Sublist found → [a, b].Sublist arranged

theorem Match.arranged_inOrder (found : List Match) : Arranged found (inOrder found) where
  perm := List.mergeSort_perm _ _
  ordered := List.pairwise_mergeSort mayPrecede_trans mayPrecede_total found
  stable _ _ hab hfound := List.pair_sublist_mergeSort mayPrecede_trans mayPrecede_total hab hfound

namespace Cursor

/-- A cursor's reply to a request, and the cursor after it. Up to `count` matches are asked for
one by one, so fewer of them means that the last answer was none; all that remain are asked for
until there is none. -/
def answer (c : Cursor) : CursorRequest → CursorReply × Cursor
  | .setRange range => (⟨[], false⟩, c.setRange range)
  | .execute q n evaluator => (⟨[], false⟩, c.execute q n evaluator)
  | .next => (⟨c.next.1.toList, c.next.1.isNone⟩, c.next.2)
  | .take count => (⟨(c.take count).1, (c.take count).1.length < count⟩, (c.take count).2)
  | .rest => (⟨c.rest.1, true⟩, c.rest.2)

/-- The replies to several requests, and the cursor after them. -/
def answerAll (c : Cursor) : List CursorRequest → List CursorReply × Cursor
  | [] => ([], c)
  | r :: requests =>
    let later := (c.answer r).2.answerAll requests
    ((c.answer r).1 :: later.1, later.2)

@[simp] theorem answerAll_nil (c : Cursor) : c.answerAll [] = ([], c) := rfl

@[simp] theorem answerAll_cons (c : Cursor) (r : CursorRequest) (requests : List CursorRequest) :
    c.answerAll (r :: requests) =
      ((c.answer r).1 :: ((c.answer r).2.answerAll requests).1,
        ((c.answer r).2.answerAll requests).2) := rfl

/-! ## Taking several matches -/

/-- What remains after some matches have been taken. -/
theorem remaining_take (c : Cursor) (count : Nat) :
    (c.take count).2.remaining = c.remaining.drop count := by
  induction count generalizing c with
  | zero => rfl
  | succ count ih =>
    have hfst := next_fst c
    have hrest := remaining_next c
    rw [take]
    cases hnext : c.next with
    | mk found after =>
      rw [hnext] at hfst hrest
      cases found with
      | none =>
        have hnil : c.remaining = [] := List.head?_eq_none_iff.1 hfst.symm
        simp only [hnil, List.tail_nil] at hrest
        rw [hnil, List.drop_nil]
        exact hrest
      | some m =>
        -- The match is the head of what remained, and the rest of it remains.
        obtain ⟨ms, hms⟩ := List.head?_eq_some_iff.1 hfst.symm
        rw [hms, List.tail_cons] at hrest
        rw [hms, List.drop_succ_cons, ← hrest]
        exact ih after

theorem remaining_rest (c : Cursor) : c.rest.2.remaining = [] := by
  rw [rest, remaining_take, List.drop_eq_nil_iff]
  unfold remaining
  split
  · exact Nat.le_succ_of_le (List.length_filter_le _ _)
  · exact Nat.zero_le _

/-! ## Stages -/

/-- A cursor that is not executing hands out nothing and stays as it is. -/
theorem next_of_ne_executing {c : Cursor} (h : c.state ≠ .executing) : c.next = (none, c) := by
  simp only [next, ne_eq, h, not_false_eq_true, if_true]

theorem take_of_ne_executing {c : Cursor} (h : c.state ≠ .executing) (count : Nat) :
    c.take count = ([], c) := by
  cases count with
  | zero => rfl
  | succ count => rw [take, next_of_ne_executing h]

/-- A cursor that is executing is exhausted by the answer that there is none, and by no other. -/
theorem state_next {c : Cursor} (h : c.state = .executing) :
    c.next.2.state = if c.next.1.isNone then .exhausted else .executing := by
  simp only [next, h, ne_eq, not_true, if_false]
  split <;> rfl

theorem state_take {c : Cursor} (h : c.state = .executing) (count : Nat) :
    (c.take count).2.state =
      if (c.take count).1.length < count then .exhausted else .executing := by
  induction count generalizing c with
  | zero => simpa [take] using h
  | succ count ih =>
    have hstate := state_next h
    rw [take]
    cases hnext : c.next with
    | mk found after =>
      rw [hnext] at hstate
      cases found with
      | none => simpa using hstate
      | some m => simpa using ih hstate

theorem state_rest {c : Cursor} (h : c.state = .executing) : c.rest.2.state = .exhausted := by
  -- More matches are asked for than there are candidates.
  have hfewer : (c.take (c.pending.length + 1)).1.length < c.pending.length + 1 := by
    have hrest := rest_fst c
    rw [rest] at hrest
    rw [hrest, remaining_of_executing h]
    exact Nat.lt_succ_of_le (List.length_filter_le _ _)
  rw [rest, state_take h, if_pos hfewer]

/-! ## One request -/

/-- The reply to a request comes from the front of what remains. -/
theorem found_append_remaining (c : Cursor) {r : CursorRequest} (h : r.isExecute = false) :
    (c.answer r).1.found ++ (c.answer r).2.remaining = c.remaining := by
  cases r with
  | setRange range => rfl
  | execute q n evaluator => cases h
  | next =>
    simp only [answer, next_fst, remaining_next]
    cases c.remaining <;> rfl
  | take count =>
    simp only [answer, take_fst, remaining_take]
    exact List.take_append_drop _ _
  | rest => simp only [answer, rest_fst, remaining_rest, List.append_nil]

/-- A request that is no execution ends a run or leaves the stage as it is. -/
theorem state_answer (c : Cursor) {r : CursorRequest} (h : r.isExecute = false) :
    (c.answer r).2.state =
      if c.state = .executing ∧ (c.answer r).1.ended then .exhausted else c.state := by
  by_cases hstate : c.state = .executing
  · cases r with
    | setRange range => simp [answer, setRange]
    | execute q n evaluator => cases h
    | next => simpa [answer, hstate] using state_next hstate
    | take count => simpa [answer, hstate] using state_take hstate count
    | rest => simpa [answer, hstate] using state_rest hstate
  · cases r with
    | setRange range => simp [answer, setRange]
    | execute q n evaluator => cases h
    | next => simp [answer, next_of_ne_executing hstate, hstate]
    | take count => simp [answer, take_of_ne_executing hstate, hstate]
    | rest => simp [answer, rest, take_of_ne_executing hstate, hstate]

/-- Outside a run a request for matches finds none and changes nothing. -/
theorem answer_of_ne_executing {c : Cursor} (hstate : c.state ≠ .executing) {r : CursorRequest}
    (h : r.asksForMatches = true) : (c.answer r).1.found = [] ∧ (c.answer r).2 = c := by
  cases r with
  | setRange range => cases h
  | execute q n evaluator => cases h
  | next => simp [answer, next_of_ne_executing hstate]
  | take count => simp [answer, take_of_ne_executing hstate]
  | rest => simp [answer, rest, take_of_ne_executing hstate]

/-! ## Several requests -/

/-- The replies to a sequence without an execution come from the front of what remains. -/
theorem found_append_remaining_all (c : Cursor) {requests : List CursorRequest}
    (h : ∀ r ∈ requests, r.isExecute = false) :
    CursorReply.allFound (c.answerAll requests).1 ++ (c.answerAll requests).2.remaining =
      c.remaining := by
  induction requests generalizing c with
  | nil => rfl
  | cons r requests ih =>
    obtain ⟨hr, hrequests⟩ := List.forall_mem_cons.1 h
    rw [answerAll_cons, CursorReply.allFound, List.flatMap_cons, List.append_assoc]
    calc (c.answer r).1.found ++ (CursorReply.allFound ((c.answer r).2.answerAll requests).1 ++
          ((c.answer r).2.answerAll requests).2.remaining)
        = (c.answer r).1.found ++ (c.answer r).2.remaining := by rw [ih _ hrequests]
      _ = c.remaining := found_append_remaining c hr

/-- A run ends with the first answer that there is none, and stays at its end. -/
theorem state_answerAll (c : Cursor) {requests : List CursorRequest}
    (h : ∀ r ∈ requests, r.isExecute = false) :
    (c.answerAll requests).2.state =
      if c.state = .executing ∧ (c.answerAll requests).1.any (·.ended) then .exhausted
      else c.state := by
  induction requests generalizing c with
  | nil => simp
  | cons r requests ih =>
    obtain ⟨hr, hrequests⟩ := List.forall_mem_cons.1 h
    rw [answerAll_cons, ih _ hrequests, state_answer c hr, List.any_cons]
    by_cases hstate : c.state = .executing
    · cases (c.answer r).1.ended <;> simp [hstate]
    · simp [hstate]

/-- Without an execution a new cursor finds nothing and stays idle. -/
theorem idle_of_no_execute {requests : List CursorRequest}
    (h : ∀ r ∈ requests, r.isExecute = false) :
    (new.answerAll requests).2.state = .idle ∧
      CursorReply.allFound (new.answerAll requests).1 = [] := by
  refine ⟨?_, ?_⟩
  · rw [state_answerAll new h, if_neg fun hexec => by cases hexec.1]
    rfl
  · have hfound := found_append_remaining_all new h
    have hnone : new.remaining = [] := remaining_of_ne_executing fun hexec => by cases hexec
    rw [hnone, List.append_eq_nil_iff] at hfound
    exact hfound.1

/-! ## Executions -/

/-- What a run has to hand out: its candidates in order, without those that are rejected. -/
theorem remaining_execute (c : Cursor) (q : Query) (n : Node) (evaluator : Option Evaluator) :
    (c.execute q n evaluator).remaining =
      (candidates q (q.search (applyRange c.window c.range) n)).filter (q.admits evaluator) := by
  rw [remaining_of_executing rfl]
  apply List.filter_congr
  intro m _
  cases evaluator <;> rfl

theorem admits_none (q : Query) (ms : List Match) : ms.filter (q.admits none) = ms :=
  List.filter_eq_self.2 fun _ _ => rfl

/-- **What a cursor does from one execution to the next.** Whatever was asked before, and
    whatever is asked after it: the matches handed out and those that remain are, in this
    order, the accepted ones among the candidates of the execution, which stand in order; the
    cursor executes until it answers that there is none. Before the first execution it is
    idle. Idle and exhausted cursors hand out nothing and stay as they are. An evaluator
    filters what a run without one would hand out. -/
theorem requests_law (before after : List CursorRequest) (q : Query) (n : Node)
    (evaluator : Option Evaluator) (hafter : ∀ r ∈ after, r.isExecute = false) :
    let c := (new.answerAll before).2
    let raw := (q.search (applyRange c.window c.range) n).map (Match.ofRaw q.captures)
    let run := (c.execute q n evaluator).answerAll after
    Match.Arranged raw (Match.inOrder raw) ∧
      CursorReply.allFound run.1 ++ run.2.rest.1 =
        (Match.inOrder raw).filter (q.admits evaluator) ∧
      run.2.state = (if run.1.any (·.ended) then .exhausted else .executing) ∧
      ((∀ r ∈ before, r.isExecute = false) →
        c.state = .idle ∧ CursorReply.allFound (new.answerAll before).1 = []) ∧
      (∀ d : Cursor, d.state ≠ .executing → ∀ r : CursorRequest, r.asksForMatches = true →
        (d.answer r).1.found = [] ∧ (d.answer r).2 = d) ∧
      ∀ e : Evaluator, (c.execute q n (some e)).rest.1 =
        (c.execute q n none).rest.1.filter (e.accepts q) := by
  intro c raw run
  refine ⟨Match.arranged_inOrder raw, ?_, ?_, idle_of_no_execute, fun d hd r hr => ?_, fun e => ?_⟩
  · rw [rest_fst, found_append_remaining_all _ hafter, remaining_execute]
    rfl
  · have hstate := state_answerAll (c.execute q n evaluator) hafter
    have hexec : (c.execute q n evaluator).state = .executing := rfl
    simpa [hexec] using hstate
  · exact answer_of_ne_executing hd hr
  · rw [rest_fst, rest_fst, remaining_execute, remaining_execute, admits_none]
    rfl

/-- A source of two lines with a number in each. -/
def twoNumbers : SyntaxTree :=
  let label := fun (kind : String) (start stop : Nat) =>
    (⟨kind, start, stop, true, false, false, none, true, []⟩ : Label)
  ⟨.python, "1\n2".toList,
    .node (label "module" 0 3) [
      .node (label "expression_statement" 0 1) [.node (label "integer" 0 1) []],
      .node (label "expression_statement" 2 3) [.node (label "integer" 2 3) []]]⟩

/-- Of the two numbers the first is rejected. The second is handed out, and the request after
    it ends the run. -/
theorem requests_law_twoNumbers :
    ∃ q, Query.compile .python "((integer) @n (#eq? @n \"2\"))".toList .builtins = .ok q ∧
      (∀ r ∈ [CursorRequest.next, .take 2], r.isExecute = false) ∧
      let run := (new.execute q twoNumbers.rootNode (some ⟨twoNumbers.source⟩)).answerAll
        [.next, .take 2]
      CursorReply.allFound run.1 ++ run.2.rest.1 =
        (candidates q (q.search .everything twoNumbers.rootNode)).filter
          (q.admits (some ⟨twoNumbers.source⟩)) ∧
      (CursorReply.allFound run.1).map (·.span?) = [some ⟨2, 3⟩] ∧ run.2.state = .exhausted := by
  have hrun : (Query.compile .python "((integer) @n (#eq? @n \"2\"))".toList .builtins).toOption.any
      (fun q =>
        let accepted := (candidates q (q.search .everything twoNumbers.rootNode)).filter
          (q.admits (some ⟨twoNumbers.source⟩))
        accepted.map (·.span?) = [some ⟨2, 3⟩]) = true := by
    simp only [Query.candidates_eq_insertionSort]
    decide +kernel
  obtain ⟨q, hq, hspans⟩ := Query.exists_compile_of_any hrun
  obtain ⟨m, haccepted, hspan⟩ := List.map_eq_singleton_iff.1 (of_decide_eq_true hspans)
  have hrequests : ∀ r ∈ [CursorRequest.next, .take 2], r.isExecute = false := by decide
  obtain ⟨-, hfound, hstate, -⟩ := requests_law [] [.next, .take 2] q twoNumbers.rootNode
    (some ⟨twoNumbers.source⟩) hrequests
  have hremaining : (new.execute q twoNumbers.rootNode (some ⟨twoNumbers.source⟩)).remaining =
      [m] := by
    rw [remaining_execute]
    exact haccepted
  refine ⟨q, hq, hrequests, hfound, ?_, ?_⟩
  · simp [answer, CursorReply.allFound, next_fst, take_fst, remaining_next, hremaining, hspan]
  · refine hstate.trans ?_
    simp [answer, next_fst, take_fst, remaining_next, hremaining]

end Cursor
end TreeQuery
