/-
  TreeQuery.Proofs.Match.Cursor

  What a cursor still has to hand out. A cursor that is executing keeps candidates of
  which it has not looked at any; `Cursor.remaining` are those that it will accept. To
  take one match is to take the head of this list, so the cursor's laziness does not
  show:

  * `Cursor.next_fst` and `Cursor.remaining_next` for one match,
  * `Cursor.take_fst` and `Cursor.rest_fst` for several and for all,
  * `Query.matches_eq_filter` for a whole run of a query.

  The nodes of a match are places at or below the node at which its query was run
  (`Query.mem_preorder_of_mem_matches`).
-/

import TreeQuery.Match.Cursor
import TreeQuery.Proofs.Match.Order
import TreeQuery.Proofs.Search.Places

namespace TreeQuery

namespace Cursor

/-- The matches that a cursor has not handed out yet. -/
def remaining (c : Cursor) : List Match :=
  if c.state = .executing then c.pending.filter c.accepts else []

theorem remaining_of_executing {c : Cursor} (h : c.state = .executing) :
    c.remaining = c.pending.filter c.accepts := by
  rw [remaining, if_pos h]

theorem remaining_of_ne_executing {c : Cursor} (h : c.state ≠ .executing) :
    c.remaining = [] := by
  rw [remaining, if_neg h]

/-- Skipping the rejected ones in front does not change what is accepted. -/
theorem filter_dropWhile_not {α : Type} (p : α → Bool) (l : List α) :
    (l.dropWhile (!p ·)).filter p = l.filter p := by
  induction l with
  | nil => rfl
  | cons a l ih =>
    by_cases h : p a = true
    · rw [List.dropWhile_cons_of_neg (by simp [h])]
    · rw [List.dropWhile_cons_of_pos (by simp [h]), List.filter_cons_of_neg h]
      exact ih

/-- What follows the rejected ones in front is accepted. -/
theorem accepted_of_dropWhile_eq_cons {α : Type} {p : α → Bool} {l rest : List α} {a : α}
    (h : l.dropWhile (!p ·) = a :: rest) : p a = true := by
  have hhead := List.head?_dropWhile_not (p := (!p ·)) l
  rw [h] at hhead
  simpa using hhead

/-- The next match is the first that remains, and then the others remain. -/
theorem next_remaining (c : Cursor) :
    c.next.1 = c.remaining.head? ∧ c.next.2.remaining = c.remaining.tail := by
  by_cases hstate : c.state = .executing
  · rw [remaining_of_executing hstate, ← filter_dropWhile_not]
    cases hfront : c.pending.dropWhile (!c.accepts ·) with
    | nil =>
      have hnext : c.next = (none, { c with state := .exhausted, pending := [] }) := by
        simp only [next, hstate, ne_eq, not_true, if_false, hfront]
      rw [hnext]
      exact ⟨rfl, remaining_of_ne_executing fun h => by cases h⟩
    | cons m pending =>
      have hm := accepted_of_dropWhile_eq_cons hfront
      have hnext : c.next = (some m, { c with pending := pending }) := by
        simp only [next, hstate, ne_eq, not_true, if_false, hfront]
      rw [hnext, List.filter_cons_of_pos hm]
      exact ⟨rfl, remaining_of_executing hstate⟩
  · have hnext : c.next = (none, c) := by
      simp only [next, ne_eq, hstate, not_false_eq_true, if_true]
    rw [hnext, remaining_of_ne_executing hstate]
    exact ⟨rfl, rfl⟩

theorem next_fst (c : Cursor) : c.next.1 = c.remaining.head? := (next_remaining c).1

theorem remaining_next (c : Cursor) : c.next.2.remaining = c.remaining.tail :=
  (next_remaining c).2

/-- Taking matches takes them from the front of what remains. -/
theorem take_fst (c : Cursor) (n : Nat) : (c.take n).1 = c.remaining.take n := by
  induction n generalizing c with
  | zero => rfl
  | succ n ih =>
    have hfst := next_fst c
    have hrest := remaining_next c
    rw [take]
    cases hnext : c.next with
    | mk found after =>
      rw [hnext] at hfst hrest
      cases found with
      | none =>
        have hnil : c.remaining = [] := List.head?_eq_none_iff.1 hfst.symm
        rw [hnil]
        rfl
      | some m =>
        obtain ⟨ms, hms⟩ := List.head?_eq_some_iff.1 hfst.symm
        rw [hms] at hrest ⊢
        simp only [ih after, hrest, List.tail_cons, List.take_succ_cons]

/-- All that remain are handed out at once. -/
theorem rest_fst (c : Cursor) : c.rest.1 = c.remaining := by
  rw [rest, take_fst]
  apply List.take_of_length_le
  unfold remaining
  split
  · exact Nat.le_succ_of_le (List.length_filter_le _ _)
  · exact Nat.zero_le _

end Cursor

namespace Query

/-- Whether an evaluator, if there is one, accepts a match. -/
def admits (q : Query) (evaluator : Option Evaluator) (m : Match) : Bool :=
  evaluator.all (·.accepts q m)

/-- The candidates of a run, with both orders made one by one. -/
theorem candidates_eq_insertionSort (q : Query) (raw : List RawMatch) :
    Cursor.candidates q raw =
      (raw.map fun m : RawMatch => (⟨m.pattern,
        (m.captures.filterMap fun (index, node) =>
            (q.captures[index]?).map (⟨index, ·, node⟩)).insertionSort
          fun a b => decide (a.node.start ≤ b.node.start) = true⟩ : Match)).insertionSort
        (Match.mayPrecede · · = true) := by
  rw [Cursor.candidates, Match.inOrder_eq_insertionSort]
  congr 1
  apply List.map_congr_left
  intro m _
  rw [Match.ofRaw, Match.ofCaptures_eq_insertionSort]

/-- **A run hands out the accepted candidates.** The matches of a query are its candidates in
    order, without those that the evaluator rejects. -/
theorem matches_eq_filter (q : Query) (n : Node) (evaluator : Option Evaluator) :
    q.matches n evaluator =
      (Cursor.candidates q (q.search .everything n)).filter (q.admits evaluator) := by
  rw [Query.matches, Cursor.rest_fst, Cursor.remaining_of_executing rfl]
  apply List.filter_congr
  intro m _
  cases evaluator <;> rfl

/-- The captures of a match are captures of a raw match, under their names. -/
theorem mem_captures_ofRaw {names : List String} {raw : RawMatch} {c : MatchCapture}
    (hc : c ∈ (Match.ofRaw names raw).captures) : (c.index, c.node) ∈ raw.captures := by
  obtain ⟨⟨index, node⟩, hraw, hname⟩ := List.mem_filterMap.1 (List.mem_mergeSort.1 hc)
  obtain ⟨name, -, rfl⟩ := Option.map_eq_some_iff.1 hname
  exact hraw

/-- Every node of a match is a place at or below the node at which the query was run. -/
theorem mem_preorder_of_mem_matches {q : Query} {n : Node} {evaluator : Option Evaluator}
    {m : Match} (hm : m ∈ q.matches n evaluator) {c : MatchCapture} (hc : c ∈ m.captures) :
    c.node ∈ n.preorder := by
  rw [matches_eq_filter] at hm
  obtain ⟨raw, hraw, rfl⟩ := List.mem_map.1 (List.mem_mergeSort.1 (List.mem_filter.1 hm).1)
  exact Search.mem_preorder_of_mem_run (List.mem_filter.1 hraw).1 (mem_captures_ofRaw hc)

end Query
end TreeQuery
