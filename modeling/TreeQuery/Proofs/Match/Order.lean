/-
  TreeQuery.Proofs.Match.Order

  The orders in which captures and matches stand. Both are sorted by a stable sort, and
  a stable sort puts one element after the other in its place
  (`mergeSort_eq_insertionSort`): an element goes before those that it may precede and
  that came after it.
-/

import Mathlib.Data.List.Pairwise
import Mathlib.Data.List.Sort
import TreeQuery.Match.Basic

namespace TreeQuery

/-- A stable sort is an insertion sort, whether or not different elements can tie. -/
theorem mergeSort_eq_insertionSort {α : Type} {le : α → α → Bool}
    (htrans : ∀ a b c, le a b = true → le b c = true → le a c = true)
    (htotal : ∀ a b, (le a b || le b a) = true) (l : List α) :
    l.mergeSort le = l.insertionSort (le · · = true) := by
  induction l with
  | nil => rw [List.mergeSort_nil, List.insertionSort_nil]
  | cons a l ih =>
    obtain ⟨front, back, hsorted, hrest, hfront⟩ := List.mergeSort_cons htrans htotal a l
    have hback : ∀ b ∈ back, le a b = true := by
      have hpairs := List.pairwise_mergeSort htrans htotal (a :: l)
      rw [hsorted, List.pairwise_append, List.pairwise_cons] at hpairs
      exact hpairs.2.1.1
    rw [hsorted, List.insertionSort_cons, ← ih, hrest]
    clear hsorted hrest ih
    induction front with
    | nil =>
      cases back with
      | nil => rfl
      | cons b back =>
        have hab := hback b List.mem_cons_self
        rw [List.nil_append, List.nil_append, List.orderedInsert_cons, if_pos hab]
    | cons b front ih =>
      obtain ⟨hb, hfront⟩ := List.forall_mem_cons.1 hfront
      have hab : ¬ le a b = true := by simpa using hb
      rw [List.cons_append, List.cons_append, List.orderedInsert_cons, if_neg hab, ← ih hfront]

/-! ## Pairs in a list -/

/-- Two elements of a list stand in one order or the other. -/
theorem pair_sublist_or_swap {α : Type} {l : List α} {a b : α} (ha : a ∈ l)
    (hb : b ∈ l) (hne : a ≠ b) : [a, b].Sublist l ∨ [b, a].Sublist l := by
  have hsymm : Std.Symm fun a b : α => [a, b].Sublist l ∨ [b, a].Sublist l := ⟨fun _ _ => Or.symm⟩
  have hpairs : l.Pairwise fun a b => [a, b].Sublist l ∨ [b, a].Sublist l :=
    List.pairwise_iff_forall_sublist.2 Or.inl
  exact hpairs.forall ha hb hne

/-- Without repetition two elements stand in one order only. -/
theorem eq_of_pair_sublist_of_swap {α : Type} {l : List α} {a b : α}
    (hl : l.Nodup) (hab : [a, b].Sublist l) (hba : [b, a].Sublist l) : a = b := by
  induction l with
  | nil => cases hab
  | cons c l ih =>
    obtain ⟨hc, hl⟩ := List.nodup_cons.1 hl
    rcases List.sublist_cons_iff.1 hab with hab' | ⟨l', heq, hab'⟩
    · rcases List.sublist_cons_iff.1 hba with hba' | ⟨l', heq, hba'⟩
      · exact ih hl hab' hba'
      · obtain ⟨rfl, rfl⟩ := List.cons.inj heq
        exact absurd (hab'.subset (by simp)) hc
    · obtain ⟨rfl, rfl⟩ := List.cons.inj heq
      rcases List.sublist_cons_iff.1 hba with hba' | ⟨l'', heq', -⟩
      · exact absurd (hba'.subset (by simp)) hc
      · exact (List.cons.inj heq').1.symm

/-! ## Orders by a number -/

theorem le_on_trans {α : Type} (f : α → Nat) (a b c : α) (hab : decide (f a ≤ f b) = true)
    (hbc : decide (f b ≤ f c) = true) : decide (f a ≤ f c) = true := by
  rw [decide_eq_true_eq] at hab hbc ⊢
  omega

theorem le_on_total {α : Type} (f : α → Nat) (a b : α) :
    (decide (f a ≤ f b) || decide (f b ≤ f a)) = true := by
  rw [Bool.or_eq_true, decide_eq_true_eq, decide_eq_true_eq]
  omega

namespace Match

/-! ## Matches and captures -/

theorem mayPrecede_total (a b : Match) : (a.mayPrecede b || b.mayPrecede a) = true := by
  unfold mayPrecede
  cases a.span? <;> cases b.span? <;> try rfl
  simp only [Span.isBefore, Bool.or_eq_true, Bool.and_eq_true, decide_eq_true_eq, beq_iff_eq]
  omega

theorem mayPrecede_trans (a b c : Match) (hab : a.mayPrecede b = true)
    (hbc : b.mayPrecede c = true) : a.mayPrecede c = true := by
  unfold mayPrecede at *
  cases ha : a.span? with
  | none => rfl
  | some s =>
    cases hb : b.span? with
    | none => simp [ha, hb] at hab
    | some t =>
      cases hc : c.span? with
      | none => simp [hb, hc] at hbc
      | some u =>
        simp only [ha, hb, hc, Span.isBefore, Bool.or_eq_true, Bool.and_eq_true,
          decide_eq_true_eq, beq_iff_eq] at hab hbc ⊢
        omega

/-- Matches are put in order one by one. -/
theorem inOrder_eq_insertionSort (ms : List Match) :
    inOrder ms = ms.insertionSort (mayPrecede · · = true) :=
  mergeSort_eq_insertionSort mayPrecede_trans mayPrecede_total ms

/-- The captures of a match are put in order one by one. -/
theorem ofCaptures_eq_insertionSort (pattern : Nat) (captures : List MatchCapture) :
    ofCaptures pattern captures =
      ⟨pattern, captures.insertionSort fun a b => decide (a.node.start ≤ b.node.start) = true⟩ := by
  rw [ofCaptures]
  congr 1
  exact mergeSort_eq_insertionSort (le_on_trans fun c : MatchCapture => c.node.start)
    (le_on_total fun c : MatchCapture => c.node.start) captures

end Match
end TreeQuery
