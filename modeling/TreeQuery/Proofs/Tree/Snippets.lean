/-
  TreeQuery.Proofs.Tree.Snippets

  What reports show of the text of a fault. Whether a text is shortened depends on its bytes,
  and how far on its characters. A text of over fifty bytes that has no more than 47
  characters therefore stands in the report as a whole, with dots behind it as if something
  were left out.

  * `showsHonestly_snippet_iff`: these are the only texts that are shown with dots that stand
    for nothing.
  * `SyntaxTree.snippets_honest_iff` says so of the reports of a tree.
-/

import TreeQuery.Proofs.Text.Boundary
import TreeQuery.Proofs.Tree.Faults

namespace TreeQuery

/-! ## Shortened texts -/

/-- The dots that stand for what is left out. -/
def dots : Text := ['.', '.', '.']

/-- What is shown of a text is the text, or less than the text and three dots. -/
def ShowsHonestly (shown text : Text) : Prop :=
  shown = text ∨ ∃ front back, text = front ++ back ∧ back ≠ [] ∧ shown = front ++ dots

namespace Text

theorem length_le_size (t : Text) : t.length ≤ t.size := by
  induction t with
  | nil => exact Nat.le_refl 0
  | cons c t ih =>
    have hc := c.utf8Size_pos
    rw [List.length_cons, size_cons]
    omega

/-- Where a part of a text can be cut, so can the text. -/
theorem isBoundary_of_slice? {t part : Text} {a b o : Nat} (h : t.slice? a b = some part)
    (ho : part.isBoundary o = true) : t.isBoundary (a + o) = true := by
  obtain ⟨front, back, rfl, rfl, -⟩ := slice?_eq_some_iff.1 h
  exact isBoundary_append_left (isBoundary_append_right front ho) back

theorem isBoundary_size_take (t : Text) (n : Nat) : t.isBoundary (size (t.take n)) = true :=
  isBoundary_iff.2 ⟨t.take n, t.drop n, (List.take_append_drop n t).symm, rfl⟩

end Text

variable {t : Text}

theorem snippet_eq_self (h : t.size ≤ 50) : snippet t = t := if_neg (Nat.not_lt.2 h)

theorem snippet_eq_take (h : 50 < t.size) : snippet t = t.take 47 ++ dots := if_pos h

/-- A text is shown in fifty characters at most: those that are not shortened have no more
characters than bytes. -/
theorem length_snippet_le (t : Text) : (snippet t).length ≤ 50 := by
  by_cases h : 50 < t.size
  · have htake : (t.take 47).length ≤ 47 := List.length_take_le 47 t
    rw [snippet_eq_take h, List.length_append]
    exact Nat.add_le_add_right htake 3
  · have hsize : t.size ≤ 50 := Nat.not_lt.1 h
    rw [snippet_eq_self hsize]
    exact Nat.le_trans t.length_le_size hsize

theorem showsHonestly_snippet_iff (t : Text) :
    ShowsHonestly (snippet t) t ↔ ¬ (50 < t.size ∧ t.length ≤ 47) := by
  by_cases h : 50 < t.size
  · rw [snippet_eq_take h, and_iff_right h, Nat.not_le]
    constructor
    · rintro (hwhole | ⟨front, back, htext, hback, hshown⟩)
      · -- The first 47 characters and three dots are the text only if it has fifty.
        have hlength := congrArg List.length hwhole
        simp only [List.length_append, List.length_take] at hlength
        have hdots : dots.length = 3 := rfl
        omega
      · have hfront : t.take 47 = front := List.append_cancel_right hshown
        have hpos : 0 < back.length := List.length_pos_iff.2 hback
        have hlength := congrArg List.length htext
        rw [← hfront, List.length_append, List.length_take] at hlength
        omega
    · intro hlong
      refine .inr ⟨t.take 47, t.drop 47, (List.take_append_drop 47 t).symm, ?_, rfl⟩
      exact mt List.drop_eq_nil_iff.1 (Nat.not_le.2 hlong)
  · rw [snippet_eq_self (Nat.not_lt.1 h)]
    exact iff_of_true (.inl rfl) fun hshort => h hshort.1

/-! ## Faults that are reported -/

namespace Node

mutual
theorem source_of_mem_preorderFrom (source : Text) (trail : List Crumb) (t : Tree) :
    ∀ n ∈ preorderFrom source trail t, n.source = source := by
  match t with
  | .node l cs =>
    intro n hn
    rcases List.mem_cons.1 hn with rfl | hn
    · rfl
    · exact source_of_mem_preorderOfList source trail l [] cs n hn

theorem source_of_mem_preorderOfList (source : Text) (trail : List Crumb) (parent : Label)
    (before ts : List Tree) :
    ∀ n ∈ preorderOfList source trail parent before ts, n.source = source := by
  match ts with
  | [] => exact nofun
  | t :: ts =>
    intro n hn
    rcases List.mem_append.1 hn with hn | hn
    · exact source_of_mem_preorderFrom source _ t n hn
    · exact source_of_mem_preorderOfList source trail parent _ ts n hn
end

end Node

theorem SyntaxFault.context_ofNode {n : Node} {text : Text}
    (h : n.source.slice? n.start n.stop = some text) : (ofNode n).context = snippet text := by
  show ((n.source.slice? n.start n.stop).map snippet).getD [] = snippet text
  rw [h]
  rfl

namespace SyntaxTree

/-- **What reports show.** Every report is one of a place that is an error or missing. If the
bytes of the place are a part of the source, what the report shows of them is all, or a front
of them and three dots, except for a part of over fifty bytes with no more than 47 characters:
that is shown as a whole and with dots. It is never more than fifty characters, and a part is
cut where the source can be cut. -/
theorem snippets_honest_iff (t : SyntaxTree) :
    (∀ f ∈ t.faults, ∃ n ∈ t.rootNode.preorder, n.isFault = true ∧ f = .ofNode n) ∧
    ∀ n ∈ t.rootNode.preorder, ∀ part, t.source.slice? n.start n.stop = some part →
      (ShowsHonestly (SyntaxFault.ofNode n).context part ↔
        ¬ (50 < part.size ∧ part.length ≤ 47)) ∧
      (SyntaxFault.ofNode n).context.length ≤ 50 ∧
      (part.size ≤ 50 → (SyntaxFault.ofNode n).context = part) ∧
      (50 < part.size → (SyntaxFault.ofNode n).context = part.take 47 ++ dots ∧
        t.source.isBoundary (n.start + Text.size (part.take 47)) = true) := by
  constructor
  · intro f hf
    obtain ⟨n, hn, rfl⟩ := List.mem_map.1 hf
    obtain ⟨hmem, hfault⟩ := List.mem_filter.1 (t.rootNode.faults_sublist.mem hn)
    exact ⟨n, hmem, hfault, rfl⟩
  · intro n hn part hpart
    have hsource : n.source = t.source := Node.source_of_mem_preorderFrom _ _ _ n hn
    have hcontext : (SyntaxFault.ofNode n).context = snippet part :=
      SyntaxFault.context_ofNode (hsource.symm ▸ hpart)
    rw [hcontext]
    refine ⟨showsHonestly_snippet_iff part, length_snippet_le part, snippet_eq_self, ?_⟩
    intro hlong
    exact ⟨snippet_eq_take hlong, Text.isBoundary_of_slice? hpart (part.isBoundary_size_take 47)⟩

/-- A declaration, a run of thirteen faces that no rule accounts for, and a lone semicolon. -/
def smilingLine : SyntaxTree where
  language := .cpp
  source := ['i', 'n', 't', ' ', 'x', ';', ' '] ++ List.replicate 13 '😀' ++ [';']
  root :=
    .node ⟨"translation_unit", 0, 60, true, false, true, none, false, []⟩
      [.node ⟨"declaration", 0, 6, true, false, false, none, false, []⟩
        [.node ⟨"primitive_type", 0, 3, true, false, false, some "type", true, []⟩ [],
          .node ⟨"identifier", 4, 5, true, false, false, some "declarator", true, []⟩ [],
          .node ⟨";", 5, 6, false, false, false, none, false, []⟩ []],
        .node ⟨"ERROR", 7, 59, true, false, true, none, false, []⟩
          [.node ⟨"ERROR", 7, 59, true, false, false, none, false, []⟩ []],
        .node ⟨"expression_statement", 59, 60, true, false, false, none, false, []⟩
          [.node ⟨";", 59, 60, false, false, false, none, false, []⟩ []]]

/-- No fault is missed, though the inner error is not marked as damaged. -/
example : smilingLine.rootNode.Flagged ∧ ¬ smilingLine.root.Marked :=
  ⟨Node.faults_eq_filter_iff.1 rfl, by simp [smilingLine, Tree.Marked, Tree.MarkedList,
    Tree.hasFaultInList, Tree.hasFault, Label.isFault, Label.isError, errorKind]⟩

/-- The faces are 52 bytes and 13 characters. The semicolon is shown as it is. -/
theorem snippets_honest_iff_smilingLine :
    (∃ n ∈ smilingLine.rootNode.preorder, n.isFault = true ∧
      smilingLine.source.slice? n.start n.stop = some (List.replicate 13 '😀') ∧
      ¬ ShowsHonestly (SyntaxFault.ofNode n).context (List.replicate 13 '😀')) ∧
    ∃ n ∈ smilingLine.rootNode.preorder,
      smilingLine.source.slice? n.start n.stop = some [';'] ∧
      ShowsHonestly (SyntaxFault.ofNode n).context [';'] := by
  constructor
  · refine ⟨_, Node.exists_descendant?_iff.1 ⟨[1], rfl⟩, by decide, by decide, ?_⟩
    rw [(smilingLine.snippets_honest_iff.2 _ (Node.exists_descendant?_iff.1 ⟨[1], rfl⟩) _
      (by decide)).1]
    decide
  · refine ⟨_, Node.exists_descendant?_iff.1 ⟨[2], rfl⟩, by decide, ?_⟩
    rw [(smilingLine.snippets_honest_iff.2 _ (Node.exists_descendant?_iff.1 ⟨[2], rfl⟩) _
      (by decide)).1]
    decide

/-- The report of the faces has dots behind all of them. -/
theorem honesty_fails_smilingLine :
    ¬ ∀ f ∈ smilingLine.faults, ∀ part, smilingLine.source.slice? f.start f.stop = some part →
      ShowsHonestly f.context part := by
  intro h
  have hreport : ⟨7, 59, 1, 8, List.replicate 13 '😀' ++ dots, "syntax error"⟩ ∈
      smilingLine.faults := by decide
  have hhonest := h _ hreport (List.replicate 13 '😀') (by decide)
  exact (showsHonestly_snippet_iff (List.replicate 13 '😀')).1 hhonest (by decide)

end SyntaxTree
end TreeQuery
