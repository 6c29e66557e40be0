/-
  TreeQuery.Proofs.Match.Preorder

  The order of matches against the order of the tree. Matches are put in order by the
  spans of their outermost nodes; the tree orders places by their paths, and a match by
  the first place that it captures (`Match.FirstAt`).

  In a nested tree the two orders agree up to two cases. A match whose first place is
  empty gives way to a match that starts with it and is longer, and matches of one span
  stay as the search found them. `Cursor.returned_before_iff` says that there are no
  other cases, whatever the search found and in whatever order.
-/

import TreeQuery.Proofs.Match.Cursor
import TreeQuery.Proofs.Query.Compile
import TreeQuery.Proofs.Tree.Preorder

namespace TreeQuery

/-! ## Spans of matches -/

namespace Span

theorem isBefore_iff {a b : Span} :
    a.isBefore b = true ↔ a.start < b.start ∨ a.start = b.start ∧ b.stop ≤ a.stop := by
  simp [isBefore]

theorem isBefore_refl (a : Span) : a.isBefore a = true :=
  isBefore_iff.2 (Or.inr ⟨rfl, Nat.le_refl _⟩)

theorem isBefore_trans {a b c : Span} (hab : a.isBefore b = true) (hbc : b.isBefore c = true) :
    a.isBefore c = true := by
  rw [isBefore_iff] at *
  omega

theorem isBefore_of_not_isBefore {a b : Span} (h : ¬ a.isBefore b = true) :
    b.isBefore a = true := by
  rw [isBefore_iff] at *
  omega

end Span

namespace Match

/-- The outermost span is one of the spans and before all of them. -/
theorem outermost?_spec {spans : List Span} {s : Span} (h : outermost? spans = some s) :
    s ∈ spans ∧ ∀ t ∈ spans, s.isBefore t = true := by
  cases spans with
  | nil => cases h
  | cons first rest =>
    obtain rfl := Option.some.inj h
    clear h
    -- The best span so far is before all that have been passed.
    induction rest generalizing first with
    | nil => simp [Span.isBefore_refl]
    | cons t rest ih =>
      rw [List.foldl_cons]
      obtain ⟨hmem, hbefore⟩ := ih (if first.isBefore t then first else t)
      have hbest := hbefore _ List.mem_cons_self
      constructor
      · rcases List.mem_cons.1 hmem with heq | hmem
        · rw [heq]
          split <;> simp
        · exact List.mem_cons_of_mem _ (List.mem_cons_of_mem _ hmem)
      · rw [List.forall_mem_cons, List.forall_mem_cons]
        refine ⟨?_, ?_, fun u hu => hbefore u (List.mem_cons_of_mem _ hu)⟩
        · refine Span.isBefore_trans hbest ?_
          split
          · exact Span.isBefore_refl _
          · exact Span.isBefore_of_not_isBefore ‹_›
        · refine Span.isBefore_trans hbest ?_
          split
          · assumption
          · exact Span.isBefore_refl _

/-- The span of a match is that of a captured node and before those of all. -/
theorem span?_spec {m : Match} {s : Span} (h : m.span? = some s) :
    (∃ c ∈ m.captures, c.node.span = s) ∧ ∀ c ∈ m.captures, s.isBefore c.node.span = true := by
  obtain ⟨hmem, hbefore⟩ := outermost?_spec h
  exact ⟨List.mem_map.1 hmem, fun c hc => hbefore _ (List.mem_map_of_mem hc)⟩

theorem mayPrecede_iff {a b : Match} {s t : Span} (ha : a.span? = some s) (hb : b.span? = some t) :
    a.mayPrecede b = true ↔ s.isBefore t = true := by
  rw [mayPrecede, ha, hb]

/-! ## The first place of a match -/

/-- `p` is the first place, in pre-order, that the match captures. -/
structure FirstAt (m : Match) (p : Node) : Prop where
  captured : ∃ c ∈ m.captures, c.node = p
  first : ∀ c ∈ m.captures, ¬ c.node.path < p.path

/-- The captures of a match are places of the tree at a node. -/
def Inside (m : Match) (root : Node) : Prop := ∀ c ∈ m.captures, c.node ∈ root.preorder

variable {root : Node} {a b m : Match} {p q : Node}

theorem FirstAt.mem_preorder (h : m.FirstAt p) (hm : m.Inside root) : p ∈ root.preorder := by
  obtain ⟨c, hc, rfl⟩ := h.captured
  exact hm c hc

theorem FirstAt.isSome_span? (h : m.FirstAt p) : ∃ s, m.span? = some s := by
  obtain ⟨c, hc, -⟩ := h.captured
  cases hcaptures : m.captures with
  | nil => rw [hcaptures] at hc; cases hc
  | cons first rest => exact ⟨_, by rw [span?, hcaptures, List.map_cons]; rfl⟩

/-- Every other capture comes after the first place. -/
theorem FirstAt.eq_or_path_lt (h : m.FirstAt p) (hm : m.Inside root) {c : MatchCapture}
    (hc : c ∈ m.captures) : p = c.node ∨ p.path < c.node.path := by
  rcases Node.eq_or_related_of_pairwise (Node.preorder_pairwise_path_lt root)
    (h.mem_preorder hm) (hm c hc) with heq | hlt | hlt
  · exact Or.inl heq
  · exact Or.inr hlt
  · exact absurd hlt (h.first c hc)

/-- In a nested tree a match starts where its first place starts. -/
theorem FirstAt.start_eq (h : m.FirstAt p) (hm : m.Inside root)
    (hroot : root.tree.isNested = true) {s : Span} (hs : m.span? = some s) :
    s.start = p.start ∧ p.stop ≤ s.stop := by
  obtain ⟨⟨d, hd, hspan⟩, hbefore⟩ := span?_spec hs
  obtain ⟨c, hc, hcp⟩ := h.captured
  have hle := Span.isBefore_iff.1 (hbefore c hc)
  rw [hcp] at hle
  have hstart : p.start ≤ s.start := by
    rw [← hspan]
    rcases h.eq_or_path_lt hm hd with heq | hlt
    · rw [heq]; exact Nat.le_refl _
    · exact (Node.Spaced.of_path_lt hroot (h.mem_preorder hm) (hm d hd) hlt).start_le
  rcases hle with hlt | ⟨heq, hstop⟩
  · exact absurd hlt (Nat.not_lt.2 hstart)
  · exact ⟨heq, hstop⟩

/-- What starts with a place that is not empty, at it or after it, lies in it. -/
theorem stop_le_of_start_eq (hroot : root.tree.isNested = true) (hp : p ∈ root.preorder)
    (hq : q ∈ root.preorder) (hpq : p = q ∨ p.path < q.path) (hfull : p.start < p.stop)
    (hstart : q.start = p.start) : q.stop ≤ p.stop := by
  rcases hpq with rfl | hlt
  · exact Nat.le_refl _
  · rcases (Node.Spaced.of_path_lt hroot hp hq hlt).apart_or_inside with hapart | hinside
    · omega
    · exact hinside

/-- **Spans against places.** In a nested tree, let a match begin before another. The other may
    stand before it only when they have one span, or when its first place is empty and the
    other starts with it and is longer. -/
theorem mayPrecede_iff_of_path_lt (hroot : root.tree.isNested = true) (ha : a.Inside root)
    (hb : b.Inside root) (hp : a.FirstAt p) (hq : b.FirstAt q) (hpq : p.path < q.path)
    {s t : Span} (hs : a.span? = some s) (ht : b.span? = some t) :
    b.mayPrecede a = true ↔
      s = t ∨ p.start = p.stop ∧ s.start = t.start ∧ s.stop < t.stop := by
  have hpmem := hp.mem_preorder ha
  obtain ⟨hsstart, hsstop⟩ := hp.start_eq ha hroot hs
  obtain ⟨htstart, -⟩ := hq.start_eq hb hroot ht
  have hle := (Node.Spaced.of_path_lt hroot hpmem (hq.mem_preorder hb) hpq).start_le
  rw [mayPrecede_iff ht hs, Span.isBefore_iff]
  constructor
  · intro hbefore
    obtain ⟨hstart, hstop⟩ : t.start = s.start ∧ s.stop ≤ t.stop := by omega
    rcases Nat.eq_or_lt_of_le (Node.start_le_stop_of_mem_preorder hroot hpmem) with hempty | hfull
    · rcases Nat.eq_or_lt_of_le hstop with heq | hlt
      · exact Or.inl (by cases s; cases t; simp_all)
      · exact Or.inr ⟨hempty, hstart.symm, hlt⟩
    · -- The other match starts with `p`, so its outermost node lies in `p`.
      left
      obtain ⟨⟨d, hd, hspan⟩, -⟩ := span?_spec ht
      have hafter : p.path < d.node.path := by
        rcases hq.eq_or_path_lt hb hd with heq | hlt
        · exact heq ▸ hpq
        · exact List.lt_trans hpq hlt
      have hdstart : d.node.start = p.start := by
        rw [← hsstart, ← hstart, ← hspan]
        rfl
      have hinside := stop_le_of_start_eq hroot hpmem (hb d hd) (Or.inr hafter) hfull hdstart
      have htstop : t.stop = d.node.stop := by
        rw [← hspan]
        rfl
      cases s
      cases t
      simp only [Span.mk.injEq] at *
      omega
  · rintro (rfl | ⟨-, hstart, hstop⟩)
    · exact Or.inr ⟨rfl, Nat.le_refl _⟩
    · exact Or.inr ⟨hstart.symm, Nat.le_of_lt hstop⟩

/-! ## Matches of one span -/

/-- A stable sort leaves elements that tie with each other in their order. -/
theorem filter_insertionSort {α : Type} (r : α → α → Prop) [DecidableRel r] (tied : α → Bool)
    (h : ∀ x y, tied x = true → tied y = true → r x y) (l : List α) :
    (l.insertionSort r).filter tied = l.filter tied := by
  -- An element goes before the first that it is related to, so before all that tie with it.
  have hinsert : ∀ (x : α) (sorted : List α),
      (sorted.orderedInsert r x).filter tied = (x :: sorted).filter tied := by
    intro x sorted
    induction sorted with
    | nil => rfl
    | cons y sorted ih =>
      rw [List.orderedInsert_cons]
      split
      · rfl
      · next hxy =>
        rw [List.filter_cons, ih, List.filter_cons, List.filter_cons, List.filter_cons]
        cases hx : tied x <;> cases hy : tied y
        · rfl
        · rfl
        · rfl
        · exact absurd (h x y hx hy) hxy
  induction l with
  | nil => rfl
  | cons x l ih => rw [List.insertionSort_cons, hinsert, List.filter_cons, List.filter_cons, ih]

/-- Matches of one span stay in the order in which they were found. -/
theorem pair_sublist_inOrder_iff {found : List Match} (h : a.span? = b.span?) :
    [b, a].Sublist (inOrder found) ↔ [b, a].Sublist found := by
  -- A stable sort leaves the matches of this span as they were, and both are among them.
  have hfilter : (inOrder found).filter (·.span? == a.span?) =
      found.filter (·.span? == a.span?) := by
    rw [inOrder_eq_insertionSort]
    refine filter_insertionSort _ _ (fun x y hx hy => ?_) found
    rw [beq_iff_eq] at hx hy
    have htotal := mayPrecede_total x y
    rw [Bool.or_eq_true] at htotal
    rcases htotal with hxy | hyx
    · exact hxy
    · rw [mayPrecede, hx, hy] at hyx
      rwa [mayPrecede, hx, hy]
  have hpair : [b, a].filter (·.span? == a.span?) = [b, a] := by simp [h]
  constructor
  · intro hsub
    have hsub := hsub.filter (·.span? == a.span?)
    rw [hpair, hfilter] at hsub
    exact hsub.trans List.filter_sublist
  · intro hsub
    have hsub := hsub.filter (·.span? == a.span?)
    rw [hpair, ← hfilter] at hsub
    exact hsub.trans List.filter_sublist

end Match

/-! ## Runs -/

namespace Cursor

/-- What a run on raw matches hands out. -/
theorem rest_begin (c : Cursor) (q : Query) (evaluator : Option Evaluator) (raw : List RawMatch) :
    (c.begin q evaluator raw).rest.1 = (candidates q raw).filter (q.admits evaluator) := by
  rw [rest_fst, remaining_of_executing rfl]
  apply List.filter_congr
  intro m _
  cases evaluator <;> rfl

theorem candidates_inside {root : Node} {q : Query} {raw : List RawMatch}
    (hraw : ∀ m ∈ raw, ∀ c ∈ m.captures, c.2 ∈ root.preorder) {m : Match}
    (hm : m ∈ candidates q raw) : m.Inside root := by
  obtain ⟨r, hr, rfl⟩ := List.mem_map.1 (List.mem_mergeSort.1 hm)
  intro c hc
  exact hraw r hr _ (Query.mem_captures_ofRaw hc)

/-- **The order of a run.** A run below a node of a nested tree, on any raw matches of places
    there in any order: let it hand out two matches, of which one begins before the other in
    pre-order. It hands out the other first in two cases only. They have one span, and the
    search found the other first; or the first place of the one is empty, and the other starts
    with it and is longer. -/
theorem returned_before_iff (c : Cursor) (q : Query) (evaluator : Option Evaluator)
    (root : Node) (raw : List RawMatch) (hroot : root.tree.isNested = true)
    (hraw : ∀ m ∈ raw, ∀ x ∈ m.captures, x.2 ∈ root.preorder) {a b : Match}
    (ha : a ∈ (c.begin q evaluator raw).rest.1) (hb : b ∈ (c.begin q evaluator raw).rest.1)
    {p r : Node} (hp : a.FirstAt p) (hr : b.FirstAt r) (hpr : p.path < r.path) :
    [b, a].Sublist (c.begin q evaluator raw).rest.1 ↔
      a.span? = b.span? ∧ [b, a].Sublist (raw.map (Match.ofRaw q.captures)) ∨
        p.start = p.stop ∧ ∃ s t, a.span? = some s ∧ b.span? = some t ∧
          s.start = t.start ∧ s.stop < t.stop := by
  rw [rest_begin] at ha hb ⊢
  obtain ⟨ha, haccept⟩ := List.mem_filter.1 ha
  obtain ⟨hb, hbccept⟩ := List.mem_filter.1 hb
  have hinside : ∀ {m : Match}, m ∈ candidates q raw → m.Inside root := candidates_inside hraw
  obtain ⟨s, hs⟩ := hp.isSome_span?
  obtain ⟨t, ht⟩ := hr.isSome_span?
  have hprecede := Match.mayPrecede_iff_of_path_lt hroot (hinside ha) (hinside hb) hp hr hpr hs ht
  -- Both are accepted, so the candidates that are not make no difference to their order.
  have haccepted : [b, a].Sublist ((candidates q raw).filter (q.admits evaluator)) ↔
      [b, a].Sublist (candidates q raw) := by
    refine ⟨fun h => h.trans List.filter_sublist, fun h => ?_⟩
    have hsub := h.filter (q.admits evaluator)
    rwa [List.filter_cons_of_pos hbccept, List.filter_cons_of_pos haccept] at hsub
  have hordered : ∀ {m n : Match}, [m, n].Sublist (candidates q raw) → m.mayPrecede n = true :=
    List.pairwise_iff_forall_sublist.1
      (List.pairwise_mergeSort Match.mayPrecede_trans Match.mayPrecede_total _)
  rw [haccepted]
  constructor
  · intro hsub
    rcases hprecede.1 (hordered hsub) with rfl | ⟨hempty, hstart, hstop⟩
    · have hspan : a.span? = b.span? := hs.trans ht.symm
      exact Or.inl ⟨hspan, (Match.pair_sublist_inOrder_iff hspan).1 hsub⟩
    · exact Or.inr ⟨hempty, s, t, hs, ht, hstart, hstop⟩
  · rintro (⟨hspan, hsub⟩ | ⟨-, s', t', hs', ht', hstart, hstop⟩)
    · exact (Match.pair_sublist_inOrder_iff hspan).2 hsub
    · -- The longer one may not stand second.
      have hlate : ¬ a.mayPrecede b = true := by
        rw [Match.mayPrecede_iff hs' ht', Span.isBefore_iff]
        omega
      have hne : a ≠ b := by
        rintro rfl
        obtain ⟨x, hx, rfl⟩ := hp.captured
        exact hr.first x hx hpr
      rcases pair_sublist_or_swap ha hb hne with hab | hba
      · exact absurd (hordered hab) hlate
      · exact hba

/-! ### A node and its only child

A source of one name is a statement, and the statement is the name: both have one span. The
search finds the name when it enters it and the repeated statement when it leaves it. -/

/-- A source of one name. -/
def loneName : SyntaxTree :=
  let label := fun (kind : String) =>
    (⟨kind, 0, 1, true, false, false, none, true, []⟩ : Label)
  ⟨.python, "x".toList,
    .node (label "module") [.node (label "expression_statement") [.node (label "identifier") []]]⟩

/-- A query for statements with names in them, and for names. -/
def statementsAndNames : Text :=
  "(expression_statement (identifier)+) @statement (identifier) @name".toList

/-- A match that captures one node begins there. -/
theorem firstAt_of_captures_eq {m : Match} {c : MatchCapture} (h : m.captures = [c]) :
    m.FirstAt c.node where
  captured := ⟨c, by rw [h]; exact List.mem_singleton.2 rfl, rfl⟩
  first d hd := by
    rw [h] at hd
    rw [List.mem_singleton.1 hd]
    exact List.lt_irrefl _

/-- The name is handed out before the statement that it stands in. -/
theorem matches_loneName :
    ∃ q c d, Query.compile .python statementsAndNames .builtins = .ok q ∧
      q.matches loneName.rootNode none = [⟨1, [c]⟩, ⟨0, [d]⟩] ∧
      d.node.path = [0] ∧ c.node.path = [0, 0] := by
  have hrun : (Query.compile .python statementsAndNames .builtins).toOption.any
      (fun q => (q.matches loneName.rootNode none).map (fun m =>
        (m.pattern, m.captures.map (·.node.path))) = [(1, [[0, 0]]), (0, [[0]])]) = true := by
    simp only [Query.matches_eq_filter, Query.candidates_eq_insertionSort]
    decide +kernel
  obtain ⟨q, hq, hmatches⟩ := Query.exists_compile_of_any hrun
  have hmatches := of_decide_eq_true hmatches
  simp only [List.map_eq_cons_iff, List.map_eq_nil_iff, Prod.mk.injEq] at hmatches
  obtain ⟨⟨_, _⟩, _, hlist, ⟨rfl, c, _, rfl, hc, rfl⟩, ⟨_, _⟩, _, rfl, ⟨rfl, d, _, rfl, hd, rfl⟩,
    rfl⟩ := hmatches
  exact ⟨q, c, d, hq, hlist, hd, hc⟩

/-- The order of the tree is not kept: a match is handed out before one that begins at a place
    above it. -/
theorem order_fails_loneName :
    ∃ q a b p r, Query.compile .python statementsAndNames .builtins = .ok q ∧
      a.FirstAt p ∧ b.FirstAt r ∧ p.path < r.path ∧
      q.matches loneName.rootNode none = [b, a] := by
  obtain ⟨q, c, d, hq, hmatches, hd, hc⟩ := matches_loneName
  refine ⟨q, ⟨0, [d]⟩, ⟨1, [c]⟩, d.node, c.node, hq, firstAt_of_captures_eq rfl,
    firstAt_of_captures_eq rfl, ?_, hmatches⟩
  rw [hd, hc]
  decide

/-- It is the first case: both have the span of the source, and the name was found first. -/
theorem returned_before_loneName :
    ∃ q a b p r, Query.compile .python statementsAndNames .builtins = .ok q ∧
      loneName.root.isNested = true ∧
      (∀ m ∈ q.search .everything loneName.rootNode, ∀ x ∈ m.captures,
        x.2 ∈ loneName.rootNode.preorder) ∧
      a ∈ q.matches loneName.rootNode none ∧ b ∈ q.matches loneName.rootNode none ∧
      a.FirstAt p ∧ b.FirstAt r ∧ p.path < r.path ∧
      (a.span? = b.span? ∧ [b, a].Sublist
          ((q.search .everything loneName.rootNode).map (Match.ofRaw q.captures)) ∨
        p.start = p.stop ∧ ∃ s t, a.span? = some s ∧ b.span? = some t ∧
          s.start = t.start ∧ s.stop < t.stop) := by
  obtain ⟨q, c, d, hq, hmatches, hd, hc⟩ := matches_loneName
  have hnested : loneName.root.isNested = true := by decide
  have hplaces : ∀ m ∈ q.search .everything loneName.rootNode, ∀ x ∈ m.captures,
      x.2 ∈ loneName.rootNode.preorder :=
    fun m hm x hx => Search.mem_preorder_of_mem_run (List.mem_filter.1 hm).1 hx
  have ha : (⟨0, [d]⟩ : Match) ∈ q.matches loneName.rootNode none := by simp [hmatches]
  have hb : (⟨1, [c]⟩ : Match) ∈ q.matches loneName.rootNode none := by simp [hmatches]
  have hlt : d.node.path < c.node.path := by
    rw [hd, hc]
    decide
  have hiff := returned_before_iff new q none loneName.rootNode _ hnested hplaces ha hb
    (firstAt_of_captures_eq rfl) (firstAt_of_captures_eq rfl) hlt
  exact ⟨q, _, _, _, _, hq, hnested, hplaces, ha, hb, firstAt_of_captures_eq rfl,
    firstAt_of_captures_eq rfl, hlt, hiff.1 (hmatches ▸ List.Sublist.refl _)⟩

end Cursor
end TreeQuery
