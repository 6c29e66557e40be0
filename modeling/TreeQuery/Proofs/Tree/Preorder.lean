/-
  TreeQuery.Proofs.Tree.Preorder

  The order of places in a tree. The path of a place is read like a word, child index by
  child index: a place comes before another when its path does, that is when it is a
  proper ancestor or lies in an earlier subtree.

  * `Node.preorder_pairwise_path_lt`: the listing of a tree in pre-order is in this order.
  * `Tree.isNested`: the spans of children lie in that of their parent and one after the
    other, as a parser puts them.
  * `Node.Spaced.of_path_lt`: in a nested tree the span of a place that comes before
    another starts no later, and either ends before the other's starts or covers it.
-/

import TreeQuery.Tree.Node

namespace TreeQuery

/-! ## Nested spans -/

mutual
/-- Whether every node runs forwards and its children lie inside it, one after the other. -/
def Tree.isNested : Tree → Bool
  | .node l cs => l.start ≤ l.stop && areNestedBetween l.start l.stop cs

/-- Whether trees lie between two offsets, one after the other, and are nested themselves. -/
def Tree.areNestedBetween (start stop : Nat) : List Tree → Bool
  | [] => true
  | t :: ts =>
    start ≤ t.label.start && t.label.stop ≤ stop && isNested t &&
      areNestedBetween t.label.stop stop ts
end

namespace Tree

theorem isNested_node_iff {l : Label} {cs : List Tree} :
    (node l cs).isNested = true ↔
      l.start ≤ l.stop ∧ areNestedBetween l.start l.stop cs = true := by
  simp [isNested]

theorem areNestedBetween_cons_iff {start stop : Nat} {t : Tree} {ts : List Tree} :
    areNestedBetween start stop (t :: ts) = true ↔
      start ≤ t.label.start ∧ t.label.stop ≤ stop ∧ t.isNested = true ∧
        areNestedBetween t.label.stop stop ts = true := by
  simp [areNestedBetween, and_assoc]

theorem start_le_stop_of_isNested {t : Tree} (h : t.isNested = true) :
    t.label.start ≤ t.label.stop := by
  cases t
  exact (isNested_node_iff.1 h).1

end Tree

namespace Node

/-! ## Paths -/

/-- The path of the place at the end of a trail. -/
def pathOf (trail : List Crumb) : List Nat := (trail.map (·.before.length)).reverse

theorem pathOf_cons (c : Crumb) (trail : List Crumb) :
    pathOf (c :: trail) = pathOf trail ++ [c.before.length] := by
  simp [pathOf]

mutual
/-- The places of a tree lie below the end of its trail. -/
theorem pathOf_isPrefix_of_mem_preorderFrom (source : Text) (trail : List Crumb) (t : Tree) :
    ∀ n ∈ preorderFrom source trail t, pathOf trail <+: n.path := by
  match t with
  | .node l cs =>
    intro n hn
    rcases List.mem_cons.1 hn with rfl | hn
    · exact List.prefix_refl _
    · obtain ⟨i, -, hi⟩ := exists_index_of_mem_preorderOfList source trail l [] cs n hn
      exact (List.prefix_append _ _).trans hi

/-- The places of trees side by side lie below one of the indexes that the trees have. -/
theorem exists_index_of_mem_preorderOfList (source : Text) (trail : List Crumb) (parent : Label)
    (before ts : List Tree) :
    ∀ n ∈ preorderOfList source trail parent before ts,
      ∃ i, before.length ≤ i ∧ pathOf trail ++ [i] <+: n.path := by
  match ts with
  | [] =>
    intro n hn
    cases hn
  | t :: ts =>
    intro n hn
    rcases List.mem_append.1 hn with hn | hn
    · have hprefix := pathOf_isPrefix_of_mem_preorderFrom source (⟨parent, before, ts⟩ :: trail)
        t n hn
      rw [pathOf_cons] at hprefix
      exact ⟨before.length, Nat.le_refl _, hprefix⟩
    · obtain ⟨i, hi, hprefix⟩ :=
        exists_index_of_mem_preorderOfList source trail parent (t :: before) ts n hn
      exact ⟨i, Nat.le_of_succ_le hi, hprefix⟩
end

/-- A proper beginning of a path comes before it. -/
theorem lt_of_append_isPrefix {path longer : List Nat} {i : Nat} (h : path ++ [i] <+: longer) :
    path < longer := by
  obtain ⟨rest, rfl⟩ := h
  induction path with
  | nil => exact List.Lex.nil
  | cons j path ih => exact List.Lex.cons ih

/-- Of two paths that part, the one with the smaller index comes first. -/
theorem lt_of_isPrefix_of_lt {path left right : List Nat} {i j : Nat} (hij : i < j)
    (hleft : path ++ [i] <+: left) (hright : path ++ [j] <+: right) : left < right := by
  obtain ⟨rest, rfl⟩ := hleft
  obtain ⟨rest', rfl⟩ := hright
  induction path with
  | nil => exact List.Lex.rel hij
  | cons k path ih => exact List.Lex.cons ih

/-! ## Two places -/

/-- How the spans of two places stand to each other in a nested tree when the first comes
before the second: the second starts no earlier, and starts after the first or ends in it. -/
structure Spaced (m n : Node) : Prop where
  start_le : m.start ≤ n.start
  apart_or_inside : m.stop ≤ n.start ∨ n.stop ≤ m.stop

mutual
/-- The places of a nested tree lie in its root's span and run forwards. -/
theorem bounds_of_mem_preorderFrom (source : Text) (trail : List Crumb) (t : Tree)
    (h : t.isNested = true) :
    ∀ n ∈ preorderFrom source trail t,
      t.label.start ≤ n.start ∧ n.start ≤ n.stop ∧ n.stop ≤ t.label.stop := by
  match t with
  | .node l cs =>
    obtain ⟨hl, hcs⟩ := Tree.isNested_node_iff.1 h
    intro n hn
    rcases List.mem_cons.1 hn with rfl | hn
    · exact ⟨Nat.le_refl _, hl, Nat.le_refl _⟩
    · exact bounds_of_mem_preorderOfList source trail l [] cs hcs n hn

theorem bounds_of_mem_preorderOfList (source : Text) (trail : List Crumb) (parent : Label)
    (before ts : List Tree) {start stop : Nat} (h : Tree.areNestedBetween start stop ts = true) :
    ∀ n ∈ preorderOfList source trail parent before ts,
      start ≤ n.start ∧ n.start ≤ n.stop ∧ n.stop ≤ stop := by
  match ts with
  | [] =>
    intro n hn
    cases hn
  | t :: ts =>
    obtain ⟨hstart, hstop, ht, hts⟩ := Tree.areNestedBetween_cons_iff.1 h
    have hforward := Tree.start_le_stop_of_isNested ht
    intro n hn
    rcases List.mem_append.1 hn with hn | hn
    · obtain ⟨h1, h2, h3⟩ := bounds_of_mem_preorderFrom source _ t ht n hn
      exact ⟨Nat.le_trans hstart h1, h2, Nat.le_trans h3 hstop⟩
    · obtain ⟨h1, h2, h3⟩ := bounds_of_mem_preorderOfList source trail parent (t :: before) ts hts
        n hn
      exact ⟨by omega, h2, h3⟩
end

mutual
/-- The listing of a nested tree: paths ascend, and spans are spaced. -/
theorem preorderFrom_pairwise (source : Text) (trail : List Crumb) (t : Tree) :
    (preorderFrom source trail t).Pairwise fun m n =>
      m.path < n.path ∧ (t.isNested = true → m.Spaced n) := by
  match t with
  | .node l cs =>
    rw [preorderFrom, List.pairwise_cons]
    refine ⟨fun n hn => ⟨?_, fun h => ?_⟩, ?_⟩
    · -- The root itself comes before all that lies below it.
      obtain ⟨i, -, hprefix⟩ := exists_index_of_mem_preorderOfList source trail l [] cs n hn
      exact lt_of_append_isPrefix hprefix
    · obtain ⟨h1, -, h3⟩ :=
        bounds_of_mem_preorderOfList source trail l [] cs (Tree.isNested_node_iff.1 h).2 n hn
      exact ⟨h1, Or.inr h3⟩
    · refine (preorderOfList_pairwise source trail l [] cs).imp fun hmn => ⟨hmn.1, fun h => ?_⟩
      exact hmn.2 l.start l.stop (Tree.isNested_node_iff.1 h).2

theorem preorderOfList_pairwise (source : Text) (trail : List Crumb) (parent : Label)
    (before ts : List Tree) :
    (preorderOfList source trail parent before ts).Pairwise fun m n =>
      m.path < n.path ∧
        ∀ start stop, Tree.areNestedBetween start stop ts = true → m.Spaced n := by
  match ts with
  | [] => exact .nil
  | t :: ts =>
    rw [preorderOfList, List.pairwise_append]
    refine ⟨?_, ?_, fun m hm n hn => ⟨?_, fun start stop h => ?_⟩⟩
    · refine (preorderFrom_pairwise source _ t).imp fun hmn => ⟨hmn.1, fun start stop h => ?_⟩
      exact hmn.2 (Tree.areNestedBetween_cons_iff.1 h).2.2.1
    · refine (preorderOfList_pairwise source trail parent (t :: before) ts).imp fun hmn =>
        ⟨hmn.1, fun start stop h => ?_⟩
      exact hmn.2 _ _ (Tree.areNestedBetween_cons_iff.1 h).2.2.2
    · -- A place below `t` and one below a later sibling: their paths part at the indices.
      have hleft :=
        pathOf_isPrefix_of_mem_preorderFrom source (⟨parent, before, ts⟩ :: trail) t m hm
      rw [pathOf_cons] at hleft
      obtain ⟨j, hj, hright⟩ :=
        exists_index_of_mem_preorderOfList source trail parent (t :: before) ts n hn
      exact lt_of_isPrefix_of_lt hj hleft hright
    · obtain ⟨-, -, ht, hts⟩ := Tree.areNestedBetween_cons_iff.1 h
      obtain ⟨-, h2, h3⟩ := bounds_of_mem_preorderFrom source _ t ht m hm
      obtain ⟨h1, -, -⟩ :=
        bounds_of_mem_preorderOfList source trail parent (t :: before) ts hts n hn
      exact ⟨by omega, Or.inl (by omega)⟩
end

/-- **The listing in pre-order.** It goes through the places in the order of their paths. -/
theorem preorder_pairwise_path_lt (n : Node) : n.preorder.Pairwise (·.path < ·.path) :=
  (preorderFrom_pairwise n.source n.trail n.tree).imp And.left

/-- Two elements of a list whose pairs are related are the same or related one way round. -/
theorem eq_or_related_of_pairwise {α : Type} {R : α → α → Prop} {l : List α} (h : l.Pairwise R)
    {a b : α} (ha : a ∈ l) (hb : b ∈ l) : a = b ∨ R a b ∨ R b a := by
  obtain ⟨i, hi, rfl⟩ := List.mem_iff_getElem.1 ha
  obtain ⟨j, hj, rfl⟩ := List.mem_iff_getElem.1 hb
  have hpairs := List.pairwise_iff_getElem.1 h
  rcases Nat.lt_trichotomy i j with hij | rfl | hij
  · exact Or.inr (Or.inl (hpairs i j hi hj hij))
  · exact Or.inl rfl
  · exact Or.inr (Or.inr (hpairs j i hj hi hij))

/-- **Spans follow the order of places.** In a nested tree, of two places the first starts no
    later, and the second starts after it or ends in it. -/
theorem Spaced.of_path_lt {root m n : Node} (hroot : root.tree.isNested = true)
    (hm : m ∈ root.preorder) (hn : n ∈ root.preorder) (h : m.path < n.path) : m.Spaced n := by
  have hpairs := preorderFrom_pairwise root.source root.trail root.tree
  rcases eq_or_related_of_pairwise hpairs hm hn with rfl | hmn | hnm
  · exact absurd h (List.lt_irrefl _)
  · exact hmn.2 hroot
  · exact absurd h (List.lt_asymm hnm.1)

/-- Every place of a nested tree runs forwards. -/
theorem start_le_stop_of_mem_preorder {root n : Node} (hroot : root.tree.isNested = true)
    (hn : n ∈ root.preorder) : n.start ≤ n.stop :=
  (bounds_of_mem_preorderFrom root.source root.trail root.tree hroot n hn).2.1

end Node
end TreeQuery
