/-
  TreeQuery.Proofs.Tree.Faults

  The list of faults against all places of a tree. The search for faults passes over the
  subtrees of undamaged nodes. There is nothing in them to be found when the places above
  each fault are marked (`Node.Flagged`), as they are when damage is marked rightly
  (`Tree.Marked`).

  * `Node.exists_descendant?_iff`: the places that paths lead to are those of the listing in
    pre-order.
  * `Tree.marked_iff`: what `Tree.Marked` says of every place of a tree.
  * `Node.faults_sublist`: the search answers only faults, also where damage is marked wrongly.
  * `Node.faults_eq_filter_iff`: it answers all of them exactly under `Node.Flagged`.
  * `SyntaxTree.faults_complete` puts these together.
-/

import TreeQuery.Proofs.Tree.Preorder
import TreeQuery.Tree.Diagnostics

namespace TreeQuery

namespace Node

/-- Whether a place is itself a fault. -/
def isFault (n : Node) : Bool := n.isError || n.isMissing

/-! ## Places that paths lead to -/

theorem path_child? {n c : Node} {i : Nat} (h : n.child? i = some c) : c.path = n.path ++ [i] := by
  obtain ⟨source, ⟨l, cs⟩, trail⟩ := n
  simp only [child?, children, getElem?_siblingsFrom, Option.map_eq_some_iff] at h
  obtain ⟨t, ht, rfl⟩ := h
  have hlt := (List.getElem?_eq_some_iff.1 ht).1
  have hlength : (cs.take i).length = i := List.length_take_of_le (Nat.le_of_lt hlt)
  simp [path, hlength]

theorem path_descendant? {n m : Node} {path : List Nat} (h : n.descendant? path = some m) :
    m.path = n.path ++ path := by
  induction path generalizing n with
  | nil =>
    obtain rfl := Option.some.inj h
    rw [List.append_nil]
  | cons i path ih =>
    obtain ⟨c, hc, hm⟩ := Option.bind_eq_some_iff.1 h
    rw [ih hm, path_child? hc, List.append_assoc, List.singleton_append]

theorem preorderOfList_eq (source : Text) (trail : List Crumb) (parent : Label)
    (before ts : List Tree) :
    preorderOfList source trail parent before ts =
      (siblingsFrom source trail parent before ts).flatMap preorder := by
  induction ts generalizing before with
  | nil => rfl
  | cons t ts ih =>
    rw [preorderOfList, siblingsFrom, List.flatMap_cons, ih]
    rfl

/-- The places at or below a node: the node, and those at or below its children. -/
theorem preorder_eq (n : Node) : n.preorder = n :: n.children.flatMap preorder := by
  obtain ⟨source, ⟨l, cs⟩, trail⟩ := n
  rw [preorder, preorderFrom, preorderOfList_eq]
  rfl

mutual
theorem exists_path_of_mem_preorderFrom (source : Text) (trail : List Crumb) (t : Tree) :
    ∀ m ∈ preorderFrom source trail t,
      ∃ path, descendant? ⟨source, t, trail⟩ path = some m := by
  match t with
  | .node l cs =>
    intro m hm
    rcases List.mem_cons.1 hm with rfl | hm
    · exact ⟨[], rfl⟩
    · obtain ⟨c, hc, path, hpath⟩ := exists_path_of_mem_preorderOfList source trail l [] cs m hm
      obtain ⟨i, hi⟩ := List.mem_iff_getElem?.1 hc
      exact ⟨i :: path, Option.bind_eq_some_iff.2 ⟨c, hi, hpath⟩⟩

theorem exists_path_of_mem_preorderOfList (source : Text) (trail : List Crumb) (parent : Label)
    (before ts : List Tree) :
    ∀ m ∈ preorderOfList source trail parent before ts,
      ∃ c ∈ siblingsFrom source trail parent before ts,
        ∃ path, c.descendant? path = some m := by
  match ts with
  | [] =>
    intro m hm
    cases hm
  | t :: ts =>
    intro m hm
    rcases List.mem_append.1 hm with hm | hm
    · exact ⟨_, List.mem_cons_self, exists_path_of_mem_preorderFrom source _ t m hm⟩
    · obtain ⟨c, hc, hpath⟩ := exists_path_of_mem_preorderOfList source trail parent _ ts m hm
      exact ⟨c, List.mem_cons_of_mem _ hc, hpath⟩
end

/-- Going down step by step leads to the places of the listing, and to no others. -/
theorem exists_descendant?_iff {n m : Node} :
    (∃ path, n.descendant? path = some m) ↔ m ∈ n.preorder := by
  constructor
  · rintro ⟨path, h⟩
    induction path generalizing n with
    | nil =>
      obtain rfl := Option.some.inj h
      rw [preorder_eq]
      exact List.mem_cons_self
    | cons i path ih =>
      obtain ⟨c, hc, hm⟩ := Option.bind_eq_some_iff.1 h
      rw [preorder_eq]
      exact List.mem_cons_of_mem _ (List.mem_flatMap.2 ⟨c, List.mem_of_getElem? hc, ih hm⟩)
  · exact exists_path_of_mem_preorderFrom n.source n.trail n.tree m

end Node

/-! ## Damage that is marked rightly -/

namespace Tree

mutual
/-- A tree has a fault when some place in it is one. -/
theorem hasFault_eq_any (source : Text) (trail : List Crumb) (t : Tree) :
    t.hasFault = (Node.preorderFrom source trail t).any Node.isFault := by
  match t with
  | .node l cs =>
    rw [hasFault, Node.preorderFrom, List.any_cons, hasFaultInList_eq_any source trail l [] cs]
    rfl

theorem hasFaultInList_eq_any (source : Text) (trail : List Crumb) (parent : Label)
    (before ts : List Tree) :
    hasFaultInList ts =
      (Node.preorderOfList source trail parent before ts).any Node.isFault := by
  match ts with
  | [] => rfl
  | t :: ts =>
    rw [hasFaultInList, Node.preorderOfList, List.any_append, ← hasFault_eq_any,
      ← hasFaultInList_eq_any]
end

mutual
theorem marked_iff_of_preorderFrom (source : Text) (trail : List Crumb) (t : Tree) :
    t.Marked ↔
      ∀ n ∈ Node.preorderFrom source trail t, n.isDamaged = n.preorder.any Node.isFault := by
  match t with
  | .node l cs =>
    have hroot : (Node.preorder ⟨source, .node l cs, trail⟩).any Node.isFault =
        (l.isFault || hasFaultInList cs) := (hasFault_eq_any source trail (.node l cs)).symm
    rw [Marked, Node.preorderFrom, List.forall_mem_cons, hroot,
      markedList_iff_of_preorderOfList source trail l [] cs]
    rfl

theorem markedList_iff_of_preorderOfList (source : Text) (trail : List Crumb) (parent : Label)
    (before ts : List Tree) :
    MarkedList ts ↔
      ∀ n ∈ Node.preorderOfList source trail parent before ts,
        n.isDamaged = n.preorder.any Node.isFault := by
  match ts with
  | [] => exact iff_of_true trivial nofun
  | t :: ts =>
    rw [MarkedList, Node.preorderOfList, List.forall_mem_append, ← marked_iff_of_preorderFrom,
      ← markedList_iff_of_preorderOfList]
end

/-- **Marks of damage.** They are right when exactly those places are marked at or below which
there is a fault. -/
theorem marked_iff {t : SyntaxTree} :
    t.root.Marked ↔
      ∀ n ∈ t.rootNode.preorder, n.isDamaged = true ↔ ∃ m ∈ n.preorder, m.isFault = true := by
  rw [marked_iff_of_preorderFrom t.source [] t.root]
  refine forall₂_congr fun n _ => ?_
  rw [Bool.eq_iff_iff, List.any_eq_true]

end Tree

namespace Node

/-! ## The pruned search -/

/-- Every place above a fault is marked as damaged. Of the fault itself nothing is asked. -/
def Flagged (n : Node) : Prop :=
  ∀ a ∈ n.preorder, ∀ c ∈ a.children, (∃ m ∈ c.preorder, m.isFault = true) → a.isDamaged = true

theorem flagged_iff {n : Node} :
    n.Flagged ↔
      (∀ c ∈ n.children, (∃ m ∈ c.preorder, m.isFault = true) → n.isDamaged = true) ∧
        ∀ c ∈ n.children, c.Flagged := by
  rw [Flagged, preorder_eq, List.forall_mem_cons, List.forall_mem_flatMap]
  rfl

theorem filter_preorderFrom (source : Text) (trail : List Crumb) (l : Label) (cs : List Tree) :
    (preorderFrom source trail (.node l cs)).filter isFault =
      (if l.isFault then [⟨source, .node l cs, trail⟩] else []) ++
        (preorderOfList source trail l [] cs).filter isFault := by
  have hself : isFault ⟨source, .node l cs, trail⟩ = l.isFault := rfl
  rw [preorderFrom, List.filter_cons, hself]
  cases l.isFault <;> rfl

mutual
/-- The pruned search finds no place that is not a fault, and none twice, whatever is marked. -/
theorem faultsFrom_sublist (source : Text) (trail : List Crumb) (t : Tree) :
    (faultsFrom source trail t).Sublist ((preorderFrom source trail t).filter isFault) := by
  match t with
  | .node l cs =>
    rw [faultsFrom, filter_preorderFrom]
    refine (List.Sublist.refl _).append ?_
    split
    · exact faultsOfList_sublist source trail l [] cs
    · -- Nothing below an undamaged node is looked at.
      exact List.nil_sublist _

theorem faultsOfList_sublist (source : Text) (trail : List Crumb) (parent : Label)
    (before ts : List Tree) :
    (faultsOfList source trail parent before ts).Sublist
      ((preorderOfList source trail parent before ts).filter isFault) := by
  match ts with
  | [] => exact List.nil_sublist _
  | t :: ts =>
    rw [faultsOfList, preorderOfList, List.filter_append]
    exact (faultsFrom_sublist source _ t).append (faultsOfList_sublist source trail parent _ ts)
end

theorem faults_sublist (n : Node) : n.faults.Sublist (n.preorder.filter isFault) :=
  faultsFrom_sublist n.source n.trail n.tree

/-- Sublists that make up the whole lists together leave out nothing of either. -/
theorem append_eq_append_iff_of_sublist {xs xs' ys ys' : List Node} (hxs : xs.Sublist xs')
    (hys : ys.Sublist ys') : xs ++ ys = xs' ++ ys' ↔ xs = xs' ∧ ys = ys' := by
  constructor
  · intro h
    have hlength := congrArg List.length h
    have hx := hxs.length_le
    have hy := hys.length_le
    rw [List.length_append, List.length_append] at hlength
    exact ⟨hxs.eq_of_length (by omega), hys.eq_of_length (by omega)⟩
  · rintro ⟨rfl, rfl⟩
    rfl

/-- No place in a list of trees is a fault when none at or below a root of them is. -/
theorem filter_preorderOfList_eq_nil_iff {source : Text} {trail : List Crumb} {parent : Label}
    {before ts : List Tree} :
    (preorderOfList source trail parent before ts).filter isFault = [] ↔
      ∀ c ∈ siblingsFrom source trail parent before ts, ¬ ∃ m ∈ c.preorder, m.isFault = true := by
  rw [preorderOfList_eq, List.filter_eq_nil_iff, List.forall_mem_flatMap]
  simp only [not_exists, not_and]

mutual
theorem faultsFrom_eq_filter_iff (source : Text) (trail : List Crumb) (t : Tree) :
    faultsFrom source trail t = (preorderFrom source trail t).filter isFault ↔
      Flagged ⟨source, t, trail⟩ := by
  match t with
  | .node l cs =>
    have hbelow := faultsOfList_eq_filter_iff source trail l [] cs
    have hsub := faultsOfList_sublist source trail l [] cs
    rw [faultsFrom, filter_preorderFrom, List.append_cancel_left_eq, flagged_iff]
    by_cases hdamaged : l.damaged = true
    · rw [if_pos hdamaged, hbelow]
      exact (and_iff_right fun _ _ _ => hdamaged).symm
    · -- Where the search stops, nothing is missed if there is no fault further down.
      rw [if_neg hdamaged, eq_comm, filter_preorderOfList_eq_nil_iff]
      constructor
      · intro hnone
        have hnil := filter_preorderOfList_eq_nil_iff.2 hnone
        rw [hnil] at hbelow hsub
        exact ⟨fun c hc h => absurd h (hnone c hc), hbelow.1 (List.sublist_nil.1 hsub)⟩
      · intro h c hc hfault
        exact hdamaged (h.1 c hc hfault)

theorem faultsOfList_eq_filter_iff (source : Text) (trail : List Crumb) (parent : Label)
    (before ts : List Tree) :
    faultsOfList source trail parent before ts =
        (preorderOfList source trail parent before ts).filter isFault ↔
      ∀ c ∈ siblingsFrom source trail parent before ts, c.Flagged := by
  match ts with
  | [] => exact iff_of_true rfl nofun
  | t :: ts =>
    rw [faultsOfList, preorderOfList, List.filter_append,
      append_eq_append_iff_of_sublist (faultsFrom_sublist source _ t)
        (faultsOfList_sublist source trail parent _ ts),
      faultsFrom_eq_filter_iff source _ t, faultsOfList_eq_filter_iff source trail parent _ ts,
      siblingsFrom, List.forall_mem_cons]
end

/-- **Pruning.** The search answers all places in pre-order that are faults exactly when every
place above a fault is marked as damaged. -/
theorem faults_eq_filter_iff {n : Node} : n.faults = n.preorder.filter isFault ↔ n.Flagged :=
  faultsFrom_eq_filter_iff n.source n.trail n.tree

/-- Where damage is marked rightly, what is above a fault is marked. -/
theorem flagged_of_marked {n : Node} (h : n.tree.Marked) : n.Flagged := by
  intro a ha c hc hfault
  rw [(Tree.marked_iff_of_preorderFrom n.source n.trail n.tree).1 h a ha, List.any_eq_true]
  obtain ⟨m, hm, hm'⟩ := hfault
  refine ⟨m, ?_, hm'⟩
  rw [preorder_eq]
  exact List.mem_cons_of_mem _ (List.mem_flatMap.2 ⟨c, hc, hm⟩)

end Node

namespace SyntaxTree

/-- Where damage is marked rightly, the root is damaged when there is a fault somewhere. -/
theorem hasErrors_iff {t : SyntaxTree} (h : t.root.Marked) :
    t.hasErrors = true ↔ t.rootNode.preorder.filter Node.isFault ≠ [] := by
  have hroot : t.rootNode ∈ t.rootNode.preorder := by
    rw [Node.preorder_eq]
    exact List.mem_cons_self
  have hmarked : t.hasErrors = true ↔ ∃ n ∈ t.rootNode.preorder, n.isFault = true :=
    Tree.marked_iff.1 h t.rootNode hroot
  simp only [hmarked, ne_eq, List.filter_eq_nil_iff, Classical.not_forall,
    Classical.not_not, exists_prop]

/-- **No fault is missed.** In a tree whose damage is marked rightly, the faults listed are the
places in pre-order that are errors or missing: each place that some path leads to and that is
a fault is there, once, and nothing else. There are some exactly when the tree says that it
has errors. -/
theorem faults_complete (t : SyntaxTree) (h : t.root.Marked) :
    t.faults = (t.rootNode.preorder.filter Node.isFault).map SyntaxFault.ofNode ∧
      (t.rootNode.preorder.filter Node.isFault).Pairwise (·.path < ·.path) ∧
      (∀ path n, t.rootNode.descendant? path = some n →
        n.path = path ∧ (n.isFault = true ↔ n ∈ t.rootNode.preorder.filter Node.isFault)) ∧
      (t.hasErrors = true ↔ t.faults ≠ []) := by
  have hfaults : t.faults = (t.rootNode.preorder.filter Node.isFault).map SyntaxFault.ofNode :=
    congrArg (List.map SyntaxFault.ofNode) (Node.faults_eq_filter_iff.2 (Node.flagged_of_marked h))
  refine ⟨hfaults, t.rootNode.preorder_pairwise_path_lt.filter _, fun path n hn => ⟨?_, ?_⟩, ?_⟩
  · exact Node.path_descendant? hn
  · have hmem : n ∈ t.rootNode.preorder := Node.exists_descendant?_iff.1 ⟨path, hn⟩
    rw [List.mem_filter]
    exact (and_iff_right hmem).symm
  · rw [hasErrors_iff h, hfaults, ne_eq, ne_eq, List.map_eq_nil_iff]

/-- A list that is cut short after a stretch of errors: `[@%`, with an error in an error and a
closing bracket that recovery put in. -/
def brokenList : SyntaxTree where
  language := .python
  source := ['[', '@', '%']
  root :=
    .node ⟨"module", 0, 3, true, false, true, none, false, []⟩
      [.node ⟨"list", 0, 3, true, false, true, none, false, []⟩
        [.node ⟨"[", 0, 1, false, false, false, none, false, []⟩ [],
          .node ⟨"ERROR", 1, 3, true, false, true, none, false, []⟩
            [.node ⟨"@", 1, 2, false, false, false, none, false, []⟩ [],
              .node ⟨"ERROR", 2, 3, true, false, true, none, false, []⟩ []],
          .node ⟨"]", 3, 3, false, true, true, none, false, []⟩ []]]

/-- The error inside the error is listed after it, and the bracket that covers nothing last. -/
theorem faults_complete_brokenList :
    brokenList.root.Marked ∧
      brokenList.faults.map (fun f => (f.start, f.stop, f.message)) =
        [(1, 3, "syntax error"), (2, 3, "syntax error"), (3, 3, "missing ]")] := by
  have h : brokenList.root.Marked := by
    simp [brokenList, Tree.Marked, Tree.MarkedList, Tree.hasFaultInList, Tree.hasFault,
      Label.isFault, Label.isError, errorKind]
  refine ⟨h, ?_⟩
  rw [(brokenList.faults_complete h).1]
  decide

end SyntaxTree
end TreeQuery
