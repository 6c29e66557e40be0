/-
  TreeQuery.Proofs.Tree.Alike

  Trees of one shape. Two trees are alike when they have the same places and the labels at
  each place stand to each other as some relation says; with `Label.SameNode` for the
  relation, they are trees of the same nodes, though perhaps of different sources.

  * `Node.Alike.exists_descendant?`: a path that leads somewhere in the one tree leads
    somewhere in the other, to places that are alike with all that lies around them.
  * `Tree.Alike.of_preorder`: the relation can be exchanged for one that follows from it at
    every place.
-/

import Mathlib.Data.List.Forall2
import TreeQuery.Tree.Node

namespace TreeQuery

/-- Labels that say the same of a node, fields and supertypes apart. -/
structure Label.SameNode (l l' : Label) : Prop where
  kind : l.kind = l'.kind
  start : l.start = l'.start
  stop : l.stop = l'.stop
  named : l.named = l'.named
  missing : l.missing = l'.missing
  damaged : l.damaged = l'.damaged

theorem Label.SameNode.refl (l : Label) : l.SameNode l := ⟨rfl, rfl, rfl, rfl, rfl, rfl⟩

mutual
/-- Trees of one shape in which the labels at each place stand to each other as `R` says. -/
def Tree.Alike (R : Label → Label → Prop) : Tree → Tree → Prop
  | .node l cs, .node l' cs' => R l l' ∧ Tree.AlikeList R cs cs'

/-- As many trees, alike one by one. -/
def Tree.AlikeList (R : Label → Label → Prop) : List Tree → List Tree → Prop
  | [], [] => True
  | t :: ts, t' :: ts' => Tree.Alike R t t' ∧ Tree.AlikeList R ts ts'
  | _, _ => False
end

/-- Steps up that are alike: in the label above and in the trees on both sides. -/
structure Crumb.Alike (R : Label → Label → Prop) (c c' : Crumb) : Prop where
  parent : R c.parent c'.parent
  before : c.before.Forall₂ (Tree.Alike R) c'.before
  after : c.after.Forall₂ (Tree.Alike R) c'.after

/-- Places that are alike: in the trees that stand there and in all that lies around. -/
structure Node.Alike (R : Label → Label → Prop) (n n' : Node) : Prop where
  tree : n.tree.Alike R n'.tree
  trail : n.trail.Forall₂ (Crumb.Alike R) n'.trail

variable {R R' : Label → Label → Prop}

namespace Tree

theorem alikeList_iff {ts ts' : List Tree} :
    AlikeList R ts ts' ↔ ts.Forall₂ (Alike R) ts' := by
  induction ts generalizing ts' with
  | nil => cases ts' <;> simp [AlikeList]
  | cons t ts ih => cases ts' <;> simp [AlikeList, ih]

theorem Alike.label {t t' : Tree} (h : t.Alike R t') : R t.label t'.label := by
  obtain ⟨l, cs⟩ := t
  obtain ⟨l', cs'⟩ := t'
  exact h.1

theorem Alike.children {t t' : Tree} (h : t.Alike R t') :
    t.children.Forall₂ (Alike R) t'.children := by
  obtain ⟨l, cs⟩ := t
  obtain ⟨l', cs'⟩ := t'
  exact alikeList_iff.1 h.2

mutual
theorem Alike.of_preorderFrom (source : Text) (trail : List Crumb) (t t' : Tree)
    (h : t.Alike R t')
    (hR : ∀ n ∈ Node.preorderFrom source trail t, ∀ l', R n.label l' → R' n.label l') :
    t.Alike R' t' := by
  match t, t' with
  | .node l cs, .node l' cs' =>
    obtain ⟨hself, hbelow⟩ := List.forall_mem_cons.1 hR
    exact ⟨hself l' h.1, AlikeList.of_preorderOfList source trail l [] cs cs' h.2 hbelow⟩

theorem AlikeList.of_preorderOfList (source : Text) (trail : List Crumb) (parent : Label)
    (before ts ts' : List Tree) (h : AlikeList R ts ts')
    (hR : ∀ n ∈ Node.preorderOfList source trail parent before ts,
      ∀ l', R n.label l' → R' n.label l') :
    AlikeList R' ts ts' := by
  match ts, ts' with
  | [], [] => trivial
  | t :: ts, t' :: ts' =>
    obtain ⟨hhead, htail⟩ := List.forall_mem_append.1 hR
    exact ⟨Alike.of_preorderFrom source _ t t' h.1 hhead,
      AlikeList.of_preorderOfList source trail parent (t :: before) ts ts' h.2 htail⟩
end

/-- A relation that follows at every place of the one tree holds throughout. -/
theorem Alike.of_preorder {n : Node} {t' : Tree} (h : n.tree.Alike R t')
    (hR : ∀ m ∈ n.preorder, ∀ l', R m.label l' → R' m.label l') : n.tree.Alike R' t' :=
  Alike.of_preorderFrom n.source n.trail n.tree t' h hR

end Tree

namespace Node.Alike

variable {n n' m : Node}

/-- A child has a counterpart, with the same siblings around it. -/
theorem exists_child? (h : n.Alike R n') {i : Nat} (hm : n.child? i = some m) :
    ∃ m', n'.child? i = some m' ∧ m.Alike R m' := by
  have hchildren := h.tree.children
  simp only [child?, children, getElem?_siblingsFrom, Option.map_eq_some_iff] at hm ⊢
  obtain ⟨t, ht, rfl⟩ := hm
  obtain ⟨hi, rfl⟩ := List.getElem?_eq_some_iff.1 ht
  have hi' : i < n'.tree.children.length := hchildren.length_eq ▸ hi
  refine ⟨_, ⟨_, List.getElem?_eq_getElem hi', rfl⟩, ?_, .cons ⟨h.tree.label, ?_, ?_⟩ h.trail⟩
  · exact hchildren.get hi hi'
  · rw [List.append_nil, List.append_nil, List.forall₂_reverse_iff]
    exact List.forall₂_take i hchildren
  · exact List.forall₂_drop (i + 1) hchildren

/-- A path that leads somewhere leads to a counterpart in the other tree. -/
theorem exists_descendant? (h : n.Alike R n') {path : List Nat}
    (hm : n.descendant? path = some m) :
    ∃ m', n'.descendant? path = some m' ∧ m.Alike R m' := by
  induction path generalizing n n' with
  | nil =>
    obtain rfl := Option.some.inj hm
    exact ⟨n', rfl, h⟩
  | cons i path ih =>
    obtain ⟨c, hc, hm⟩ := Option.bind_eq_some_iff.1 hm
    obtain ⟨c', hc', hcc'⟩ := h.exists_child? hc
    obtain ⟨m', hm', hmm'⟩ := ih hcc' hm
    exact ⟨m', Option.bind_eq_some_iff.2 ⟨c', hc', hm'⟩, hmm'⟩

end Node.Alike
end TreeQuery
