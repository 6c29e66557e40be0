/-
  TreeQuery.Proofs.Predicate.Blocks

  Blocks read off the tokens. The search for a marker climbs from a node to the root, goes
  back over the siblings before each level, and looks into every sibling from its last token
  (`EnclosingBlock.encloses_eq_walk`). The tree does not matter in the end: what the search
  finds is the last marker among the tokens that come before the node in pre-order.

  * `EnclosingBlock.lastMarker?_eq`: the last marker of a tree is that of its tokens.
  * `EnclosingBlock.markerBefore?_of_preorderFrom`: what is left of a trail are the tokens
    before its place.
  * `EnclosingBlock.encloses_iff_tokens`: blocks and the tokens before a node.
-/

import TreeQuery.Predicate.Structural
import TreeQuery.Proofs.Tree.Preorder

namespace TreeQuery

namespace Node

/-! ## Tokens -/

/-- Whether a node has no children. -/
def isToken (n : Node) : Bool := n.tree.children.isEmpty

/-- The texts of the tokens among nodes. -/
def tokenTexts (source : Text) (ns : List Node) : List Text :=
  (ns.filter (·.isToken)).map (·.textIn source)

theorem tokenTexts_append (source : Text) (ms ns : List Node) :
    tokenTexts source (ms ++ ns) = tokenTexts source ms ++ tokenTexts source ns := by
  rw [tokenTexts, List.filter_append, List.map_append]
  rfl

theorem tokenTexts_cons_of_not_isToken (source : Text) {n : Node} (h : ¬ n.isToken = true)
    (ns : List Node) : tokenTexts source (n :: ns) = tokenTexts source ns := by
  rw [tokenTexts, List.filter_cons_of_neg h]
  rfl

/-! ## Siblings before a node -/

/-- The places of the trees `before`, which stand in front of those of `after`, nearest first. -/
def siblingsBack (source : Text) (up : List Crumb) (parent : Label) (after : List Tree) :
    List Tree → List Node
  | [] => []
  | t :: before =>
    ⟨source, t, ⟨parent, before, after⟩ :: up⟩ ::
      siblingsBack source up parent (t :: after) before

/-- The siblings before a node, nearest first. -/
def siblingsBefore (n : Node) : List Node :=
  match n.trail with
  | [] => []
  | c :: up => siblingsBack n.source up c.parent (n.tree :: c.after) c.before

/-- The siblings before a node are met by going back from one to the next. -/
theorem siblingsBefore_eq (n : Node) :
    n.siblingsBefore = match n.prevSibling? with
      | none => []
      | some m => m :: m.siblingsBefore := by
  obtain ⟨source, tree, trail⟩ := n
  cases trail with
  | nil => rfl
  | cons c up =>
    obtain ⟨parent, before, after⟩ := c
    cases before <;> rfl

theorem map_tree_siblingsBack (source : Text) (up : List Crumb) (parent : Label)
    (before after : List Tree) :
    (siblingsBack source up parent after before).map (·.tree) = before := by
  induction before generalizing after with
  | nil => rfl
  | cons t before ih => rw [siblingsBack, List.map_cons, ih]

theorem map_tree_siblingsFrom (source : Text) (trail : List Crumb) (parent : Label)
    (before ts : List Tree) : (siblingsFrom source trail parent before ts).map (·.tree) = ts := by
  induction ts generalizing before with
  | nil => rfl
  | cons t ts ih => rw [siblingsFrom, List.map_cons, ih]

end Node

namespace EnclosingBlock

variable {b : EnclosingBlock} {source : Text}

/-! ## The walk -/

theorem lastMarkerOfList?_eq (ts : List Tree) :
    b.lastMarkerOfList? source ts = ts.reverse.findSome? (b.lastMarker? source) := by
  induction ts with
  | nil => rfl
  | cons t ts ih =>
    rw [lastMarkerOfList?, ih, List.reverse_cons, List.findSome?_append, List.findSome?_singleton]

/-- The search in a node looks at its text when it is a token, and into its children from the
    last to the first when it is none. -/
theorem lastMarker?_tree (n : Node) :
    b.lastMarker? source n.tree =
      if n.children.isEmpty then b.marker? (n.textIn source)
      else n.children.reverse.findSome? fun c => b.lastMarker? source c.tree := by
  obtain ⟨own, ⟨l, cs⟩, trail⟩ := n
  have htrees : (Node.children ⟨own, .node l cs, trail⟩).map (·.tree) = cs :=
    Node.map_tree_siblingsFrom ..
  cases cs with
  | nil => rfl
  | cons c cs =>
    have hchildren : b.lastMarker? source (.node l (c :: cs)) =
        ((Node.children ⟨own, .node l (c :: cs), trail⟩).map (·.tree)).reverse.findSome?
          (b.lastMarker? source) := by
      rw [htrees, lastMarker?, lastMarkerOfList?_eq]
    rw [hchildren, ← List.map_reverse, List.findSome?_map]
    rfl

/-- What is left of a trail is searched level by level, and on each level back from sibling to
    sibling. -/
theorem markerBefore?_eq_walk (own : Text) (t : Tree) (trail : List Crumb) :
    b.markerBefore? source trail =
      ((⟨own, t, trail⟩ : Node) :: Node.ancestorsFrom own t trail).findSome? fun level =>
        level.siblingsBefore.findSome? fun s => b.lastMarker? source s.tree := by
  induction trail generalizing t with
  | nil => rfl
  | cons c up ih =>
    have hlevel : c.before.findSome? (b.lastMarker? source) =
        (Node.siblingsBefore ⟨own, t, c :: up⟩).findSome? fun s => b.lastMarker? source s.tree := by
      have htrees : (Node.siblingsBefore ⟨own, t, c :: up⟩).map (·.tree) = c.before :=
        Node.map_tree_siblingsBack ..
      rw [← htrees, List.findSome?_map]
      rfl
    have hup : b.markerBefore? source (c :: up) =
        (c.before.findSome? (b.lastMarker? source)).or (b.markerBefore? source up) := by
      rw [markerBefore?, List.findSome?_cons]
      cases c.before.findSome? (b.lastMarker? source) <;> rfl
    rw [hup, List.findSome?_cons, ← hlevel, ih, Node.ancestorsFrom]
    cases c.before.findSome? (b.lastMarker? source) <;> rfl

/-- A node is inside a block when the first marker is an opening one, as one goes up from the node
    to the root and on each level back from sibling to sibling. -/
theorem encloses_eq_walk (n : Node) :
    b.encloses n source =
      (((n :: n.ancestors).findSome? fun level =>
        level.siblingsBefore.findSome? fun s => b.lastMarker? source s.tree) == some .opens) := by
  rw [encloses, markerBefore?_eq_walk n.source n.tree]
  rfl

/-! ## The last marker -/

/-- The last marker among texts. -/
def lastMarkerIn? (b : EnclosingBlock) (texts : List Text) : Option Marker :=
  texts.reverse.findSome? b.marker?

theorem lastMarkerIn?_append (texts more : List Text) :
    b.lastMarkerIn? (texts ++ more) = (b.lastMarkerIn? more).or (b.lastMarkerIn? texts) := by
  rw [lastMarkerIn?, List.reverse_append, List.findSome?_append]
  rfl

theorem lastMarkerIn?_singleton (text : Text) : b.lastMarkerIn? [text] = b.marker? text := by
  rw [lastMarkerIn?, List.reverse_singleton, List.findSome?_singleton]

mutual
/-- The last marker of a tree is that of its tokens. -/
theorem lastMarker?_eq (own : Text) (trail : List Crumb) (t : Tree) :
    b.lastMarker? source t =
      b.lastMarkerIn? (Node.tokenTexts source (Node.preorderFrom own trail t)) := by
  match t with
  | .node l [] => exact (lastMarkerIn?_singleton _).symm
  | .node l (c :: cs) =>
    have hroot : ¬ (⟨own, .node l (c :: cs), trail⟩ : Node).isToken = true := nofun
    rw [lastMarker?, Node.preorderFrom, Node.tokenTexts_cons_of_not_isToken source hroot]
    exact lastMarkerOfList?_eq_tokens own trail l [] (c :: cs)

theorem lastMarkerOfList?_eq_tokens (own : Text) (trail : List Crumb) (parent : Label)
    (before ts : List Tree) :
    b.lastMarkerOfList? source ts =
      b.lastMarkerIn?
        (Node.tokenTexts source (Node.preorderOfList own trail parent before ts)) := by
  match ts with
  | [] => rfl
  | t :: ts =>
    rw [lastMarkerOfList?, Node.preorderOfList, Node.tokenTexts_append, lastMarkerIn?_append,
      ← lastMarker?_eq, ← lastMarkerOfList?_eq_tokens]
end

/-! ## What comes before a node -/

/-- An element of two lists in a row is in the first of them or in the second. -/
theorem append_eq_append_cons_iff {α : Type} {xs ys front back : List α} {a : α} :
    xs ++ ys = front ++ a :: back ↔
      (∃ mid, xs = front ++ a :: mid ∧ back = mid ++ ys) ∨
        ∃ late, front = xs ++ late ∧ ys = late ++ a :: back := by
  constructor
  · intro h
    rcases List.append_eq_append_iff.1 h with ⟨late, hfront, hys⟩ | ⟨rest, hxs, hback⟩
    · exact .inr ⟨late, hfront, hys⟩
    · cases rest with
      | nil =>
        rw [List.append_nil] at hxs
        exact .inr ⟨[], by rw [List.append_nil, hxs], hback.symm⟩
      | cons c mid =>
        obtain ⟨rfl, rfl⟩ := List.cons.inj hback
        exact .inl ⟨mid, hxs, rfl⟩
  · rintro (⟨mid, rfl, rfl⟩ | ⟨late, rfl, rfl⟩)
    · rw [List.append_assoc, List.cons_append]
    · rw [List.append_assoc]

theorem markerBefore?_append (trail more : List Crumb) :
    b.markerBefore? source (trail ++ more) =
      (b.markerBefore? source trail).or (b.markerBefore? source more) :=
  List.findSome?_append

theorem markerBefore?_singleton (c : Crumb) :
    b.markerBefore? source [c] = c.before.findSome? (b.lastMarker? source) :=
  List.findSome?_singleton

mutual
/-- In a tree, the last marker to the left of the way down to a place is the last marker among the
    tokens that come before the place. -/
theorem markerBefore?_of_preorderFrom (own : Text) (trail : List Crumb) (t : Tree)
    {front back : List Node} {n : Node}
    (h : Node.preorderFrom own trail t = front ++ n :: back) :
    ∃ down, n.trail = down ++ trail ∧
      b.markerBefore? source down = b.lastMarkerIn? (Node.tokenTexts source front) := by
  match t with
  | .node l cs =>
    rw [Node.preorderFrom] at h
    cases front with
    | nil =>
      obtain ⟨rfl, -⟩ := List.cons.inj h
      exact ⟨[], rfl, rfl⟩
    | cons m front =>
      obtain ⟨rfl, hlist⟩ := List.cons.inj h
      obtain ⟨down, htrail, hmarker⟩ := markerBefore?_of_preorderOfList own trail l [] cs hlist
      refine ⟨down, htrail, ?_⟩
      -- The root of the tree has children, among them one with the place, so it is no token.
      have hroot : ¬ (⟨own, .node l cs, trail⟩ : Node).isToken = true := by
        cases cs with
        | nil => simp [Node.preorderOfList] at hlist
        | cons c cs => exact nofun
      rw [hmarker, Node.tokenTexts_cons_of_not_isToken source hroot]
      exact Option.or_none

/-- Among trees side by side, the last marker to the left of the way down to a place is the last one
    among the tokens of these trees that come before the place, or else the last one in the trees
    before them. -/
theorem markerBefore?_of_preorderOfList (own : Text) (trail : List Crumb) (parent : Label)
    (before ts : List Tree) {front back : List Node} {n : Node}
    (h : Node.preorderOfList own trail parent before ts = front ++ n :: back) :
    ∃ down, n.trail = down ++ trail ∧
      b.markerBefore? source down =
        (b.lastMarkerIn? (Node.tokenTexts source front)).or
          (before.findSome? (b.lastMarker? source)) := by
  match ts with
  | [] => simp [Node.preorderOfList] at h
  | t :: ts =>
    rw [Node.preorderOfList] at h
    -- The place is in the first tree or in one of the others.
    rcases append_eq_append_cons_iff.1 h with ⟨mid, hfirst, -⟩ | ⟨late, rfl, hlate⟩
    · obtain ⟨down, htrail, hmarker⟩ :=
        markerBefore?_of_preorderFrom own (⟨parent, before, ts⟩ :: trail) t hfirst
      refine ⟨down ++ [⟨parent, before, ts⟩], ?_, ?_⟩
      · rw [htrail, List.append_assoc]
        rfl
      · rw [markerBefore?_append, markerBefore?_singleton, hmarker]
    · obtain ⟨down, htrail, hmarker⟩ :=
        markerBefore?_of_preorderOfList own trail parent (t :: before) ts hlate
      refine ⟨down, htrail, ?_⟩
      have hbefore : (t :: before).findSome? (b.lastMarker? source) =
          (b.lastMarker? source t).or (before.findSome? (b.lastMarker? source)) := by
        rw [List.findSome?_cons]
        cases b.lastMarker? source t <;> rfl
      rw [hmarker, hbefore, Node.tokenTexts_append, lastMarkerIn?_append, ← lastMarker?_eq,
        Option.or_assoc]
end

/-- The last text of a list that is a marker opens a block. -/
def LastOpens (b : EnclosingBlock) (texts : List Text) : Prop :=
  ∃ earlier later, texts = earlier ++ b.opening :: later ∧
    ∀ text ∈ later, text ≠ b.opening ∧ text ≠ b.closing

theorem marker?_eq_opens_iff {text : Text} :
    b.marker? text = some .opens ↔ text = b.opening := by
  rw [marker?]
  split
  · simpa
  · split <;> simpa

theorem marker?_eq_none_iff {text : Text} :
    b.marker? text = none ↔ text ≠ b.opening ∧ text ≠ b.closing := by
  rw [marker?]
  by_cases hopens : text = b.opening
  · simp [hopens]
  · rw [if_neg hopens, and_iff_right hopens]
    by_cases hcloses : text = b.closing
    · simp [hcloses]
    · simp [hcloses]

theorem lastMarkerIn?_eq_opens_iff {texts : List Text} :
    b.lastMarkerIn? texts = some .opens ↔ b.LastOpens texts := by
  rw [lastMarkerIn?, List.findSome?_eq_some_iff]
  constructor
  · rintro ⟨later, text, earlier, htexts, hmarker, hlater⟩
    obtain rfl := marker?_eq_opens_iff.1 hmarker
    refine ⟨earlier.reverse, later.reverse, ?_, fun text htext => ?_⟩
    · rw [← List.reverse_reverse texts, htexts]
      simp
    · exact marker?_eq_none_iff.1 (hlater text (List.mem_reverse.1 htext))
  · rintro ⟨earlier, later, rfl, hlater⟩
    refine ⟨later.reverse, b.opening, earlier.reverse, by simp, marker?_eq_opens_iff.2 rfl, ?_⟩
    exact fun text htext => marker?_eq_none_iff.2 (hlater text (List.mem_reverse.1 htext))

/-- **Blocks are read off the tokens.** A node of a tree is inside a block exactly when, of the
    tokens that come before it in pre-order, the last that is a marker opens one. So two nodes
    have the same answer when the same texts of tokens come before them, on whatever levels, in
    whatever trees, with whatever below and after them. -/
theorem encloses_iff_tokens (b : EnclosingBlock) (text : Text) (tree : SyntaxTree)
    {front back : List Node} {n : Node} (h : tree.rootNode.preorder = front ++ n :: back) :
    (b.encloses n text = true ↔ b.LastOpens (Node.tokenTexts text front)) ∧
      ∀ (text' : Text) (tree' : SyntaxTree) (front' back' : List Node) (n' : Node),
        tree'.rootNode.preorder = front' ++ n' :: back' →
        Node.tokenTexts text' front' = Node.tokenTexts text front →
        b.encloses n' text' = b.encloses n text := by
  have hmarker : ∀ (text : Text) (tree : SyntaxTree) (front back : List Node) (n : Node),
      tree.rootNode.preorder = front ++ n :: back →
        b.markerBefore? text n.trail = b.lastMarkerIn? (Node.tokenTexts text front) := by
    intro text tree front back n h
    obtain ⟨down, htrail, hmarker⟩ := markerBefore?_of_preorderFrom tree.source [] tree.root h
    rw [htrail, List.append_nil, hmarker]
  constructor
  · rw [encloses, hmarker text tree front back n h, beq_iff_eq, lastMarkerIn?_eq_opens_iff]
  · intro text' tree' front' back' n' h' hsame
    rw [encloses, encloses, hmarker text tree front back n h,
      hmarker text' tree' front' back' n' h', hsame]

/-- A file that begins with a message map which the grammar could not read: the marker is below an
    error, and the name after it is below a statement. -/
def brokenMap : SyntaxTree :=
  let label (kind : String) (start stop : Nat) : Label :=
    ⟨kind, start, stop, true, false, false, none, true, []⟩
  ⟨.cpp, "BEGIN_MESSAGE_MAP(a) b END_MESSAGE_MAP()".toList,
    .node (label "translation_unit" 0 40) [
      .node { label "ERROR" 0 20 with damaged := true } [
        .node (label "identifier" 0 17) [],
        .node (label "(" 17 18) [],
        .node (label "identifier" 18 19) [],
        .node (label ")" 19 20) []],
      .node (label "expression_statement" 21 22) [
        .node (label "identifier" 21 22) []],
      .node (label "call_expression" 23 40) [
        .node (label "identifier" 23 38) [],
        .node (label "(" 38 39) [],
        .node (label ")" 39 40) []]]⟩

/-- The name after the broken map is inside it, whatever the levels. -/
theorem encloses_iff_tokens_brokenMap :
    ∃ front n back, brokenMap.rootNode.preorder = front ++ n :: back ∧ n.text = "b".toList ∧
      Node.tokenTexts brokenMap.source front =
        ["BEGIN_MESSAGE_MAP".toList, "(".toList, "a".toList, ")".toList] ∧
      messageMap.encloses n brokenMap.source = true := by
  have hsplit : brokenMap.rootNode.preorder =
      brokenMap.rootNode.preorder.take 7 ++
        brokenMap.rootNode.preorder[7] :: brokenMap.rootNode.preorder.drop 8 := by
    rw [List.getElem_cons_drop, List.take_append_drop]
  have htokens : Node.tokenTexts brokenMap.source (brokenMap.rootNode.preorder.take 7) =
      ["BEGIN_MESSAGE_MAP".toList, "(".toList, "a".toList, ")".toList] := by decide
  refine ⟨_, _, _, hsplit, by decide, htokens, ?_⟩
  obtain ⟨hencloses, -⟩ := encloses_iff_tokens messageMap brokenMap.source brokenMap hsplit
  rw [hencloses, htokens]
  exact ⟨[], _, rfl, by decide⟩

end EnclosingBlock
end TreeQuery
