/-
  TreeQuery.Proofs.Predicate.Sources

  The text that a verdict depends on. Every node keeps the source its tree was parsed from,
  and an evaluator holds a text of its own; the predicates that come with the library read
  nodes, and the tokens around nodes, against the evaluator's text only.

  Matches are compared as relations between runs usually are: `Match.Alike` relates two
  matches whose places are alike (`Node.Alike`), and each check is shown not to tell related
  matches apart when the spans at their places are read alike (`Label.ReadAlike`). Trees of
  the same nodes are a case of that, whatever their own sources are.

  * `Predicate.Provided.check_eq`: no provided check tells such matches apart.
  * `Evaluator.reads_own_text` states it for verdicts of resolved clauses.
-/

import TreeQuery.Match.Cursor
import TreeQuery.Proofs.Predicate.Comparison
import TreeQuery.Proofs.Text.Boundary
import TreeQuery.Proofs.Tree.Alike

namespace TreeQuery

/-- The predicates of the library: both comparisons, and any block between markers. -/
inductive Predicate.Provided : Predicate → Prop
  | eq : Provided Predicate.eq
  | matchesExpr (explain : Text → String) : Provided (Predicate.matchesExpr explain)
  | block (b : EnclosingBlock) : Provided b.predicate

/-- Labels whose spans are the same text, one of them in `s` and the other in `s'`. -/
def Label.ReadAlike (s s' : Text) (l l' : Label) : Prop :=
  s.slice l.start l.stop = s'.slice l'.start l'.stop

/-- Matches whose captures have the same numbers and lie at places that are alike. -/
def Match.Alike (R : Label → Label → Prop) (m m' : Match) : Prop :=
  m.captures.Forall₂ (fun c c' => c.index = c'.index ∧ c.node.Alike R c'.node) m'.captures

/-- Matches of one pattern that bind the same captures at the same paths of two trees. -/
structure Match.Corresponds (t t' : SyntaxTree) (m m' : Match) : Prop where
  pattern : m.pattern = m'.pattern
  captures : m.captures.Forall₂ (fun c c' => c.index = c'.index ∧ c.name = c'.name ∧
    ∃ path, t.rootNode.descendant? path = some c.node ∧
      t'.rootNode.descendant? path = some c'.node) m'.captures

/-- Functions that agree on related elements agree on related lists. -/
theorem map_eq_of_forall₂ {α β γ : Type} {S : α → β → Prop} {f : α → γ} {g : β → γ} {xs : List α}
    {ys : List β} (h : xs.Forall₂ S ys) (hfg : ∀ x y, S x y → f x = g y) : xs.map f = ys.map g := by
  induction h with
  | nil => rfl
  | cons hxy _ ih => rw [List.map_cons, List.map_cons, hfg _ _ hxy, ih]

section

variable {R : Label → Label → Prop} {s s' : Text} {m m' : Match}

/-! ## Places of matches that are alike -/

theorem Match.Alike.nodesAt (h : m.Alike R m') (index : Nat) :
    (m.nodesAt index).Forall₂ (Node.Alike R) (m'.nodesAt index) := by
  rw [Match.nodesAt, Match.nodesAt, List.forall₂_map_left_iff, List.forall₂_map_right_iff]
  have hfilter := List.rel_filter (p := (·.index == index)) (q := (·.index == index))
    (fun c c' hcc' => iff_of_eq (congrArg (fun i => (i == index) = true) hcc'.1)) h
  exact hfilter.imp fun _ _ => And.right

theorem Match.Alike.allNodes (h : m.Alike R m') (refs : List CaptureRef) :
    (Context.allNodes ⟨m, s⟩ refs).Forall₂ (Node.Alike R) (Context.allNodes ⟨m', s'⟩ refs) := by
  induction refs with
  | nil => exact .nil
  | cons ref refs ih => exact List.rel_append (h.nodesAt ref.index) ih

/-- Matches that correspond in trees that are alike are alike themselves. -/
theorem Match.Corresponds.alike {t t' : SyntaxTree} (h : m.Corresponds t t' m')
    (htrees : t.root.Alike R t'.root) : m.Alike R m' := by
  refine h.captures.imp fun c c' ⟨hindex, _, path, hc, hc'⟩ => ⟨hindex, ?_⟩
  have hroots : t.rootNode.Alike R t'.rootNode := ⟨htrees, .nil⟩
  obtain ⟨n', hn', halike⟩ := hroots.exists_descendant? hc
  obtain rfl := Option.some.inj (hn'.symm.trans hc')
  exact halike

/-! ## What the checks read -/

theorem Match.Alike.texts (h : m.Alike (Label.ReadAlike s s') m') (ref : CaptureRef) :
    Context.texts ⟨m, s⟩ ref = Context.texts ⟨m', s'⟩ ref :=
  map_eq_of_forall₂ (h.nodesAt ref.index) fun _ _ hnn' => hnn'.tree.label

namespace Predicate

theorem sideTexts_eq (h : m.Alike (Label.ReadAlike s s') m') (side : Argument) :
    sideTexts ⟨m, s⟩ side = sideTexts ⟨m', s'⟩ side := by
  cases side with
  | capture ref => exact h.texts ref
  | literal text => rfl

theorem sameTexts_eq (h : m.Alike (Label.ReadAlike s s') m') (left right : Argument) :
    sameTexts left right ⟨m, s⟩ = sameTexts left right ⟨m', s'⟩ := by
  rw [sameTexts, sameTexts, sideTexts_eq h left, sideTexts_eq h right]

theorem textsMatch_eq (h : m.Alike (Label.ReadAlike s s') m') (ref : CaptureRef) (e : Regex.Expr) :
    textsMatch ref e ⟨m, s⟩ = textsMatch ref e ⟨m', s'⟩ := by
  rw [textsMatch, textsMatch, h.texts ref]

end Predicate

namespace EnclosingBlock

mutual
/-- The search for markers sees the tokens of a tree by their texts. -/
theorem lastMarker?_eq_of_alike (b : EnclosingBlock) (t t' : Tree)
    (h : t.Alike (Label.ReadAlike s s') t') : b.lastMarker? s t = b.lastMarker? s' t' := by
  match t, t' with
  | .node l [], .node l' [] =>
    rw [lastMarker?, lastMarker?]
    exact congrArg b.marker? h.1
  | .node _ (c :: cs), .node _ (c' :: cs') =>
    rw [lastMarker?, lastMarker?]
    exact lastMarkerOfList?_eq_of_alike b (c :: cs) (c' :: cs') h.2

theorem lastMarkerOfList?_eq_of_alike (b : EnclosingBlock) (ts ts' : List Tree)
    (h : Tree.AlikeList (Label.ReadAlike s s') ts ts') :
    b.lastMarkerOfList? s ts = b.lastMarkerOfList? s' ts' := by
  match ts, ts' with
  | [], [] => rfl
  | t :: ts, t' :: ts' =>
    rw [lastMarkerOfList?, lastMarkerOfList?, lastMarker?_eq_of_alike b t t' h.1,
      lastMarkerOfList?_eq_of_alike b ts ts' h.2]
end

theorem markerBefore?_eq_of_alike (b : EnclosingBlock) {trail trail' : List Crumb}
    (h : trail.Forall₂ (Crumb.Alike (Label.ReadAlike s s')) trail') :
    b.markerBefore? s trail = b.markerBefore? s' trail' := by
  rw [markerBefore?, markerBefore?]
  induction h with
  | nil => rfl
  | @cons c c' _ _ hcc' _ ih =>
    have hmarkers := map_eq_of_forall₂ hcc'.before b.lastMarker?_eq_of_alike
    have hbefore : c.before.findSome? (b.lastMarker? s) =
        c'.before.findSome? (b.lastMarker? s') := by
      simpa [List.findSome?_map] using congrArg (List.findSome? id) hmarkers
    rw [List.findSome?_cons, List.findSome?_cons, hbefore, ih]

theorem encloses_eq (b : EnclosingBlock) {n n' : Node} (h : n.Alike (Label.ReadAlike s s') n') :
    b.encloses n s = b.encloses n' s' := by
  rw [encloses, encloses, b.markerBefore?_eq_of_alike h.trail]

/-- That there are nodes and that all of them are inside a block. -/
theorem all_encloses_eq (b : EnclosingBlock) {ns ns' : List Node}
    (h : ns.Forall₂ (Node.Alike (Label.ReadAlike s s')) ns') :
    (!ns.isEmpty && ns.all (b.encloses · s)) = (!ns'.isEmpty && ns'.all (b.encloses · s')) := by
  have hinside := map_eq_of_forall₂ h fun _ _ => b.encloses_eq
  have hempty : ns.isEmpty = ns'.isEmpty := by
    simpa using congrArg List.isEmpty hinside
  have hall : ns.all (b.encloses · s) = ns'.all (b.encloses · s') := by
    simpa [List.all_map] using congrArg (List.all · id) hinside
  rw [hempty, hall]

end EnclosingBlock

/-- No provided check tells matches apart at whose places the same texts are read. -/
theorem Predicate.Provided.check_eq {p : Predicate} (hp : p.Provided) {arguments : List Argument}
    (hobeyed : p.signature.rule.Obeyed arguments) {check : Check}
    (hbind : p.bind arguments = .ok check)
    (h : m.Alike (Label.ReadAlike s s') m') : check ⟨m, s⟩ = check ⟨m', s'⟩ := by
  cases hp with
  | eq =>
    match arguments with
    | [left, right] =>
      obtain rfl := Except.ok.inj hbind
      exact sameTexts_eq h left right
  | matchesExpr explain =>
    obtain ⟨ref, text, harguments⟩ := hobeyed
    rw [Registry.bind_matchesExpr harguments] at hbind
    cases hread : Regex.read? .text text with
    | none =>
      rw [hread] at hbind
      cases hbind
    | some e =>
      rw [hread] at hbind
      obtain rfl := Except.ok.inj hbind
      exact textsMatch_eq h ref e
  | block b =>
    obtain ⟨refs, hrefs⟩ := Registry.captureArguments_eq_ok hobeyed
    simp only [EnclosingBlock.predicate, hrefs] at hbind
    obtain rfl := Except.ok.inj hbind
    exact b.all_encloses_eq (h.allNodes refs)

end

/-! ## Verdicts -/

namespace Evaluator

/-- Trees of the same nodes are read alike in a text, and in any other with the same text at
each place. -/
theorem readAlike_of_sameNode {t t' : SyntaxTree} (htrees : t.root.Alike Label.SameNode t'.root)
    {s s' : Text} (hread : ∀ n ∈ t.rootNode.preorder, n.textIn s = n.textIn s') :
    t.root.Alike (Label.ReadAlike s s') t'.root :=
  Tree.Alike.of_preorder (n := t.rootNode) htrees fun n hn l' hl => by
    rw [Label.ReadAlike, ← hl.start, ← hl.stop]
    exact hread n hn

/-- **Verdicts rest on the evaluator's text.** Let two matches correspond, over trees of the same
nodes, and let a clause be of a provided predicate. An evaluator gives both the same verdict,
whatever the trees' own sources are. Of its own text it sees what stands at the places of the
tree: any other text that is the same there gives the same verdict again. And a span that does
not run from one boundary of the text to another is read as the empty text. -/
theorem reads_own_text {p : Predicate} (hp : p.Provided) {r : Registry} {name : String}
    {arguments : List Argument} {i : Invocation} (hget : r.get? name = some p)
    (hresolve : r.resolve name arguments = .ok i) {t t' : SyntaxTree} {m m' : Match}
    (htrees : t.root.Alike Label.SameNode t'.root) (hmatches : m.Corresponds t t' m')
    (s : Text) :
    verdict ⟨s⟩ i m = verdict ⟨s⟩ i m' ∧
      (∀ s', (∀ n ∈ t.rootNode.preorder, n.textIn s = n.textIn s') →
        verdict ⟨s⟩ i m = verdict ⟨s'⟩ i m') ∧
      ∀ n : Node, ¬ (n.start ≤ n.stop ∧ s.isBoundary n.start ∧ s.isBoundary n.stop) →
        n.textIn s = [] := by
  obtain ⟨hobeyed, hbind⟩ := Registry.bind_of_resolve hget hresolve
  have hverdicts : ∀ s', (∀ n ∈ t.rootNode.preorder, n.textIn s = n.textIn s') →
      verdict ⟨s⟩ i m = verdict ⟨s'⟩ i m' := by
    intro s' hread
    exact hp.check_eq hobeyed hbind (hmatches.alike (readAlike_of_sameNode htrees hread))
  refine ⟨hverdicts s fun _ _ => rfl, hverdicts, fun n hn => ?_⟩
  have hslice : s.slice? n.start n.stop = none := by
    rw [Option.eq_none_iff_forall_ne_some]
    exact fun middle hmiddle => hn (Text.isSome_slice?_iff.1 ⟨middle, hmiddle⟩)
  rw [Node.textIn, Text.slice, hslice]
  rfl

/-! ### Two letters, one of them past the end of a shorter text -/

/-- Two identifiers of one byte each with a blank between, parsed from any source of that form. -/
def twoIdentifiers (source : Text) : SyntaxTree :=
  let identifier (start : Nat) : Tree :=
    .node ⟨"identifier", start, start + 1, true, false, false, none, false, []⟩ []
  ⟨.cpp, source, .node ⟨"translation_unit", 0, 3, true, false, false, none, false, []⟩
    [identifier 0, identifier 2]⟩

/-- Both identifiers are captured. -/
def bothIdentifiers (source : Text) : Match :=
  ⟨0, (twoIdentifiers source).rootNode.children.map (⟨0, "letter", ·⟩)⟩

/-- The one source has two letters `a` and the other an `a` and a `c`; both matches pass where the
text has two letters `b`, and fail where it ends before the second. -/
theorem reads_own_text_twoIdentifiers :
    ∃ i, Registry.builtins.resolve "eq?" [.capture ⟨0, "letter"⟩, .literal "b".toList] = .ok i ∧
      verdict ⟨"b b".toList⟩ i (bothIdentifiers "a a".toList) = true ∧
      verdict ⟨"b b".toList⟩ i (bothIdentifiers "a c".toList) = true ∧
      verdict ⟨"b".toList⟩ i (bothIdentifiers "a a".toList) = false ∧
      verdict ⟨"b".toList⟩ i (bothIdentifiers "b b".toList) = false := by
  have htrees : ∀ source source',
      (twoIdentifiers source).root.Alike Label.SameNode (twoIdentifiers source').root := by
    intro source source'
    simp [twoIdentifiers, Tree.Alike, Tree.AlikeList, Label.SameNode.refl]
  have hmatches : ∀ source source', (bothIdentifiers source).Corresponds (twoIdentifiers source)
      (twoIdentifiers source') (bothIdentifiers source') := by
    intro source source'
    exact ⟨rfl, .cons ⟨rfl, rfl, [0], rfl, rfl⟩ (.cons ⟨rfl, rfl, [1], rfl, rfl⟩ .nil)⟩
  have hresolve : Registry.builtins.resolve "eq?" [.capture ⟨0, "letter"⟩, .literal "b".toList] =
      .ok ⟨"eq?", [.capture ⟨0, "letter"⟩, .literal "b".toList],
        Predicate.sameTexts (.capture ⟨0, "letter"⟩) (.literal "b".toList)⟩ := rfl
  have hsame := fun source source' s =>
    (reads_own_text .eq rfl hresolve (htrees source source') (hmatches source source') s).1
  refine ⟨_, hresolve, ?_, ?_, ?_, ?_⟩
  · decide +kernel
  · rw [hsame "a c".toList "a a".toList]
    decide +kernel
  · decide +kernel
  · rw [hsame "b b".toList "a a".toList]
    decide +kernel

end Evaluator
end TreeQuery
