/-
  TreeQuery.Proofs.Substitution.Run

  Whole runs of a substitution: when they succeed, and what they write.

  A run refuses patterns that cannot bind the anchor, matches that do not bind it, and
  anchors that clash (`Substitution.Applicable`). What is left can still fail: a full
  anchor that is found before an empty one at its start stands in the way of it.
  `Substitution.run_outcome_iff` gives the exact condition for both outcomes, in trees
  whose nodes lie on boundaries (`SyntaxTree.WellPlaced`).

  A run that succeeds changes the anchors and nothing else: `Substitution.run_weaves` cuts
  the source into anchors and the gaps between them and puts the same gaps, with the
  filled templates, together as the output.
-/

import Mathlib.Data.List.Perm.Basic
import TreeQuery.Proofs.Match.Cursor
import TreeQuery.Proofs.Substitution.Splice

namespace TreeQuery

/-- Every node of the tree covers a part of the source, which may be empty. -/
def SyntaxTree.WellPlaced (tree : SyntaxTree) : Prop :=
  ∀ n ∈ tree.rootNode.preorder, n.span.FitsIn tree.source

/-- Every node of the tree runs forwards. -/
def SyntaxTree.Forward (tree : SyntaxTree) : Prop :=
  ∀ n ∈ tree.rootNode.preorder, n.start ≤ n.stop

instance (tree : SyntaxTree) : Decidable tree.WellPlaced :=
  inferInstanceAs (Decidable (∀ _ ∈ _, _))

theorem SyntaxTree.WellPlaced.forward {tree : SyntaxTree} (h : tree.WellPlaced) :
    tree.Forward := fun n hn => (h n hn).start_le_stop

namespace Substitution

variable {s : Substitution} {tree : SyntaxTree} {source : Text}

/-! ## Anchors of matches -/

/-- What a match asks for: the span of its anchor, and the template filled in. -/
def replacement? (s : Substitution) (source : Text) (m : Match) : Option Replacement :=
  (m.capture? s.anchor).map fun n => ⟨n.span, s.template.render m source⟩

/-- The spans of the anchors, in the order in which the matches are found. -/
def anchorSpans (s : Substitution) (tree : SyntaxTree) : List Span :=
  (s.found tree).filterMap fun m => (m.capture? s.anchor).map (·.span)

/-- The matches of a run, with both orders made one by one. -/
theorem found_eq_insertionSort (s : Substitution) (tree : SyntaxTree) :
    s.found tree =
      (((s.query.search .everything tree.rootNode).map fun m : RawMatch =>
        (⟨m.pattern, (m.captures.filterMap fun (index, node) =>
            (s.query.captures[index]?).map (⟨index, ·, node⟩)).insertionSort
          fun a b => decide (a.node.start ≤ b.node.start) = true⟩ : Match)).insertionSort
        (Match.mayPrecede · · = true)).filter (s.query.admits (some ⟨tree.source⟩)) := by
  rw [found, Query.matches_eq_filter, Query.candidates_eq_insertionSort]

/-- The anchor of a match is a place of the tree. -/
theorem mem_preorder_of_anchor {m : Match} (hm : m ∈ s.found tree) {n : Node}
    (hn : m.capture? s.anchor = some n) : n ∈ tree.rootNode.preorder := by
  obtain ⟨c, hc, rfl⟩ := Option.map_eq_some_iff.1 hn
  exact Query.mem_preorder_of_mem_matches hm (List.mem_of_find?_eq_some hc)

/-- Replacements of matches stand where the anchors do. -/
theorem map_span_of_replacements {ms : List Match} {rs : List Replacement}
    (h : List.Forall₂ (fun m r => s.replacement? source m = some r) ms rs) :
    rs.map (·.span) = ms.filterMap fun m => (m.capture? s.anchor).map (·.span) := by
  induction h with
  | nil => rfl
  | @cons m r ms rs hr hrest ih =>
    obtain ⟨n, hn, rfl⟩ := Option.map_eq_some_iff.1 hr
    rw [List.map_cons, ih, List.filterMap_cons, hn]
    rfl

/-- Matches that bind the anchor all have replacements. -/
theorem exists_replacements {ms : List Match} (h : ∀ m ∈ ms, m.hasCapture s.anchor = true) :
    ∃ rs, List.Forall₂ (fun m r => s.replacement? source m = some r) ms rs := by
  induction ms with
  | nil => exact ⟨[], .nil⟩
  | cons m ms ih =>
    obtain ⟨n, hn⟩ := Option.isSome_iff_exists.1 (h m List.mem_cons_self)
    obtain ⟨rs, hrs⟩ := ih fun m' hm' => h m' (List.mem_cons_of_mem _ hm')
    refine ⟨⟨n.span, s.template.render m source⟩ :: rs, .cons ?_ hrs⟩
    rw [replacement?, hn]
    rfl

theorem hasCapture_of_replacements {ms : List Match} {rs : List Replacement}
    (h : List.Forall₂ (fun m r => s.replacement? source m = some r) ms rs) :
    ∀ m ∈ ms, m.hasCapture s.anchor = true := by
  induction h with
  | nil => simp
  | @cons m r ms rs hr hrest ih =>
    obtain ⟨n, hn, -⟩ := Option.map_eq_some_iff.1 hr
    rw [List.forall_mem_cons]
    exact ⟨by rw [Match.hasCapture, hn]; rfl, ih⟩

/-! ## Collecting -/

/-- A match is collected when it binds the anchor and overlaps nothing made before it. -/
theorem collect_cons_eq_ok_iff {made rs : List Replacement} {m : Match} {ms : List Match} :
    s.collect source made (m :: ms) = .ok rs ↔
      ∃ r, s.replacement? source m = some r ∧
        (∀ a ∈ made, ¬ a.span.overlaps r.span = true) ∧
        s.collect source (made ++ [r]) ms = .ok rs := by
  rw [collect]
  cases hanchor : m.capture? s.anchor with
  | none => simp [replacement?, hanchor]
  | some n =>
    have hr : s.replacement? source m = some ⟨n.span, s.template.render m source⟩ := by
      rw [replacement?, hanchor]
      rfl
    cases hprevious : made.find? (·.span.overlaps n.span) with
    | some previous =>
      have hoverlaps : previous.span.overlaps n.span = true := by
        simpa using List.find?_some hprevious
      simp only [hprevious, reduceCtorEq, false_iff]
      rintro ⟨r, hr', hfree, -⟩
      obtain rfl := Option.some.inj (hr.symm.trans hr')
      exact hfree previous (List.mem_of_find?_eq_some hprevious) hoverlaps
    | none =>
      have hfree : ∀ a ∈ made, ¬ a.span.overlaps n.span = true := List.find?_eq_none.1 hprevious
      simp only [hprevious]
      constructor
      · intro hrest
        exact ⟨_, hr, hfree, hrest⟩
      · rintro ⟨r, hr', -, hrest⟩
        obtain rfl := Option.some.inj (hr.symm.trans hr')
        exact hrest

/-- Collecting goes through when every match binds the anchor and no anchor overlaps one
    before it; the new replacements then follow those made already. -/
theorem collect_eq_ok_iff {made rs : List Replacement} {ms : List Match} :
    s.collect source made ms = .ok rs ↔
      ∃ new, rs = made ++ new ∧
        List.Forall₂ (fun m r => s.replacement? source m = some r) ms new ∧
        new.Pairwise (fun a b => ¬ a.span.overlaps b.span = true) ∧
        ∀ a ∈ made, ∀ b ∈ new, ¬ a.span.overlaps b.span = true := by
  -- What was made grows by one replacement a match, so the statement is for any beginning.
  induction ms generalizing made with
  | nil =>
    rw [collect]
    constructor
    · intro h
      cases h
      exact ⟨[], (List.append_nil _).symm, .nil, .nil, by simp⟩
    · rintro ⟨new, rfl, hnew, -⟩
      cases hnew
      rw [List.append_nil]
  | cons m ms ih =>
    rw [collect_cons_eq_ok_iff]
    constructor
    · rintro ⟨r, hr, hfree, hrest⟩
      obtain ⟨new, rfl, hnew, hpairs, hapart⟩ := ih.1 hrest
      refine ⟨r :: new, List.append_assoc .., .cons hr hnew, ?_, fun a ha => ?_⟩
      · rw [List.pairwise_cons]
        exact ⟨fun b hb => hapart r (by simp) b hb, hpairs⟩
      · rw [List.forall_mem_cons]
        exact ⟨hfree a ha, fun b hb => hapart a (by simp [ha]) b hb⟩
    · rintro ⟨new, rfl, hnew, hpairs, hapart⟩
      cases hnew with
      | @cons _ r _ new hr hnew =>
        obtain ⟨hfirst, hpairs⟩ := List.pairwise_cons.1 hpairs
        refine ⟨r, hr, fun a ha => hapart a ha r List.mem_cons_self, ih.2 ?_⟩
        refine ⟨new, List.append_cons .., hnew, hpairs, fun a ha b hb => ?_⟩
        rcases List.mem_append.1 ha with ha | ha
        · exact hapart a ha b (List.mem_cons_of_mem _ hb)
        · obtain rfl := List.mem_singleton.1 ha
          exact hfirst b hb

/-- Collecting never finds fault with the place of a span. -/
theorem collect_ne_invalidSpan {made : List Replacement} {ms : List Match} {span : Span} :
    s.collect source made ms ≠ .error (.invalidSpan span) := by
  induction ms generalizing made with
  | nil => simp [collect]
  | cons m ms ih =>
    rw [collect]
    split
    · simp
    · split
      · simp
      · exact ih

/-! ## Runs -/

theorem checkPatterns_eq_ok_iff :
    s.checkPatterns = .ok () ↔ ∀ p ∈ s.query.patterns, p.binds s.anchor = true := by
  rw [checkPatterns]
  cases hfind : s.query.patterns.find? (!·.binds s.anchor) with
  | none =>
    have hall := List.find?_eq_none.1 hfind
    simpa using hall
  | some p =>
    have hp := List.find?_some hfind
    simp only [reduceCtorEq, false_iff]
    intro hall
    rw [hall p (List.mem_of_find?_eq_some hfind)] at hp
    cases hp

theorem checkPatterns_ne_invalidSpan {span : Span} :
    s.checkPatterns ≠ .error (.invalidSpan span) := by
  rw [checkPatterns]
  split <;> simp

theorem run_eq_ok_iff {r : Substituted} :
    s.run tree = .ok r ↔
      (∀ p ∈ s.query.patterns, p.binds s.anchor = true) ∧
        ∃ rs output, s.collect tree.source [] (s.found tree) = .ok rs ∧
          splice tree.source rs = .ok output ∧ r = ⟨output, rs.length⟩ := by
  rw [← checkPatterns_eq_ok_iff, run]
  cases s.checkPatterns with
  | error e => simp [bind, Except.bind]
  | ok _ =>
    cases s.collect tree.source [] (s.found tree) with
    | error e => simp [bind, Except.bind]
    | ok rs =>
      cases hsplice : splice tree.source rs with
      | error e => simp [bind, Except.bind, hsplice]
      | ok output => simp [bind, Except.bind, pure, Except.pure, hsplice, eq_comm]

/-- Only a splice answers that a span is invalid. -/
theorem run_eq_invalidSpan_iff {span : Span} :
    s.run tree = .error (.invalidSpan span) ↔
      (∀ p ∈ s.query.patterns, p.binds s.anchor = true) ∧
        ∃ rs, s.collect tree.source [] (s.found tree) = .ok rs ∧
          splice tree.source rs = .error (.invalidSpan span) := by
  rw [← checkPatterns_eq_ok_iff, run]
  have hpatterns : s.checkPatterns ≠ .error (.invalidSpan span) := checkPatterns_ne_invalidSpan
  have hcollect : s.collect tree.source [] (s.found tree) ≠ .error (.invalidSpan span) :=
    collect_ne_invalidSpan
  cases hp : s.checkPatterns with
  | error e =>
    rw [hp] at hpatterns
    simpa [bind, Except.bind] using hpatterns
  | ok _ =>
    cases hc : s.collect tree.source [] (s.found tree) with
    | error e =>
      rw [hc] at hcollect
      simpa [bind, Except.bind] using hcollect
    | ok rs =>
      cases hsplice : splice tree.source rs with
      | error e => simp [bind, Except.bind, hsplice]
      | ok output => simp [bind, Except.bind, pure, Except.pure, hsplice]

/-! ## When a run succeeds -/

/-- Every pattern can bind the anchor, every match does, and no two anchors clash. -/
structure Applicable (s : Substitution) (tree : SyntaxTree) : Prop where
  patterns_bind : ∀ p ∈ s.query.patterns, p.binds s.anchor = true
  matches_bind : ∀ m ∈ s.found tree, m.hasCapture s.anchor = true
  anchors_apart : (s.anchorSpans tree).Pairwise fun a b => ¬ a.Clashes b

theorem applicable_iff :
    s.Applicable tree ↔
      (∀ p ∈ s.query.patterns, p.binds s.anchor = true) ∧
        (∀ m ∈ s.found tree, m.hasCapture s.anchor = true) ∧
        (s.anchorSpans tree).Pairwise fun a b => ¬ a.Clashes b :=
  ⟨fun ⟨h, h', h''⟩ => ⟨h, h', h''⟩, fun ⟨h, h', h''⟩ => ⟨h, h', h''⟩⟩

instance (s : Substitution) (tree : SyntaxTree) : Decidable (s.Applicable tree) :=
  decidable_of_iff _ applicable_iff.symm

/-- No full anchor is found before an empty one at its start. -/
def EmptyFirst (s : Substitution) (tree : SyntaxTree) : Prop :=
  (s.anchorSpans tree).Pairwise fun a b => ¬ b.EmptyAtStartOf a

/-- Two anchors of a tree whose nodes run forwards clash just when they overlap. -/
theorem pairwise_overlaps_iff {rs : List Replacement}
    (hrs : List.Forall₂ (fun m r => s.replacement? tree.source m = some r) (s.found tree) rs)
    (h : ∀ r ∈ rs, r.span.start ≤ r.span.stop) :
    rs.Pairwise (fun a b => ¬ a.span.overlaps b.span = true) ↔
      (s.anchorSpans tree).Pairwise fun a b => ¬ a.Clashes b := by
  rw [anchorSpans, ← map_span_of_replacements hrs, List.pairwise_map]
  exact List.Pairwise.iff_of_mem fun ha hb =>
    not_congr (Span.overlaps_iff_clashes (h _ ha) (h _ hb))

/-- The replacements of a run are those of the matches, and each stands at a place of the
    tree. -/
theorem mem_preorder_of_replacement {ms : List Match} {rs : List Replacement}
    (hms : ∀ m ∈ ms, m ∈ s.found tree)
    (hrs : List.Forall₂ (fun m r => s.replacement? source m = some r) ms rs) :
    ∀ r ∈ rs, ∃ n ∈ tree.rootNode.preorder, r.span = n.span := by
  induction hrs with
  | nil => simp
  | @cons m r ms rs hr hrest ih =>
    obtain ⟨hm, hms⟩ := List.forall_mem_cons.1 hms
    obtain ⟨n, hn, rfl⟩ := Option.map_eq_some_iff.1 hr
    rw [List.forall_mem_cons]
    exact ⟨⟨n, mem_preorder_of_anchor hm hn, rfl⟩, ih hms⟩

/-- The anchors are collected exactly when every match has one and no two clash. -/
theorem isOk_collect_iff (h : tree.Forward) :
    (∃ rs, s.collect tree.source [] (s.found tree) = .ok rs) ↔
      (∀ m ∈ s.found tree, m.hasCapture s.anchor = true) ∧
        (s.anchorSpans tree).Pairwise fun a b => ¬ a.Clashes b := by
  -- Anchors are nodes of the tree, so their spans run forwards.
  have hforward : ∀ {rs : List Replacement},
      List.Forall₂ (fun m r => s.replacement? tree.source m = some r) (s.found tree) rs →
        ∀ r ∈ rs, r.span.start ≤ r.span.stop := by
    intro rs hrs r hr
    obtain ⟨n, hn, hspan⟩ := mem_preorder_of_replacement (fun _ => id) hrs r hr
    rw [hspan]
    exact h n hn
  constructor
  · rintro ⟨rs, hcollect⟩
    obtain ⟨new, -, hnew, hpairs, -⟩ := collect_eq_ok_iff.1 hcollect
    exact ⟨hasCapture_of_replacements hnew, (pairwise_overlaps_iff hnew (hforward hnew)).1 hpairs⟩
  · rintro ⟨hbind, hapart⟩
    obtain ⟨rs, hrs⟩ : ∃ rs,
        List.Forall₂ (fun m r => s.replacement? tree.source m = some r) (s.found tree) rs :=
      exists_replacements hbind
    exact ⟨rs, collect_eq_ok_iff.2
      ⟨rs, rfl, hrs, (pairwise_overlaps_iff hrs (hforward hrs)).2 hapart, by simp⟩⟩

/-- After the anchors have been collected, the order in which they came decides. -/
theorem isOk_splice_collected_iff (h : tree.WellPlaced) {rs : List Replacement}
    (hcollect : s.collect tree.source [] (s.found tree) = .ok rs) :
    (∃ output, splice tree.source rs = .ok output) ↔ s.EmptyFirst tree := by
  obtain ⟨new, heq, hrs, -, -⟩ := collect_eq_ok_iff.1 hcollect
  obtain rfl : rs = new := heq
  have hfit : ∀ r ∈ rs, r.span.FitsIn tree.source := by
    intro r hr
    obtain ⟨n, hn, hspan⟩ := mem_preorder_of_replacement (fun _ => id) hrs r hr
    rw [hspan]
    exact h n hn
  have happart := ((isOk_collect_iff h.forward).1 ⟨rs, hcollect⟩).2
  rw [anchorSpans, ← map_span_of_replacements hrs, List.pairwise_map] at happart
  rw [isOk_splice_iff hfit happart, EmptyFirst, anchorSpans, ← map_span_of_replacements hrs,
    List.pairwise_map]

/-- **When a run succeeds.** In a tree whose nodes lie on boundaries, a run goes through
    exactly when it is applicable and no full anchor is found before an empty one at its
    start; when only the last is not so, it answers that a span is invalid, and it never does
    so otherwise. -/
theorem run_outcome_iff (s : Substitution) (tree : SyntaxTree) (h : tree.WellPlaced) :
    ((∃ r, s.run tree = .ok r) ↔ s.Applicable tree ∧ s.EmptyFirst tree) ∧
      ((∃ span, s.run tree = .error (.invalidSpan span)) ↔
        s.Applicable tree ∧ ¬ s.EmptyFirst tree) := by
  constructor
  · constructor
    · rintro ⟨r, hr⟩
      obtain ⟨hpatterns, rs, output, hcollect, hsplice, -⟩ := run_eq_ok_iff.1 hr
      obtain ⟨hbind, happart⟩ := (isOk_collect_iff h.forward).1 ⟨rs, hcollect⟩
      exact ⟨⟨hpatterns, hbind, happart⟩,
        (isOk_splice_collected_iff h hcollect).1 ⟨output, hsplice⟩⟩
    · rintro ⟨⟨hpatterns, hbind, happart⟩, hfirst⟩
      obtain ⟨rs, hcollect⟩ := (isOk_collect_iff h.forward).2 ⟨hbind, happart⟩
      obtain ⟨output, hsplice⟩ := (isOk_splice_collected_iff h hcollect).2 hfirst
      exact ⟨_, run_eq_ok_iff.2 ⟨hpatterns, rs, output, hcollect, hsplice, rfl⟩⟩
  · constructor
    · rintro ⟨span, hspan⟩
      obtain ⟨hpatterns, rs, hcollect, hsplice⟩ := run_eq_invalidSpan_iff.1 hspan
      obtain ⟨hbind, happart⟩ := (isOk_collect_iff h.forward).1 ⟨rs, hcollect⟩
      refine ⟨⟨hpatterns, hbind, happart⟩, fun hfirst => ?_⟩
      obtain ⟨output, hok⟩ := (isOk_splice_collected_iff h hcollect).2 hfirst
      rw [hok] at hsplice
      cases hsplice
    · rintro ⟨⟨hpatterns, hbind, happart⟩, hfirst⟩
      obtain ⟨rs, hcollect⟩ := (isOk_collect_iff h.forward).2 ⟨hbind, happart⟩
      cases hsplice : splice tree.source rs with
      | ok output => exact absurd ((isOk_splice_collected_iff h hcollect).1 ⟨output, hsplice⟩) hfirst
      | error e =>
        obtain ⟨span, rfl⟩ := exists_invalidSpan_of_spliceFrom hsplice
        exact ⟨span, run_eq_invalidSpan_iff.2 ⟨hpatterns, rs, hcollect, hsplice⟩⟩

/-! ### The two orders

Error recovery puts a missing `)` where the next token starts, so an empty anchor and a full
one can start together. -/

/-- The substitution of a query text and a template. -/
def ofTexts? (language : Language) (query template : Text) : Option Substitution :=
  match Query.compile language query .builtins with
  | .ok q => (Substitution.new language q template).toOption
  | .error _ => none

/-- The label of a token. -/
def tokenLabel (kind : String) (start stop : Nat) : Label :=
  ⟨kind, start, stop, false, false, false, none, true, []⟩

/-- The label of a named node. -/
def namedLabel (kind : String) (start stop : Nat) (field : Option String) : Label :=
  ⟨kind, start, stop, true, false, false, field, true, []⟩

/-- The label of a node with an error at or below it. -/
def damagedLabel (l : Label) : Label := { l with damaged := true }

/-- A call that is not closed. The `)` inserted for it is empty and stands at byte 14, where
    the `;` starts. -/
def unclosedCall : SyntaxTree :=
  ⟨.cpp, "void f() { g(1; }".toList,
    .node (damagedLabel (namedLabel "translation_unit" 0 17 none)) [
      .node (damagedLabel (namedLabel "function_definition" 0 17 none)) [
        .node (namedLabel "primitive_type" 0 4 (some "type")) [],
        .node (namedLabel "function_declarator" 5 8 (some "declarator")) [
          .node (namedLabel "identifier" 5 6 (some "declarator")) [],
          .node (namedLabel "parameter_list" 6 8 (some "parameters")) [
            .node (tokenLabel "(" 6 7) [],
            .node (tokenLabel ")" 7 8) []]],
        .node (damagedLabel (namedLabel "compound_statement" 9 17 (some "body"))) [
          .node (tokenLabel "\x7b" 9 10) [],
          .node (damagedLabel (namedLabel "expression_statement" 11 15 none)) [
            .node (damagedLabel (namedLabel "call_expression" 11 14 none)) [
              .node (namedLabel "identifier" 11 12 (some "function")) [],
              .node (damagedLabel (namedLabel "argument_list" 12 14 (some "arguments"))) [
                .node (tokenLabel "(" 12 13) [],
                .node (namedLabel "number_literal" 13 14 none) [],
                .node { damagedLabel (tokenLabel ")" 14 14) with missing := true } []]],
            .node (tokenLabel ";" 14 15) []],
          .node (tokenLabel "\x7d" 16 17) []]]]⟩

/-- Found through the call around it, the empty `)` comes before the `;`, and the run
    succeeds. -/
theorem run_unclosedCall :
    ∃ s, ofTexts? .cpp
        "(call_expression (argument_list (MISSING \")\") @from)) @call \";\" @from".toList
        "X".toList = some s ∧
      unclosedCall.WellPlaced ∧
      s.run unclosedCall = .ok ⟨"void f() \x7b g(1XX \x7d".toList, 2⟩ := by
  have hrun : (ofTexts? .cpp
      "(call_expression (argument_list (MISSING \")\") @from)) @call \";\" @from".toList
      "X".toList).any (fun s => unclosedCall.WellPlaced ∧
        s.run unclosedCall = .ok ⟨"void f() \x7b g(1XX \x7d".toList, 2⟩) = true := by
    simp only [run, found_eq_insertionSort, splice_eq_spliceFrom, byStart_eq_insertionSort]
    decide +kernel
  obtain ⟨s, hs, h⟩ := (Option.any_eq_true _ _).1 hrun
  exact ⟨s, hs, of_decide_eq_true h⟩

/-- In that order the run is applicable and the empty anchor is first. -/
theorem run_outcome_unclosedCall :
    ∃ s, ofTexts? .cpp
        "(call_expression (argument_list (MISSING \")\") @from)) @call \";\" @from".toList
        "X".toList = some s ∧
      unclosedCall.WellPlaced ∧ s.Applicable unclosedCall ∧ s.EmptyFirst unclosedCall := by
  obtain ⟨s, hs, hplaced, hrun⟩ := run_unclosedCall
  exact ⟨s, hs, hplaced, (run_outcome_iff s unclosedCall hplaced).1.1 ⟨_, hrun⟩⟩

/-- Found by themselves the longer `;` comes first: no two anchors clash, and yet the run
    answers that a span is invalid. -/
theorem invalidSpan_of_unclosedCall :
    ∃ s, ofTexts? .cpp "(MISSING \")\") @from \";\" @from".toList "X".toList = some s ∧
      unclosedCall.WellPlaced ∧ s.Applicable unclosedCall ∧
      s.run unclosedCall = .error (.invalidSpan ⟨14, 14⟩) := by
  have hrun : (ofTexts? .cpp "(MISSING \")\") @from \";\" @from".toList "X".toList).any
      (fun s => unclosedCall.WellPlaced ∧ s.Applicable unclosedCall ∧
        s.run unclosedCall = .error (.invalidSpan ⟨14, 14⟩)) = true := by
    simp only [applicable_iff, anchorSpans, run, found_eq_insertionSort, splice_eq_spliceFrom,
      byStart_eq_insertionSort]
    decide +kernel
  obtain ⟨s, hs, h⟩ := (Option.any_eq_true _ _).1 hrun
  exact ⟨s, hs, of_decide_eq_true h⟩

/-! ## What a run writes -/

/-- An anchor of the source with what stands between it and the one before. -/
structure Piece where
  gap : Text
  /-- The bytes of the anchor. -/
  old : Text
  /-- The match that the anchor belongs to. -/
  found : Match

/-- A text put together from pieces: every gap as it is, a part for every anchor, and what
    stands after the last one. -/
def weave (part : Piece → Text) (last : Text) (pieces : List Piece) : Text :=
  pieces.flatMap (fun p => p.gap ++ part p) ++ last

@[simp] theorem weave_nil (part : Piece → Text) (last : Text) : weave part last [] = last := rfl

@[simp] theorem weave_cons (part : Piece → Text) (last : Text) (p : Piece)
    (pieces : List Piece) :
    weave part last (p :: pieces) = p.gap ++ part p ++ weave part last pieces := by
  rw [weave, List.flatMap_cons, List.append_assoc, weave]

/-- Every anchor of the pieces stands in the source, which begins at `position`, where its
    match binds it. -/
def Placed (s : Substitution) (position : Nat) (pieces : List Piece) : Prop :=
  ∀ front p back, pieces = front ++ p :: back →
    ∃ n, p.found.capture? s.anchor = some n ∧
      n.start = position + (weave (·.old) p.gap front).size ∧ n.stop = n.start + p.old.size

theorem placed_nil (s : Substitution) (position : Nat) : s.Placed position [] := by
  intro front p back h
  simp at h

theorem placed_cons {position : Nat} {p : Piece} {pieces : List Piece} {n : Node}
    (hn : p.found.capture? s.anchor = some n) (hstart : n.start = position + p.gap.size)
    (hstop : n.stop = n.start + p.old.size) (hpieces : s.Placed n.stop pieces) :
    s.Placed position (p :: pieces) := by
  intro front p' back h
  cases front with
  | nil =>
    obtain ⟨rfl, rfl⟩ := List.cons.inj h
    exact ⟨n, hn, hstart, hstop⟩
  | cons q front =>
    obtain ⟨rfl, rfl⟩ := List.cons.inj h
    obtain ⟨n', hn', hstart', hstop'⟩ := hpieces front p' back rfl
    refine ⟨n', hn', ?_, hstop'⟩
    rw [hstart', weave_cons, Text.size_append, Text.size_append]
    omega

/-- A walk cuts what it has not passed yet into pieces, and puts the pieces together with the
    texts of the replacements. -/
theorem spliceFrom_weaves {ms : List Match} {rs : List Replacement}
    (hrs : List.Forall₂ (fun m r => s.replacement? source m = some r) ms rs)
    (hforward : ∀ r ∈ rs, r.span.start ≤ r.span.stop) {position : Nat} {output : Text}
    (houtput : spliceFrom source position rs = .ok output) :
    ∃ pieces last, pieces.map (·.found) = ms ∧
      source.slice? position source.size = some (weave (·.old) last pieces) ∧
      output = weave (fun p => s.template.render p.found source) last pieces ∧
      s.Placed position pieces := by
  induction hrs generalizing position output with
  | nil =>
    have hrest := spliceFrom_nil_eq_ok_iff.1 houtput
    exact ⟨[], output, rfl, hrest, rfl, placed_nil s position⟩
  | @cons m r ms rs hr hrest ih =>
    obtain ⟨n, hn, rfl⟩ := Option.map_eq_some_iff.1 hr
    obtain ⟨hspan, hforward⟩ := List.forall_mem_cons.1 hforward
    obtain ⟨kept, rest, hkept, hstop, htail, rfl⟩ := spliceFrom_cons_eq_ok_iff.1 houtput
    obtain ⟨pieces, last, rfl, hslice, rfl, hplaced⟩ := ih hforward htail
    have hstart := (Text.isSome_slice?_iff.1 ⟨kept, hkept⟩).2.2
    obtain ⟨old, hold⟩ := Text.isSome_slice?_iff.2 ⟨hspan, hstart, hstop⟩
    refine ⟨⟨kept, old, m⟩ :: pieces, last, rfl, ?_, by simp, ?_⟩
    -- The gap, the anchor and what was cut before follow on each other in the source.
    · rw [weave_cons]
      exact Text.slice?_trans (Text.slice?_trans hkept hold) hslice
    · refine placed_cons hn ?_ ?_ hplaced
      · exact (Text.add_size_of_slice? hkept).symm
      · exact (Text.add_size_of_slice? hold).symm

/-- **A run changes exactly the anchors.** Whatever order the matches come in, the source can
    be cut into their anchors and the gaps around them; the output has the same gaps, and for
    every anchor, at its place, the template filled in for its match. -/
theorem run_weaves (s : Substitution) (tree : SyntaxTree) (r : Substituted)
    (h : tree.Forward) (hr : s.run tree = .ok r) :
    r.replacements = (s.found tree).length ∧
      (s.found tree = [] → r.output = tree.source) ∧
      ∃ pieces last, (pieces.map (·.found)).Perm (s.found tree) ∧
        tree.source = weave (·.old) last pieces ∧
        r.output = weave (fun p => s.template.render p.found tree.source) last pieces ∧
        s.Placed 0 pieces := by
  obtain ⟨-, rs, output, hcollect, hsplice, rfl⟩ := run_eq_ok_iff.1 hr
  obtain ⟨new, heq, hrs, -, -⟩ := collect_eq_ok_iff.1 hcollect
  obtain rfl : rs = new := heq
  -- The matches in the order of their anchors.
  obtain ⟨ms, hms, hsorted⟩ : ∃ ms, ms.Perm (s.found tree) ∧
      List.Forall₂ (fun m r => s.replacement? tree.source m = some r) ms (byStart rs) := by
    obtain ⟨ms, hflip, hperm⟩ := List.perm_comp_forall₂ (byStart_perm rs) hrs.flip
    exact ⟨ms, hperm, hflip.flip⟩
  have hforward : ∀ r ∈ byStart rs, r.span.start ≤ r.span.stop := by
    intro r hr
    obtain ⟨n, hn, hspan⟩ :=
      mem_preorder_of_replacement (fun _ hm => hms.mem_iff.1 hm) hsorted r hr
    rw [hspan]
    exact h n hn
  obtain ⟨pieces, last, rfl, hslice, hwoven, hplaced⟩ :=
    spliceFrom_weaves hsorted hforward hsplice
  have hsource : tree.source = weave (·.old) last pieces := Text.eq_of_slice?_zero_size hslice
  refine ⟨hrs.length_eq.symm, fun hnone => ?_, pieces, last, hms, hsource, hwoven, hplaced⟩
  rw [hnone, List.perm_nil, List.map_eq_nil_iff] at hms
  subst hms
  exact hwoven.trans hsource.symm

/-- The call that is not closed, with its two anchors filled in. -/
theorem run_weaves_unclosedCall :
    ∃ s r, ofTexts? .cpp
        "(call_expression (argument_list (MISSING \")\") @from)) @call \";\" @from".toList
        "X".toList = some s ∧
      unclosedCall.Forward ∧ s.run unclosedCall = .ok r ∧ r.replacements = 2 ∧
      (s.found unclosedCall).length = 2 ∧
      ∃ pieces last, (pieces.map (·.found)).Perm (s.found unclosedCall) ∧
        unclosedCall.source = weave (·.old) last pieces ∧
        "void f() \x7b g(1XX \x7d".toList =
          weave (fun p => s.template.render p.found unclosedCall.source) last pieces ∧
        s.Placed 0 pieces := by
  obtain ⟨s, hs, hplaced, hrun⟩ := run_unclosedCall
  obtain ⟨hcount, -, hpieces⟩ := run_weaves s unclosedCall _ hplaced.forward hrun
  exact ⟨s, _, hs, hplaced.forward, hrun, rfl, hcount.symm, hpieces⟩

end Substitution
end TreeQuery
