/-
  TreeQuery.Proofs.Substitution.Offence

  What a run that fails complains about. The patterns are looked at before the source, and
  the first that cannot bind the anchor is named. After that the matches are looked at in
  the order in which they are found: a match offends when it does not bind the anchor, or
  when the span of its anchor overlaps that of a match before it (`Substitution.Offends`).
  The error is about the first match that offends, and an overlap is with the earliest
  match that there is one with (`Substitution.Offence`).

  * `Substitution.collect_eq_error_iff`: collecting fails with the first offence.
  * `Substitution.run_names_first_offender`: the error of a run.
-/

import TreeQuery.Proofs.Query.Compile
import TreeQuery.Proofs.Substitution.Run

namespace TreeQuery

namespace Substitution

variable {s : Substitution} {tree : SyntaxTree} {source : Text}

/-! ## Offences -/

/-- The span of the anchor of a match, if the match binds it. -/
def anchorSpan? (s : Substitution) (m : Match) : Option Span :=
  (m.capture? s.anchor).map (·.span)

/-- A match that comes after others does not bind the anchor, or the span of its anchor overlaps
    that of one of them. -/
def Offends (s : Substitution) (before : List Match) (m : Match) : Prop :=
  s.anchorSpan? m = none ∨
    ∃ span, s.anchorSpan? m = some span ∧
      ∃ m' ∈ before, ∃ previous, s.anchorSpan? m' = some previous ∧
        previous.overlaps span = true

/-- What is wrong with a match that comes after others, as an error. An overlap is with the
    earliest of them that it can be with. -/
inductive Offence (s : Substitution) (before : List Match) (m : Match) : SubstitutionError → Prop
  | unbound (hunbound : s.anchorSpan? m = none) :
      Offence s before m (.missingAnchor m.pattern s.anchor)
  | overlap {earlier later : List Span} {span previous : Span}
      (hspan : s.anchorSpan? m = some span)
      (hbefore : before.filterMap s.anchorSpan? = earlier ++ previous :: later)
      (hoverlaps : previous.overlaps span = true)
      (hearliest : ∀ a ∈ earlier, ¬ a.overlaps span = true) :
      Offence s before m (.overlap span previous)

/-- The matches all bind the anchor, and the spans of no two anchors overlap. -/
structure Apart (s : Substitution) (ms : List Match) : Prop where
  bound : ∀ m ∈ ms, m.hasCapture s.anchor = true
  apart : (ms.filterMap s.anchorSpan?).Pairwise fun a b => ¬ a.overlaps b = true

/-- `e` is what is wrong with the first match of a list that offends. -/
def FirstOffence (s : Substitution) (ms : List Match) (e : SubstitutionError) : Prop :=
  ∃ before m after, ms = before ++ m :: after ∧ s.Apart before ∧ s.Offence before m e

theorem offence_iff_of_unbound {before : List Match} {m : Match} {e : SubstitutionError}
    (h : s.anchorSpan? m = none) :
    s.Offence before m e ↔ e = .missingAnchor m.pattern s.anchor := by
  constructor
  · intro hoffence
    cases hoffence with
    | unbound => rfl
    | overlap hspan => cases h.symm.trans hspan
  · rintro rfl
    exact .unbound h

/-- A match that binds the anchor offends by an overlap, which a search in the spans before it
    finds. -/
theorem offence_iff_of_bound {before : List Match} {m : Match} {e : SubstitutionError}
    {span : Span} (h : s.anchorSpan? m = some span) :
    s.Offence before m e ↔
      ∃ previous, (before.filterMap s.anchorSpan?).find? (·.overlaps span) = some previous ∧
        e = .overlap span previous := by
  constructor
  · intro hoffence
    cases hoffence with
    | unbound hunbound => cases h.symm.trans hunbound
    | overlap hspan hbefore hoverlaps hearliest =>
      obtain rfl := Option.some.inj (h.symm.trans hspan)
      refine ⟨_, List.find?_eq_some_iff_append.2 ⟨hoverlaps, _, _, hbefore, ?_⟩, rfl⟩
      intro a ha
      simpa using hearliest a ha
  · rintro ⟨previous, hprevious, rfl⟩
    obtain ⟨hoverlaps, earlier, later, hbefore, hearliest⟩ :=
      List.find?_eq_some_iff_append.1 hprevious
    exact .overlap h hbefore hoverlaps fun a ha => by simpa using hearliest a ha

theorem Offence.offends {before : List Match} {m : Match} {e : SubstitutionError}
    (h : s.Offence before m e) : s.Offends before m := by
  cases h with
  | unbound hunbound => exact .inl hunbound
  | overlap hspan hbefore hoverlaps hearliest =>
    have hprevious := hbefore ▸ List.mem_append_right _ List.mem_cons_self
    obtain ⟨m', hm', hprevious⟩ := List.mem_filterMap.1 hprevious
    exact .inr ⟨_, hspan, m', hm', _, hprevious, hoverlaps⟩

theorem hasCapture_anchor_iff {m : Match} :
    m.hasCapture s.anchor = true ↔ ∃ span, s.anchorSpan? m = some span := by
  rw [Match.hasCapture, anchorSpan?, ← Option.isSome_map (f := (·.span)),
    Option.isSome_iff_exists]

/-- Matches that are apart have none among them that offends those before it. -/
theorem Apart.not_offends {before after : List Match} {m : Match}
    (h : s.Apart (before ++ m :: after)) : ¬ s.Offends before m := by
  rintro (hunbound | ⟨span, hspan, m', hm', previous, hprevious, hoverlaps⟩)
  · obtain ⟨span, hspan⟩ := hasCapture_anchor_iff.1 (h.bound m (by simp))
    rw [hunbound] at hspan
    cases hspan
  · have happart := h.apart
    rw [List.filterMap_append, List.pairwise_append] at happart
    refine happart.2.2 previous (List.mem_filterMap.2 ⟨m', hm', hprevious⟩) span ?_ hoverlaps
    exact List.mem_filterMap.2 ⟨m, List.mem_cons_self, hspan⟩

/-! ## Collecting -/

/-- Collecting goes through when the matches are apart. -/
theorem exists_collect_iff {ms : List Match} :
    (∃ rs, s.collect source [] ms = .ok rs) ↔ s.Apart ms := by
  have hspans : ∀ {rs : List Replacement},
      List.Forall₂ (fun m r => s.replacement? source m = some r) ms rs →
        (rs.Pairwise (fun a b => ¬ a.span.overlaps b.span = true) ↔
          (ms.filterMap s.anchorSpan?).Pairwise fun a b => ¬ a.overlaps b = true) := by
    intro rs hrs
    have hanchors : ms.filterMap s.anchorSpan? = rs.map (·.span) :=
      (map_span_of_replacements hrs).symm
    rw [hanchors, List.pairwise_map]
  constructor
  · rintro ⟨rs, hcollect⟩
    obtain ⟨new, rfl, hnew, hpairs, -⟩ := collect_eq_ok_iff.1 hcollect
    exact ⟨hasCapture_of_replacements hnew, (hspans hnew).1 hpairs⟩
  · intro happart
    obtain ⟨rs, hrs⟩ : ∃ rs,
        List.Forall₂ (fun m r => s.replacement? source m = some r) ms rs :=
      exists_replacements happart.bound
    exact ⟨rs, collect_eq_ok_iff.2 ⟨rs, rfl, hrs, (hspans hrs).2 happart.apart, by simp⟩⟩

theorem collect_cons {made : List Replacement} {m : Match} {ms : List Match} :
    s.collect source made (m :: ms) =
      s.collect source made [m] >>= fun rs => s.collect source rs ms := by
  rw [collect, collect]
  split
  · rfl
  · split <;> rfl

/-- Collecting fails at the first match at which it fails after those before it. -/
theorem collect_fails_iff {made : List Replacement} {ms : List Match} {e : SubstitutionError} :
    s.collect source made ms = .error e ↔
      ∃ before m after rs, ms = before ++ m :: after ∧
        s.collect source made before = .ok rs ∧ s.collect source rs [m] = .error e := by
  induction ms generalizing made with
  | nil =>
    refine iff_of_false nofun ?_
    rintro ⟨before, m, after, rs, hms, -⟩
    cases before <;> cases hms
  | cons m ms ih =>
    rw [collect_cons, bind_eq_error_iff]
    constructor
    · rintro (hfirst | ⟨made', hmade, hlater⟩)
      · exact ⟨[], m, ms, made, rfl, rfl, hfirst⟩
      · obtain ⟨before, m', after, rs, rfl, hbefore, hm'⟩ := ih.1 hlater
        refine ⟨m :: before, m', after, rs, rfl, ?_, hm'⟩
        rw [collect_cons, bind_eq_ok_iff]
        exact ⟨made', hmade, hbefore⟩
    · rintro ⟨before, m', after, rs, hms, hbefore, hm'⟩
      cases before with
      | nil =>
        obtain ⟨rfl, rfl⟩ := List.cons.inj hms
        obtain rfl := Except.ok.inj hbefore
        exact .inl hm'
      | cons _ before =>
        obtain ⟨rfl, rfl⟩ := List.cons.inj hms
        rw [collect_cons, bind_eq_ok_iff] at hbefore
        obtain ⟨made', hmade, hbefore⟩ := hbefore
        exact .inr ⟨made', hmade, ih.2 ⟨before, m', after, rs, rfl, hbefore, hm'⟩⟩

/-- After matches whose replacements are made, a match fails with its offence. -/
theorem collect_singleton_eq_error_iff {before : List Match} {made : List Replacement}
    (h : List.Forall₂ (fun m r => s.replacement? source m = some r) before made) {m : Match}
    {e : SubstitutionError} :
    s.collect source made [m] = .error e ↔ s.Offence before m e := by
  rw [collect]
  cases hanchor : m.capture? s.anchor with
  | none =>
    have hunbound : s.anchorSpan? m = none := by rw [anchorSpan?, hanchor]; rfl
    rw [offence_iff_of_unbound hunbound]
    simp [eq_comm]
  | some n =>
    have hspan : s.anchorSpan? m = some n.span := by rw [anchorSpan?, hanchor]; rfl
    have hspans : before.filterMap s.anchorSpan? = made.map (·.span) :=
      (map_span_of_replacements h).symm
    rw [offence_iff_of_bound hspan, hspans, List.find?_map, Function.comp_def]
    cases hprevious : made.find? (·.span.overlaps n.span) with
    | none => simp [collect, hprevious]
    | some previous => simp [hprevious, eq_comm]

/-- **The first offence.** Collecting fails with the offence of the first match that offends. -/
theorem collect_eq_error_iff {ms : List Match} {e : SubstitutionError} :
    s.collect source [] ms = .error e ↔ s.FirstOffence ms e := by
  rw [collect_fails_iff]
  refine exists₃_congr fun before m after => ?_
  constructor
  · rintro ⟨rs, hms, hbefore, hm⟩
    obtain ⟨new, rfl, hnew, -, -⟩ := collect_eq_ok_iff.1 hbefore
    exact ⟨hms, exists_collect_iff.1 ⟨_, hbefore⟩, (collect_singleton_eq_error_iff hnew).1 hm⟩
  · rintro ⟨hms, happart, hoffence⟩
    obtain ⟨rs, hbefore⟩ := exists_collect_iff.2 happart
    obtain ⟨new, rfl, hnew, -, -⟩ := collect_eq_ok_iff.1 hbefore
    exact ⟨_, hms, hbefore, (collect_singleton_eq_error_iff hnew).2 hoffence⟩

/-! ## Runs -/

/-- The `i`-th pattern is the first that cannot bind the anchor. -/
def FirstUnbound (s : Substitution) (i : Nat) : Prop :=
  (∃ p, s.query.patterns[i]? = some p ∧ p.binds s.anchor = false) ∧
    ∀ p ∈ s.query.patterns.take i, p.binds s.anchor = true

/-- The patterns are refused for the first of them that cannot bind the anchor. -/
theorem exists_checkPatterns_eq_error {language : Language} {text : Text} {registry : Registry}
    (hquery : Query.compile language text registry = .ok s.query)
    (h : ∃ p ∈ s.query.patterns, p.binds s.anchor = false) :
    ∃ i, s.FirstUnbound i ∧ s.checkPatterns = .error (.missingAnchor i s.anchor) := by
  have hfound : (s.query.patterns.find? (!·.binds s.anchor)).isSome = true := by
    obtain ⟨p, hp, hunbound⟩ := h
    exact List.find?_isSome.2 ⟨p, hp, by rw [hunbound]; rfl⟩
  obtain ⟨p, hp⟩ := Option.isSome_iff_exists.1 hfound
  obtain ⟨hunbound, front, back, hpatterns, hfront⟩ := List.find?_eq_some_iff_append.1 hp
  have hplace : s.query.patterns[front.length]? = some p := by simp [hpatterns]
  refine ⟨front.length, ⟨⟨p, hplace, by simpa using hunbound⟩, ?_⟩, ?_⟩
  · rw [hpatterns, List.take_left]
    exact fun q hq => by simpa using hfront q hq
  · rw [checkPatterns, hp, ← Query.index_of_compile hquery hplace]

theorem run_eq_error_of_checkPatterns {e : SubstitutionError} (h : s.checkPatterns = .error e)
    (tree : SyntaxTree) : s.run tree = .error e := by
  rw [run, h]
  rfl

/-- Where every pattern can bind the anchor, the first offence is the error of the run, and all
    other errors are over the place of a span. -/
theorem firstOffence_iff_run {e : SubstitutionError}
    (h : ∀ p ∈ s.query.patterns, p.binds s.anchor = true) :
    s.FirstOffence (s.found tree) e ↔ s.run tree = .error e ∧ ∀ span, e ≠ .invalidSpan span := by
  have hrun : s.run tree = .error e ↔
      s.collect tree.source [] (s.found tree) = .error e ∨
        ∃ rs, s.collect tree.source [] (s.found tree) = .ok rs ∧
          splice tree.source rs = .error e := by
    have hcheck : s.run tree = s.collect tree.source [] (s.found tree) >>= fun rs =>
        splice tree.source rs >>= fun output => pure ⟨output, rs.length⟩ := by
      rw [run, checkPatterns_eq_ok_iff.2 h]
      rfl
    rw [hcheck, bind_eq_error_iff]
    refine or_congr_right (exists_congr fun rs => and_congr_right fun _ => ?_)
    refine bind_eq_error_iff.trans (or_iff_left ?_)
    rintro ⟨_, -, hpure⟩
    cases hpure
  rw [hrun, ← @collect_eq_error_iff s tree.source]
  constructor
  · rintro hcollect
    refine ⟨.inl hcollect, ?_⟩
    rintro span rfl
    exact collect_ne_invalidSpan hcollect
  · rintro ⟨hcollect | ⟨rs, -, hsplice⟩, hother⟩
    · exact hcollect
    · obtain ⟨span, hspan⟩ := exists_invalidSpan_of_spliceFrom hsplice
      exact absurd hspan (hother span)

/-- Some match offends those before it exactly when there is a first offence. -/
theorem exists_offends_iff {ms : List Match} :
    (∃ before m after, ms = before ++ m :: after ∧ s.Offends before m) ↔
      ∃ e, s.FirstOffence ms e := by
  constructor
  · rintro ⟨before, m, after, rfl, hoffends⟩
    -- Matches with an offender are not collected.
    cases hcollect : s.collect [] [] (before ++ m :: after) with
    | ok rs => exact absurd hoffends (exists_collect_iff.1 ⟨rs, hcollect⟩).not_offends
    | error e => exact ⟨e, collect_eq_error_iff.1 hcollect⟩
  · rintro ⟨e, before, m, after, hms, -, hoffence⟩
    exact ⟨before, m, after, hms, hoffence.offends⟩

/-- The anchors of a tree that runs forwards overlap when they clash. -/
theorem overlaps_anchors_iff (h : tree.Forward) {a b : Span} (ha : a ∈ s.anchorSpans tree)
    (hb : b ∈ s.anchorSpans tree) : a.overlaps b = true ↔ a.Clashes b := by
  have hforward : ∀ span ∈ s.anchorSpans tree, span.start ≤ span.stop := by
    intro span hspan
    obtain ⟨m, hm, hanchor⟩ := List.mem_filterMap.1 hspan
    obtain ⟨n, hn, rfl⟩ := Option.map_eq_some_iff.1 hanchor
    exact h n (mem_preorder_of_anchor hm hn)
  exact Span.overlaps_iff_clashes (hforward a ha) (hforward b hb)

/-- **The first offender is named.** If some pattern cannot bind the anchor, a run fails with the
    first that cannot, whatever the tree. Otherwise a run fails over its matches exactly when one
    of them offends, and its error is what is wrong with the first one that does; all the matches
    before that one bind the anchor, and no two of their anchors overlap. Anchors that run
    forwards overlap when they clash. -/
theorem run_names_first_offender (s : Substitution) {language : Language} {text : Text}
    {registry : Registry} (hquery : Query.compile language text registry = .ok s.query) :
    ((∃ p ∈ s.query.patterns, p.binds s.anchor = false) →
      ∃ i, s.FirstUnbound i ∧ ∀ tree, s.run tree = .error (.missingAnchor i s.anchor)) ∧
    ((∀ p ∈ s.query.patterns, p.binds s.anchor = true) → ∀ tree : SyntaxTree,
      ((∃ before m after, s.found tree = before ++ m :: after ∧ s.Offends before m) ↔
        ∃ e, s.FirstOffence (s.found tree) e) ∧
      (∀ e, s.FirstOffence (s.found tree) e ↔
        s.run tree = .error e ∧ ∀ span, e ≠ .invalidSpan span) ∧
      (tree.Forward → ∀ a ∈ s.anchorSpans tree, ∀ b ∈ s.anchorSpans tree,
        (a.overlaps b = true ↔ a.Clashes b))) := by
  constructor
  · intro hunbound
    obtain ⟨i, hfirst, hcheck⟩ := exists_checkPatterns_eq_error hquery hunbound
    exact ⟨i, hfirst, run_eq_error_of_checkPatterns hcheck⟩
  · intro hbinds tree
    exact ⟨exists_offends_iff, fun e => firstOffence_iff_run hbinds,
      fun hforward a ha b hb => overlaps_anchors_iff hforward ha hb⟩

/-- A list of two names. -/
def pairOfNames : SyntaxTree :=
  ⟨.python, "[x, y]".toList,
    .node (namedLabel "module" 0 6 none) [
      .node (namedLabel "expression_statement" 0 6 none) [
        .node (namedLabel "list" 0 6 none) [
          .node (tokenLabel "[" 0 1) [],
          .node (namedLabel "identifier" 1 2 none) [],
          .node (tokenLabel "," 2 3) [],
          .node (namedLabel "identifier" 4 5 none) [],
          .node (tokenLabel "]" 5 6) []]]]⟩

theorem compile_of_ofTexts? {language : Language} {query template : Text}
    (h : ofTexts? language query template = some s) :
    Query.compile language query .builtins = .ok s.query := by
  rw [ofTexts?] at h
  split at h
  · next q hq =>
    rw [new] at h
    split at h
    · cases h
    · split at h
      · cases h
      · obtain rfl := Option.some.inj h
        exact hq
  · cases h

/-- Each of the two names is an anchor, and then the whole list is: it overlaps both of them, and
    the first is named. -/
theorem run_names_first_offender_pairOfNames :
    ∃ s : Substitution,
      Query.compile .python "(list (identifier) @from) @whole (list \"]\") @from".toList
        .builtins = .ok s.query ∧
      (s.found pairOfNames).map s.anchorSpan? = [some ⟨1, 2⟩, some ⟨4, 5⟩, some ⟨0, 6⟩] ∧
      s.FirstOffence (s.found pairOfNames) (.overlap ⟨0, 6⟩ ⟨1, 2⟩) ∧
      s.run pairOfNames = .error (.overlap ⟨0, 6⟩ ⟨1, 2⟩) := by
  have hfound : (ofTexts? .python "(list (identifier) @from) @whole (list \"]\") @from".toList
      "X".toList).any (fun s =>
        s.query.patterns.all (·.binds s.anchor) ∧
        (s.found pairOfNames).map s.anchorSpan? =
          [some ⟨1, 2⟩, some ⟨4, 5⟩, some ⟨0, 6⟩]) = true := by
    simp only [found_eq_insertionSort]
    decide +kernel
  obtain ⟨s, hs, h⟩ := (Option.any_eq_true _ _).1 hfound
  obtain ⟨hbinds, hspans⟩ := of_decide_eq_true h
  have hquery := compile_of_ofTexts? hs
  obtain ⟨-, hmatches⟩ := run_names_first_offender s hquery
  obtain ⟨-, hrun, -⟩ := hmatches (List.all_eq_true.1 hbinds) pairOfNames
  -- The third match comes after two that are apart.
  have hfirst : s.FirstOffence (s.found pairOfNames) (.overlap ⟨0, 6⟩ ⟨1, 2⟩) := by
    obtain ⟨m₁, rest₁, hms, hm₁, hrest₁⟩ := List.map_eq_cons_iff.1 hspans
    obtain ⟨m₂, rest₂, rfl, hm₂, hrest₂⟩ := List.map_eq_cons_iff.1 hrest₁
    obtain ⟨m₃, rest₃, rfl, hm₃, -⟩ := List.map_eq_cons_iff.1 hrest₂
    have hbefore : [m₁, m₂].filterMap s.anchorSpan? = [⟨1, 2⟩, ⟨4, 5⟩] := by
      simp [hm₁, hm₂]
    refine ⟨[m₁, m₂], m₃, rest₃, hms, ⟨?_, ?_⟩, ?_⟩
    · simp [hasCapture_anchor_iff, hm₁, hm₂]
    · rw [hbefore]
      decide
    · exact @Offence.overlap s _ _ [] [⟨4, 5⟩] _ _ hm₃ hbefore (by decide) (by simp)
  exact ⟨s, hquery, hspans, hfirst, ((hrun _).1 hfirst).1⟩

end Substitution
end TreeQuery
