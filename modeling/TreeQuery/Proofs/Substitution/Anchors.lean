/-
  TreeQuery.Proofs.Substitution.Anchors

  The `@` signs before the name of an anchor. A configuration is valid when there is more to
  the name than signs, however many there are. A substitution takes one of them off when the
  anchor is set, and one more whenever it looks the anchor up, in patterns and in matches.

  * `withoutSigil_withoutSigil_eq_iff`: that reaches the bare name past two signs at most.
  * `Substitution.run_congr`: a run depends on its anchor by what it looks up; besides, the
    anchor as it was set stands in the error that says it is missing.
  * `Substitution.run_of_sigils`: a name that is looked up with a sign before it is no capture
    of a query that compiles, so the first pattern is refused.

  `Substitution.sigils_agree_iff` compares the run under a valid configuration with the run
  under the bare name.
-/

import TreeQuery.Proofs.Match.Lookup
import TreeQuery.Proofs.Match.Preorder
import TreeQuery.Proofs.Substitution.Identity
import TreeQuery.Proofs.Substitution.Offence

namespace TreeQuery

/-! ## Signs before a name -/

/-- How many `@` signs stand before a name. -/
def sigils (name : String) : Nat := (name.toList.takeWhile (· == '@')).length

/-- A name without all the `@` signs before it. -/
def withoutSigils (name : String) : String := .ofList (name.toList.dropWhile (· == '@'))

/-- Either there is no sign to take off, or one of them goes and the rest stays. -/
theorem withoutSigil_cases (name : String) :
    (sigils name = 0 ∧ withoutSigil name = name ∧ withoutSigils name = name) ∨
      (sigils (withoutSigil name) + 1 = sigils name ∧
        withoutSigils (withoutSigil name) = withoutSigils name) := by
  by_cases hsigil : ∃ rest, name.toList = '@' :: rest
  · obtain ⟨rest, hname⟩ := hsigil
    have hrest : withoutSigil name = String.ofList rest := by simp only [withoutSigil, hname]
    refine .inr ⟨?_, ?_⟩
    · simp [sigils, hname, hrest]
    · simp [withoutSigils, hname, hrest]
  · have hself : withoutSigil name = name := by
      unfold withoutSigil
      split
      · next rest hname => exact absurd ⟨rest, hname⟩ hsigil
      · rfl
    have hhead : name.toList.takeWhile (· == '@') = [] ∧
        name.toList.dropWhile (· == '@') = name.toList := by
      cases hchars : name.toList with
      | nil => exact ⟨rfl, rfl⟩
      | cons c rest =>
        have hc : ¬ (c == '@') = true := by
          intro hc
          exact hsigil ⟨rest, beq_iff_eq.1 hc ▸ hchars⟩
        exact ⟨List.takeWhile_cons_of_neg hc, List.dropWhile_cons_of_neg hc⟩
    refine .inl ⟨by rw [sigils, hhead.1]; rfl, hself, ?_⟩
    rw [withoutSigils, hhead.2, String.ofList_toList]

theorem sigils_withoutSigil (name : String) : sigils (withoutSigil name) = sigils name - 1 := by
  rcases withoutSigil_cases name with ⟨hnone, hself, -⟩ | ⟨hsigils, -⟩
  · rw [hself]
    omega
  · omega

theorem withoutSigils_withoutSigil (name : String) :
    withoutSigils (withoutSigil name) = withoutSigils name := by
  rcases withoutSigil_cases name with ⟨-, hself, -⟩ | ⟨-, hbare⟩
  · rw [hself]
  · exact hbare

theorem sigils_withoutSigils (name : String) : sigils (withoutSigils name) = 0 := by
  have hnone : ∀ chars : List Char, (chars.dropWhile (· == '@')).takeWhile (· == '@') = [] := by
    intro chars
    induction chars with
    | nil => rfl
    | cons c chars ih =>
      by_cases hc : (c == '@') = true
      · rw [List.dropWhile_cons, if_pos hc, ih]
      · rw [List.dropWhile_cons, if_neg hc, List.takeWhile_cons, if_neg hc]
  rw [sigils, withoutSigils, String.toList_ofList, hnone]
  rfl

theorem withoutSigils_eq_self_iff {name : String} :
    withoutSigils name = name ↔ sigils name = 0 := by
  constructor
  · intro hself
    rw [← hself]
    exact sigils_withoutSigils name
  · intro hnone
    rcases withoutSigil_cases name with ⟨-, -, hself⟩ | ⟨hsigils, -⟩
    · exact hself
    · omega

/-- Taking off one sign leaves none exactly when there is one at most. -/
theorem withoutSigil_eq_iff {name : String} :
    withoutSigil name = withoutSigils name ↔ sigils name ≤ 1 := by
  have hbare : withoutSigils (withoutSigil name) = withoutSigil name ↔
      sigils (withoutSigil name) = 0 := withoutSigils_eq_self_iff
  rw [withoutSigils_withoutSigil, sigils_withoutSigil] at hbare
  rw [eq_comm, hbare]
  omega

/-- Taking off two leaves none exactly when there are two at most. -/
theorem withoutSigil_withoutSigil_eq_iff {name : String} :
    withoutSigil (withoutSigil name) = withoutSigils name ↔ sigils name ≤ 2 := by
  rw [← withoutSigils_withoutSigil, withoutSigil_eq_iff, sigils_withoutSigil]
  omega

theorem withoutSigil_withoutSigils (name : String) :
    withoutSigil (withoutSigils name) = withoutSigils name := by
  rcases withoutSigil_cases (withoutSigils name) with ⟨-, hself, -⟩ | ⟨hsigils, -⟩
  · exact hself
  · have hnone := sigils_withoutSigils name
    omega

/-- A name that a query can define has no sign before it. -/
theorem IsName.sigils_eq_zero {name : String} (h : IsName name) : sigils name = 0 := by
  have hsigils := sigils_withoutSigil name
  rw [h.withoutSigil_eq] at hsigils
  omega

/-- A configuration is valid when its anchor has more than signs, and it stays as it is. -/
theorem Config.validated_eq_ok_iff {c v : Config} :
    c.validated = .ok v ↔ v = c ∧ withoutSigils c.anchor ≠ "" := by
  have hvalid : c.isValid = true ↔ withoutSigils c.anchor ≠ "" := by
    rw [isValid, withoutSigils, Bool.not_eq_true', Ne, ← String.toList_eq_nil_iff,
      String.toList_ofList, ← List.isEmpty_iff, Bool.not_eq_true]
  rw [← hvalid, validated]
  split
  · next h => simp [h, eq_comm]
  · next h => simp [h]

/-! ## Outcomes of one kind -/

namespace SubstitutionError

/-- Errors are of one kind when one case makes them both. -/
def SameKind (e e' : SubstitutionError) : Prop := e.ctorIdx = e'.ctorIdx

/-- The error with another name for the anchor that is missing. -/
def withMissing (anchor : String) : SubstitutionError → SubstitutionError
  | missingAnchor pattern _ => missingAnchor pattern anchor
  | e => e

theorem sameKind_withMissing (anchor : String) (e : SubstitutionError) :
    (e.withMissing anchor).SameKind e := by
  cases e <;> rfl

theorem sameKind_missingAnchor_iff {pattern : Nat} {anchor : String} {e : SubstitutionError} :
    (missingAnchor pattern anchor).SameKind e ↔ ∃ i a, e = missingAnchor i a := by
  cases e <;> simp [SameKind, SubstitutionError.ctorIdx]

end SubstitutionError

/-- Two runs come to the same output, or fail with errors of one kind. -/
def SameOutcome : (r r' : Except SubstitutionError Substituted) → Prop
  | .ok result, .ok result' => result = result'
  | .error e, .error e' => e.SameKind e'
  | _, _ => False

theorem sameOutcome_mapError (anchor : String) (r : Except SubstitutionError Substituted) :
    SameOutcome (r.mapError (·.withMissing anchor)) r := by
  cases r with
  | ok result => exact rfl
  | error e => exact e.sameKind_withMissing anchor

/-! ## What a run depends on -/

theorem QueryPattern.binds_congr (p : QueryPattern) {a b : String}
    (h : withoutSigil a = withoutSigil b) : p.binds a = p.binds b := by
  rw [binds, binds, quantity?, quantity?, h]

theorem Match.capture?_congr (m : Match) {a b : String} (h : withoutSigil a = withoutSigil b) :
    m.capture? a = m.capture? b := by
  rw [capture?, capture?, h]

namespace Substitution

variable {s : Substitution} {a : String}

theorem checkPatterns_congr (h : withoutSigil a = withoutSigil s.anchor) :
    ({ s with anchor := a } : Substitution).checkPatterns =
      s.checkPatterns.mapError (·.withMissing a) := by
  have hbinds : (fun p : QueryPattern => !p.binds a) = fun p => !p.binds s.anchor :=
    funext fun p => congrArg Bool.not (p.binds_congr h)
  simp only [checkPatterns, hbinds]
  cases s.query.patterns.find? (!·.binds s.anchor) <;> rfl

theorem collect_congr (h : withoutSigil a = withoutSigil s.anchor) (source : Text)
    (made : List Replacement) (ms : List Match) :
    ({ s with anchor := a } : Substitution).collect source made ms =
      (s.collect source made ms).mapError (·.withMissing a) := by
  induction ms generalizing made with
  | nil => rfl
  | cons m ms ih =>
    -- The match binds the same node, so only the refusal of an unbound one tells the names apart.
    simp only [collect, m.capture?_congr h]
    cases m.capture? s.anchor with
    | none => rfl
    | some n =>
      dsimp only
      cases made.find? (·.span.overlaps n.span) with
      | none => exact ih _
      | some previous => rfl

/-- The errors of a splice name no anchor. -/
theorem mapError_splice (source : Text) (rs : List Replacement) :
    (splice source rs).mapError (·.withMissing a) = splice source rs := by
  cases hsplice : splice source rs with
  | ok output => rfl
  | error e =>
    obtain ⟨span, rfl⟩ := exists_invalidSpan_of_spliceFrom hsplice
    rfl

/-- Under an anchor that is looked up by the same name a run has the same result, but for the
    name in the error that the anchor is missing. -/
theorem run_congr (h : withoutSigil a = withoutSigil s.anchor) (tree : SyntaxTree) :
    ({ s with anchor := a } : Substitution).run tree =
      (s.run tree).mapError (·.withMissing a) := by
  simp only [run, mapError_bind, checkPatterns_congr h, collect_congr h, mapError_splice]
  rfl

/-! ## Names that are no captures -/

/-- The names that the patterns of a compiled query bind are names of captures. -/
theorem isName_of_binds {q : Query} {language : Language} {text : Text} {registry : Registry}
    (hquery : Query.compile language text registry = .ok q) {p : QueryPattern}
    (hp : p ∈ q.patterns) (hbinds : p.binds a = true) : IsName (withoutSigil a) := by
  obtain ⟨patterns, -, hcompiled⟩ := Query.compile_eq_ok hquery
  obtain ⟨pattern, -, hpattern⟩ := exists_of_mem_right hcompiled hp
  rw [QueryPattern.binds, QueryPattern.quantity?, Option.isSome_map, List.find?_isSome] at hbinds
  obtain ⟨capture, hcapture, hname⟩ := hbinds
  -- What a pattern can bind stands in the table of the query.
  rw [hpattern.captures] at hcapture
  have hmem := List.mem_of_getElem? (Query.getElem?_of_mem_patternCaptures hcapture)
  rw [← beq_iff_eq.1 hname]
  exact Query.isName_of_mem_captures hquery hmem

/-- An anchor with two signs or more is looked up with one, so no pattern can bind it. -/
theorem run_of_sigils {language : Language} {text : Text} {registry : Registry}
    (hquery : Query.compile language text registry = .ok s.query) (hsigils : 2 ≤ sigils s.anchor)
    (hpatterns : s.query.patterns ≠ []) (tree : SyntaxTree) :
    s.run tree = .error (.missingAnchor 0 s.anchor) := by
  obtain ⟨p, rest, hlist⟩ := List.exists_cons_of_ne_nil hpatterns
  have hp : p ∈ s.query.patterns := hlist ▸ List.mem_cons_self
  have hunbound : p.binds s.anchor = false := by
    rw [Bool.eq_false_iff]
    intro hbinds
    have hnone := (isName_of_binds hquery hp hbinds).sigils_eq_zero
    rw [sigils_withoutSigil] at hnone
    omega
  have hindex : p.index = 0 := Query.index_of_compile hquery (by rw [hlist]; rfl)
  apply run_eq_error_of_checkPatterns
  rw [checkPatterns, hlist, List.find?_cons_of_pos (by rw [hunbound]; rfl), ← hindex]

end Substitution

/-! ## Queries of no patterns -/

namespace Search

variable {s : Search}

theorem enter_of_no_starts (hwild : s.wildStarts = []) (hkind : s.kindStarts = []) (x : Sight) :
    s.enter x ⟨[], []⟩ = ⟨[], []⟩ := by
  have hbegin : s.beginAll x [] = [] := by
    simp [beginAll, hwild, hkind]
  simp [enter, hbegin, Thread.prune]

mutual
/-- A walk that begins no match goes on with none. -/
theorem walk_of_no_starts (hwild : s.wildStarts = []) (hkind : s.kindStarts = []) (source : Text)
    (trail : List Crumb) (depth : Nat) (t : Tree) :
    s.walk source trail depth ⟨[], []⟩ t = ⟨[], []⟩ := by
  match t with
  | .node l cs =>
    rw [walk]
    simp only [enter_of_no_starts hwild hkind, walkList_of_no_starts hwild hkind]
    simp [leave]

theorem walkList_of_no_starts (hwild : s.wildStarts = []) (hkind : s.kindStarts = [])
    (source : Text) (trail : List Crumb) (depth : Nat) (parent : Label) (before ts : List Tree) :
    s.walkList source trail depth parent before ⟨[], []⟩ ts = ⟨[], []⟩ := by
  match ts with
  | [] => rfl
  | t :: ts =>
    rw [walkList]
    simp only [walk_of_no_starts hwild hkind, walkList_of_no_starts hwild hkind]
end

end Search

namespace Substitution

variable {s : Substitution} {a : String}

/-- A query of no patterns finds nothing. -/
theorem found_eq_nil (h : s.query.patterns = []) (tree : SyntaxTree) : s.found tree = [] := by
  have hsearch : s.query.search .everything tree.rootNode = [] := by
    rw [Query.search, h]
    simp [Search.run, Search.walk_of_no_starts, Search.ofPrograms]
  rw [found_eq_insertionSort, hsearch]
  rfl

/-- It leaves the source as it is, whatever the anchor. -/
theorem run_of_no_patterns (h : s.query.patterns = []) (tree : SyntaxTree) :
    ({ s with anchor := a } : Substitution).run tree = s.run tree := by
  have hcheck : ∀ {s : Substitution}, s.query.patterns = [] → s.checkPatterns = .ok () := by
    intro s h
    rw [checkPatterns, h]
    rfl
  have hfound : ({ s with anchor := a } : Substitution).found tree = [] := found_eq_nil h tree
  rw [run, run, hcheck h, hcheck (s := { s with anchor := a }) h, found_eq_nil h, hfound]
  rfl

/-! ## Configured anchors -/

/-- One sign is taken off when the anchor is set. -/
theorem withAnchor_of_sigils_le_one (s : Substitution) {name : String} (h : sigils name ≤ 1) :
    s.withAnchor name = s.withAnchor (withoutSigils name) := by
  rw [withAnchor, withAnchor, withoutSigil_withoutSigils, withoutSigil_eq_iff.2 h]

/-- A second one is taken off when the anchor is looked up, and stays in the error that the
    anchor is missing. -/
theorem run_withAnchor_of_sigils_le_two (s : Substitution) {name : String} (h : sigils name ≤ 2)
    (tree : SyntaxTree) :
    (s.withAnchor name).run tree =
      ((s.withAnchor (withoutSigils name)).run tree).mapError
        (·.withMissing (withoutSigil name)) := by
  have hlookup : withoutSigil (withoutSigil name) =
      withoutSigil (s.withAnchor (withoutSigils name)).anchor := by
    rw [withAnchor, withoutSigil_withoutSigils, withoutSigil_withoutSigils]
    exact withoutSigil_withoutSigil_eq_iff.2 h
  exact run_congr hlookup tree

/-- With a third one the first pattern is refused. -/
theorem run_withAnchor_of_three_le_sigils {language : Language} {text : Text} {registry : Registry}
    (hquery : Query.compile language text registry = .ok s.query) {name : String}
    (h : 3 ≤ sigils name) (hpatterns : s.query.patterns ≠ []) (tree : SyntaxTree) :
    (s.withAnchor name).run tree = .error (.missingAnchor 0 (withoutSigil name)) := by
  have hsigils : sigils (s.withAnchor name).anchor = sigils name - 1 := sigils_withoutSigil name
  exact run_of_sigils (s := s.withAnchor name) hquery (by omega) hpatterns tree

/-- **Signs before a configured anchor.** Under a valid configuration a run has the outcome that it
    has under the bare name exactly when at most two signs stand before the name, or the query has
    no patterns, or the bare name is itself missing. With one sign the substitutions are the same;
    with two, a run differs at most by the name in the error that the anchor is missing; with
    three or more, the first pattern is refused. -/
theorem sigils_agree_iff (s : Substitution) {language : Language} {text : Text}
    {registry : Registry} (hquery : Query.compile language text registry = .ok s.query)
    {c v : Config} (hv : c.validated = .ok v) (tree : SyntaxTree) :
    (sigils c.anchor ≤ 1 → s.withConfig v = s.withAnchor (withoutSigils c.anchor)) ∧
    (sigils c.anchor ≤ 2 → (s.withConfig v).run tree =
      ((s.withAnchor (withoutSigils c.anchor)).run tree).mapError
        (·.withMissing (s.withConfig v).anchor)) ∧
    (3 ≤ sigils c.anchor → s.query.patterns ≠ [] →
      (s.withConfig v).run tree = .error (.missingAnchor 0 (s.withConfig v).anchor)) ∧
    (SameOutcome ((s.withConfig v).run tree)
        ((s.withAnchor (withoutSigils c.anchor)).run tree) ↔
      sigils c.anchor ≤ 2 ∨ s.query.patterns = [] ∨
        ∃ i a, (s.withAnchor (withoutSigils c.anchor)).run tree =
          .error (.missingAnchor i a)) := by
  obtain ⟨rfl, -⟩ := Config.validated_eq_ok_iff.1 hv
  refine ⟨fun h => s.withAnchor_of_sigils_le_one h,
    fun h => s.run_withAnchor_of_sigils_le_two h tree,
    fun h hpatterns => run_withAnchor_of_three_le_sigils hquery h hpatterns tree, ?_⟩
  rw [withConfig]
  by_cases hfew : sigils v.anchor ≤ 2
  · refine iff_of_true ?_ (.inl hfew)
    rw [s.run_withAnchor_of_sigils_le_two hfew]
    exact sameOutcome_mapError _ _
  · by_cases hpatterns : s.query.patterns = []
    · refine iff_of_true ?_ (.inr (.inl hpatterns))
      have hsame : (s.withAnchor v.anchor).run tree =
          (s.withAnchor (withoutSigils v.anchor)).run tree :=
        run_of_no_patterns (s := s.withAnchor (withoutSigils v.anchor)) hpatterns tree
      rw [hsame]
      cases (s.withAnchor (withoutSigils v.anchor)).run tree <;> exact rfl
    · -- The configured run fails since the anchor is missing, so the other has to.
      rw [run_withAnchor_of_three_le_sigils hquery (Nat.not_le.1 hfew) hpatterns tree,
        or_iff_right hfew, or_iff_right hpatterns]
      cases (s.withAnchor (withoutSigils v.anchor)).run tree with
      | ok result => exact iff_of_false id nofun
      | error e =>
        simp only [SameOutcome, Except.error.injEq]
        exact SubstitutionError.sameKind_missingAnchor_iff

/-- The name of a source of one name is replaced under the bare anchor, and the anchor is missing
    under a configured one with three signs. -/
theorem run_loneName :
    ∃ s, ofTexts? .python "(identifier) @whole".toList "y".toList = some s ∧
      (s.withAnchor "whole").run Cursor.loneName = .ok ⟨"y".toList, 1⟩ ∧
      (s.withConfig ⟨"info", .json, "@@@whole"⟩).run Cursor.loneName =
        .error (.missingAnchor 0 "@@whole") := by
  have hrun : (ofTexts? .python "(identifier) @whole".toList "y".toList).any (fun s =>
      (s.withAnchor "whole").run Cursor.loneName = .ok ⟨"y".toList, 1⟩ ∧
      (s.withConfig ⟨"info", .json, "@@@whole"⟩).run Cursor.loneName =
        .error (.missingAnchor 0 "@@whole")) = true := by
    simp only [run, found_eq_insertionSort, splice_eq_spliceFrom, byStart_eq_insertionSort]
    decide +kernel
  obtain ⟨s, hs, h⟩ := (Option.any_eq_true _ _).1 hrun
  exact ⟨s, hs, of_decide_eq_true h⟩

/-- With two signs the outcome is that of the bare anchor. -/
theorem sigils_agree_iff_loneName :
    ∃ (s : Substitution) (c : Config),
      Query.compile .python "(identifier) @whole".toList .builtins = .ok s.query ∧
      c.anchor = "@@whole" ∧ c.validated = .ok c ∧
      (s.withAnchor "whole").run Cursor.loneName = .ok ⟨"y".toList, 1⟩ ∧
      SameOutcome ((s.withConfig c).run Cursor.loneName)
        ((s.withAnchor "whole").run Cursor.loneName) := by
  obtain ⟨s, hs, hrun, -⟩ := run_loneName
  have hquery := compile_of_ofTexts? hs
  have hvalid : Config.validated ⟨"info", .json, "@@whole"⟩ = .ok ⟨"info", .json, "@@whole"⟩ := by
    decide
  have hagree := (sigils_agree_iff s hquery hvalid Cursor.loneName).2.2.2.2 (.inl (by decide))
  exact ⟨s, _, hquery, rfl, hvalid, hrun, hagree⟩

/-- With three it is not: there is an output under the bare anchor, and none under the configured
    one. -/
theorem agreement_fails_loneName :
    ¬ ∀ (s : Substitution) (language : Language) (text : Text) (registry : Registry),
      Query.compile language text registry = .ok s.query →
      ∀ c v : Config, c.validated = .ok v → ∀ tree,
        SameOutcome ((s.withConfig v).run tree)
          ((s.withAnchor (withoutSigils c.anchor)).run tree) := by
  intro h
  obtain ⟨s, hs, hbare, hconfigured⟩ := run_loneName
  have hvalid : Config.validated ⟨"info", .json, "@@@whole"⟩ = .ok ⟨"info", .json, "@@@whole"⟩ := by
    decide
  have hname : withoutSigils "@@@whole" = "whole" := by decide
  have hagree := h s _ _ _ (compile_of_ofTexts? hs) _ _ hvalid Cursor.loneName
  simp only [hname] at hagree
  rw [hbare, hconfigured] at hagree
  exact hagree

end Substitution
end TreeQuery
