/-
  TreeQuery.Proofs.Query.Clauses

  Where the clauses of a query go. A clause opens with `#` or with `.`; marks keep those
  that open with `#` apart from the pattern language's own, so all of these are predicates
  of the registry (`QueryPattern.Routed`). A clause that opens with `.` is not marked: under
  one of the pattern language's own names it is a text filter or a note, and the registry
  never sees it.

  * `Query.search_eq_filter`: a search has the matches of the query without its clauses,
    less those that text filters refuse.
  * `Query.clauses_routed` puts the two together.
-/

import TreeQuery.Proofs.Pattern.Programs
import TreeQuery.Proofs.Query.Compile
import TreeQuery.Proofs.Query.Marked
import TreeQuery.Proofs.Search.Steps

namespace TreeQuery

/-! ## Names of clauses -/

namespace Marked

/-- Whether a clause is left for the registry: it opens with `#`, or has a name that the
pattern language does not read itself. -/
def isGeneral (m : Marked) (c : Clause) : Bool :=
  m.isHashed c || c.name ∉ TextFilter.ownNames

/-- The name under which a clause is looked up: after `#` the one that is written, after `.` the
one that is written without a mark before it. -/
def operatorName (m : Marked) (c : Clause) : String :=
  if m.isHashed c then m.writtenName c
  else String.ofList (unmark (m.writtenName c).toList)

theorem unmark_operatorMark (name : Text) : unmark (operatorMark ++ name) = name := by
  rw [unmark, if_pos (List.isPrefixOf_iff_prefix.2 (List.prefix_append _ _)), List.drop_left]

variable {m : Marked} {c : Clause}

/-- The name that is looked up is the operator's. -/
theorem Spelled.unmark_name (h : m.Spelled c) :
    String.ofList (unmark c.name.toList) = m.operatorName c := by
  rw [h.name, operatorName]
  cases m.isHashed c with
  | true =>
    rw [if_pos rfl, if_pos rfl, unmark_operatorMark, String.ofList_toList]
  | false => rfl

/-- A mark makes a name that is none of the pattern language's own. -/
theorem Spelled.notMem_ownNames (h : m.Spelled c) (hhashed : m.isHashed c = true) :
    c.name ∉ TextFilter.ownNames := by
  have hmark : ∀ name ∈ TextFilter.ownNames, operatorMark.isPrefixOf name.toList = false := by
    decide
  intro hmem
  have hnone := hmark _ hmem
  rw [h.name, hhashed, if_pos rfl, Bool.eq_false_iff] at hnone
  exact hnone (List.isPrefixOf_iff_prefix.2 (List.prefix_append _ _))

theorem Spelled.isGeneral_eq (h : m.Spelled c) :
    m.isGeneral c = decide (c.name ∉ TextFilter.ownNames) := by
  rw [isGeneral]
  cases hhashed : m.isHashed c with
  | true => rw [Bool.true_or, decide_eq_true (h.notMem_ownNames hhashed)]
  | false => rw [Bool.false_or]

end Marked

/-! ## Patterns -/

/-- The clauses of a pattern and what became of them. -/
structure QueryPattern.Routed (registry : Registry) (m : Marked) (names : List String)
    (pattern : Pattern) (p : QueryPattern) : Prop where
  start : p.start = m.toBare pattern.start
  /-- Each general clause is a predicate, in its place and resolved under its name. -/
  predicates : List.Forall₂ (fun c invocation =>
      registry.resolve (m.operatorName c) (c.arguments.map (Query.convertArgument names)) =
          .ok invocation ∧
        invocation.name = m.operatorName c ∧
        invocation.arguments = c.arguments.map (Query.convertArgument names))
    (pattern.item.clauses.filter m.isGeneral) p.predicates
  /-- The others are the pattern language's own. -/
  filters : p.filters = (pattern.item.clauses.filter (!m.isGeneral ·)).filterMap
    (TextFilter.filter? names)

namespace QueryPattern

variable {registry : Registry} {m : Marked} {names : List String} {pattern : Pattern}
  {p : QueryPattern}

theorem Compiled.routed (h : Compiled registry m names pattern p)
    (hspelled : ∀ c ∈ pattern.item.clauses, m.Spelled c) :
    Routed registry m names pattern p where
  start := h.start
  predicates := by
    -- General clauses are those whose name, mark included, is none of the own names.
    have hgeneral : pattern.item.clauses.filter m.isGeneral =
        pattern.item.clauses.filter (·.name ∉ TextFilter.ownNames) :=
      List.filter_congr fun c hc => (hspelled c hc).isGeneral_eq
    rw [hgeneral]
    have hboth := (List.forall₂_and_left _ _).2
      ⟨fun c hc => hspelled c (List.mem_of_mem_filter hc), h.predicates⟩
    refine hboth.imp ?_
    rintro c invocation ⟨hc, hresolved⟩
    obtain ⟨hname, harguments⟩ := hresolved.name_arguments
    rw [Query.Resolved, hc.unmark_name] at hresolved
    exact ⟨hresolved, hname.trans hc.unmark_name, harguments⟩
  filters := by
    rw [h.filters, List.filterMap_filter]
    refine List.filterMap_congr fun c hc => ?_
    rw [(hspelled c hc).isGeneral_eq]
    by_cases hown : c.name ∈ TextFilter.ownNames
    · simp [hown]
    · have hother : TextFilter.ofClause names c = .ok .other :=
        TextFilter.ofClause_eq_other_iff.2 hown
      simp [hown, TextFilter.filter?, hother]

end QueryPattern

/-! ## Searches -/

namespace Query

/-- The text filters of a pattern of the query. -/
def filtersAt (q : Query) (pattern : Nat) : List TextFilter :=
  (q.patterns[pattern]?.map (·.filters)).getD []

theorem search_eq (q : Query) (window : Window) (n : Node) :
    q.search window n =
      ((Search.ofPrograms (q.patterns.map (·.program)).toArray window).run n).filter fun m =>
        (q.filtersAt m.pattern).all (·.holds n.source m) := by
  rw [search]
  apply List.filter_congr
  intro m _
  rw [List.getElem?_toArray, List.getElem?_map]
  rfl

/-- The programs of a query are those of its patterns. -/
theorem map_steps_eq {registry : Registry} {marked : Marked} {names : List String}
    {patterns : List Pattern} {compiled : List QueryPattern}
    (h : List.Forall₂ (QueryPattern.Compiled registry marked names) patterns compiled) :
    compiled.map (·.program.steps) = patterns.map fun p => (Program.ofPattern names p).steps := by
  induction h with
  | nil => rfl
  | cons hp _ ih => rw [List.map_cons, List.map_cons, ih, hp.program]

/-- Patterns that differ in nothing but clauses that stand aside have the same steps. -/
theorem map_steps_ofPattern (names : List String) {patterns patterns' : List Pattern}
    (h : ∀ p ∈ patterns, p.item.clausesAside false = true)
    (h' : ∀ p ∈ patterns', p.item.clausesAside false = true)
    (heq : patterns'.map (·.item.withoutClauses) = patterns.map (·.item.withoutClauses)) :
    (patterns.map fun p => (Program.ofPattern names p).steps) =
      patterns'.map fun p => (Program.ofPattern names p).steps := by
  induction patterns generalizing patterns' with
  | nil => rw [List.map_eq_nil_iff.1 heq]
  | cons p patterns ih =>
    obtain ⟨p', later, rfl, hitem, hlater⟩ := List.map_eq_cons_iff.1 heq
    rw [List.forall_mem_cons] at h h'
    rw [List.map_cons, List.map_cons, ih h.2 h'.2 hlater,
      Program.steps_ofPattern h.1 h'.1 hitem.symm]

variable {language : Language} {source source' : Text} {registry registry' : Registry}
  {q q' : Query} {patterns patterns' : List Pattern}

/-- **Clauses in a search.** If the clauses of a query stand aside, it has the matches of the query
    without its clauses, less those that text filters refuse. -/
theorem search_eq_filter (hq : compile language source registry = .ok q)
    (hread : Pattern.read language.vocabulary (Marked.ofText source).text =
      .ok (patterns, q.captures))
    (hq' : compile language source' registry' = .ok q')
    (hread' : Pattern.read language.vocabulary (Marked.ofText source').text =
      .ok (patterns', q.captures))
    (haside : ∀ p ∈ patterns, p.item.clausesAside false = true)
    (hnone : ∀ p ∈ patterns', p.item.clauses = [])
    (heq : patterns'.map (·.item.withoutClauses) = patterns.map (·.item.withoutClauses))
    (window : Window) (n : Node) :
    q.search window n = (q'.search window n).filter fun m =>
      (q.filtersAt m.pattern).all (·.holds n.source m) := by
  obtain ⟨ps, hps, hcompiled⟩ := compile_eq_ok hq
  obtain ⟨ps', hps', hcompiled'⟩ := compile_eq_ok hq'
  obtain ⟨rfl, -⟩ := Prod.mk.inj (Except.ok.inj (hps.symm.trans hread))
  obtain ⟨rfl, hcaptures⟩ := Prod.mk.inj (Except.ok.inj (hps'.symm.trans hread'))
  have haside' : ∀ p ∈ ps', p.item.clausesAside false = true := fun p hp =>
    Item.clausesAside_of_clauses_eq_nil false p.item (hnone p hp)
  have hsteps : (q.patterns.map (·.program)).toArray.map (·.steps) =
      (q'.patterns.map (·.program)).toArray.map (·.steps) := by
    rw [List.map_toArray, List.map_toArray, List.map_map, List.map_map]
    have hown := map_steps_eq hcompiled
    have hother := map_steps_eq hcompiled'
    rw [hcaptures, ← map_steps_ofPattern q.captures haside haside' heq, ← hown] at hother
    exact congrArg List.toArray hother.symm
  -- The query without clauses has no filters.
  have hall : ∀ m : RawMatch, (q'.filtersAt m.pattern).all (·.holds n.source m) = true := by
    intro m
    rw [filtersAt]
    cases hp : q'.patterns[m.pattern]? with
    | none => rfl
    | some p =>
      obtain ⟨pattern, hpattern, hcompiled⟩ := exists_of_getElem?_right hcompiled' hp
      rw [Option.map_some, Option.getD_some, hcompiled.filters,
        hnone pattern (List.mem_of_getElem? hpattern)]
      rfl
  rw [search_eq q, search_eq q', List.filter_eq_self.2 fun m _ => hall m,
    Search.run_ofPrograms_congr hsteps]

/-- **Clauses of a query.** In a query that compiles, the clauses that were read stand in the
    caller's text, in their order and under their names. All of them that open with `#`, and all
    whose names the pattern language does not read itself, are predicates that the registry
    resolved, each once and in its place; the others are text filters and notes. A query whose
    clauses stand aside has the matches of the query without its clauses, less those that the
    text filters refuse. -/
theorem clauses_routed (hq : compile language source registry = .ok q) :
    ∃ patterns,
      Pattern.read language.vocabulary (Marked.ofText source).text =
          .ok (patterns, q.captures) ∧
      (∀ c ∈ patterns.flatMap (·.item.clauses), (Marked.ofText source).Spelled c) ∧
      (patterns.flatMap (·.item.clauses)).Pairwise (fun c d =>
        (Marked.ofText source).toBare c.opener < (Marked.ofText source).toBare d.opener) ∧
      List.Forall₂ (QueryPattern.Routed registry (Marked.ofText source) q.captures)
        patterns q.patterns ∧
      ((∀ p ∈ patterns, p.item.clausesAside false = true) →
        ∀ source' registry' q' patterns',
          compile language source' registry' = .ok q' →
          Pattern.read language.vocabulary (Marked.ofText source').text =
            .ok (patterns', q.captures) →
          (∀ p ∈ patterns', p.item.clauses = []) →
          patterns'.map (·.item.withoutClauses) = patterns.map (·.item.withoutClauses) →
          ∀ window n, q.search window n = (q'.search window n).filter fun m =>
            (q.filtersAt m.pattern).all (·.holds n.source m)) := by
  obtain ⟨patterns, hread, hcompiled⟩ := compile_eq_ok hq
  obtain ⟨hspelled, hordered⟩ := Pattern.spelled_of_read hread
  have hrouted := (List.forall₂_and_left _ _).2
    ⟨fun p hp c hc => hspelled c (List.mem_flatMap.2 ⟨p, hp, hc⟩), hcompiled⟩
  refine ⟨patterns, hread, hspelled, hordered, hrouted.imp fun _ _ h => h.2.routed h.1, ?_⟩
  intro haside source' registry' q' patterns' hq' hread' hnone heq window n
  exact search_eq_filter hq hread hq' hread' haside hnone heq window n

/-! ### A clause that opens with a dot -/

/-- A name with two clauses, the first of which opens with `.`. -/
def dottedClause : Text := "((identifier) @a (.eq? @a \"x\") (#eq? \"y\" @a))".toList

/-- The name without its clauses. -/
def loneIdentifier : Text := "((identifier) @a)".toList

/-- The name in both texts. -/
def capturedIdentifier : Item :=
  .node 1 ⟨.kind "identifier" true, false, false, none⟩ [] [] false [.capture "a"]

/-- What is read in the text with clauses. -/
def dottedPattern : Pattern :=
  ⟨0, .group 0 [capturedIdentifier,
    .clause 17 ⟨18, "eq?", [.capture "a", .literal ['x']]⟩,
    .clause 31 ⟨32, "weaver-eq?", [.literal ['y'], .capture "a"]⟩] []⟩

theorem read_dottedClause :
    Pattern.read Language.cpp.vocabulary (Marked.ofText dottedClause).text =
      .ok ([dottedPattern], ["a"]) := by
  with_unfolding_all exact rfl

theorem read_loneIdentifier :
    Pattern.read Language.cpp.vocabulary (Marked.ofText loneIdentifier).text =
      .ok ([⟨0, .group 0 [capturedIdentifier] []⟩], ["a"]) := by
  with_unfolding_all exact rfl

/-- Both texts compile. -/
theorem compile_dottedClause :
    ∃ q q', compile .cpp dottedClause .builtins = .ok q ∧
      compile .cpp loneIdentifier .builtins = .ok q' := by
  have hrun : ∀ t ∈ [dottedClause, loneIdentifier],
      (compile .cpp t .builtins).toOption.any (fun _ => true) = true := by
    decide +kernel
  obtain ⟨q, hq, -⟩ := exists_compile_of_any (hrun dottedClause (by simp))
  obtain ⟨q', hq', -⟩ := exists_compile_of_any (hrun loneIdentifier (by simp))
  exact ⟨q, q', hq, hq'⟩

/-- A clause need not be a predicate. -/
theorem predicates_fail_dottedClause :
    ¬ ∀ q patterns, compile .cpp dottedClause .builtins = .ok q →
      Pattern.read Language.cpp.vocabulary (Marked.ofText dottedClause).text =
        .ok (patterns, q.captures) →
      List.Forall₂ (fun (pattern : Pattern) (p : QueryPattern) =>
        p.predicates.length = pattern.item.clauses.length) patterns q.patterns := by
  intro hall
  obtain ⟨q, -, hq, -⟩ := compile_dottedClause
  obtain ⟨patterns, hread, hcompiled⟩ := compile_eq_ok hq
  have hlengths := hall q patterns hq hread
  obtain ⟨rfl, -⟩ := Prod.mk.inj (Except.ok.inj (hread.symm.trans read_dottedClause))
  obtain ⟨p, _, hp, -, hpatterns⟩ := List.forall₂_cons_left_iff.1 hcompiled
  rw [hpatterns] at hlengths
  have htwo := (List.forall₂_cons.1 hlengths).1
  rw [← hp.predicates.length_eq] at htwo
  exact absurd htwo (by decide)

/-- One of the clauses is a predicate, and the other filters the matches of a search. -/
theorem clauses_routed_dottedClause :
    ∃ q q' p, compile .cpp dottedClause .builtins = .ok q ∧
      compile .cpp loneIdentifier .builtins = .ok q' ∧ q.patterns = [p] ∧
      p.predicates.map (·.name) = ["eq?"] ∧ p.filters.length = 1 ∧
      ∀ window n, q.search window n = (q'.search window n).filter fun m =>
        (q.filtersAt m.pattern).all (·.holds n.source m) := by
  obtain ⟨q, q', hq, hq'⟩ := compile_dottedClause
  obtain ⟨patterns, hread, -, -, hrouted, hsearch⟩ := clauses_routed hq
  obtain ⟨patterns', hread', -⟩ := compile_eq_ok hq'
  obtain ⟨rfl, hcaptures⟩ := Prod.mk.inj (Except.ok.inj (hread.symm.trans read_dottedClause))
  obtain ⟨p, _, hp, hmore, hpatterns⟩ := List.forall₂_cons_left_iff.1 hrouted
  obtain rfl := List.forall₂_nil_left_iff.1 hmore
  refine ⟨q, q', p, hq, hq', hpatterns, ?_, ?_, fun window n => ?_⟩
  · have hnames : List.Forall₂ (· = ·)
        ((dottedPattern.item.clauses.filter (Marked.ofText dottedClause).isGeneral).map
          (Marked.ofText dottedClause).operatorName) (p.predicates.map (·.name)) :=
      List.forall₂_map_left_iff.2 <| List.forall₂_map_right_iff.2 <|
        hp.predicates.imp fun _ _ h => h.2.1.symm
    rw [List.forall₂_eq_eq_eq] at hnames
    rw [← hnames]
    decide
  · rw [hp.filters, hcaptures]
    decide
  · refine hsearch ?_ loneIdentifier .builtins q' _ hq' (hcaptures ▸ read_loneIdentifier) ?_ ?_
      window n
    · decide
    · decide
    · rfl

end Query
end TreeQuery
