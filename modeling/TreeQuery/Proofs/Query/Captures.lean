/-
  TreeQuery.Proofs.Query.Captures

  The captures that predicates name. A text has one table of captures for all its
  patterns, and a clause may name any that is in it when the clause is read. So a
  predicate names captures that its own pattern binds or an earlier one does, and a
  text is refused over a capture exactly when a clause names one that nothing before it
  binds (`Query.captures_bound_iff`).

  A predicate over a capture of an earlier pattern alone is the second case at work:
  `Query.foreignCapture` compiles.
-/

import TreeQuery.Proofs.Pattern.Faults
import TreeQuery.Proofs.Query.Compile

namespace TreeQuery

/-- A name of the pattern language has no `@` before it. -/
theorem withoutSigil_of_continuesName {name : String}
    (h : name.toList.all Scan.continuesName = true) : withoutSigil name = name := by
  unfold withoutSigil
  split
  · next rest hname =>
    rw [hname, List.all_cons, Bool.and_eq_true] at h
    exact absurd h.1 (by decide)
  · rfl

namespace QueryPattern

variable {registry : Registry} {marked : Marked} {names : List String} {pattern : Pattern}
  {p : QueryPattern} {name : String}

/-- A pattern binds the captures that its text mentions. -/
theorem Compiled.binds_of_mention (h : Compiled registry marked names pattern p)
    (hname : name.toList.all Scan.continuesName = true) (hmem : name ∈ names)
    (hbinds : .binds name ∈ pattern.item.mentions) : p.binds name = true := by
  have hquantity : pattern.item.quantity name ≠ .zero :=
    fun hzero => (Item.quantity_eq_zero_iff name pattern.item).1 hzero hbinds
  obtain ⟨index, hindex⟩ := List.mem_iff_getElem?.1 hmem
  have hcapture : (⟨index, name, pattern.item.quantity name⟩ : PatternCapture) ∈ p.captures := by
    rw [h.captures, Query.patternCaptures, List.mem_filterMap]
    exact ⟨(name, index), List.mk_mem_zipIdx_iff_getElem?.2 hindex, if_neg hquantity⟩
  rw [binds, quantity?, withoutSigil_of_continuesName hname, Option.isSome_map,
    List.find?_isSome]
  exact ⟨_, hcapture, beq_self_eq_true name⟩

/-- The captures that a predicate names are named by a clause of its pattern. -/
theorem Compiled.exists_clause (h : Compiled registry marked names pattern p)
    {invocation : Invocation} (hinvocation : invocation ∈ p.predicates) {ref : CaptureRef}
    (href : .capture ref ∈ invocation.arguments) :
    ∃ c ∈ pattern.item.clauses, .capture ref.name ∈ c.arguments ∧
      ref.index = names.idxOf ref.name := by
  obtain ⟨c, hc, hresolved⟩ := exists_of_mem_right h.predicates hinvocation
  rw [hresolved.name_arguments.2] at href
  obtain ⟨argument, hargument, heq⟩ := List.mem_map.1 href
  cases argument with
  | literal text => cases heq
  | capture name =>
    cases heq
    exact ⟨c, List.mem_of_mem_filter hc, hargument, rfl⟩

end QueryPattern

namespace Query

variable {v : Vocabulary} {text : Text} {patterns : List Pattern} {names : List String}

/-- A clause of a text that can be read names captures of its own pattern or of one before. -/
theorem exists_binding_pattern (h : Pattern.read v text = .ok (patterns, names)) {i : Nat}
    {pattern : Pattern} (hi : patterns[i]? = some pattern) {c : Clause}
    (hc : c ∈ pattern.item.clauses) {name : String} (hname : .capture name ∈ c.arguments) :
    ∃ j ≤ i, ∃ other, patterns[j]? = some other ∧ .binds name ∈ other.item.mentions := by
  obtain ⟨-, -, hgrounded⟩ := Pattern.bound_of_read h
  obtain ⟨before, after, hmentions⟩ := List.append_of_mem (Item.mem_clauses_iff.1 hc)
  obtain ⟨hlt, hpattern⟩ := List.getElem?_eq_some_iff.1 hi
  have hpatterns : patterns = patterns.take i ++ pattern :: patterns.drop (i + 1) := by
    rw [← hpattern, ← List.drop_eq_getElem_cons hlt, List.take_append_drop]
  -- All that stands before the clause is in the patterns before its own or in its own.
  have hsplit : patterns.flatMap (·.item.mentions) =
      ((patterns.take i).flatMap (·.item.mentions) ++ before) ++ .clause c ::
        (after ++ (patterns.drop (i + 1)).flatMap (·.item.mentions)) := by
    calc patterns.flatMap (·.item.mentions)
        = (patterns.take i ++ pattern :: patterns.drop (i + 1)).flatMap (·.item.mentions) :=
          congrArg (List.flatMap (·.item.mentions)) hpatterns
      _ = _ := by
          rw [List.flatMap_append, List.flatMap_cons, hmentions]
          simp only [List.append_assoc, List.cons_append]
  rcases List.mem_append.1 (hgrounded _ c _ hsplit name hname) with hearlier | hown
  · obtain ⟨other, hother, hbinds⟩ := List.mem_flatMap.1 hearlier
    obtain ⟨j, hj, rfl⟩ := List.mem_take_iff_getElem.1 hother
    have hji : j < i := by omega
    exact ⟨j, Nat.le_of_lt hji, _, List.getElem?_eq_getElem _, hbinds⟩
  · refine ⟨i, Nat.le_refl i, pattern, hi, ?_⟩
    rw [hmentions]
    exact List.mem_append_left _ hown

/-- **Captures of predicates.** In a query that compiles, a capture argument of a predicate is a
    capture of the query, and the pattern of the predicate binds it or an earlier pattern does.
    A text is refused over a capture exactly when its reading comes to an argument of a clause
    that names one, and nothing before the argument binds it. -/
theorem captures_bound_iff (language : Language) (source : Text) (registry : Registry) :
    (∀ q : Query, compile language source registry = .ok q →
      ∀ (i : Nat) (p : QueryPattern), q.patterns[i]? = some p → ∀ invocation ∈ p.predicates,
        ∀ ref : CaptureRef, .capture ref ∈ invocation.arguments →
          q.captureName? ref.index = some ref.name ∧
            ∃ j ≤ i, ∃ other : QueryPattern,
              q.patterns[j]? = some other ∧ other.binds ref.name = true) ∧
    ((∃ e, compile language source registry = .error e ∧ e.kind = .capture) ↔
      ∃ s name, Reading.Goes language.vocabulary (.initial (Marked.ofText source).text) s ∧
        s.AtUnbound name) := by
  refine ⟨fun q hq i p hp invocation hinvocation ref href => ?_,
    compile_capture_iff.trans Pattern.read_unknownCapture_iff⟩
  obtain ⟨patterns, hread, hcompiled⟩ := compile_eq_ok hq
  obtain ⟨hcaptures, hnames, -⟩ := Pattern.bound_of_read hread
  obtain ⟨pattern, hpattern, hp⟩ := exists_of_getElem?_right hcompiled hp
  obtain ⟨c, hc, hargument, hindex⟩ := hp.exists_clause hinvocation href
  obtain ⟨j, hj, other, hother, hbinds⟩ := exists_binding_pattern hread hpattern hc hargument
  have hmem : ref.name ∈ q.captures :=
    (hcaptures ref.name).2 (List.mem_flatMap.2 ⟨other, List.mem_of_getElem? hother, hbinds⟩)
  obtain ⟨p', hp', hother⟩ := exists_of_getElem?_left hcompiled hother
  refine ⟨?_, j, hj, p', hp', hother.binds_of_mention (hnames _ hmem) hmem hbinds⟩
  rw [captureName?, hindex]
  exact List.getElem?_idxOf hmem

/-! ### A capture of another pattern -/

/-- The second pattern binds `b`, and its clause is about the `a` of the first. -/
def foreignCapture : Text := "((identifier) @a) ((number_literal) @b (#eq? @a \"x\"))".toList

/-- The text compiles, to a predicate over a capture that its pattern never binds. -/
theorem compile_foreignCapture :
    ∃ (q : Query) (p : QueryPattern) (invocation : Invocation) (ref : CaptureRef),
      compile .cpp foreignCapture .builtins = .ok q ∧ q.patterns[1]? = some p ∧
      invocation ∈ p.predicates ∧ .capture ref ∈ invocation.arguments ∧
      p.binds ref.name = false := by
  have hrun : (compile .cpp foreignCapture .builtins).toOption.any (fun q =>
      q.patterns[1]?.any fun p => p.predicates.any fun invocation =>
        invocation.arguments.any fun argument =>
          argument.capture?.any fun ref => !p.binds ref.name) = true := by
    decide +kernel
  obtain ⟨q, hq, hrun⟩ := exists_compile_of_any hrun
  obtain ⟨p, hp, hrun⟩ := (Option.any_eq_true _ _).1 hrun
  obtain ⟨invocation, hinvocation, hrun⟩ := List.any_eq_true.1 hrun
  obtain ⟨argument, hargument, hrun⟩ := List.any_eq_true.1 hrun
  obtain ⟨ref, href, hunbound⟩ := (Option.any_eq_true _ _).1 hrun
  cases argument with
  | literal text => cases href
  | capture ref' =>
    obtain rfl := Option.some.inj href
    exact ⟨q, p, invocation, ref', hq, hp, hinvocation, hargument, by simpa using hunbound⟩

/-- The pattern of a predicate need not bind what the predicate names, and such a text is not
    refused. -/
theorem binds_fails_foreignCapture :
    ¬ ((∀ q : Query, compile .cpp foreignCapture .builtins = .ok q →
        ∀ p ∈ q.patterns, ∀ invocation ∈ p.predicates,
          ∀ ref : CaptureRef, .capture ref ∈ invocation.arguments → p.binds ref.name = true) ∨
      ∃ e, compile .cpp foreignCapture .builtins = .error e) := by
  obtain ⟨q, p, invocation, ref, hq, hp, hinvocation, href, hunbound⟩ := compile_foreignCapture
  rintro (hbinds | ⟨e, he⟩)
  · have hbound := hbinds q hq p (List.mem_of_getElem? hp) invocation hinvocation ref href
    rw [hunbound] at hbound
    cases hbound
  · cases hq.symm.trans he

/-- It is the first pattern that binds the capture. -/
theorem captures_bound_foreignCapture :
    ∃ (q : Query) (p : QueryPattern) (invocation : Invocation) (ref : CaptureRef)
      (other : QueryPattern),
      compile .cpp foreignCapture .builtins = .ok q ∧ q.patterns[1]? = some p ∧
      invocation ∈ p.predicates ∧ .capture ref ∈ invocation.arguments ∧
      p.binds ref.name = false ∧ q.captureName? ref.index = some ref.name ∧
      q.patterns[0]? = some other ∧ other.binds ref.name = true := by
  obtain ⟨q, p, invocation, ref, hq, hp, hinvocation, href, hunbound⟩ := compile_foreignCapture
  obtain ⟨hname, j, hj, other, hother, hbinds⟩ :=
    (captures_bound_iff .cpp foreignCapture .builtins).1 q hq 1 p hp invocation hinvocation ref href
  refine ⟨q, p, invocation, ref, other, hq, hp, hinvocation, href, hunbound, hname, ?_, hbinds⟩
  rcases Nat.le_one_iff_eq_zero_or_eq_one.1 hj with rfl | rfl
  · exact hother
  · obtain rfl := Option.some.inj (hp.symm.trans hother)
    rw [hunbound] at hbinds
    cases hbinds

end Query
end TreeQuery
