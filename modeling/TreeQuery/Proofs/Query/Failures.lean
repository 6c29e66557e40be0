/-
  TreeQuery.Proofs.Query.Failures

  When a query is refused over a clause. Of a text that the pattern language accepts
  (`Query.Accepted`), the clauses are resolved pattern after pattern and clause after
  clause. The query compiles exactly when they all pass, and otherwise it fails with the
  fault of the first that does not (`Query.FirstFailure`).

  * `Query.resolveClauses_eq_error_iff`, `Query.compilePatterns_eq_error_iff`: the first
    failure among the clauses of a pattern, and among patterns.
  * `Query.Accepted.compile_eq_error_iff` says what the error of a whole text is.
  * `Query.clauses_validated` puts this together with what a clause must be.

  A clause is looked up under the name that is written, but for a dotted clause whose name
  begins with a mark of its own: `Query.dottedMark` is such a text.
-/

import TreeQuery.Predicate.Host
import TreeQuery.Proofs.Predicate.Resolution
import TreeQuery.Proofs.Query.Clauses

namespace TreeQuery

/-! ## Resolving in order -/

namespace Query

variable {registry : Registry} {marked : Marked} {names : List String}

/-- What the registry answers for a clause. -/
def resolution (registry : Registry) (names : List String) (c : Clause) :
    Except ClauseFault Invocation :=
  registry.resolve (String.ofList (Marked.unmark c.name.toList))
    (c.arguments.map (convertArgument names))

/-- The registry resolves the clause. -/
def IsResolved (registry : Registry) (names : List String) (c : Clause) : Prop :=
  ∃ invocation, Resolved registry names c invocation

theorem resolveClauses_cons (start : Nat) (sites : List Nat) (c : Clause)
    (clauses : List Clause) :
    resolveClauses registry marked names start sites (c :: clauses) =
      match resolution registry names c with
      | .error fault =>
        .error (marked.errorAt (faultKind fault) (sites.head?.getD start) fault.message)
      | .ok invocation =>
        (resolveClauses registry marked names start sites.tail clauses).map (invocation :: ·) := by
  rw [resolveClauses]
  rfl

/-- The clauses of a pattern fail with the first that is not resolved. Its site is the one that
has its number. -/
theorem resolveClauses_eq_error_iff {start : Nat} {sites : List Nat} {clauses : List Clause}
    {e : QueryError} :
    resolveClauses registry marked names start sites clauses = .error e ↔
      ∃ k c fault, clauses[k]? = some c ∧ (∀ d ∈ clauses.take k, IsResolved registry names d) ∧
        resolution registry names c = .error fault ∧
        e = marked.errorAt (faultKind fault) (sites[k]?.getD start) fault.message := by
  induction clauses generalizing sites with
  | nil =>
    refine iff_of_false nofun ?_
    rintro ⟨k, c, fault, hc, -⟩
    cases hc
  | cons c clauses ih =>
    rw [resolveClauses_cons]
    cases hresolve : resolution registry names c with
    | error fault =>
      constructor
      · intro h
        refine ⟨0, c, fault, rfl, nofun, hresolve, ?_⟩
        rw [← List.head?_eq_getElem?]
        exact (Except.error.inj h).symm
      · rintro ⟨k, d, fault', hd, hbefore, hfault, rfl⟩
        cases k with
        | zero =>
          obtain rfl := Option.some.inj hd
          obtain rfl := Except.error.inj (hresolve.symm.trans hfault)
          rw [List.head?_eq_getElem?]
        | succ k =>
          -- Then the first clause would have been resolved.
          obtain ⟨invocation, hinvocation⟩ := hbefore c List.mem_cons_self
          cases hresolve.symm.trans hinvocation
    | ok invocation =>
      have hmap : (resolveClauses registry marked names start sites.tail clauses).map
          (invocation :: ·) = .error e ↔
          resolveClauses registry marked names start sites.tail clauses = .error e := by
        cases resolveClauses registry marked names start sites.tail clauses with
        | error e' => rfl
        | ok invocations => exact iff_of_false nofun nofun
      refine hmap.trans (ih.trans ?_)
      constructor
      · rintro ⟨k, d, fault, hd, hbefore, hfault, rfl⟩
        refine ⟨k + 1, d, fault, hd, ?_, hfault, by rw [List.getElem?_tail]⟩
        rw [List.take_succ_cons, List.forall_mem_cons]
        exact ⟨⟨invocation, hresolve⟩, hbefore⟩
      · rintro ⟨k, d, fault, hd, hbefore, hfault, rfl⟩
        cases k with
        | zero =>
          obtain rfl := Option.some.inj hd
          cases hresolve.symm.trans hfault
        | succ k =>
          rw [List.take_succ_cons, List.forall_mem_cons] at hbefore
          exact ⟨k, d, fault, hd, hbefore.2, hfault, by rw [List.getElem?_tail]⟩

/-- They succeed when all of them are resolved. -/
theorem exists_resolveClauses_iff {start : Nat} {sites : List Nat} {clauses : List Clause} :
    (∃ invocations, resolveClauses registry marked names start sites clauses = .ok invocations) ↔
      ∀ c ∈ clauses, IsResolved registry names c := by
  constructor
  · rintro ⟨invocations, h⟩ c hc
    obtain ⟨i, hi⟩ := List.mem_iff_getElem?.mp hc
    obtain ⟨invocation, -, hinvocation⟩ := exists_of_getElem?_left (resolveClauses_eq_ok h) hi
    exact ⟨invocation, hinvocation⟩
  · intro hall
    cases h : resolveClauses registry marked names start sites clauses with
    | ok invocations => exact ⟨invocations, rfl⟩
    | error e =>
      obtain ⟨k, c, fault, hc, -, hfault, -⟩ := resolveClauses_eq_error_iff.mp h
      obtain ⟨invocation, hinvocation⟩ := hall c (List.mem_of_getElem? hc)
      cases hfault.symm.trans hinvocation

/-- A pattern with its program and its clauses in two parts. -/
def prepared (marked : Marked) (names : List String) (p : Pattern) : Prepared where
  start := marked.toBare p.start
  item := p.item
  program := Program.ofPattern names p
  filters := p.item.clauses.filterMap (TextFilter.filter? names)
  clauses := p.item.clauses.filter (·.name ∉ TextFilter.ownNames)

/-- Whether an offset lies between the start of a pattern and the start of the next, if there is
one. -/
def isWithin (marked : Marked) (p : Pattern) (next : Option Pattern) (offset : Nat) : Bool :=
  marked.toBare p.start ≤ offset && next.all (offset < marked.toBare ·.start)

/-- The sites that a pattern has. -/
def sitesOf (marked : Marked) (p : Pattern) (next : Option Pattern) : List Nat :=
  marked.sites.filter (isWithin marked p next)

theorem compilePatterns_cons (index : Nat) (p : Pattern) (patterns : List Pattern) :
    compilePatterns registry marked names index ((p :: patterns).map (prepared marked names)) =
      (do
        let predicates ← resolveClauses registry marked names (marked.toBare p.start)
          (sitesOf marked p patterns.head?) (prepared marked names p).clauses
        let compiled ← compilePatterns registry marked names (index + 1)
          (patterns.map (prepared marked names))
        return ⟨index, marked.toBare p.start, patternCaptures names p.item, predicates,
          (prepared marked names p).filters, Program.ofPattern names p⟩ :: compiled) := by
  have hnext : ∀ site, (patterns.map (prepared marked names)).head?.all (site < ·.start) =
      patterns.head?.all (site < marked.toBare ·.start) := by
    intro site
    cases patterns <;> rfl
  rw [List.map_cons, compilePatterns]
  simp only [hnext]
  rfl

/-- Patterns fail with the first whose clauses do. -/
theorem compilePatterns_eq_error_iff {index : Nat} {patterns : List Pattern} {e : QueryError} :
    compilePatterns registry marked names index (patterns.map (prepared marked names)) = .error e ↔
      ∃ i p, patterns[i]? = some p ∧
        (∀ p' ∈ patterns.take i, ∀ c ∈ (prepared marked names p').clauses,
          IsResolved registry names c) ∧
        resolveClauses registry marked names (marked.toBare p.start)
          (sitesOf marked p patterns[i + 1]?) (prepared marked names p).clauses = .error e := by
  induction patterns generalizing index with
  | nil =>
    refine iff_of_false nofun ?_
    rintro ⟨i, p, hp, -⟩
    cases hp
  | cons p patterns ih =>
    rw [compilePatterns_cons, bind_eq_error_iff]
    have hfirst : (p :: patterns)[0 + 1]? = patterns.head? := List.head?_eq_getElem?.symm
    -- The first pattern fails, or its clauses are resolved and a later pattern fails.
    constructor
    · rintro (herror | ⟨predicates, hpredicates, hlater⟩)
      · exact ⟨0, p, rfl, nofun, hfirst ▸ herror⟩
      · rcases bind_eq_error_iff.mp hlater with hlater | ⟨_, -, hcons⟩
        · obtain ⟨i, p', hp', hearlier, herror⟩ := ih.mp hlater
          refine ⟨i + 1, p', hp', ?_, herror⟩
          rw [List.take_succ_cons, List.forall_mem_cons]
          exact ⟨exists_resolveClauses_iff.mp ⟨predicates, hpredicates⟩, hearlier⟩
        · cases hcons
    · rintro ⟨i, p', hp', hearlier, herror⟩
      cases i with
      | zero =>
        obtain rfl := Option.some.inj hp'
        exact .inl (hfirst ▸ herror)
      | succ i =>
        rw [List.take_succ_cons, List.forall_mem_cons] at hearlier
        obtain ⟨predicates, hpredicates⟩ := exists_resolveClauses_iff.mpr hearlier.1
        exact .inr ⟨predicates, hpredicates,
          bind_eq_error_iff.mpr (.inl (ih.mpr ⟨i, p', hp', hearlier.2, herror⟩))⟩

end Query

/-! ## The name of a clause -/

/-- A clause is looked up under its name, but for a dotted clause whose name begins with a
mark. -/
theorem Marked.operatorName_eq_iff {m : Marked} {c : Clause} :
    m.operatorName c = m.writtenName c ↔
      m.isHashed c = true ∨ ¬ operatorMark <+: (m.writtenName c).toList := by
  rw [operatorName]
  cases m.isHashed c with
  | true => exact iff_of_true rfl (.inl rfl)
  | false =>
    rw [if_neg Bool.false_ne_true, or_iff_right Bool.false_ne_true, unmark]
    by_cases hmark : operatorMark <+: (m.writtenName c).toList
    · rw [if_pos (List.isPrefixOf_iff_prefix.mpr hmark)]
      refine iff_of_false (fun heq => ?_) (not_not_intro hmark)
      -- The name without the mark is shorter.
      have hlength := congrArg List.length (congrArg String.toList heq)
      rw [String.toList_ofList, List.length_drop] at hlength
      have hle := hmark.length_le
      have hseven : operatorMark.length = 7 := by decide
      omega
    · rw [if_neg (mt List.isPrefixOf_iff_prefix.mp hmark), String.ofList_toList]
      exact iff_of_true rfl hmark

namespace Query

variable {registry : Registry} {marked : Marked} {names : List String}

/-! ## Accepted texts -/

/-- The pattern language accepts a text: it can be read, some tree can match each of its patterns,
and the clauses that the pattern language reads itself are in order. -/
structure Accepted (language : Language) (source : Text) (patterns : List Pattern)
    (names : List String) : Prop where
  read : Pattern.read language.vocabulary (Marked.ofText source).text = .ok (patterns, names)
  possible : ∀ p ∈ patterns,
    (Program.ofPattern names p).impossibleAt? language.vocabulary = none
  ownClauses : ∀ p ∈ patterns, ∀ c ∈ p.item.clauses,
    ∃ reading, TextFilter.ofClause names c = .ok reading

theorem exists_splitClauses {clauses : List Clause}
    (h : ∀ c ∈ clauses, ∃ reading, TextFilter.ofClause names c = .ok reading) :
    ∃ split, splitClauses names clauses = .ok split := by
  induction clauses with
  | nil => exact ⟨_, rfl⟩
  | cons c clauses ih =>
    rw [List.forall_mem_cons] at h
    obtain ⟨reading, hreading⟩ := h.1
    obtain ⟨⟨filters, others⟩, hlater⟩ := ih h.2
    rw [splitClauses, hreading, hlater]
    cases reading with
    | filter f => exact ⟨_, rfl⟩
    | note => exact ⟨_, rfl⟩
    | other => exact ⟨_, rfl⟩

theorem prepare_eq_ok {patterns : List Pattern}
    (h : ∀ p ∈ patterns, ∀ c ∈ p.item.clauses,
      ∃ reading, TextFilter.ofClause names c = .ok reading) :
    prepare marked names (patterns.zip (patterns.map (Program.ofPattern names))) =
      .ok (patterns.map (prepared marked names)) := by
  induction patterns with
  | nil => rfl
  | cons p patterns ih =>
    rw [List.forall_mem_cons] at h
    obtain ⟨⟨filters, others⟩, hsplit⟩ := exists_splitClauses h.1
    obtain ⟨rfl, rfl⟩ := splitClauses_eq_ok hsplit
    rw [List.map_cons, List.zip_cons_cons, prepare, hsplit]
    simp only [bind, Except.bind, ih h.2]
    rfl

/-- The clauses of a pattern that are left for the registry. -/
def generalClauses (m : Marked) (p : Pattern) : List Clause := p.item.clauses.filter m.isGeneral

/-- A clause passes the registry under the name that it is looked up by. -/
def Passes (registry : Registry) (m : Marked) (names : List String) (c : Clause) : Prop :=
  registry.Passes (m.operatorName c) (c.arguments.map (convertArgument names))

/-- The `k`-th general clause of the `i`-th pattern is the first that does not pass; it fails
with a fault of some kind. -/
structure FirstFailure (registry : Registry) (m : Marked) (names : List String)
    (patterns : List Pattern) (i k : Nat) (p : Pattern) (c : Clause) (kind : QueryErrorKind)
    (fault : ClauseFault) : Prop where
  pattern : patterns[i]? = some p
  clause : (generalClauses m p)[k]? = some c
  earlier : ∀ p' ∈ patterns.take i, ∀ d ∈ generalClauses m p', Passes registry m names d
  before : ∀ d ∈ (generalClauses m p).take k, Passes registry m names d
  fails : registry.Fails (m.operatorName c) (c.arguments.map (convertArgument names)) kind fault

namespace Accepted

variable {language : Language} {source : Text} {patterns : List Pattern} {e : QueryError}

/-- Of an accepted text, just the clauses are left to be resolved. -/
theorem compile_eq (h : Accepted language source patterns names) (registry : Registry) :
    compile language source registry = (do
      let compiled ← compilePatterns registry (Marked.ofText source) names 0
        (patterns.map (prepared (Marked.ofText source) names))
      return ⟨language, source, names, compiled⟩) := by
  have hpossible : (patterns.map (Program.ofPattern names)).findSome?
      (·.impossibleAt? language.vocabulary) = none := by
    rw [List.findSome?_eq_none_iff, List.forall_mem_map]
    exact h.possible
  rw [compile]
  simp only [h.read, hpossible, prepare_eq_ok h.ownClauses]

theorem spelled (h : Accepted language source patterns names) {p : Pattern} (hp : p ∈ patterns)
    {c : Clause} (hc : c ∈ p.item.clauses) : (Marked.ofText source).Spelled c :=
  (Pattern.spelled_of_read h.read).1 c (List.mem_flatMap.mpr ⟨p, hp, hc⟩)

theorem clauses_prepared (h : Accepted language source patterns names) {p : Pattern}
    (hp : p ∈ patterns) :
    (prepared (Marked.ofText source) names p).clauses =
      generalClauses (Marked.ofText source) p :=
  List.filter_congr fun _ hc => (h.spelled hp hc).isGeneral_eq.symm

theorem spelled_of_general (h : Accepted language source patterns names) {p : Pattern}
    (hp : p ∈ patterns) {c : Clause} (hc : c ∈ generalClauses (Marked.ofText source) p) :
    (Marked.ofText source).Spelled c := h.spelled hp (List.mem_of_mem_filter hc)

/-- The registry resolves the clauses that pass. -/
theorem isResolved_iff (h : Accepted language source patterns names) {p : Pattern}
    (hp : p ∈ patterns) {c : Clause} (hc : c ∈ generalClauses (Marked.ofText source) p) :
    IsResolved registry names c ↔ Passes registry (Marked.ofText source) names c := by
  rw [Passes, ← Registry.exists_resolve_iff, ← (h.spelled_of_general hp hc).unmark_name]
  rfl

theorem resolution_eq_error_iff (h : Accepted language source patterns names) {p : Pattern}
    (hp : p ∈ patterns) {c : Clause} (hc : c ∈ generalClauses (Marked.ofText source) p)
    {fault : ClauseFault} :
    resolution registry names c = .error fault ↔
      registry.Fails ((Marked.ofText source).operatorName c)
        (c.arguments.map (convertArgument names)) (faultKind fault) fault := by
  rw [Registry.fails_iff, and_iff_left rfl, ← (h.spelled_of_general hp hc).unmark_name]
  rfl

/-- **The first failure.** An accepted text fails with the fault of the first clause that does not
    pass, at the site that has the number of the clause. -/
theorem compile_eq_error_iff (h : Accepted language source patterns names) :
    compile language source registry = .error e ↔
      ∃ i k p c kind fault,
        FirstFailure registry (Marked.ofText source) names patterns i k p c kind fault ∧
        e = (Marked.ofText source).errorAt kind
          ((sitesOf (Marked.ofText source) p patterns[i + 1]?)[k]?.getD
            ((Marked.ofText source).toBare p.start)) fault.message := by
  have hcompile : compile language source registry = .error e ↔
      compilePatterns registry (Marked.ofText source) names 0
        (patterns.map (prepared (Marked.ofText source) names)) = .error e := by
    rw [h.compile_eq, bind_eq_error_iff]
    exact or_iff_left fun ⟨_, _, hquery⟩ => by cases hquery
  -- Resolved clauses are those that pass, in the pattern and in those before it.
  have hearlier : ∀ i, (∀ p' ∈ patterns.take i,
      ∀ c ∈ (prepared (Marked.ofText source) names p').clauses, IsResolved registry names c) ↔
      ∀ p' ∈ patterns.take i, ∀ c ∈ generalClauses (Marked.ofText source) p',
        Passes registry (Marked.ofText source) names c := by
    intro i
    refine forall₂_congr fun p' hp' => ?_
    have hmem := List.mem_of_mem_take hp'
    rw [h.clauses_prepared hmem]
    exact forall₂_congr fun c hc => h.isResolved_iff hmem hc
  have hbefore : ∀ k p, p ∈ patterns →
      ((∀ d ∈ (generalClauses (Marked.ofText source) p).take k, IsResolved registry names d) ↔
        ∀ d ∈ (generalClauses (Marked.ofText source) p).take k,
          Passes registry (Marked.ofText source) names d) := by
    intro k p hp
    exact forall₂_congr fun d hd => h.isResolved_iff hp (List.mem_of_mem_take hd)
  rw [hcompile, compilePatterns_eq_error_iff]
  constructor
  · rintro ⟨i, p, hp, hpatterns, herror⟩
    have hmem := List.mem_of_getElem? hp
    obtain ⟨k, c, fault, hc, hclauses, hfault, rfl⟩ := resolveClauses_eq_error_iff.mp herror
    rw [h.clauses_prepared hmem] at hc hclauses
    have hfails := (h.resolution_eq_error_iff hmem (List.mem_of_getElem? hc)).mp hfault
    exact ⟨i, k, p, c, _, fault,
      ⟨hp, hc, (hearlier i).mp hpatterns, (hbefore k p hmem).mp hclauses, hfails⟩, rfl⟩
  · rintro ⟨i, k, p, c, kind, fault, hfirst, rfl⟩
    have hmem := List.mem_of_getElem? hfirst.pattern
    obtain ⟨-, rfl⟩ := hfirst.fails.resolve_eq
    refine ⟨i, p, hfirst.pattern, (hearlier i).mpr hfirst.earlier,
      resolveClauses_eq_error_iff.mpr ⟨k, c, fault, ?_, ?_, ?_, rfl⟩⟩
    · rw [h.clauses_prepared hmem]
      exact hfirst.clause
    · rw [h.clauses_prepared hmem]
      exact (hbefore k p hmem).mpr hfirst.before
    · exact (h.resolution_eq_error_iff hmem (List.mem_of_getElem? hfirst.clause)).mpr hfirst.fails

/-- An accepted text compiles when all its clauses pass. -/
theorem exists_compile_iff (h : Accepted language source patterns names) :
    (∃ q, compile language source registry = .ok q) ↔
      ∀ p ∈ patterns, ∀ c ∈ generalClauses (Marked.ofText source) p,
        Passes registry (Marked.ofText source) names c := by
  constructor
  · rintro ⟨q, hq⟩ p hp c hc
    rw [h.compile_eq] at hq
    obtain ⟨compiled, hcompiled, -⟩ := bind_eq_ok_iff.mp hq
    -- What a compiled pattern has for the clause is what the registry answered.
    have hlists := compiled_of_prepare (prepare_eq_ok h.ownClauses) hcompiled
    obtain ⟨i, hi⟩ := List.mem_iff_getElem?.mp hp
    obtain ⟨p', -, hcompiled'⟩ := exists_of_getElem?_left hlists hi
    have hmem : c ∈ (prepared (Marked.ofText source) names p).clauses :=
      (h.clauses_prepared hp).symm ▸ hc
    obtain ⟨k, hk⟩ := List.mem_iff_getElem?.mp hmem
    obtain ⟨invocation, -, hinvocation⟩ := exists_of_getElem?_left hcompiled'.predicates hk
    exact (h.isResolved_iff hp hc).mp ⟨invocation, hinvocation⟩
  · intro hall
    cases hcompile : compile language source registry with
    | ok q => exact ⟨q, rfl⟩
    | error e =>
      obtain ⟨i, k, p, c, kind, fault, hfirst, -⟩ := h.compile_eq_error_iff.mp hcompile
      have hpasses := hall p (List.mem_of_getElem? hfirst.pattern) c
        (List.mem_of_getElem? hfirst.clause)
      obtain ⟨invocation, hok⟩ := Registry.exists_resolve_iff.mpr hpasses
      cases hok.symm.trans hfirst.fails.resolve_eq.1

end Accepted

/-- **Clauses are validated.** An accepted text compiles exactly when every general clause names a
    registered predicate, has a number of arguments between its bounds, obeys its rule and can be
    bound. Otherwise the error has the kind and the text of the first of these conditions that the
    first offending clause fails. A clause is looked up under the name that is written, unless it
    is dotted and its name begins with a mark. Registrations keep the built-in predicates, and of
    the arguments that these admit, only a bad expression of `match?` cannot be bound. -/
theorem clauses_validated {language : Language} {source : Text} {patterns : List Pattern}
    (h : Accepted language source patterns names) (registry : Registry) :
    ((∃ q, compile language source registry = .ok q) ↔
      ∀ p ∈ patterns, ∀ c ∈ generalClauses (Marked.ofText source) p,
        Passes registry (Marked.ofText source) names c) ∧
    (∀ kind text, (∃ e, compile language source registry = .error e ∧ e.kind = kind ∧
        e.text = text) ↔
      ∃ i k p c fault,
        FirstFailure registry (Marked.ofText source) names patterns i k p c kind fault ∧
          text = fault.message) ∧
    (∀ p ∈ patterns, ∀ c ∈ p.item.clauses,
      (Marked.ofText source).operatorName c = (Marked.ofText source).writtenName c ↔
        (Marked.ofText source).isHashed c = true ∨
          ¬ operatorMark <+: ((Marked.ofText source).writtenName c).toList) ∧
    (∀ explain, (Registry.builtinsWith explain).Reached registry →
      ∀ name p, (Registry.builtinsWith explain).get? name = some p →
        registry.get? name = some p ∧
          ∀ arguments : List Argument, p.signature.Within arguments.length →
            p.signature.rule.Obeyed arguments → ∀ fault,
              (p.bind arguments = .error fault ↔ name = "match?" ∧
                ∃ text, .literal text ∈ arguments ∧ Regex.read? .text text = none ∧
                  fault = .badExpression text (explain text))) := by
  refine ⟨h.exists_compile_iff, fun kind text => ?_,
    fun _ _ _ _ => Marked.operatorName_eq_iff, fun explain hreached name p hget =>
      ⟨hreached.get?_eq hget, fun arguments hcount hkinds fault =>
        Registry.bind_builtin_eq_error_iff hget hcount hkinds⟩⟩
  constructor
  · rintro ⟨e, herror, rfl, rfl⟩
    obtain ⟨i, k, p, c, kind, fault, hfirst, rfl⟩ := h.compile_eq_error_iff.mp herror
    exact ⟨i, k, p, c, fault, hfirst, rfl⟩
  · rintro ⟨i, k, p, c, fault, hfirst, rfl⟩
    exact ⟨_, h.compile_eq_error_iff.mpr ⟨i, k, p, c, kind, fault, hfirst, rfl⟩, rfl, rfl⟩

/-! ### A dotted clause with a mark -/

/-- A name with a clause that opens with `.` and whose name begins with a mark. -/
def dottedMark : Text := "((identifier) @a (.weaver-leaf? @a))".toList

/-- The clause. -/
def dottedMarkClause : Clause := ⟨18, "weaver-leaf?", [.capture "a"]⟩

/-- What is read in the text. -/
def dottedMarkPattern : Pattern :=
  ⟨0, .group 0 [capturedIdentifier, .clause 17 dottedMarkClause] []⟩

/-- The built-in predicates, and one whose name begins with a mark. -/
def markedLeaf : Registry :=
  ⟨Registry.builtins.entries ++ [("weaver-leaf?", .structural (NodesTest.each .leaf).holds)]⟩

theorem accepted_dottedMark : Accepted .cpp dottedMark [dottedMarkPattern] ["a"] where
  read := by with_unfolding_all exact rfl
  possible := by decide +kernel
  ownClauses := by
    intro p hp c hc
    obtain rfl := List.mem_singleton.mp hp
    obtain rfl : c = dottedMarkClause := List.mem_singleton.mp hc
    exact ⟨.other, TextFilter.ofClause_eq_other_iff.mpr (by decide)⟩

theorem reached_markedLeaf : Registry.builtins.Reached markedLeaf := by
  have hname : Registry.validName "weaver-leaf?" = .ok "weaver-leaf?" := by decide +kernel
  have hregister : Registry.builtins.register "weaver-leaf?"
      (.structural (NodesTest.each .leaf).holds) = .ok markedLeaf := by
    rw [Registry.register, hname]
    rfl
  exact .register .refl hregister

theorem generalClauses_dottedMark :
    generalClauses (Marked.ofText dottedMark) dottedMarkPattern = [dottedMarkClause] := by
  decide +kernel

/-- A clause can pass under the name that is written and be refused all the same. -/
theorem passes_fail_dottedMark :
    Registry.builtins.Reached markedLeaf ∧
    ¬ ∀ patterns names, Accepted .cpp dottedMark patterns names →
      ((∃ q, compile .cpp dottedMark markedLeaf = .ok q) ↔
        ∀ p ∈ patterns, ∀ c ∈ generalClauses (Marked.ofText dottedMark) p,
          markedLeaf.Passes ((Marked.ofText dottedMark).writtenName c)
            (c.arguments.map (convertArgument names))) := by
  refine ⟨reached_markedLeaf, fun hall => ?_⟩
  have hclaim := hall _ _ accepted_dottedMark
  have hwritten : (Marked.ofText dottedMark).writtenName dottedMarkClause = "weaver-leaf?" := by
    decide +kernel
  obtain ⟨q, hq⟩ := hclaim.mpr (by
    intro p hp c hc
    obtain rfl := List.mem_singleton.mp hp
    rw [generalClauses_dottedMark, List.mem_singleton] at hc
    obtain rfl := hc
    rw [hwritten]
    exact ⟨_, rfl, ⟨le_rfl, nofun⟩, fun a ha => ⟨_, List.mem_singleton.mp ha⟩, _, rfl⟩)
  -- The registry is asked for the name without the mark.
  have hpasses := accepted_dottedMark.exists_compile_iff.mp ⟨q, hq⟩ dottedMarkPattern
    (List.mem_singleton.mpr rfl) dottedMarkClause
    (generalClauses_dottedMark ▸ List.mem_singleton.mpr rfl)
  obtain ⟨p, hget, -⟩ := hpasses
  have hname : (Marked.ofText dottedMark).operatorName dottedMarkClause = "leaf?" := by
    decide +kernel
  rw [hname] at hget
  cases hget

/-- It is refused under its name without the mark. -/
theorem clauses_validated_dottedMark :
    ∃ e, compile .cpp dottedMark markedLeaf = .error e ∧ e.kind = .unknownPredicate ∧
      e.text = "unknown predicate #leaf?" := by
  have hname : (Marked.ofText dottedMark).operatorName dottedMarkClause = "leaf?" := by
    decide +kernel
  obtain ⟨-, hfails, -, -⟩ := clauses_validated accepted_dottedMark markedLeaf
  refine (hfails .unknownPredicate _).mpr ⟨0, 0, dottedMarkPattern, dottedMarkClause,
    .unknown "leaf?", ⟨rfl, ?_, nofun, nofun, ?_⟩, rfl⟩
  · rw [generalClauses_dottedMark]
    rfl
  · rw [hname]
    exact .unknown rfl

end Query
end TreeQuery
