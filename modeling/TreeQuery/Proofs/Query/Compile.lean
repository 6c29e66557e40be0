/-
  TreeQuery.Proofs.Query.Compile

  What a compiled query is made of. The marked text was read as patterns, and every
  pattern of the query comes from the pattern that stands at its place in the text
  (`QueryPattern.Compiled`): its clauses are filters, notes, or invocations that the
  registry resolved.

  * `Query.compile_eq_ok` takes a successful compilation apart.
  * `Query.index_of_compile`: patterns are numbered by their places.
  * `Query.compile_capture_iff`: an error over a capture comes from the reading alone.
  * `Query.exists_compile_of_any` has the query of a fixed text from a test that it passes.
-/

import Mathlib.Data.List.Forall2
import TreeQuery.Proofs.Except
import TreeQuery.Query.Basic

namespace TreeQuery

/-! ## Lists side by side -/

section

variable {α β : Type} {R : α → β → Prop} {as : List α} {bs : List β}

theorem exists_of_getElem?_right (h : List.Forall₂ R as bs) {i : Nat} {b : β}
    (hb : bs[i]? = some b) : ∃ a, as[i]? = some a ∧ R a b := by
  induction h generalizing i with
  | nil => cases hb
  | cons hab _ ih =>
    cases i with
    | zero =>
      obtain rfl := Option.some.inj hb
      exact ⟨_, rfl, hab⟩
    | succ i => exact ih hb

theorem exists_of_getElem?_left (h : List.Forall₂ R as bs) {i : Nat} {a : α}
    (ha : as[i]? = some a) : ∃ b, bs[i]? = some b ∧ R a b :=
  exists_of_getElem?_right h.flip ha

theorem exists_of_mem_right (h : List.Forall₂ R as bs) {b : β} (hb : b ∈ bs) :
    ∃ a ∈ as, R a b := by
  obtain ⟨i, hi⟩ := List.mem_iff_getElem?.1 hb
  obtain ⟨a, ha, hab⟩ := exists_of_getElem?_right h hi
  exact ⟨a, List.mem_of_getElem? ha, hab⟩

end

/-! ## Clauses -/

namespace TextFilter

/-- The names that the pattern language reads itself. -/
def ownNames : List String :=
  ["eq?", "not-eq?", "any-eq?", "any-not-eq?", "match?", "not-match?", "any-match?",
    "any-not-match?", "any-of?", "not-any-of?", "set!", "is?", "is-not?"]

/-- The text filter that a clause is, if it is one. -/
def filter? (names : List String) (c : Clause) : Option TextFilter :=
  match ofClause names c with
  | .ok (.filter f) => some f
  | _ => none

theorem map_filter_ne_other (x : Except FilterFault TextFilter) :
    x.map Reading.filter ≠ .ok .other := by
  cases x <;> exact nofun

/-- A clause is left for the registry when its name is none of the pattern language's own. -/
theorem ofClause_eq_other_iff {names : List String} {c : Clause} :
    ofClause names c = .ok .other ↔ c.name ∉ ownNames := by
  unfold ofClause
  split
  case h_14 =>
    simp only [ownNames, List.mem_cons, List.not_mem_nil, or_false, not_or, true_iff]
    exact ⟨‹_›, ‹_›, ‹_›, ‹_›, ‹_›, ‹_›, ‹_›, ‹_›, ‹_›, ‹_›, ‹_›, ‹_›, ‹_›⟩
  -- Of an own name there is a comparison or a note.
  all_goals refine iff_of_false ?_ (not_not_intro (by rw [‹c.name = _›]; decide))
  case h_11 | h_12 | h_13 =>
    split
    · exact nofun
    · cases checkNote c.name false 0 c.arguments <;> exact nofun
  all_goals exact map_filter_ne_other _

end TextFilter

/-- `invocation` is what the registry makes of a clause, under its name without a mark. -/
def Query.Resolved (registry : Registry) (names : List String) (c : Clause)
    (invocation : Invocation) : Prop :=
  registry.resolve (String.ofList (Marked.unmark c.name.toList))
    (c.arguments.map (Query.convertArgument names)) = .ok invocation

namespace Query

variable {registry : Registry} {marked : Marked} {names : List String}

theorem splitClauses_eq_ok {clauses others : List Clause} {filters : List TextFilter}
    (h : splitClauses names clauses = .ok (filters, others)) :
    filters = clauses.filterMap (TextFilter.filter? names) ∧
      others = clauses.filter (·.name ∉ TextFilter.ownNames) := by
  induction clauses generalizing filters others with
  | nil =>
    obtain ⟨rfl, rfl⟩ := Prod.mk.inj (Except.ok.inj h)
    exact ⟨rfl, rfl⟩
  | cons c clauses ih =>
    rw [splitClauses] at h
    obtain ⟨reading, hreading, h⟩ := bind_eq_ok_iff.1 h
    obtain ⟨⟨laterFilters, laterOthers⟩, hlater, h⟩ := bind_eq_ok_iff.1 h
    obtain ⟨hfilters, hothers⟩ := ih hlater
    have hother : TextFilter.ofClause names c = .ok .other ↔ c.name ∉ TextFilter.ownNames :=
      TextFilter.ofClause_eq_other_iff
    rw [hreading] at hother
    rw [List.filterMap_cons, List.filter_cons, TextFilter.filter?, hreading, ← hfilters, ← hothers]
    cases reading with
    | filter f =>
      obtain ⟨rfl, rfl⟩ := Prod.mk.inj (Except.ok.inj h)
      have hown := mt hother.2 nofun
      exact ⟨rfl, by rw [if_neg (by simpa using hown)]⟩
    | note =>
      obtain ⟨rfl, rfl⟩ := Prod.mk.inj (Except.ok.inj h)
      have hown := mt hother.2 nofun
      exact ⟨rfl, by rw [if_neg (by simpa using hown)]⟩
    | other =>
      obtain ⟨rfl, rfl⟩ := Prod.mk.inj (Except.ok.inj h)
      have hown := hother.1 rfl
      exact ⟨rfl, by rw [if_pos (by simpa using hown)]⟩

theorem resolveClauses_eq_ok {start : Nat} {sites : List Nat} {clauses : List Clause}
    {invocations : List Invocation}
    (h : resolveClauses registry marked names start sites clauses = .ok invocations) :
    List.Forall₂ (Resolved registry names) clauses invocations := by
  induction clauses generalizing sites invocations with
  | nil =>
    obtain rfl := Except.ok.inj h
    exact .nil
  | cons c clauses ih =>
    rw [resolveClauses] at h
    split at h
    · cases h
    · next hresolve =>
      obtain ⟨later, hlater, hcons⟩ := bind_eq_ok_iff.1 h
      obtain rfl := Except.ok.inj hcons
      exact .cons hresolve (ih hlater)

/-- What the registry resolves keeps its name and its arguments. -/
theorem Resolved.name_arguments {c : Clause} {invocation : Invocation}
    (h : Resolved registry names c invocation) :
    invocation.name = String.ofList (Marked.unmark c.name.toList) ∧
      invocation.arguments = c.arguments.map (convertArgument names) := by
  rw [Resolved, Registry.resolve] at h
  split at h
  · cases h
  · rw [Predicate.resolve] at h
    split at h
    · cases h
    · split at h
      · cases h
      · split at h
        · cases h
        · obtain rfl := Except.ok.inj h
          exact ⟨rfl, rfl⟩

end Query

/-! ## Patterns -/

/-- `p` is what `pattern` is compiled to in a text whose captures are `names`. -/
structure QueryPattern.Compiled (registry : Registry) (marked : Marked) (names : List String)
    (pattern : Pattern) (p : QueryPattern) : Prop where
  start : p.start = marked.toBare pattern.start
  captures : p.captures = Query.patternCaptures names pattern.item
  program : p.program = Program.ofPattern names pattern
  /-- Some of the pattern language's own clauses are filters. -/
  filters : p.filters = pattern.item.clauses.filterMap (TextFilter.filter? names)
  /-- All the other clauses are resolved in their order. -/
  predicates : List.Forall₂ (Query.Resolved registry names)
    (pattern.item.clauses.filter (·.name ∉ TextFilter.ownNames)) p.predicates

namespace Query

variable {registry : Registry} {marked : Marked} {names : List String}

/-- Patterns are prepared and then compiled one by one. -/
theorem compiled_of_prepare {patterns : List Pattern} {prepared : List Prepared} {index : Nat}
    {compiled : List QueryPattern}
    (hprepare : prepare marked names (patterns.zip (patterns.map (Program.ofPattern names))) =
      .ok prepared)
    (hcompile : compilePatterns registry marked names index prepared = .ok compiled) :
    List.Forall₂ (QueryPattern.Compiled registry marked names) patterns compiled := by
  induction patterns generalizing prepared index compiled with
  | nil =>
    obtain rfl := Except.ok.inj hprepare
    obtain rfl := Except.ok.inj hcompile
    exact .nil
  | cons pattern patterns ih =>
    rw [List.map_cons, List.zip_cons_cons, prepare] at hprepare
    obtain ⟨⟨filters, others⟩, hsplit, hprepare⟩ := bind_eq_ok_iff.1 hprepare
    obtain ⟨later, hlater, hprepare⟩ := bind_eq_ok_iff.1 hprepare
    obtain rfl := Except.ok.inj hprepare
    rw [compilePatterns] at hcompile
    obtain ⟨invocations, hresolve, hcompile⟩ := bind_eq_ok_iff.1 hcompile
    obtain ⟨more, hmore, hcompile⟩ := bind_eq_ok_iff.1 hcompile
    obtain rfl := Except.ok.inj hcompile
    obtain ⟨hfilters, hothers⟩ := splitClauses_eq_ok hsplit
    have hresolved := resolveClauses_eq_ok hresolve
    rw [hothers] at hresolved
    exact .cons ⟨rfl, rfl, rfl, hfilters, hresolved⟩ (ih hlater hmore)

/-- A query that compiles has a pattern for every pattern of the marked text. -/
theorem compile_eq_ok {language : Language} {source : Text} {q : Query}
    (h : compile language source registry = .ok q) :
    ∃ patterns,
      Pattern.read language.vocabulary (Marked.ofText source).text = .ok (patterns, q.captures) ∧
      List.Forall₂ (QueryPattern.Compiled registry (Marked.ofText source) q.captures)
        patterns q.patterns := by
  rw [compile] at h
  simp only at h
  split at h
  · cases h
  · next patterns names hread =>
    split at h
    · cases h
    · split at h
      · cases h
      · next prepared hprepare =>
        obtain ⟨compiled, hcompile, hquery⟩ := bind_eq_ok_iff.1 h
        obtain rfl := Except.ok.inj hquery
        exact ⟨patterns, hread, compiled_of_prepare hprepare hcompile⟩

/-! ### Numbers of patterns -/

theorem index_of_compilePatterns {prepared : List Prepared} {index : Nat}
    {compiled : List QueryPattern}
    (h : compilePatterns registry marked names index prepared = .ok compiled) {i : Nat}
    {p : QueryPattern} (hp : compiled[i]? = some p) : p.index = index + i := by
  induction prepared generalizing index compiled i with
  | nil =>
    obtain rfl := Except.ok.inj h
    cases hp
  | cons _ prepared ih =>
    rw [compilePatterns] at h
    obtain ⟨_, -, h⟩ := bind_eq_ok_iff.1 h
    obtain ⟨more, hmore, h⟩ := bind_eq_ok_iff.1 h
    obtain rfl := Except.ok.inj h
    cases i with
    | zero =>
      obtain rfl := Option.some.inj hp
      rfl
    | succ i =>
      rw [ih hmore hp]
      omega

/-- The patterns of a compiled query are numbered by their places in it. -/
theorem index_of_compile {language : Language} {source : Text} {q : Query}
    (h : compile language source registry = .ok q) {i : Nat} {p : QueryPattern}
    (hp : q.patterns[i]? = some p) : p.index = i := by
  rw [compile] at h
  simp only at h
  split at h
  · cases h
  · split at h
    · cases h
    · split at h
      · cases h
      · obtain ⟨compiled, hcompiled, hquery⟩ := bind_eq_ok_iff.1 h
        obtain rfl := Except.ok.inj hquery
        rw [index_of_compilePatterns hcompiled hp, Nat.zero_add]

/-! ## Kinds of errors -/

theorem kind_of_resolveClauses {start : Nat} {sites : List Nat} {clauses : List Clause}
    {e : QueryError} (h : resolveClauses registry marked names start sites clauses = .error e) :
    ∃ fault, e.kind = faultKind fault := by
  induction clauses generalizing sites with
  | nil => cases h
  | cons c clauses ih =>
    rw [resolveClauses] at h
    split at h
    · obtain rfl := Except.error.inj h
      exact ⟨_, rfl⟩
    · rcases bind_eq_error_iff.1 h with hlater | ⟨_, -, hcons⟩
      · exact ih hlater
      · cases hcons

theorem kind_of_compilePatterns {index : Nat} {prepared : List Prepared} {e : QueryError}
    (h : compilePatterns registry marked names index prepared = .error e) :
    ∃ fault, e.kind = faultKind fault := by
  induction prepared generalizing index with
  | nil => cases h
  | cons p prepared ih =>
    rw [compilePatterns] at h
    rcases bind_eq_error_iff.1 h with hresolve | ⟨_, -, hmore⟩
    · exact kind_of_resolveClauses hresolve
    · rcases bind_eq_error_iff.1 hmore with hlater | ⟨_, -, hcons⟩
      · exact ih hlater
      · cases hcons

theorem faultKind_ne_capture (fault : ClauseFault) : faultKind fault ≠ .capture := by
  cases fault <;> exact nofun

/-- An error over a capture is a fault of the reading. -/
theorem compile_capture_iff {language : Language} {source : Text} :
    (∃ e, compile language source registry = .error e ∧ e.kind = .capture) ↔
      ∃ offset, Pattern.read language.vocabulary (Marked.ofText source).text =
        .error ⟨.unknownCapture, offset⟩ := by
  constructor
  · rintro ⟨e, h, hkind⟩
    rw [compile] at h
    simp only at h
    split at h
    · next fault hread =>
      obtain rfl := Except.error.inj h
      obtain ⟨cause, offset⟩ := fault
      cases cause with
      | unknownCapture => exact ⟨offset, hread⟩
      | malformed => cases hkind
      | unknownKind => cases hkind
      | unknownField => cases hkind
      | impossible => cases hkind
    · split at h
      · obtain rfl := Except.error.inj h
        cases hkind
      · split at h
        · obtain rfl := Except.error.inj h
          cases hkind
        · rcases bind_eq_error_iff.1 h with hcompile | ⟨_, -, hquery⟩
          · obtain ⟨fault, hfault⟩ := kind_of_compilePatterns hcompile
            exact absurd (hfault.symm.trans hkind) (faultKind_ne_capture fault)
          · cases hquery
  · rintro ⟨offset, hread⟩
    refine ⟨(Marked.ofText source).ofFault ⟨.unknownCapture, offset⟩, ?_, rfl⟩
    rw [compile]
    simp only [hread]

/-- A text with a query that passes a test compiles to that query. -/
theorem exists_compile_of_any {language : Language} {source : Text} {p : Query → Bool}
    (h : (compile language source registry).toOption.any p = true) :
    ∃ q, compile language source registry = .ok q ∧ p q = true := by
  cases hcompile : compile language source registry with
  | error e =>
    rw [hcompile] at h
    cases h
  | ok q =>
    rw [hcompile] at h
    exact ⟨q, rfl, h⟩

end Query
end TreeQuery
