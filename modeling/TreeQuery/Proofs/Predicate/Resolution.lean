/-
  TreeQuery.Proofs.Predicate.Resolution

  When a registry resolves a clause. What a clause must be is said in terms of its
  arguments (`Signature.Within`, `ArgumentRule.Obeyed`), not of the counts that are
  compared, and a clause passes or fails by these conditions alone:

  * `Registry.exists_resolve_iff`: a clause is resolved exactly when it passes.
  * `Registry.fails_iff`: the first condition that fails is the fault, with its kind.
  * `Registry.Reached.get?_eq`: registrations keep every predicate under its name.
  * `Registry.bind_builtin_eq_error_iff`: of the arguments that a built-in predicate
    admits, it refuses just the bad expressions of `match?`.
-/

import Mathlib.Data.List.Basic
import Mathlib.Logic.Basic
import TreeQuery.Proofs.Predicate.Registrations
import TreeQuery.Query.Basic

namespace TreeQuery

/-! ## Arguments -/

namespace Argument

/-- Each argument is a capture or a literal. -/
theorem length_filter_capture?_add (arguments : List Argument) :
    (arguments.filter (·.capture?.isSome)).length +
      (arguments.filter (·.literal?.isSome)).length = arguments.length := by
  induction arguments with
  | nil => rfl
  | cons a arguments ih =>
    cases a with
    | capture ref =>
      rw [List.filter_cons_of_pos rfl, List.filter_cons_of_neg (by exact nofun), List.length_cons,
        List.length_cons]
      omega
    | literal text =>
      rw [List.filter_cons_of_neg (by exact nofun), List.filter_cons_of_pos rfl, List.length_cons,
        List.length_cons]
      omega

theorem length_filter_capture?_eq_zero_iff {arguments : List Argument} :
    (arguments.filter (·.capture?.isSome)).length = 0 ↔ ∀ ref, .capture ref ∉ arguments := by
  rw [List.length_eq_zero_iff, List.filter_eq_nil_iff]
  constructor
  · intro h ref href
    exact h _ href rfl
  · intro h a ha hsome
    cases a with
    | capture ref => exact h ref ha
    | literal text => cases hsome

theorem length_filter_literal?_eq_zero_iff {arguments : List Argument} :
    (arguments.filter (·.literal?.isSome)).length = 0 ↔
      ∀ a ∈ arguments, ∃ ref, a = .capture ref := by
  rw [List.length_eq_zero_iff, List.filter_eq_nil_iff]
  constructor
  · intro h a ha
    cases a with
    | capture ref => exact ⟨ref, rfl⟩
    | literal text => exact absurd rfl (h _ ha)
  · intro h a ha hsome
    obtain ⟨ref, rfl⟩ := h a ha
    cases hsome

end Argument

namespace ArgumentRule

/-- What a rule asks of arguments. -/
def Obeyed (rule : ArgumentRule) (arguments : List Argument) : Prop :=
  match rule with
  | capturesOnly => ∀ a ∈ arguments, ∃ ref, a = .capture ref
  | atLeastOneCapture => ∃ ref, .capture ref ∈ arguments
  | oneCaptureOneLiteral => ∃ ref text,
      arguments = [.capture ref, .literal text] ∨ arguments = [.literal text, .capture ref]
  | any => True

theorem obeyed_oneCaptureOneLiteral_iff {arguments : List Argument} :
    oneCaptureOneLiteral.Obeyed arguments ↔
      (arguments.filter (·.capture?.isSome)).length = 1 ∧
        (arguments.filter (·.literal?.isSome)).length = 1 := by
  constructor
  · rintro ⟨ref, text, rfl | rfl⟩
    · exact ⟨rfl, rfl⟩
    · exact ⟨rfl, rfl⟩
  · rintro ⟨hcaptures, hliterals⟩
    have hlength := Argument.length_filter_capture?_add arguments
    rw [hcaptures, hliterals] at hlength
    obtain ⟨a, b, rfl⟩ := List.length_eq_two.mp hlength.symm
    -- One of the two is a capture, and then the other is not.
    cases a with
    | capture ref =>
      cases b with
      | capture ref' => exact absurd hliterals (by simp [Argument.literal?])
      | literal text => exact ⟨ref, text, .inl rfl⟩
    | literal text =>
      cases b with
      | capture ref => exact ⟨ref, text, .inr rfl⟩
      | literal text' => exact absurd hcaptures (by simp [Argument.capture?])

end ArgumentRule

namespace Signature

/-- So many arguments lie between the bounds; there need be no upper one. -/
def Within (s : Signature) (count : Nat) : Prop :=
  s.min ≤ count ∧ ∀ max, s.max = some max → count ≤ max

theorem admitsCount_iff {s : Signature} {count : Nat} :
    s.admitsCount count = true ↔ s.Within count := by
  rw [admitsCount, Bool.and_eq_true, decide_eq_true_iff, Within, Option.all_eq_true]
  refine and_congr_right fun _ => forall_congr' fun max => ?_
  rw [decide_eq_true_iff]

theorem admitsKinds_iff {s : Signature} {arguments : List Argument} :
    s.admitsKinds arguments = true ↔ s.rule.Obeyed arguments := by
  have hlength := Argument.length_filter_capture?_add arguments
  -- What is not a capture is a literal, so the second count is one of literals.
  have hliterals : arguments.length - (arguments.filter (·.capture?.isSome)).length =
      (arguments.filter (·.literal?.isSome)).length := by
    omega
  rw [admitsKinds]
  simp only [hliterals]
  cases s.rule with
  | capturesOnly =>
    rw [ArgumentRule.allows, beq_iff_eq]
    exact Argument.length_filter_literal?_eq_zero_iff
  | atLeastOneCapture =>
    rw [ArgumentRule.allows, bne_iff_ne, ne_eq, Argument.length_filter_capture?_eq_zero_iff,
      not_forall_not]
    rfl
  | oneCaptureOneLiteral =>
    rw [ArgumentRule.allows, Bool.and_eq_true, beq_iff_eq, beq_iff_eq]
    exact ArgumentRule.obeyed_oneCaptureOneLiteral_iff.symm
  | any => exact iff_of_true rfl trivial

end Signature

/-! ## Clauses -/

namespace Registry

/-- A clause names a registered predicate, has as many arguments as it asks for, of the kinds that
it asks for, and they can be bound. -/
def Passes (r : Registry) (name : String) (arguments : List Argument) : Prop :=
  ∃ p, r.get? name = some p ∧ p.signature.Within arguments.length ∧
    p.signature.rule.Obeyed arguments ∧ ∃ check, p.bind arguments = .ok check

/-- The first of these conditions that a clause does not meet, with the kind of error that it is
and what is wrong. -/
inductive Fails (r : Registry) (name : String) (arguments : List Argument) :
    QueryErrorKind → ClauseFault → Prop
  | unknown (hget : r.get? name = none) : Fails r name arguments .unknownPredicate (.unknown name)
  | arity {p : Predicate} (hget : r.get? name = some p)
      (hcount : ¬ p.signature.Within arguments.length) :
      Fails r name arguments .predicateArity (.arity name p.signature arguments.length)
  | kinds {p : Predicate} (hget : r.get? name = some p)
      (hcount : p.signature.Within arguments.length)
      (hkinds : ¬ p.signature.rule.Obeyed arguments) :
      Fails r name arguments .predicateArgument (.kinds name p.signature.rule)
  | binding {p : Predicate} {fault : BindFault} (hget : r.get? name = some p)
      (hcount : p.signature.Within arguments.length)
      (hkinds : p.signature.rule.Obeyed arguments) (hbind : p.bind arguments = .error fault) :
      Fails r name arguments .predicateArgument (.binding name fault)

variable {r : Registry} {name : String} {arguments : List Argument} {explain : Text → String}

theorem resolve_of_get?_eq_none (hget : r.get? name = none) :
    r.resolve name arguments = .error (.unknown name) := by
  rw [resolve, hget]

theorem resolve_of_not_within {p : Predicate} (hget : r.get? name = some p)
    (hcount : ¬ p.signature.Within arguments.length) :
    r.resolve name arguments = .error (.arity name p.signature arguments.length) := by
  rw [← Signature.admitsCount_iff, Bool.not_eq_true] at hcount
  rw [resolve, hget]
  simp only [Predicate.resolve, hcount]
  rfl

theorem resolve_of_not_obeyed {p : Predicate} (hget : r.get? name = some p)
    (hcount : p.signature.Within arguments.length)
    (hkinds : ¬ p.signature.rule.Obeyed arguments) :
    r.resolve name arguments = .error (.kinds name p.signature.rule) := by
  rw [← Signature.admitsCount_iff] at hcount
  rw [← Signature.admitsKinds_iff, Bool.not_eq_true] at hkinds
  rw [resolve, hget]
  simp only [Predicate.resolve, hcount, hkinds]
  rfl

theorem resolve_of_obeyed {p : Predicate} (hget : r.get? name = some p)
    (hcount : p.signature.Within arguments.length) (hkinds : p.signature.rule.Obeyed arguments) :
    r.resolve name arguments =
      match p.bind arguments with
      | .error fault => .error (.binding name fault)
      | .ok check => .ok ⟨name, arguments, check⟩ := by
  rw [← Signature.admitsCount_iff] at hcount
  rw [← Signature.admitsKinds_iff] at hkinds
  rw [resolve, hget]
  simp only [Predicate.resolve, hcount, hkinds]
  rfl

/-- A clause passes, or there is a first condition that it fails. -/
theorem passes_or_fails (r : Registry) (name : String) (arguments : List Argument) :
    (r.Passes name arguments ∧ ∃ invocation, r.resolve name arguments = .ok invocation) ∨
      ∃ kind fault, r.Fails name arguments kind fault := by
  cases hget : r.get? name with
  | none => exact .inr ⟨_, _, .unknown hget⟩
  | some p =>
    by_cases hcount : p.signature.Within arguments.length
    · by_cases hkinds : p.signature.rule.Obeyed arguments
      · cases hbind : p.bind arguments with
        | error fault => exact .inr ⟨_, _, .binding hget hcount hkinds hbind⟩
        | ok check =>
          refine .inl ⟨⟨p, hget, hcount, hkinds, check, hbind⟩, ⟨name, arguments, check⟩, ?_⟩
          rw [resolve_of_obeyed hget hcount hkinds, hbind]
      · exact .inr ⟨_, _, .kinds hget hcount hkinds⟩
    · exact .inr ⟨_, _, .arity hget hcount⟩

theorem Fails.resolve_eq {kind : QueryErrorKind} {fault : ClauseFault}
    (h : r.Fails name arguments kind fault) :
    r.resolve name arguments = .error fault ∧ kind = Query.faultKind fault := by
  cases h with
  | unknown hget => exact ⟨resolve_of_get?_eq_none hget, rfl⟩
  | arity hget hcount => exact ⟨resolve_of_not_within hget hcount, rfl⟩
  | kinds hget hcount hkinds => exact ⟨resolve_of_not_obeyed hget hcount hkinds, rfl⟩
  | binding hget hcount hkinds hbind =>
    refine ⟨?_, rfl⟩
    rw [resolve_of_obeyed hget hcount hkinds, hbind]

/-- The fault of a clause is the first condition that it fails. -/
theorem fails_iff {kind : QueryErrorKind} {fault : ClauseFault} :
    r.Fails name arguments kind fault ↔
      r.resolve name arguments = .error fault ∧ kind = Query.faultKind fault := by
  refine ⟨Fails.resolve_eq, ?_⟩
  rintro ⟨hresolve, rfl⟩
  rcases passes_or_fails r name arguments with ⟨-, invocation, hok⟩ | ⟨kind, fault', hfails⟩
  · cases hresolve.symm.trans hok
  · -- There is only one answer, so the fault that it has is the one given.
    obtain ⟨hresolve', rfl⟩ := hfails.resolve_eq
    obtain rfl := Except.error.inj (hresolve.symm.trans hresolve')
    exact hfails

/-- A clause is resolved when it passes. -/
theorem exists_resolve_iff :
    (∃ invocation, r.resolve name arguments = .ok invocation) ↔ r.Passes name arguments := by
  rcases passes_or_fails r name arguments with ⟨hpasses, hok⟩ | ⟨kind, fault, hfails⟩
  · exact iff_of_true hok hpasses
  · refine iff_of_false ?_ ?_
    · rintro ⟨invocation, hok⟩
      cases hok.symm.trans hfails.resolve_eq.1
    · rintro ⟨p, hget, hcount, hkinds, check, hbind⟩
      have hok := resolve_of_obeyed hget hcount hkinds
      rw [hbind, hfails.resolve_eq.1] at hok
      cases hok

/-! ## Registrations -/

/-- `s` comes from `r` by registrations that succeed. -/
inductive Reached (r : Registry) : Registry → Prop
  | refl : Reached r r
  | register {s t : Registry} {name : String} {p : Predicate} (h : Reached r s)
      (hregister : s.register name p = .ok t) : Reached r t

theorem get?_register {s t : Registry} {registered : String} {p q : Predicate}
    (hregister : s.register registered q = .ok t) (hget : s.get? name = some p) :
    t.get? name = some p := by
  obtain ⟨-, hfree, rfl⟩ := register_eq_ok_iff.mp hregister
  exact (get?_concat hfree).mpr (.inl hget)

/-- A name keeps its predicate. -/
theorem Reached.get?_eq {s : Registry} {p : Predicate} (h : r.Reached s)
    (hget : r.get? name = some p) : s.get? name = some p := by
  induction h with
  | refl => exact hget
  | register _ hregister ih => exact get?_register hregister ih

/-! ## The predicates that are always there -/

theorem captureArguments_eq_ok {arguments : List Argument}
    (h : ∀ a ∈ arguments, ∃ ref, a = .capture ref) :
    ∃ refs, captureArguments arguments = .ok refs := by
  induction arguments with
  | nil => exact ⟨[], rfl⟩
  | cons a arguments ih =>
    rw [List.forall_mem_cons] at h
    obtain ⟨ref, rfl⟩ := h.1
    obtain ⟨refs, hrefs⟩ := ih h.2
    refine ⟨ref :: refs, ?_⟩
    rw [captureArguments, hrefs]
    rfl

theorem builtin_cases {p : Predicate} (hget : (builtinsWith explain).get? name = some p) :
    (name = "eq?" ∧ p = Predicate.eq) ∨ (name = "match?" ∧ p = Predicate.matchesExpr explain) ∨
      (name = "in_message_map?" ∧ p = EnclosingBlock.messageMap.predicate) := by
  obtain ⟨⟨found, p'⟩, hfind, rfl⟩ := Option.map_eq_some_iff.mp hget
  have hmem := List.mem_of_find?_eq_some hfind
  have hname := List.find?_some hfind
  obtain rfl : found = name := beq_iff_eq.mp hname
  simpa [builtinsWith, Prod.ext_iff] using hmem

theorem bind_eq_ne_error {fault : BindFault}
    (hcount : Predicate.eq.signature.Within arguments.length) :
    Predicate.eq.bind arguments ≠ .error fault := by
  have htwo : arguments.length = 2 := Nat.le_antisymm (hcount.2 2 rfl) hcount.1
  obtain ⟨left, right, rfl⟩ := List.length_eq_two.mp htwo
  exact nofun

theorem bind_block_ne_error {b : EnclosingBlock} {fault : BindFault}
    (hkinds : b.predicate.signature.rule.Obeyed arguments) :
    b.predicate.bind arguments ≠ .error fault := by
  obtain ⟨refs, hrefs⟩ := captureArguments_eq_ok hkinds
  simp only [EnclosingBlock.predicate, hrefs]
  exact nofun

/-- Of two arguments in either order, the capture and the literal are found. -/
theorem bind_matchesExpr {ref : CaptureRef} {text : Text}
    (h : arguments = [.capture ref, .literal text] ∨ arguments = [.literal text, .capture ref]) :
    (Predicate.matchesExpr explain).bind arguments =
      match Regex.read? .text text with
      | none => .error (.badExpression text (explain text))
      | some e => .ok (Predicate.textsMatch ref e) := by
  rcases h with rfl | rfl <;> rfl

theorem bind_matchesExpr_eq_error_iff {fault : BindFault}
    (hkinds : (Predicate.matchesExpr explain).signature.rule.Obeyed arguments) :
    (Predicate.matchesExpr explain).bind arguments = .error fault ↔
      ∃ text, .literal text ∈ arguments ∧ Regex.read? .text text = none ∧
        fault = .badExpression text (explain text) := by
  obtain ⟨ref, text, harguments⟩ := hkinds
  have hliteral : ∀ text', .literal text' ∈ arguments ↔ text' = text := by
    intro text'
    rcases harguments with rfl | rfl <;> simp
  rw [bind_matchesExpr harguments]
  cases hread : Regex.read? .text text with
  | none =>
    constructor
    · intro h
      exact ⟨text, (hliteral text).mpr rfl, hread, (Except.error.inj h).symm⟩
    · rintro ⟨text', htext, -, rfl⟩
      rw [(hliteral text').mp htext]
  | some e =>
    refine iff_of_false (fun h => by cases h) ?_
    rintro ⟨text', htext', hnone, -⟩
    rw [(hliteral text').mp htext', hread] at hnone
    cases hnone

/-- Arguments that a built-in predicate admits can be bound, unless they are those of a `match?`
with a bad expression. -/
theorem bind_builtin_eq_error_iff {p : Predicate}
    (hget : (builtinsWith explain).get? name = some p)
    (hcount : p.signature.Within arguments.length) (hkinds : p.signature.rule.Obeyed arguments)
    {fault : BindFault} :
    p.bind arguments = .error fault ↔
      name = "match?" ∧ ∃ text, .literal text ∈ arguments ∧
        Regex.read? .text text = none ∧ fault = .badExpression text (explain text) := by
  rcases builtin_cases hget with ⟨rfl, rfl⟩ | ⟨rfl, rfl⟩ | ⟨rfl, rfl⟩
  · exact iff_of_false (bind_eq_ne_error hcount) (fun h => absurd h.1 (by decide))
  · rw [bind_matchesExpr_eq_error_iff hkinds, and_iff_right rfl]
  · exact iff_of_false (bind_block_ne_error hkinds) (fun h => absurd h.1 (by decide))

end Registry
end TreeQuery
