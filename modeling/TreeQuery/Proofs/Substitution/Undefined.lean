/-
  TreeQuery.Proofs.Substitution.Undefined

  References that are no captures, and how they are named. A template that is refused has
  a first reference that no capture begins, and what stands in front of it is a template
  (`Template.exists_offender`). It is reported by its run without the marks at the end
  (`Template.exists_run_eq_reportedName_append`): the name stands behind an `@` of the
  template, and no capture begins it. A run of marks alone has nothing left, so it is
  reported without a name, and only such a run is (`Template.undefined_named_iff`).
-/

import Mathlib.Data.List.DropRight
import TreeQuery.Proofs.Substitution.Identity

namespace TreeQuery
namespace Template

/-! ## The reference that is refused -/

/-- The first reference of a text that no capture of the query begins, with what stands in front
of it and behind it. -/
structure Offender (q : Query) (text before run after : Text) : Prop where
  place : text = before ++ '@' :: (run ++ after)
  /-- The `@` is read as that of a reference, and not as half of a doubled one. -/
  read : TemplateToken.ofText text =
    TemplateToken.ofText before ++ .reference run :: TemplateToken.ofText after
  /-- What stands in front is a template, so each reference there has a capture. -/
  readable : ∃ t, parse before q = .ok t
  filled : run ≠ []
  chars : ∀ c ∈ run, isNameChar c = true
  maximal : ∀ c ∈ after.head?, isNameChar c = false
  unnamed : ¬ HasName q.captures run

/-- A text that is no template has an offender, and is refused by its name. -/
theorem exists_offender {text name : Text} {q : Query} (h : parse text q = .error name) :
    ∃ before run after, Offender q text before run after ∧ name = reportedName run := by
  obtain ⟨earlier, run, later, htokens, hearlier, hrun, rfl⟩ :=
    resolve_eq_error_iff.mp (parse_eq_error_iff.mp h)
  have hreads := TemplateToken.reads_ofText text
  rw [htokens] at hreads
  obtain ⟨before, after, rfl, hbefore, hafter, hne, hchars, hmaximal⟩ := hreads.exists_split
  obtain rfl := TemplateToken.reads_iff.mp hbefore
  obtain rfl := TemplateToken.reads_iff.mp hafter
  have hreadable : ∃ t, parse before q = .ok t := by
    obtain ⟨segments, hsegments⟩ := exists_resolve_iff.mpr hearlier
    exact ⟨⟨before, segments⟩, parse_eq_ok_iff.mpr ⟨rfl, hsegments⟩⟩
  exact ⟨before, run, after, ⟨rfl, htokens, hreadable, hne, hchars, hmaximal, hrun⟩, rfl⟩

/-! ## The name that is reported -/

/-- A character that is cut off where it ends a run. -/
def isMark (c : Char) : Bool := !isLetterOrNumber c && c != '_'

/-- The marks that a run can have. -/
def runMarks : List Char := ['-', '.', '?', '!']

theorem isMark_iff {c : Char} (h : isNameChar c = true) : isMark c = true ↔ c ∈ runMarks := by
  constructor
  · intro hmark
    simp only [isMark, Bool.and_eq_true, Bool.not_eq_true', bne_iff_ne] at hmark
    simpa [runMarks, isNameChar, hmark.1, hmark.2, or_assoc] using h
  · have hmarks : runMarks.all isMark = true := by decide
    exact List.all_eq_true.mp hmarks c

theorem reportedName_eq_rdropWhile (run : Text) : reportedName run = run.rdropWhile isMark := rfl

theorem reportedName_begins (run : Text) : reportedName run <+: run := List.rdropWhile_prefix _ _

/-- How a run of name characters is reported: what is cut off at its end are marks, and what is
left does not end in one. -/
theorem exists_run_eq_reportedName_append {run : Text} (h : ∀ c ∈ run, isNameChar c = true) :
    ∃ marks, run = reportedName run ++ marks ∧ (∀ c ∈ marks, c ∈ runMarks) ∧
      ∀ c ∈ (reportedName run).getLast?, c ∉ runMarks := by
  refine ⟨run.rtakeWhile isMark, (List.rdropWhile_append_rtakeWhile ..).symm, fun c hc => ?_,
    fun c hc => ?_⟩
  · have hrun := (List.rtakeWhile_suffix isMark run).mem hc
    exact (isMark_iff (h c hrun)).mp (List.mem_rtakeWhile_imp hc)
  · obtain ⟨hne, rfl⟩ := List.mem_getLast?_eq_getLast hc
    have hrun := (reportedName_begins run).mem (List.getLast_mem hne)
    rw [← isMark_iff (h _ hrun)]
    exact List.rdropWhile_last_not isMark run hne

/-- Runs of marks alone are reported without a name. -/
theorem reportedName_eq_nil_iff {run : Text} (h : ∀ c ∈ run, isNameChar c = true) :
    reportedName run = [] ↔ ∀ c ∈ run, c ∈ runMarks := by
  rw [reportedName_eq_rdropWhile, List.rdropWhile_eq_nil_iff]
  exact forall₂_congr fun c hc => isMark_iff (h c hc)

/-- Of a query that compiles, no capture begins a run that has no name. -/
theorem not_prefix_of_not_hasName {language : Language} {source run : Text} {registry : Registry}
    {q : Query} (hq : Query.compile language source registry = .ok q)
    (h : ¬ HasName q.captures run) {a : String} (ha : a ∈ q.captures) : ¬ a.toList <+: run :=
  fun hbegins => h ⟨a, ha, (Query.isName_of_mem_captures hq ha).nonempty, hbegins⟩

end Template

/-! ## Undefined captures -/

theorem Substitution.new_eq_unknownPlaceholder_iff {parser : Language} {q : Query}
    {text name : Text} :
    Substitution.new parser q text = .error (.unknownPlaceholder name) ↔
      q.language = parser ∧ Template.parse text q = .error name := by
  rw [Substitution.new]
  split
  · simp [*]
  · cases Template.parse text q <;> simp_all

namespace Template

/-- How a template is refused, when it is read by itself or for a substitution. -/
def Refuses (q : Query) (text name : Text) : Prop :=
  parse text q = .error name ∨
    ∃ parser, Substitution.new parser q text = .error (.unknownPlaceholder name)

/-- A template that is refused has an offender, the first of its references that no capture of
the query begins. The name that is reported is the run of the offender without the marks at its
end: it follows an `@` of the template, and no capture begins it. It is empty when the run has
nothing but marks, and only then. -/
theorem undefined_named_iff {language : Language} {source : Text} {registry : Registry}
    {q : Query} (hq : Query.compile language source registry = .ok q) {text name : Text}
    (h : Refuses q text name) :
    '@' :: name <:+: text ∧ (∀ a ∈ q.captures, ¬ a.toList <+: name) ∧
      ∃ before run after, Offender q text before run after ∧
        (∃ marks, run = name ++ marks ∧ (∀ c ∈ marks, c ∈ runMarks) ∧
          ∀ c ∈ name.getLast?, c ∉ runMarks) ∧
        (name ≠ [] ↔ ∃ c ∈ run, c ∉ runMarks) := by
  have hparse : parse text q = .error name := by
    rcases h with h | ⟨parser, h⟩
    · exact h
    · exact (Substitution.new_eq_unknownPlaceholder_iff.mp h).2
  obtain ⟨before, run, after, hoffender, rfl⟩ := exists_offender hparse
  obtain ⟨marks, hmarks⟩ := exists_run_eq_reportedName_append hoffender.chars
  refine ⟨⟨before, marks ++ after, ?_⟩, fun a ha hbegins => ?_, before, run, after, hoffender,
    ⟨marks, hmarks⟩, ?_⟩
  · rw [hoffender.place, List.append_assoc, List.cons_append, ← List.append_assoc _ marks,
      ← hmarks.1]
  · exact not_prefix_of_not_hasName hq hoffender.unnamed ha
      (hbegins.trans (reportedName_begins run))
  · rw [ne_eq, reportedName_eq_nil_iff hoffender.chars]
    simp only [not_forall, exists_prop]

/-- Accesses to a member by a dot, with their parts. -/
def memberAccess : Text :=
  "(field_expression argument: (_) @arg \".\" field: (_) @field) @from".toList

theorem exists_memberAccess : ∃ q, Query.compile .cpp memberAccess .builtins = .ok q ∧
    q.captures = ["arg", "field", "from"] := by
  have hcompile : (Query.compile .cpp memberAccess .builtins).toOption.any
      (fun q => q.captures = ["arg", "field", "from"]) = true := by
    decide +kernel
  obtain ⟨q, hq, hcaptures⟩ := Query.exists_compile_of_any hcompile
  exact ⟨q, hq, of_decide_eq_true hcaptures⟩

/-- A doubled `@` and a capture stand before the offender, whose run ends in a mark. -/
theorem undefined_named_iff_arrow :
    ∃ q, Query.compile .cpp memberAccess .builtins = .ok q ∧
      Refuses q "@@x @arg @member->@field".toList "member".toList ∧
      "@member".toList <:+: "@@x @arg @member->@field".toList ∧
      (∀ a ∈ q.captures, ¬ a.toList <+: "member".toList) ∧
      ∃ before run after, Offender q "@@x @arg @member->@field".toList before run after ∧
        (∃ marks, run = "member".toList ++ marks ∧ (∀ c ∈ marks, c ∈ runMarks) ∧
          ∀ c ∈ "member".toList.getLast?, c ∉ runMarks) ∧
        ∃ c ∈ run, c ∉ runMarks := by
  obtain ⟨q, hq, hcaptures⟩ := exists_memberAccess
  have hrefuses : Refuses q "@@x @arg @member->@field".toList "member".toList := by
    refine .inl ?_
    rw [parse, hcaptures]
    decide +kernel
  obtain ⟨hplace, hcaptures, before, run, after, hoffender, hrun, hiff⟩ :=
    undefined_named_iff hq hrefuses
  exact ⟨q, hq, hrefuses, hplace, hcaptures, before, run, after, hoffender, hrun,
    hiff.mp (by decide)⟩

/-- A lone mark behind an `@` is reported without a name. -/
theorem name_fails_loneMark :
    ¬ ∀ q, Query.compile .cpp memberAccess .builtins = .ok q → ∀ name,
      Refuses q "@-".toList name → name ≠ [] ∧ '@' :: name <:+: "@-".toList ∧
        ∀ a ∈ q.captures, ¬ a.toList <+: name := by
  intro hall
  obtain ⟨q, hq, hcaptures⟩ := exists_memberAccess
  have hparse : parse "@-".toList q = .error [] := by
    rw [parse, hcaptures]
    decide +kernel
  exact (hall q hq [] (.inl hparse)).1 rfl

end Template
end TreeQuery
