/-
  TreeQuery.Proofs.Substitution.Printing

  Templates are read back as they are written. A token is written with every `@` doubled
  (`TemplateToken.print`), and tokens that were read from some text are read again from
  what they are written as (`TemplateToken.reads_print`): where the text had a character
  behind a run, so does the writing. The segments of a template are written as its tokens
  are (`Template.print_of_resolves`), since the rest of a run has no `@` to double. So the
  writing of a template has its tokens and with them its segments
  (`Template.templates_round_trip`).
-/

import TreeQuery.Proofs.Query.Compile
import TreeQuery.Proofs.Substitution.Template

namespace TreeQuery

/-! ## Tokens as they are written -/

namespace Template

theorem escape_append (s t : Text) : escape (s ++ t) = escape s ++ escape t :=
  List.flatMap_append

theorem escape_cons_of_ne {c : Char} (h : c ≠ '@') (rest : Text) :
    escape (c :: rest) = c :: escape rest := by
  rw [escape, List.flatMap_cons, if_neg h]
  rfl

/-- A text without `@` is written as it is. -/
theorem escape_eq_self {text : Text} (h : ∀ c ∈ text, c ≠ '@') : escape text = text := by
  induction text with
  | nil => rfl
  | cons c text ih =>
    rw [List.forall_mem_cons] at h
    rw [escape_cons_of_ne h.1, ih h.2]

end Template

namespace TemplateToken

/-- A token as it is written in a template. -/
def print : TemplateToken → Text
  | .char c => Template.escape [c]
  | .reference run => '@' :: run

/-- What is written begins as the text did from which the tokens were read. -/
theorem head?_print {text : Text} {tokens : List TemplateToken} (h : Reads text tokens) :
    (tokens.flatMap print).head? = text.head? := by
  cases h with
  | nil => rfl
  | doubled _ => rfl
  | reference _ _ _ _ => rfl
  | lone _ _ => rfl
  | other hc _ => rw [List.flatMap_cons, print, Template.escape_cons_of_ne hc]; rfl

/-- Tokens that were read are read again from what they are written as. -/
theorem reads_print {text : Text} {tokens : List TemplateToken} (h : Reads text tokens) :
    Reads (tokens.flatMap print) tokens := by
  induction h with
  | nil => exact .nil
  | doubled _ ih => exact .doubled ih
  | @reference run rest tokens hne hrun hrest hreads ih =>
    -- What follows the run in the text still follows it, so the run is no longer than it was.
    have hnext : ∀ c ∈ (tokens.flatMap print).head?, isNameChar c = false := by
      rw [head?_print hreads]
      exact hrest
    exact .reference hne hrun hnext ih
  | lone _ _ ih => exact .doubled ih
  | @other c rest tokens hc _ ih =>
    rw [List.flatMap_cons, print, Template.escape_cons_of_ne hc]
    exact .other hc ih

/-- A text with every `@` doubled is read as its characters. -/
theorem reads_escape (text : Text) : Reads (Template.escape text) (text.map .char) := by
  induction text with
  | nil => exact .nil
  | cons c text ih =>
    by_cases hc : c = '@'
    · subst hc
      exact .doubled ih
    · rw [Template.escape_cons_of_ne hc]
      exact .other hc ih

/-- The runs of references have name characters only. -/
theorem isNameChar_of_mem_run {text : Text} {tokens : List TemplateToken} (h : Reads text tokens)
    {run : Text} (hrun : .reference run ∈ tokens) : ∀ c ∈ run, isNameChar c = true := by
  obtain ⟨earlier, later, rfl⟩ := List.append_of_mem hrun
  obtain ⟨-, -, -, -, -, -, hchars, -⟩ := h.exists_split
  exact hchars

end TemplateToken

/-! ## Segments as they are written -/

namespace Template

/-- A character or a placeholder as it is written. -/
def printAtom : Char ⊕ String → Text
  | .inl c => escape [c]
  | .inr name => '@' :: name.toList

theorem flatMap_printAtom_inl (text : Text) : (text.map .inl).flatMap printAtom = escape text := by
  induction text with
  | nil => rfl
  | cons c text ih =>
    rw [List.map_cons, List.flatMap_cons, ih, ← List.singleton_append, escape_append]
    rfl

theorem printSegment_eq (s : Segment) : printSegment s = s.atoms.flatMap printAtom := by
  cases s with
  | literal text => exact (flatMap_printAtom_inl text).symm
  | placeholder name => exact (List.append_nil _).symm

theorem print_eq (segments : List Segment) :
    print segments = (segments.flatMap Segment.atoms).flatMap printAtom := by
  rw [print, List.flatMap_assoc, funext printSegment_eq]

/-- What the tokens become is written as they are. -/
theorem print_of_resolves {names : List String} {tokens : List TemplateToken}
    {parts : List (List (Char ⊕ String))} (h : tokens.Forall₂ (Resolves names) parts)
    (hruns : ∀ run, .reference run ∈ tokens → ∀ c ∈ run, isNameChar c = true) :
    parts.flatten.flatMap printAtom = tokens.flatMap TemplateToken.print := by
  refine flatMap_of_resolves h (fun _ => rfl) fun name rest hrun => ?_
  -- The rest of the run has name characters only, and so no `@` to double.
  have hrest : ∀ c ∈ rest, c ≠ '@' := by
    rintro c hc rfl
    have hname := hruns _ hrun '@' (List.mem_append_right _ hc)
    exact absurd hname (by simp [isNameChar_sigil])
  rw [flatMap_printAtom_inl, escape_eq_self hrest]
  rfl

/-- A template that was read is written as its tokens are. -/
theorem print_of_parse {text : Text} {q : Query} {t : Template} (h : parse text q = .ok t) :
    print t.segments = (TemplateToken.ofText text).flatMap TemplateToken.print := by
  obtain ⟨-, hresolve⟩ := parse_eq_ok_iff.mp h
  obtain ⟨parts, hparts, hsegments⟩ := resolve_eq_ok_iff.mp hresolve
  have hreads := TemplateToken.reads_ofText text
  rw [print_eq, hsegments, atoms_ofAtoms]
  exact print_of_resolves hparts fun run hrun => TemplateToken.isNameChar_of_mem_run hreads hrun

/-- The writing of a template that was read is split into the tokens of the template. -/
theorem ofText_print {text : Text} {q : Query} {t : Template} (h : parse text q = .ok t) :
    TemplateToken.ofText (print t.segments) = TemplateToken.ofText text := by
  rw [print_of_parse h]
  have hreads := TemplateToken.reads_print (TemplateToken.reads_ofText text)
  exact (TemplateToken.reads_iff.mp hreads).symm

/-! ## Escaped texts -/

/-- Characters alone resolve to one literal, or to nothing when there are none. -/
theorem resolve_chars (names : List String) (text : Text) :
    resolve names (text.map .char) = .ok (consLiteral text []) := by
  induction text with
  | nil => rfl
  | cons c text ih =>
    rw [List.map_cons, resolve, ih]
    exact congrArg Except.ok (consLiteral_append [c] text []).symm

theorem renderSegment_consLiteral (m : Match) (source text : Text) :
    (consLiteral text []).flatMap (renderSegment m source) = text := by
  cases text with
  | nil => rfl
  | cons c text => exact List.append_nil _

/-- Escaped, a text is a template of every query, and renders to itself. -/
theorem parse_escape (q : Query) (s : Text) :
    parse (escape s) q = .ok ⟨escape s, consLiteral s []⟩ := by
  rw [parse_eq_ok_iff, ← TemplateToken.reads_iff.mp (TemplateToken.reads_escape s)]
  exact ⟨rfl, resolve_chars q.captures s⟩

/-! ## Round trips -/

/-- Escaping and writing are undone by reading. A text with every `@` doubled is a template of
every query, which renders to the text whatever the match and the source are. And a template
that was read can be read again from what its segments are written as, with the same
segments. -/
theorem templates_round_trip (q : Query) :
    (∀ s, ∃ t, parse (escape s) q = .ok t ∧ ∀ m source, t.render m source = s) ∧
      ∀ text t, parse text q = .ok t →
        ∃ t', parse (print t.segments) q = .ok t' ∧ t'.segments = t.segments := by
  constructor
  · intro s
    exact ⟨_, parse_escape q s, fun m source => renderSegment_consLiteral m source s⟩
  · intro text t h
    have hresolve := (parse_eq_ok_iff.mp h).2
    rw [← ofText_print h] at hresolve
    exact ⟨⟨print t.segments, t.segments⟩, parse_eq_ok_iff.mpr ⟨rfl, hresolve⟩, rfl⟩

/-- A run that is longer than its capture, a doubled `@` and a lone one: the lone one is written
doubled, and the segments read from the writing are the same. -/
theorem templates_round_trip_extendedName :
    ∃ q t, Query.compile .python "(pair (string) @a (integer) @a.b)".toList .builtins = .ok q ∧
      q.captures = ["a", "a.b"] ∧ parse "@a.b-@@x @ @a!".toList q = .ok t ∧
      t.segments = [.placeholder "a.b", .literal "-@x @ ".toList, .placeholder "a",
        .literal "!".toList] ∧
      print t.segments = "@a.b-@@x @@ @a!".toList ∧
      (∃ t', parse "@a.b-@@x @@ @a!".toList q = .ok t' ∧ t'.segments = t.segments) ∧
      ∃ t', parse "a@@@@b".toList q = .ok t' ∧ ∀ m source, t'.render m source = "a@@b".toList := by
  have hcompile : (Query.compile .python "(pair (string) @a (integer) @a.b)".toList
      .builtins).toOption.any (fun q => q.captures = ["a", "a.b"]) = true := by
    decide +kernel
  obtain ⟨q, hq, hcaptures⟩ := Query.exists_compile_of_any hcompile
  have hcaptures : q.captures = ["a", "a.b"] := of_decide_eq_true hcaptures
  have hparse : parse "@a.b-@@x @ @a!".toList q = .ok ⟨"@a.b-@@x @ @a!".toList,
      [.placeholder "a.b", .literal "-@x @ ".toList, .placeholder "a", .literal "!".toList]⟩ := by
    rw [parse, hcaptures]
    decide +kernel
  obtain ⟨hescape, hprint⟩ := templates_round_trip q
  exact ⟨q, _, hq, hcaptures, hparse, rfl, rfl, hprint _ _ hparse, hescape "a@@b".toList⟩

end Template
end TreeQuery
