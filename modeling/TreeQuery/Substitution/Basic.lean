/-
  TreeQuery.Substitution.Basic

  Substitutions in sources. A substitution runs its query over a parsed source; for every
  accepted match it replaces the span of the anchor, which is the first node bound to
  the anchor's name, by the template filled in for the match. Spans must not overlap.
  All replacements are put into the source at once, from left to right.

  * `Substitution.new` puts query and template together.
  * `Substitution.run` makes the replacements in a parsed source.
-/

import TreeQuery.Config.Basic
import TreeQuery.Substitution.Error
import TreeQuery.Substitution.Template

namespace TreeQuery

/-- A query whose matches are replaced by a template. -/
structure Substitution where
  query : Query
  template : Template
  /-- The capture whose span is replaced. -/
  anchor : String

/-- A span of the source and what is put in its place. -/
structure Replacement where
  span : Span
  text : Text
  deriving DecidableEq, Repr

/-- A source with its replacements made. -/
structure Substituted where
  output : Text
  replacements : Nat
  deriving DecidableEq, Repr

/-- Whether any span was replaced. -/
def Substituted.hasChanges (r : Substituted) : Bool := r.replacements > 0

/-- Whether two spans share a byte, hold each other's empty place inside, or are the same. -/
def Span.overlaps (a b : Span) : Bool := (a.start < b.stop && b.start < a.stop) || a == b

namespace Substitution

/-- A substitution in sources that a parser for `parser` reads. -/
def new (parser : Language) (query : Query) (template : Text) :
    Except SubstitutionError Substitution :=
  if query.language ≠ parser then .error (.languageMismatch query.language parser)
  else
    match Template.parse template query with
    | .error name => .error (.unknownPlaceholder name)
    | .ok template => .ok ⟨query, template, Config.defaults.anchor⟩

/-- The substitution with another anchor; one `@` before its name does not count. -/
def withAnchor (s : Substitution) (name : String) : Substitution :=
  { s with anchor := withoutSigil name }

/-- The substitution with the anchor of a configuration. -/
def withConfig (s : Substitution) (c : Config) : Substitution := s.withAnchor c.anchor

/-- Refuses the first pattern that cannot bind the anchor. -/
def checkPatterns (s : Substitution) : Except SubstitutionError Unit :=
  match s.query.patterns.find? (!·.binds s.anchor) with
  | some p => .error (.missingAnchor p.index s.anchor)
  | none => .ok ()

/-- The replacements of matches, when those of `made` have been made already: match after
match, and none may overlap one before it. -/
def collect (s : Substitution) (source : Text) (made : List Replacement) :
    List Match → Except SubstitutionError (List Replacement)
  | [] => .ok made
  | m :: ms =>
    match m.capture? s.anchor with
    | none => .error (.missingAnchor m.pattern s.anchor)
    | some anchor =>
      match made.find? (·.span.overlaps anchor.span) with
      | some previous => .error (.overlap anchor.span previous.span)
      | none => collect s source (made ++ [⟨anchor.span, s.template.render m source⟩]) ms

/-- The source from `position` on, with replacements made that are in order of start. -/
def spliceFrom (source : Text) (position : Nat) : List Replacement → Except SubstitutionError Text
  | [] =>
    match source.slice? position source.size with
    | some rest => .ok rest
    | none => .error (.invalidSpan ⟨position, source.size⟩)
  | r :: rs =>
    -- There is no slice back from `position`, so a span that starts before it is refused.
    match source.slice? position r.span.start with
    | none => .error (.invalidSpan r.span)
    | some kept =>
      if source.isBoundary r.span.stop then do
        return kept ++ r.text ++ (← spliceFrom source r.span.stop rs)
      else .error (.invalidSpan r.span)

/-- The source with replacements made. -/
def splice (source : Text) (replacements : List Replacement) : Except SubstitutionError Text :=
  spliceFrom source 0 (replacements.mergeSort fun a b => a.span.start ≤ b.span.start)

/-- The matches of the query in a parsed source. -/
def found (s : Substitution) (tree : SyntaxTree) : List Match :=
  s.query.matches tree.rootNode (some ⟨tree.source⟩)

/-- Makes all replacements in a parsed source. -/
def run (s : Substitution) (tree : SyntaxTree) : Except SubstitutionError Substituted := do
  s.checkPatterns
  let replacements ← s.collect tree.source [] (s.found tree)
  let output ← splice tree.source replacements
  return ⟨output, replacements.length⟩

end Substitution
end TreeQuery
