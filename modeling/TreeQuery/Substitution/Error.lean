/-
  TreeQuery.Substitution.Error

  Why a substitution fails.
-/

import TreeQuery.Match.Basic
import TreeQuery.Language.Basic

namespace TreeQuery

/-- Why a source cannot be parsed. -/
inductive ParseError where
  /-- The parser of a language cannot be made ready. -/
  | parserInit (language : Language) (reason : String)
  /-- The parser answered no tree. -/
  | noTree (language : Language)
  deriving DecidableEq, Repr

def ParseError.message : ParseError → String
  | parserInit language reason =>
    "failed to initialise parser for " ++ language.name ++ ": " ++ reason
  | noTree language =>
    "failed to parse " ++ language.name ++ " source: parser produced no tree"

/-- Why a substitution fails. -/
inductive SubstitutionError where
  | parsing (error : ParseError)
  /-- The query is for another language than the source. -/
  | languageMismatch (query parser : Language)
  /-- A pattern does not bind the anchor. -/
  | missingAnchor (pattern : Nat) (anchor : String)
  /-- The anchor of a match overlaps one before it. -/
  | overlap (span previous : Span)
  /-- The template refers to something that is no capture. -/
  | unknownPlaceholder (name : Text)
  /-- A replaced span does not lie between characters of the source. -/
  | invalidSpan (span : Span)
  deriving DecidableEq, Repr

/-- A span in messages. -/
def Span.display (s : Span) : String := Record.range s.start s.stop

def SubstitutionError.message : SubstitutionError → String
  | parsing error => error.message
  | languageMismatch query parser =>
    "query targets " ++ query.name ++ " but the parser targets " ++ parser.name
  | missingAnchor pattern anchor =>
    "pattern " ++ toString pattern ++ " does not bind the anchor capture @" ++ anchor
  | overlap span previous =>
    "match at bytes " ++ span.display ++ " overlaps the replacement at bytes " ++
      previous.display
  | unknownPlaceholder name =>
    "template references undefined capture @" ++ String.ofList name
  | invalidSpan span => "replacement range " ++ span.display ++ " is not on a UTF-8 boundary"

end TreeQuery
