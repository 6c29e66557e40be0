/-
  TreeQuery.Predicate.Basic

  Predicates of clauses. A predicate says which arguments a clause may have (its
  signature) and binds the arguments to a check; a check answers yes or no for every
  match and every text. Predicates of callers are given as such pairs, so there is
  no end to their number.

  `Signature.admits` is the condition under which a clause reaches the binding.
-/

import TreeQuery.Match.Basic
import TreeQuery.Text.Quoted

namespace TreeQuery

/-- A capture of a query, by number and name. -/
structure CaptureRef where
  index : Nat
  name : String
  deriving DecidableEq, Repr, Inhabited

/-- An argument of a predicate. -/
inductive Argument where
  | capture (ref : CaptureRef)
  | literal (text : Text)
  deriving DecidableEq, Repr, Inhabited

namespace Argument

def capture? : Argument → Option CaptureRef
  | capture ref => some ref
  | literal _ => none

def literal? : Argument → Option Text
  | capture _ => none
  | literal text => some text

/-- The argument as it can be written in a clause. -/
def display : Argument → String
  | capture ref => "@" ++ ref.name
  | literal text => text.quoted

end Argument

/-- Which kinds of argument a clause may have. -/
inductive ArgumentRule where
  | capturesOnly
  | atLeastOneCapture
  | oneCaptureOneLiteral
  | any
  deriving DecidableEq, Repr

namespace ArgumentRule

/-- Whether arguments with so many captures and literals obey the rule. -/
def allows (rule : ArgumentRule) (captures literals : Nat) : Bool :=
  match rule with
  | capturesOnly => literals == 0
  | atLeastOneCapture => captures != 0
  | oneCaptureOneLiteral => captures == 1 && literals == 1
  | any => true

/-- What is said of arguments that break the rule. -/
def complaint : ArgumentRule → String
  | capturesOnly => "accepts capture arguments only"
  | atLeastOneCapture => "requires at least one capture argument"
  | oneCaptureOneLiteral => "requires one capture and one string literal"
  | any => ""

end ArgumentRule

/-- How many arguments a clause may have, and of which kinds. -/
structure Signature where
  min : Nat
  max : Option Nat
  rule : ArgumentRule
  deriving DecidableEq, Repr

namespace Signature

def exactly (count : Nat) (rule : ArgumentRule) : Signature := ⟨count, some count, rule⟩

def atLeast (count : Nat) (rule : ArgumentRule) : Signature := ⟨count, none, rule⟩

/-- Whether a clause may have `count` arguments. -/
def admitsCount (s : Signature) (count : Nat) : Bool := s.min ≤ count && s.max.all (count ≤ ·)

/-- Whether the kinds of the arguments obey the rule. -/
def admitsKinds (s : Signature) (arguments : List Argument) : Bool :=
  let captures := (arguments.filter (·.capture?.isSome)).length
  s.rule.allows captures (arguments.length - captures)

/-- Whether a clause may have these arguments. -/
def admits (s : Signature) (arguments : List Argument) : Bool :=
  s.admitsCount arguments.length && s.admitsKinds arguments

/-- The admitted counts in words. -/
def describeCount (s : Signature) : String :=
  match s.max with
  | some max =>
    if max = s.min then "exactly " ++ toString max
    else "between " ++ toString s.min ++ " and " ++ toString max
  | none => "at least " ++ toString s.min

end Signature

/-! ## Checks -/

/-- What a check can see: a match and the text that nodes are read from. -/
structure Context where
  found : Match
  source : Text

namespace Context

/-- The nodes that the match binds to a capture. -/
def nodes (c : Context) (ref : CaptureRef) : List Node := c.found.nodesAt ref.index

/-- The texts of the nodes that the match binds to a capture. -/
def texts (c : Context) (ref : CaptureRef) : List Text := (c.nodes ref).map (·.textIn c.source)

end Context

/-- An answer for every match and text. -/
abbrev Check := Context → Bool

/-- Why arguments cannot be bound. -/
inductive BindFault where
  | wrongCount (expected got : Nat)
  | notCapture (argument : Argument)
  | noCapture
  | noExpression
  | badExpression (text : Text) (reason : String)
  /-- A reason of the predicate's own. -/
  | refused (reason : String)
  deriving DecidableEq, Repr

def BindFault.message : BindFault → String
  | wrongCount expected got =>
    "expected " ++ toString expected ++ " arguments, got " ++ toString got
  | notCapture argument => "expected a capture, got " ++ argument.display
  | noCapture => "missing capture argument"
  | noExpression => "missing regular expression argument"
  | badExpression text reason => "invalid regular expression " ++ text.quoted ++ ": " ++ reason
  | refused reason => reason

/-- A predicate: what it admits, and how it binds admitted arguments. -/
structure Predicate where
  signature : Signature
  bind : List Argument → Except BindFault Check

/-! ## Clauses -/

/-- A clause that has been resolved: its name, its arguments and the check they are bound to. -/
structure Invocation where
  name : String
  arguments : List Argument
  check : Check

/-- Why a clause cannot be resolved. -/
inductive ClauseFault where
  | unknown (name : String)
  | arity (name : String) (signature : Signature) (got : Nat)
  | kinds (name : String) (rule : ArgumentRule)
  | binding (name : String) (fault : BindFault)
  deriving DecidableEq, Repr

def ClauseFault.message : ClauseFault → String
  | unknown name => "unknown predicate #" ++ name
  | arity name signature got =>
    "#" ++ name ++ " expects " ++ signature.describeCount ++ " arguments, got " ++ toString got
  | kinds name rule => "#" ++ name ++ " " ++ rule.complaint
  | binding name fault => "#" ++ name ++ ": " ++ fault.message

/-- Resolves a clause of a known predicate: first the number of arguments, then their kinds,
then the binding. -/
def Predicate.resolve (p : Predicate) (name : String) (arguments : List Argument) :
    Except ClauseFault Invocation :=
  if !p.signature.admitsCount arguments.length then
    .error (.arity name p.signature arguments.length)
  else if !p.signature.admitsKinds arguments then
    .error (.kinds name p.signature.rule)
  else
    match p.bind arguments with
    | .error fault => .error (.binding name fault)
    | .ok check => .ok ⟨name, arguments, check⟩

end TreeQuery
