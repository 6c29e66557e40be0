/-
  TreeQuery.Query.Basic

  Queries. A query is compiled from a text for one language: operators are marked,
  the text is read as patterns, patterns that no tree can match are refused, the
  pattern language's own clauses become text filters, and every other clause is
  resolved by a registry, pattern after pattern and clause after clause. The first
  error ends the compilation and points into the caller's text.

  * `Query.compile` is the whole compilation.
  * `Query.search` runs a query below a node and answers the raw matches.
-/

import TreeQuery.Language.Grammars
import TreeQuery.Pattern.Feasible
import TreeQuery.Predicate.Registry
import TreeQuery.Query.Error
import TreeQuery.Query.TextFilter

namespace TreeQuery

/-- A capture that a pattern can bind. -/
structure PatternCapture where
  index : Nat
  name : String
  quantity : Quantity
  deriving DecidableEq, Repr

/-- A compiled pattern of a query. -/
structure QueryPattern where
  index : Nat
  /-- Where the pattern starts in the caller's text. -/
  start : Nat
  /-- The captures that it can bind, in the order of the query's captures. -/
  captures : List PatternCapture
  /-- Its clauses, in the order of the text. -/
  predicates : List Invocation
  filters : List TextFilter
  program : Program

namespace QueryPattern

/-- How many nodes a match binds to a capture, if it can bind any; an `@` before the name does
not count. -/
def quantity? (p : QueryPattern) (name : String) : Option Quantity :=
  (p.captures.find? (·.name == withoutSigil name)).map (·.quantity)

/-- Whether a match can bind nodes to a capture. -/
def binds (p : QueryPattern) (name : String) : Bool := (p.quantity? name).isSome

end QueryPattern

/-- A compiled query. -/
structure Query where
  language : Language
  source : Text
  /-- Capture names in the order in which they first appear. -/
  captures : List String
  patterns : List QueryPattern

namespace Query

/-! ## Compilation -/

/-- The argument of a predicate for an argument in the text. -/
def convertArgument (names : List String) : ClauseArgument → Argument
  | .capture name => .capture ⟨names.idxOf name, name⟩
  | .literal text => .literal text

/-- The kind of error for a clause that cannot be resolved. -/
def faultKind : ClauseFault → QueryErrorKind
  | .unknown _ => .unknownPredicate
  | .arity .. => .predicateArity
  | .kinds .. => .predicateArgument
  | .binding .. => .predicateArgument

/-- Resolves the clauses of a pattern. Each takes the next site as its place, and the start of
the pattern when there is none left. -/
def resolveClauses (registry : Registry) (marked : Marked) (names : List String) (start : Nat) :
    List Nat → List Clause → Except QueryError (List Invocation)
  | _, [] => .ok []
  | sites, c :: clauses => do
    let name := String.ofList (Marked.unmark c.name.toList)
    match registry.resolve name (c.arguments.map (convertArgument names)) with
    | .error fault =>
      .error (marked.errorAt (faultKind fault) (sites.head?.getD start) fault.message)
    | .ok invocation =>
      return invocation :: (← resolveClauses registry marked names start sites.tail clauses)

/-- The text filters of clauses, and the clauses that are left for the registry. -/
def splitClauses (names : List String) :
    List Clause → Except FilterFault (List TextFilter × List Clause)
  | [] => .ok ([], [])
  | c :: clauses => do
    let reading ← TextFilter.ofClause names c
    let (filters, others) ← splitClauses names clauses
    match reading with
    | .filter f => return (f :: filters, others)
    | .note => return (filters, others)
    | .other => return (filters, c :: others)

/-- The captures that a pattern can bind. -/
def patternCaptures (names : List String) (item : Item) : List PatternCapture :=
  names.zipIdx.filterMap fun (name, index) =>
    let quantity := item.quantity name
    if quantity = .zero then none else some ⟨index, name, quantity⟩

/-- A pattern that has been read, with its program and its clauses in two parts. -/
structure Prepared where
  start : Nat
  item : Item
  program : Program
  filters : List TextFilter
  clauses : List Clause

/-- Splits the clauses of all patterns. -/
def prepare (marked : Marked) (names : List String) :
    List (Pattern × Program) → Except FilterFault (List Prepared)
  | [] => .ok []
  | (p, program) :: more => do
    let (filters, clauses) ← splitClauses names p.item.clauses
    let prepared ← prepare marked names more
    return ⟨marked.toBare p.start, p.item, program, filters, clauses⟩ :: prepared

/-- Resolves the clauses of all patterns from the `index`-th on. The sites of a pattern lie
between its start and the start of the next. -/
def compilePatterns (registry : Registry) (marked : Marked) (names : List String)
    (index : Nat) : List Prepared → Except QueryError (List QueryPattern)
  | [] => .ok []
  | p :: more => do
    let sites := marked.sites.filter fun site =>
      p.start ≤ site && more.head?.all (site < ·.start)
    let predicates ← resolveClauses registry marked names p.start sites p.clauses
    let patterns ← compilePatterns registry marked names (index + 1) more
    return ⟨index, p.start, patternCaptures names p.item, predicates, p.filters, p.program⟩ ::
      patterns

/-- The error of a clause of the pattern language; it points at the beginning of the text. -/
def filterError (fault : FilterFault) : QueryError :=
  ⟨.predicateArgument, 0, 0, 0, Marked.cleanText fault.message⟩

/-- Compiles a query text. -/
def compile (language : Language) (source : Text) (registry : Registry) :
    Except QueryError Query := do
  let vocabulary := language.vocabulary
  let marked := Marked.ofText source
  match Pattern.read vocabulary marked.text with
  | .error fault => .error (marked.ofFault fault)
  | .ok (patterns, names) =>
    let programs := patterns.map (Program.ofPattern names)
    match programs.findSome? (·.impossibleAt? vocabulary) with
    | some offset => .error (marked.ofFault ⟨.impossible, offset⟩)
    | none =>
      match prepare marked names (patterns.zip programs) with
      | .error fault => .error (filterError fault)
      | .ok prepared =>
        let compiled ← compilePatterns registry marked names 0 prepared
        return ⟨language, source, names, compiled⟩

/-! ## Contents -/

/-- The number of a capture; an `@` before the name does not count. -/
def captureIndex? (q : Query) (name : String) : Option Nat :=
  q.captures.findIdx? (· == withoutSigil name)

/-- The name of the capture with a number. -/
def captureName? (q : Query) (index : Nat) : Option String := q.captures[index]?

/-- The pattern with a number. -/
def pattern? (q : Query) (index : Nat) : Option QueryPattern := q.patterns[index]?

/-! ## Search -/

/-- The raw matches below a node that pass the text filters, in the order they are found. -/
def search (q : Query) (window : Window) (n : Node) : List RawMatch :=
  let programs := (q.patterns.map (·.program)).toArray
  let filters := (q.patterns.map (·.filters)).toArray
  ((Search.ofPrograms programs window).run n).filter fun m =>
    (filters[m.pattern]?.getD []).all (·.holds n.source m)

/-! ## Records -/

/-- The name of a quantity in records. -/
def quantityTitle : Quantity → String
  | .zero => "Zero"
  | .zeroOrOne => "ZeroOrOne"
  | .zeroOrMore => "ZeroOrMore"
  | .one => "One"
  | .oneOrMore => "OneOrMore"

def describeCapture (c : PatternCapture) : String :=
  Record.fields "PatternCapture"
    [("index", toString c.index), ("name", Text.quoted c.name.toList),
      ("quantifier", quantityTitle c.quantity)] false

def describeArgument : Argument → String
  | .capture ref =>
    Record.wrap "Capture" <|
      Record.fields "CaptureRef"
        [("index", toString ref.index), ("name", Text.quoted ref.name.toList)] false
  | .literal text => Record.wrap "Literal" text.quoted

def describeInvocation (i : Invocation) : String :=
  Record.fields "PredicateInvocation"
    [("name", Text.quoted i.name.toList),
      ("arguments", Record.list (i.arguments.map describeArgument))] true

def describePattern (p : QueryPattern) : String :=
  Record.fields "Pattern"
    [("index", toString p.index), ("start_byte", toString p.start),
      ("captures", Record.list (p.captures.map describeCapture)),
      ("predicates", Record.list (p.predicates.map describeInvocation))] false

/-- The query as a record. -/
def describe (q : Query) : String :=
  Record.fields "Query"
    [("language", q.language.title), ("source", q.source.quoted),
      ("captures", Record.list (q.captures.map fun name => Text.quoted name.toList)),
      ("patterns", Record.list (q.patterns.map describePattern))] true

end Query
end TreeQuery
