/-
  TreeQuery.Query.TextFilter

  The pattern language's own clauses: comparisons of node texts under plain names.
  They filter matches during the search, always read the parsed source, and never
  reach a registry; three more names only carry notes for tools and filter nothing.

  `any-` names hold when one node agrees, plain ones when all do; `not-` names turn
  round what agreement means.
-/

import TreeQuery.Search.Run
import TreeQuery.Regex.Reader

namespace TreeQuery

/-- A condition on the texts of a match. -/
inductive TextFilter where
  /-- The nodes of two captures, pair by pair. -/
  | sameAs (left right : Nat) (wanted all : Bool)
  | equals (capture : Nat) (text : Text) (wanted all : Bool)
  | contains (capture : Nat) (expr : Regex.Expr) (wanted all : Bool)
  | isOneOf (capture : Nat) (texts : List Text) (wanted : Bool)
  deriving Repr

/-- What is wrong with a clause of the pattern language. -/
inductive FilterFault where
  /-- The wrong number of arguments for a comparison named `name`. -/
  | wrongCount (name : String) (got : Nat)
  | firstNotCapture (name : String) (literal : Text)
  | secondNotLiteral (capture : String)
  | badExpression (text : Text)
  | tooFewChoices
  | choiceNotLiteral (capture : String)
  | wrongNoteCount (name : String) (got : Nat)
  | secondNoteCapture (name capture : String)
  | thirdNoteText (name : String) (text : Text)
  | noNoteKey (name : String)
  deriving DecidableEq, Repr

def FilterFault.message : FilterFault → Text
  | wrongCount name got =>
    ("Wrong number of arguments to #" ++ name ++ " predicate. Expected 2, got " ++ toString got ++
      ".").toList
  | firstNotCapture name literal =>
    ("First argument to #" ++ name ++ " predicate must be a capture name. Got literal \"").toList
      ++ literal ++ ['"', '.']
  | secondNotLiteral capture =>
    ("Second argument to #match? predicate must be a literal. Got capture @" ++ capture ++
      ".").toList
  | badExpression text => "Invalid regex '".toList ++ text ++ ['\'']
  | tooFewChoices =>
    "Wrong number of arguments to #any-of? predicate. Expected at least 1, got 0.".toList
  | choiceNotLiteral capture =>
    ("Arguments to #any-of? predicate must be literals. Got capture @" ++ capture ++ ".").toList
  | wrongNoteCount name got =>
    ("Wrong number of arguments to " ++ name ++ " predicate. Expected 1 to 3, got " ++
      toString got ++ ".").toList
  | secondNoteCapture name capture =>
    ("Invalid arguments to " ++ name ++ " predicate. Unexpected second capture name @" ++
      capture).toList
  | thirdNoteText name text =>
    ("Invalid arguments to " ++ name ++ " predicate. Unexpected third argument @").toList ++ text
  | noNoteKey name =>
    ("Invalid arguments to " ++ name ++ " predicate. Missing key argument").toList

namespace TextFilter

/-! ## Holding -/

/-- Goes through verdicts and looks for one that decides: a disagreement if all must agree, an
agreement if one is enough. -/
def decides (wanted all : Bool) (verdicts : List Bool) : Option Bool :=
  verdicts.findSome? fun v =>
    if (v == wanted) != all then some (v == wanted) else none

/-- Whether a match of the search passes the filter. -/
def holds (source : Text) (m : RawMatch) (f : TextFilter) : Bool :=
  let texts := fun (index : Nat) =>
    (m.captures.filter (·.1 == index)).map fun (_, n) => n.textIn source
  match f with
  | sameAs left right wanted all =>
    let left := texts left
    let right := texts right
    (decides wanted all (List.zipWith (· == ·) left right)).getD (left.length == right.length)
  | equals capture text wanted all =>
    (decides wanted all ((texts capture).map (· == text))).getD true
  | contains capture expr wanted all =>
    (decides wanted all ((texts capture).map expr.isIn)).getD true
  | isOneOf capture choices wanted => (texts capture).all fun t => choices.contains t == wanted

/-! ## Clauses -/

/-- The text of an argument that is no capture. -/
def literal? : ClauseArgument → Option Text
  | .capture _ => none
  | .literal text => some text

/-- A comparison of texts. -/
def comparison (names : List String) (wanted all : Bool) :
    List ClauseArgument → Except FilterFault TextFilter
  | [.literal text, _] => .error (.firstNotCapture "eq?" text)
  | [.capture left, .capture right] =>
    .ok (.sameAs (names.idxOf left) (names.idxOf right) wanted all)
  | [.capture capture, .literal text] => .ok (.equals (names.idxOf capture) text wanted all)
  | arguments => .error (.wrongCount "eq?" arguments.length)

/-- A search for an expression. -/
def expression (names : List String) (wanted all : Bool) :
    List ClauseArgument → Except FilterFault TextFilter
  | [.literal text, _] => .error (.firstNotCapture "match?" text)
  | [.capture _, .capture right] => .error (.secondNotLiteral right)
  | [.capture capture, .literal text] =>
    match Regex.read? .raw text with
    | none => .error (.badExpression text)
    | some expr => .ok (.contains (names.idxOf capture) expr wanted all)
  | arguments => .error (.wrongCount "match?" arguments.length)

/-- A choice of texts. -/
def choices (names : List String) (wanted : Bool) :
    List ClauseArgument → Except FilterFault TextFilter
  | [] => .error .tooFewChoices
  | .literal text :: _ => .error (.firstNotCapture "any-of?" text)
  | .capture capture :: rest => do
    let texts ← rest.mapM fun
      | .literal text => .ok text
      | .capture c => .error (FilterFault.choiceNotLiteral c)
    return .isOneOf (names.idxOf capture) texts wanted

/-- Checks the arguments of a note: at most one capture and at most two texts, of which the
first is the key. -/
def checkNote (name : String) (hasCapture : Bool) (texts : Nat) :
    List ClauseArgument → Except FilterFault Unit
  | [] => if texts = 0 then .error (.noNoteKey name) else .ok ()
  | .capture c :: rest =>
    if hasCapture then .error (.secondNoteCapture name c) else checkNote name true texts rest
  | .literal text :: rest =>
    if texts ≥ 2 then .error (.thirdNoteText name text)
    else checkNote name hasCapture (texts + 1) rest

/-- What a clause is to the pattern language. -/
inductive Reading where
  | filter (f : TextFilter)
  /-- A note, which filters nothing. -/
  | note
  /-- A name that it does not know. -/
  | other
  deriving Repr

/-- Reads a clause of a text whose captures are `names`. -/
def ofClause (names : List String) (c : Clause) : Except FilterFault Reading :=
  match c.name with
  | "eq?" => (comparison names true true c.arguments).map .filter
  | "not-eq?" => (comparison names false true c.arguments).map .filter
  | "any-eq?" => (comparison names true false c.arguments).map .filter
  | "any-not-eq?" => (comparison names false false c.arguments).map .filter
  | "match?" => (expression names true true c.arguments).map .filter
  | "not-match?" => (expression names false true c.arguments).map .filter
  | "any-match?" => (expression names true false c.arguments).map .filter
  | "any-not-match?" => (expression names false false c.arguments).map .filter
  | "any-of?" => (choices names true c.arguments).map .filter
  | "not-any-of?" => (choices names false c.arguments).map .filter
  | "set!" | "is?" | "is-not?" =>
    if c.arguments.length = 0 ∨ c.arguments.length > 3 then
      .error (.wrongNoteCount c.name c.arguments.length)
    else (checkNote c.name false 0 c.arguments).map fun _ => .note
  | _ => .ok .other

end TextFilter
end TreeQuery
