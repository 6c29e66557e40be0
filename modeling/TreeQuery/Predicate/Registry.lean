/-
  TreeQuery.Predicate.Registry

  Registries of predicates. A name is an identifier that ends in `?` or `!`; one `#`
  before it does not count. Each name is registered once and keeps its predicate;
  a registration that fails changes nothing.

  * `Registry.register` adds a predicate.
  * `Registry.resolve` resolves a clause by the predicate of its name.
-/

import TreeQuery.Predicate.Builtin
import TreeQuery.Predicate.Structural
import TreeQuery.Text.Letters

namespace TreeQuery

/-- What is wrong with the name of a predicate. -/
inductive NameFault where
  /-- It does not end in `?` or `!`. -/
  | noMark
  /-- It is no identifier. -/
  | notIdentifier
  deriving DecidableEq, Repr

def NameFault.message : NameFault → String
  | noMark => "predicate names end in '?' or '!'"
  | notIdentifier => "predicate names are identifiers"

/-- Why a predicate cannot be registered. -/
inductive RegistryError where
  | duplicate (name : String)
  | invalidName (name : String) (fault : NameFault)
  deriving DecidableEq, Repr

def RegistryError.message : RegistryError → String
  | duplicate name => "predicate '" ++ name ++ "' is already registered"
  | invalidName name fault => "invalid predicate name '" ++ name ++ "': " ++ fault.message

/-- Predicates by name, in order of registration. -/
structure Registry where
  entries : List (String × Predicate)

namespace Registry

/-! ## Names -/

/-- A name without the `#` before it, if there is one. -/
def bareName (name : String) : String :=
  match name.toList with
  | '#' :: rest => String.ofList rest
  | _ => name

/-- Whether a bare name ends in `?` or `!`. -/
def endsInMark (bare : String) : Bool :=
  match bare.toList.getLast? with
  | some c => c == '?' || c == '!'
  | none => false

/-- Whether a bare name is a letter or `_` followed by name characters. -/
def isIdentifier (bare : String) : Bool :=
  bare.toList.all isNameChar && bare.toList.head?.any fun c => isLetter c || c == '_'

/-- The bare name, if it is valid. -/
def validName (name : String) : Except RegistryError String :=
  let bare := bareName name
  if !endsInMark bare then .error (.invalidName name .noMark)
  else if !isIdentifier bare then .error (.invalidName name .notIdentifier)
  else .ok bare

/-! ## Contents -/

def empty : Registry := ⟨[]⟩

/-- The predicates that are always there, where bad expressions are explained by `explain`. -/
def builtinsWith (explain : Text → String) : Registry :=
  ⟨[("eq?", Predicate.eq), ("match?", Predicate.matchesExpr explain),
    ("in_message_map?", EnclosingBlock.messageMap.predicate)]⟩

/-- The predicates that are always there, with bad expressions left unexplained. -/
def builtins : Registry := builtinsWith fun _ => ""

/-- The predicate of a bare name. -/
def get? (r : Registry) (name : String) : Option Predicate :=
  (r.entries.find? (·.1 == name)).map (·.2)

def contains (r : Registry) (name : String) : Bool := r.entries.any (·.1 == name)

/-- The names in ascending order. -/
def names (r : Registry) : List String := (r.entries.map (·.1)).mergeSort (· ≤ ·)

def size (r : Registry) : Nat := r.entries.length

def isEmpty (r : Registry) : Bool := r.entries.isEmpty

/-- Adds a predicate under a name that is valid and not taken. -/
def register (r : Registry) (name : String) (p : Predicate) : Except RegistryError Registry :=
  match validName name with
  | .error e => .error e
  | .ok bare =>
    if r.contains bare then .error (.duplicate bare) else .ok ⟨r.entries ++ [(bare, p)]⟩

/-- Resolves a clause by the predicate of its name. -/
def resolve (r : Registry) (name : String) (arguments : List Argument) :
    Except ClauseFault Invocation :=
  match r.get? name with
  | none => .error (.unknown name)
  | some p => p.resolve name arguments

/-- The registry as a record of its names. -/
def describe (r : Registry) : String :=
  Record.fields "PredicateRegistry"
    [("names", Record.list (r.names.map fun name => Text.quoted name.toList))] false

end Registry
end TreeQuery
