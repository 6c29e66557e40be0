/-
  TreeQuery.Pattern.Feasible

  Patterns that no tree can match, as far as the vocabulary tells. A node test with
  tests below it is followed through its children: from the first child's step to a
  step that is no child any more, along steps that the vocabulary admits under such a
  parent. When there is no way through, the pattern is refused at the item where the
  ways end; a kind of token leads nowhere at its first child.
-/

import TreeQuery.Language.Vocabulary
import TreeQuery.Pattern.Program
import TreeQuery.Tree.Basic

namespace TreeQuery
namespace Program

/-- The offset of the item that starts at step `i`. -/
def origin? (p : Program) (i : Nat) : Option Nat :=
  (p.origins.find? (·.1 == i)).map (·.2)

/-- Whether the vocabulary admits the node of step `s` under a node of kind `parent`. -/
def admitsChild (v : Vocabulary) (parent : String) (s : Step) : Bool :=
  match s.test.symbol with
  | .kind name true => v.admits parent s.field name
  | _ => true

/-- The next step after `i` and all steps below it. -/
def afterBelow (p : Program) (i depth : Nat) : Nat :=
  i + 1 + ((p.steps.toList.drop (i + 1)).takeWhile fun s => s.depth.any (depth < ·)).length

/-- Follows the children of a parent of the given kind and depth from the steps in `todo`;
answers `none` when a way leads past them, and otherwise the last step on any way. -/
def followChildren (v : Vocabulary) (p : Program) (parent : String) (depth : Nat)
    (seen : List Nat) (furthest : Nat) : List Nat → Nat → Option Nat
  | [], _ => some furthest
  | _, 0 => none
  | i :: todo, fuel + 1 =>
    if seen.contains i then p.followChildren v parent depth seen furthest todo fuel
    else
      let seen := i :: seen
      match p.steps[i]? with
      | none => none
      | some s =>
        if !s.depth.any (depth < ·) then none
        else
          let branch := s.alternative.toList
          if s.deadEnd then p.followChildren v parent depth seen furthest (branch ++ todo) fuel
          else if s.passThrough then
            p.followChildren v parent depth seen furthest ((i + 1) :: branch ++ todo) fuel
          else
            let furthest := max furthest i
            let onward := if admitsChild v parent s then [p.afterBelow i (depth + 1)] else []
            p.followChildren v parent depth seen furthest (onward ++ branch ++ todo) fuel

/-- The offset at which the children of step `i` turn out to be impossible. -/
def impossibleChild? (v : Vocabulary) (p : Program) (i : Nat) : Option Nat :=
  match p.steps[i]? with
  | some s =>
    match s.test.symbol, s.depth with
    | .kind name _, some depth =>
      if !p.hasStepBelow i || name == errorKind then none
      else if v.childless.contains name then p.origin? (i + 1)
      else
        (p.followChildren v name depth [] (i + 1) [i + 1] (3 * p.size + 3)).bind p.origin?
    | _, _ => none
  | none => none

/-- The offset of the first item that makes the program impossible. -/
def impossibleAt? (v : Vocabulary) (p : Program) : Option Nat :=
  (List.range p.size).findSome? (p.impossibleChild? v)

end Program
end TreeQuery
