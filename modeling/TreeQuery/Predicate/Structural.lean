/-
  TreeQuery.Predicate.Structural

  Predicates over the nodes around a capture: any test of the captured nodes, and
  blocks between two marker tokens.

  A node is inside a block when, of the markers among the tokens before it, the last
  one opens a block. The tokens before a node are those of the subtrees that hang to
  the left of its trail; the search goes from the nearest to the farthest and stops
  at the first marker.
-/

import TreeQuery.Predicate.Basic

namespace TreeQuery

/-- The captures among arguments; a literal is refused. -/
def captureArguments : List Argument → Except BindFault (List CaptureRef)
  | [] => .ok []
  | .capture ref :: rest => (captureArguments rest).map (ref :: ·)
  | argument :: _ => .error (.notCapture argument)

/-- The nodes of several captures, capture after capture. -/
def Context.allNodes (c : Context) (refs : List CaptureRef) : List Node := refs.flatMap c.nodes

/-- A predicate that tests the captured nodes, of which there must be one. -/
def Predicate.structural (test : List Node → Bool) : Predicate where
  signature := .atLeast 1 .capturesOnly
  bind arguments := (captureArguments arguments).map fun refs c =>
    let nodes := c.allNodes refs
    !nodes.isEmpty && test nodes

/-! ## Blocks between markers -/

/-- The texts of the tokens that open and close a block. -/
structure EnclosingBlock where
  opening : Text
  closing : Text
  deriving DecidableEq, Repr

/-- What a token says of blocks. -/
inductive Marker where
  | opens
  | closes
  deriving DecidableEq, Repr

namespace EnclosingBlock

/-- The block of a message map. -/
def messageMap : EnclosingBlock := ⟨"BEGIN_MESSAGE_MAP".toList, "END_MESSAGE_MAP".toList⟩

/-- The marker that a text is; the opening wins when both are the same text. -/
def marker? (b : EnclosingBlock) (text : Text) : Option Marker :=
  if text = b.opening then some .opens
  else if text = b.closing then some .closes
  else none

mutual
/-- The last marker among the tokens of a tree. -/
def lastMarker? (b : EnclosingBlock) (source : Text) : Tree → Option Marker
  | .node l [] => b.marker? (source.slice l.start l.stop)
  | .node _ (c :: cs) => lastMarkerOfList? b source (c :: cs)

/-- The last marker among the tokens of several trees. -/
def lastMarkerOfList? (b : EnclosingBlock) (source : Text) : List Tree → Option Marker
  | [] => none
  | t :: ts => (lastMarkerOfList? b source ts).or (lastMarker? b source t)
end

/-- The last marker among the tokens before a place, by the trail that leads to it. -/
def markerBefore? (b : EnclosingBlock) (source : Text) (trail : List Crumb) : Option Marker :=
  trail.findSome? fun c => c.before.findSome? (b.lastMarker? source)

/-- Whether a node is inside a block, with tokens read from `source`. -/
def encloses (b : EnclosingBlock) (n : Node) (source : Text) : Bool :=
  b.markerBefore? source n.trail == some .opens

/-- The predicate that all captured nodes, of which there must be one, are inside a block. -/
def predicate (b : EnclosingBlock) : Predicate where
  signature := .atLeast 1 .capturesOnly
  bind arguments := (captureArguments arguments).map fun refs c =>
    let nodes := c.allNodes refs
    !nodes.isEmpty && nodes.all (b.encloses · c.source)

end EnclosingBlock
end TreeQuery
