/-
  TreeQuery.Regex.Expr

  Regular expressions and what it means to find one in a text. The meaning is by
  ends: `Expr.ends e t i` are the places at which a match of `e` that begins at place
  `i` of `t` can end, and a text has a match when some place has an end. Places are
  between characters. A repetition is a closure over finitely many places, so it
  always comes to an end, whatever it repeats.
-/

import TreeQuery.Regex.CaseFold
import TreeQuery.Regex.Properties
import TreeQuery.Text.Basic

namespace TreeQuery.Regex

/-! ## Sets of characters -/

/-- A set of characters as an expression describes it. -/
inductive CharSet where
  | ranges (ranges : CharRanges)
  | complement (s : CharSet)
  | union (s t : CharSet)
  | inter (s t : CharSet)
  | diff (s t : CharSet)
  /-- The characters of exactly one of two sets. -/
  | symmDiff (s t : CharSet)
  /-- The characters that have a case variant in a set. -/
  | anyCase (s : CharSet)
  deriving Repr, Inhabited

namespace CharSet

/-- Whether a code point is in the set. -/
def has : CharSet → Nat → Bool
  | ranges r, c => r.any fun (lo, hi) => lo ≤ c && c ≤ hi
  | complement s, c => !s.has c
  | union s t, c => s.has c || t.has c
  | inter s t, c => s.has c && t.has c
  | diff s t, c => s.has c && !t.has c
  | symmDiff s t, c => s.has c != t.has c
  | anyCase s, c => s.has c || (caseVariants c).any s.has

def single (c : Char) : CharSet := ranges [(c.toNat, c.toNat)]

def empty : CharSet := ranges []

/-- About how many states it takes to tell the members from others by bytes, besides the first
and the last: all of ASCII goes into one, and each further range takes two. -/
def innerStates : CharSet → Nat
  | ranges r => 2 * r.countP fun (_, hi) => 128 ≤ hi
  | complement s => s.innerStates + 26
  | union s t => s.innerStates + t.innerStates
  | inter s t => max s.innerStates t.innerStates
  | diff s t => s.innerStates + t.innerStates
  | symmDiff s t => s.innerStates + t.innerStates
  | anyCase s => s.innerStates

/-- About how many states it takes to read a member byte by byte. -/
def states (s : CharSet) : Nat :=
  match s with
  | ranges [(lo, hi)] => if lo = hi then (Char.ofNat lo).utf8Size else s.innerStates + 2
  | s => s.innerStates + 2

end CharSet

/-- Decimal digits. -/
def digits : CharSet := .ranges category.nd

/-- Characters of words: letters, marks, decimal digits, connectors and joiners. -/
def wordSet : CharSet :=
  .ranges <| CharRanges.merge <|
    alphabeticRanges ++ inCategories ["m", "nd", "pc"] ++ [(0x200C, 0x200D)]

def isAsciiWord (c : Char) : Bool := c.isAlphanum || c == '_'

/-- Whether a character belongs to a word. -/
def isWord (c : Char) : Bool := if c.toNat < 128 then isAsciiWord c else wordSet.has c.toNat

/-! ## Expressions -/

/-- A condition on a place. -/
inductive Look where
  | textStart
  | textEnd
  | lineStart
  | lineEnd
  /-- Lines that may also end with a carriage return. -/
  | crlfStart
  | crlfEnd
  /-- A word boundary, of words in ASCII or in general. -/
  | word (ascii : Bool)
  | notWord (ascii : Bool)
  | wordStart (ascii : Bool)
  | wordEnd (ascii : Bool)
  /-- Half a boundary: no word before, or no word after. -/
  | wordStartHalf (ascii : Bool)
  | wordEndHalf (ascii : Bool)
  deriving DecidableEq, Repr

/-- A regular expression. -/
inductive Expr where
  | empty
  | set (s : CharSet)
  | look (l : Look)
  | cat (a b : Expr)
  | alt (a b : Expr)
  /-- At least `min` times, and at most `max` times if that is given. -/
  | repeated (e : Expr) (min : Nat) (max : Option Nat)
  deriving Repr, Inhabited

/-- Whether a word character stands at a place. -/
def wordAt (ascii : Bool) (t : Array Char) (i : Nat) : Bool :=
  t[i]?.any fun c => if ascii then isAsciiWord c else isWord c

/-- Whether a word character stands before a place. -/
def wordBefore (ascii : Bool) (t : Array Char) (i : Nat) : Bool :=
  match i with
  | 0 => false
  | i + 1 => wordAt ascii t i

/-- Whether a condition holds at place `i` of `t`. -/
def Look.holds (l : Look) (t : Array Char) (i : Nat) : Bool :=
  let before := match i with
    | 0 => none
    | i + 1 => t[i]?
  let after := t[i]?
  match l with
  | textStart => i == 0
  | textEnd => i == t.size
  | lineStart => before.all (· == '\n')
  | lineEnd => after.all (· == '\n')
  | crlfStart => before.all (· == '\n') || (before == some '\r' && after != some '\n')
  | crlfEnd => after.all (· == '\r') || (after == some '\n' && before != some '\r')
  | word ascii => wordBefore ascii t i != wordAt ascii t i
  | notWord ascii => wordBefore ascii t i == wordAt ascii t i
  | wordStart ascii => !wordBefore ascii t i && wordAt ascii t i
  | wordEnd ascii => wordBefore ascii t i && !wordAt ascii t i
  | wordStartHalf ascii => !wordBefore ascii t i
  | wordEndHalf ascii => !wordAt ascii t i

/-- All members of lists of places, each once. -/
def unionPlaces (places more : List Nat) : List Nat :=
  more.foldl (fun acc i => if acc.contains i then acc else i :: acc) places

/-- The places that `step` reaches from `places`. -/
def stepPlaces (step : Nat → List Nat) (places : List Nat) : List Nat :=
  places.foldl (fun acc i => unionPlaces acc (step i)) []

/-- `n` steps from `places`. -/
def stepTimes (step : Nat → List Nat) : Nat → List Nat → List Nat
  | 0, places => places
  | n + 1, places =>
    if places.isEmpty then [] else stepTimes step n (stepPlaces step places)

/-- Up to `n` steps from `places`; it stops when a step brings nothing new. -/
def stepUpTo (step : Nat → List Nat) : Nat → List Nat → List Nat
  | 0, places => places
  | n + 1, places =>
    let more := unionPlaces places (stepPlaces step places)
    if more.length = places.length then places else stepUpTo step n more

namespace Expr

/-- The places at which a match that begins at place `i` can end. -/
def ends (t : Array Char) : Expr → Nat → List Nat
  | empty, i => [i]
  | set s, i => if t[i]?.any fun c => s.has c.toNat then [i + 1] else []
  | look l, i => if l.holds t i then [i] else []
  | cat a b, i => stepPlaces (ends t b) (ends t a i)
  | alt a b, i => unionPlaces (ends t a i) (ends t b i)
  | repeated e min max, i =>
    let start := stepTimes (ends t e) min [i]
    stepUpTo (ends t e) (match max with
      | none => t.size + 1
      | some max => max - min) start

/-- Whether some part of a text matches. -/
def isIn (e : Expr) (text : Text) : Bool :=
  let t := text.toArray
  (List.range (t.size + 1)).any fun i => !(ends t e i).isEmpty

/-- The number of states that the expression stands for when repetitions are written out: what
can be skipped has a branch before it, and a part that reads nothing is not repeated. -/
def states : Expr → Nat
  | empty => 0
  | set s => s.states
  | look _ => 1
  | cat a b => a.states + b.states
  | alt a b => a.states + b.states + 1
  | repeated (look _) _ _ => 1
  | repeated e min none => e.states * Nat.max min 1 + 1
  | repeated e min (some max) =>
    e.states * max + (if min < max then max - min + 1 else 0)

end Expr
end TreeQuery.Regex
