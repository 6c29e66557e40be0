/-
  TreeQuery.Pattern.Reader

  Reading patterns. The reader goes through the text once, from left to right, with
  the constructs that are still open on a stack. Each step reads at least one
  character and either changes the stack or finds a fault; a fault has a cause and
  the offset it is found at, and the first one ends the reading.

  Kinds, tokens and fields are looked up in a vocabulary while they are read, so a
  pattern that was read mentions only words of its grammar.

  * `Reading.step` reads one token in the state that the reader is in.
  * `Pattern.read` reads a whole text and answers its patterns with the names of
    their captures in the order in which they first appear.
-/

import TreeQuery.Language.Vocabulary
import TreeQuery.Pattern.Item
import TreeQuery.Pattern.Scan
import TreeQuery.Tree.Basic

namespace TreeQuery

/-- Why a pattern text is refused. -/
inductive FaultCause where
  /-- The text is no pattern. -/
  | malformed
  /-- A name is no kind or token of the grammar. -/
  | unknownKind
  /-- A name is no field of the grammar. -/
  | unknownField
  /-- A clause names a capture that has not appeared before it. -/
  | unknownCapture
  /-- No tree of the grammar can match. -/
  | impossible
  deriving DecidableEq, Repr

/-- Why and where a pattern text is refused. -/
structure Fault where
  cause : FaultCause
  offset : Nat
  deriving DecidableEq, Repr

/-- A construct that has been opened and not yet closed; items are kept last first. -/
inductive Frame where
  | choice (offset : Nat) (branches : List Item)
  /-- A group, and whether `.` stands before its next item. -/
  | group (offset : Nat) (items : List Item) (anchor : Bool)
  /-- A node, whether `.` stands before its next child, and whether no other test precedes
  its own in the whole text. -/
  | node (offset : Nat) (test : NodeTest) (children : List Item) (absent : List String)
      (anchor : Bool) (first : Bool)
  /-- A field label that waits for its item. -/
  | field (offset : Nat) (name : String)
  deriving Repr

/-- What the reader is in the middle of. -/
inductive Mode where
  /-- Between items. -/
  | items
  /-- After an item, where suffixes can follow. -/
  | suffixes (item : Item)
  /-- Inside a clause, with the arguments so far, last first. -/
  | clause (offset opener : Nat) (name : String) (arguments : List ClauseArgument)
  deriving Repr

/-- The state of a reading. -/
structure Reading where
  place : Place
  mode : Mode
  frames : List Frame
  /-- Captures that have appeared, in order. -/
  captures : List String
  /-- Patterns that are complete, last first. -/
  patterns : List Pattern
  deriving Repr

namespace Reading

/-- Refuses the text at a place. -/
def malformed {α : Type} (p : Place) : Except Fault α := .error ⟨.malformed, p.offset⟩

/-! ## Names of kinds -/

/-- The test for nodes of a named kind or of a supertype; a beginning of `ERROR` stands for
the error kind. -/
def namedTest? (v : Vocabulary) (name : String) : Option NodeTest :=
  if name.toList.isPrefixOf errorKind.toList then some ⟨.kind errorKind true, false, false, none⟩
  else if v.isSupertype name then some ⟨.wild, false, false, some name⟩
  else if v.named.contains name then some ⟨.kind name true, false, false, none⟩
  else none

/-- The symbol that a named kind stands for after a supertype and a slash. -/
def namedSymbol? (v : Vocabulary) (name : String) : Option Symbol :=
  if name.toList.isPrefixOf errorKind.toList then some (.kind errorKind true)
  else if v.isSupertype name || v.named.contains name then some (.kind name true)
  else none

/-- Reads a string at whose opening quote `p` stands, and looks it up as a token. -/
def readToken (v : Vocabulary) (p : Place) : Except Fault (NodeTest × Place) :=
  match Scan.string false (p.offset + 1) p.rest.tail with
  | none => malformed p
  | some (text, after) =>
    let token := String.ofList text
    if v.anonymous.contains token then .ok (.token token, after)
    else .error ⟨.unknownKind, p.offset + 1⟩

/-- Reads what may follow `MISSING`: a kind, a token, or nothing before `)`. -/
def readMissing (v : Vocabulary) (p : Place) : Except Fault (NodeTest × Place) :=
  if Scan.atName p then
    let (name, after) := Scan.name p
    match namedTest? v name with
    | some test => .ok ({ test with missing := true }, after)
    | none => .error ⟨.unknownKind, p.offset⟩
  else
    match p.rest.head? with
    | some '"' => do
      let (test, after) ← readToken v p
      return ({ test with missing := true }, after)
    | some ')' => .ok (⟨.wild, true, true, none⟩, p)
    | _ => malformed p

/-- Reads a slash and the kind after it, when one stands behind the name at `start`. -/
def readSubtype (v : Vocabulary) (start : Nat) (test : NodeTest) (p : Place) :
    Except Fault (NodeTest × Place) :=
  match p.rest with
  | '/' :: rest =>
    match test.supertype with
    | none => .error ⟨.impossible, start - 1⟩
    | some supertype =>
      let p := Place.past p.offset '/' rest
      if Scan.atName p then
        let (name, after) := Scan.name p
        match namedSymbol? v name with
        | none => .error ⟨.unknownKind, p.offset⟩
        | some symbol =>
          if v.allowsSubtype supertype name then
            .ok ({ test with symbol := symbol }, Scan.blanks after)
          else .error ⟨.impossible, start - 1⟩
      else malformed p
  | _ => .ok (test, p)

/-- Reads the name of a node after its opening parenthesis, and what belongs to it. -/
def readTest (v : Vocabulary) (p : Place) : Except Fault (NodeTest × Place) :=
  if Scan.atName p then do
    let (name, after) := Scan.name p
    let (test, after) ←
      if name = "_" then pure (⟨.wild, true, false, none⟩, after)
      else if name.toList.isPrefixOf "MISSING".toList then readMissing v (Scan.blanks after)
      else match namedTest? v name with
        | some test => pure (test, after)
        | none => .error ⟨.unknownKind, p.offset⟩
    readSubtype v p.offset test (Scan.blanks after)
  else malformed p

/-! ## The stack -/

/-- An item after the anchor that was read before it, if there was one. -/
def anchorIf (anchor : Bool) (item : Item) : Item := if anchor then .anchored item else item

/-- Hands a complete item to the construct around it; at the top it is a pattern. A field
label is looked up when its item is complete. -/
def deliver (v : Vocabulary) (patterns : List Pattern) (item : Item) :
    List Frame → Except Fault (List Pattern × List Frame)
  | [] => .ok (⟨item.offset, item⟩ :: patterns, [])
  | .choice o branches :: frames => .ok (patterns, .choice o (item :: branches) :: frames)
  | .group o items anchor :: frames =>
    .ok (patterns, .group o (anchorIf anchor item :: items) false :: frames)
  | .node o test children absent anchor first :: frames =>
    .ok (patterns,
      .node o test (anchorIf anchor item :: children) absent false first :: frames)
  | .field o name :: frames =>
    if v.fields.contains name then deliver v patterns (.labelled o name item) frames
    else .error ⟨.unknownField, o⟩

/-- Whether the frame has no test in it so far. -/
def Frame.isBare : Frame → Bool
  | .choice _ branches => branches.isEmpty
  | .group _ items _ => Item.allHollow items
  | .node .. => false
  | .field .. => true

/-- Whether no test has been read so far. -/
def isBare (s : Reading) : Bool := s.patterns.isEmpty && s.frames.all Frame.isBare

/-- The state after a complete item. -/
def finishItem (v : Vocabulary) (s : Reading) (item : Item) : Except Fault Reading := do
  let (patterns, frames) ← deliver v s.patterns item s.frames
  return { s with mode := .items, frames := frames, patterns := patterns }

/-! ## One token -/

/-- Reads `)`: the end of a node or a group. -/
def closeRound (s : Reading) (after : Place) : Except Fault Reading :=
  match s.frames with
  | .node o test children absent anchor first :: frames =>
    -- A `.` at the end needs a child before it, in the first node also one with a test.
    if anchor && (children.isEmpty || (first && Item.allHollow children)) then malformed s.place
    else
      let item := Item.node o test children.reverse absent.reverse anchor []
      .ok { s with place := Scan.blanks after, mode := .suffixes item, frames := frames }
  | .group o items _ :: frames =>
    let item := Item.group o items.reverse []
    .ok { s with place := Scan.blanks after, mode := .suffixes item, frames := frames }
  | _ => malformed s.place

/-- Reads `]`: the end of a choice that has a branch. -/
def closeSquare (s : Reading) (after : Place) : Except Fault Reading :=
  match s.frames with
  | .choice o (b :: branches) :: frames =>
    let item := Item.choice o (b :: branches).reverse []
    .ok { s with place := Scan.blanks after, mode := .suffixes item, frames := frames }
  | _ => malformed s.place

/-- Reads what follows `(`: a group, the head of a clause, or the head of a node. -/
def openRound (v : Vocabulary) (s : Reading) (after : Place) : Except Fault Reading := do
  let start := s.place.offset
  let p := Scan.blanks after
  match p.rest with
  -- A group; what comes next is its first item.
  | '(' :: _ | '"' :: _ | '[' :: _ =>
    return { s with place := p, frames := .group start [] false :: s.frames }
  | '#' :: rest | '.' :: rest =>
    let head : Place := ⟨p.offset + 1, rest⟩
    if Scan.atName head then
      let (name, after) := Scan.name head
      return { s with place := Scan.blanks after, mode := .clause start p.offset name [] }
    else malformed head
  | _ =>
    let (test, after) ← readTest v p
    return { s with
      place := Scan.blanks after
      frames := .node start test [] [] false s.isBare :: s.frames }

/-- Reads `!` and a label that a node must not have. -/
def readAbsent (v : Vocabulary) (s : Reading) (after : Place) (o : Nat) (test : NodeTest)
    (children : List Item) (absent : List String) (first : Bool) (frames : List Frame) :
    Except Fault Reading :=
  let p := Scan.blanks after
  if Scan.atName p then
    let (name, after) := Scan.name p
    if v.fields.contains name then
      .ok { s with
        place := Scan.blanks after
        frames := .node o test children (name :: absent) false first :: frames }
    else .error ⟨.unknownField, p.offset⟩
  else malformed p

/-- Reads a field label and its colon. -/
def readLabel (s : Reading) : Except Fault Reading :=
  let (name, after) := Scan.name s.place
  let p := Scan.blanks after
  match p.rest with
  | ':' :: rest =>
    .ok { s with
      place := Scan.blanks (.past p.offset ':' rest)
      frames := .field s.place.offset name :: s.frames }
  | _ => malformed s.place

/-- Reads the first token of an item. -/
def openItem (v : Vocabulary) (s : Reading) (c : Char) (after : Place) : Except Fault Reading :=
  match c with
  | '(' => openRound v s after
  | '[' => .ok { s with
      place := Scan.blanks after
      frames := .choice s.place.offset [] :: s.frames }
  | ')' => closeRound s after
  | ']' => closeSquare s after
  | '_' => .ok { s with
      place := Scan.blanks after
      mode := .suffixes (.leaf s.place.offset .anything []) }
  | '"' => do
    let (test, after) ← readToken v s.place
    return { s with
      place := Scan.blanks after
      mode := .suffixes (.leaf s.place.offset test []) }
  | _ => if Scan.atName s.place then readLabel s else malformed s.place

/-- Reads one token between items: an anchor or an absent label where one can stand, and
otherwise the first token of an item. -/
def stepItems (v : Vocabulary) (s : Reading) : Except Fault Reading :=
  match s.place.rest with
  | [] => malformed s.place
  | c :: rest =>
    let after := Place.past s.place.offset c rest
    match c, s.frames with
    | '!', .node o test children absent false first :: frames =>
      readAbsent v s after o test children absent first frames
    | '.', .node o test children absent false first :: frames =>
      .ok { s with
        place := Scan.blanks after
        frames := .node o test children absent true first :: frames }
    | '.', .group o items false :: frames =>
      .ok { s with place := Scan.blanks after, frames := .group o items true :: frames }
    | _, _ => openItem v s c after

/-- Reads a suffix of `item`, or the next token when there is none. -/
def stepSuffixes (v : Vocabulary) (s : Reading) (item : Item) : Except Fault Reading :=
  match s.place.rest with
  | '+' :: rest => .ok (addSuffix .oneOrMore (.past s.place.offset '+' rest))
  | '*' :: rest => .ok (addSuffix .zeroOrMore (.past s.place.offset '*' rest))
  | '?' :: rest => .ok (addSuffix .zeroOrOne (.past s.place.offset '?' rest))
  | '@' :: rest =>
    let p := Place.past s.place.offset '@' rest
    if Scan.atName p then
      let (name, after) := Scan.name p
      let captures := if s.captures.contains name then s.captures else s.captures ++ [name]
      .ok { addSuffix (.capture name) after with captures := captures }
    else malformed p
  | _ => do
    let s ← finishItem v s item
    stepItems v s
where
  /-- The state after a suffix that ends at `after`. -/
  addSuffix (suffix : Suffix) (after : Place) : Reading :=
    { s with place := Scan.blanks after, mode := .suffixes (item.addSuffix suffix) }

/-- Reads an argument of a clause or the end of the clause. -/
def stepClause (v : Vocabulary) (s : Reading) (offset opener : Nat) (name : String)
    (arguments : List ClauseArgument) : Except Fault Reading :=
  match s.place.rest with
  | ')' :: rest =>
    finishItem v { s with place := Scan.blanks (.past s.place.offset ')' rest) }
      (.clause offset ⟨opener, name, arguments.reverse⟩)
  | '@' :: rest =>
    let p := Place.past s.place.offset '@' rest
    if Scan.atName p then
      let (capture, after) := Scan.name p
      if s.captures.contains capture then .ok (addArgument (.capture capture) after)
      else .error ⟨.unknownCapture, p.offset⟩
    else malformed p
  | '"' :: rest =>
    match Scan.string false (s.place.offset + 1) rest with
    | some (text, after) => .ok (addArgument (.literal text) after)
    | none => malformed s.place
  | _ =>
    if Scan.atName s.place then
      let (word, after) := Scan.name s.place
      .ok (addArgument (.literal word.toList) after)
    else malformed s.place
where
  /-- The state after an argument that ends at `after`. -/
  addArgument (argument : ClauseArgument) (after : Place) : Reading :=
    { s with
      place := Scan.blanks after
      mode := .clause offset opener name (argument :: arguments) }

/-- Reads one token. -/
def step (v : Vocabulary) (s : Reading) : Except Fault Reading :=
  match s.mode with
  | .items => stepItems v s
  | .suffixes item => stepSuffixes v s item
  | .clause offset opener name arguments => stepClause v s offset opener name arguments

/-- The end of the text: nothing may be open. -/
def finish (v : Vocabulary) (s : Reading) : Except Fault (List Pattern × List String) := do
  let s ← match s.mode with
    | .items => pure s
    | .suffixes item => finishItem v s item
    | .clause .. => malformed s.place
  if s.frames.isEmpty then return (s.patterns.reverse, s.captures) else malformed s.place

/-- Reads to the end of the text. A step always reads on, so the last case does not arise. -/
def run (v : Vocabulary) (s : Reading) : Except Fault (List Pattern × List String) :=
  if s.place.rest.isEmpty then finish v s
  else
    match step v s with
    | .error fault => .error fault
    | .ok next =>
      if next.place.rest.length < s.place.rest.length then run v next else malformed s.place
termination_by s.place.rest.length

/-- The state before the first token of a text. -/
def initial (text : Text) : Reading := ⟨Scan.blanks ⟨0, text⟩, .items, [], [], []⟩

end Reading

/-- Reads a text: its patterns, and the names of their captures in the order in which they
first appear. -/
def Pattern.read (v : Vocabulary) (text : Text) : Except Fault (List Pattern × List String) :=
  Reading.run v (Reading.initial text)

end TreeQuery
