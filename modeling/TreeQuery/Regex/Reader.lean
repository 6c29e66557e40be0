/-
  TreeQuery.Regex.Reader

  Reading regular expressions. Every character stands for itself except
  `\ . + * ? ( ) | [ ] { } ^ $`; groups may be named or carry flags, bracketed sets
  may be nested and combined, and there is neither look-around nor back-reference.

  An expression must match whole characters: without the Unicode flag only ASCII can
  be named. `Dialect.raw` lifts that for searches in bytes. An expression that would
  need too many states is refused as well.
-/

import TreeQuery.Regex.Expr

namespace TreeQuery.Regex

/-- What an expression is read for. -/
inductive Dialect where
  /-- Searches in characters. -/
  | text
  /-- Searches in bytes, where a set may hold bytes that are no character. -/
  | raw
  deriving DecidableEq, Repr

/-- What flags can switch. -/
structure Flags where
  caseless : Bool
  multiline : Bool
  dotAll : Bool
  unicode : Bool
  crlf : Bool
  verbose : Bool
  deriving DecidableEq, Repr

def Flags.initial : Flags := ⟨false, false, false, true, false, false⟩

/-- The state of a reading. -/
structure ReadState where
  rest : List Char
  flags : Flags
  /-- Names of groups so far. -/
  names : List String

abbrev Reader := StateT ReadState Option

namespace Reader

/-! ## Characters -/

def peek : Reader (Option Char) := return (← get).rest.head?

def bump : Reader Unit := modify fun s => { s with rest := s.rest.tail }

/-- The next character, read; fails at the end. -/
def next : Reader Char := do
  match (← get).rest with
  | [] => failure
  | c :: rest => modify ({ · with rest := rest }); return c

/-- Reads `expected` if it comes next. -/
def eat (expected : String) : Reader Bool := do
  let s ← get
  let chars := expected.toList
  if chars.isPrefixOf s.rest then
    set { s with rest := s.rest.drop chars.length }
    return true
  else return false

def expect (expected : String) : Reader Unit := do
  unless ← eat expected do failure

def startsWith (expected : String) : Reader Bool :=
  return expected.toList.isPrefixOf (← get).rest

/-- What is left after blanks and comments of a verbose expression. -/
def dropVerbose (inComment : Bool) : List Char → List Char
  | [] => []
  | c :: rest =>
    if inComment then dropVerbose (c != '\n') rest
    else if isBlank c then dropVerbose false rest
    else if c == '#' then dropVerbose true rest
    else c :: rest

/-- Skips blanks and comments where they do not count. -/
def skip : Reader Unit := modify fun s =>
  if s.flags.verbose then { s with rest := dropVerbose false s.rest } else s

/-- Skips blanks. -/
def skipBlanks : Reader Unit := modify fun s => { s with rest := s.rest.dropWhile isBlank }

/-- Reads while a test holds. -/
def takeWhile (test : Char → Bool) : Reader (List Char) := do
  let s ← get
  set { s with rest := s.rest.dropWhile test }
  return s.rest.takeWhile test

/-! ## Numbers -/

def maxCount : Nat := UInt32.size - 1

/-- A decimal number with blanks around it, if there is one. -/
def decimal? : Reader (Option Nat) := do
  skipBlanks
  let digits ← takeWhile Char.isDigit
  skipBlanks
  if digits.isEmpty then return none
  let n := digits.foldl (fun n d => n * 10 + (d.toNat - '0'.toNat)) 0
  if n ≤ maxCount then return some n else failure

/-- The value of a hexadecimal digit. -/
def hexValue? (c : Char) : Option Nat :=
  if c.isDigit then some (c.toNat - '0'.toNat)
  else if 'a' ≤ c ∧ c ≤ 'f' then some (c.toNat - 'a'.toNat + 10)
  else if 'A' ≤ c ∧ c ≤ 'F' then some (c.toNat - 'A'.toNat + 10)
  else none

/-- The character whose number has the given hexadecimal digits. -/
def scalar? (digits : List Char) : Option Char := do
  let values ← digits.mapM hexValue?
  let n := values.foldl (fun n d => n * 16 + d) 0
  if h : n.isValidChar then some (Char.ofNatAux n h) else none

/-- A character by number: `count` digits, or any number of them in braces. -/
def hexadecimal (count : Nat) : Reader Char := do
  skip
  let digits ←
    if ← eat "\x7b" then do
      skip
      let digits ← takeWhile (· != '\x7d')
      expect "\x7d"
      let verbose := (← get).flags.verbose
      pure (digits.filter fun c => !(verbose && isBlank c))
    else do
      let s ← get
      if s.rest.length < count then failure
      set { s with rest := s.rest.drop count }
      pure (s.rest.take count)
  if digits.isEmpty then failure
  (scalar? digits : Option Char)

/-! ## Escapes -/

/-- What an escape or a plain character stands for. -/
inductive Atom where
  | char (c : Char)
  /-- A byte that is no ASCII character. -/
  | byte
  | set (s : CharSet)
  | look (l : Look)

/-- A complement, which holds more than ASCII and so needs the Unicode flag. -/
def complement (d : Dialect) (s : CharSet) : Reader CharSet := do
  if (← get).flags.unicode || d = .raw then return .complement s else failure

/-- One of the classes `d`, `s`, `w`, or its complement. -/
def shorthandClass (d : Dialect) (c : Char) : Reader CharSet := do
  let unicode := (← get).flags.unicode
  let set := match c.toLower with
    | 'd' => if unicode then digits else .ranges [(0x30, 0x39)]
    | 's' => if unicode then .ranges blankRanges else .ranges [(9, 13), (32, 32)]
    | _ => if unicode then wordSet
      else .ranges [(0x30, 0x39), (0x41, 0x5A), (0x5F, 0x5F), (0x61, 0x7A)]
  if c.isUpper then complement d set else return set

/-- A set with the case variants of its members, where case does not count. -/
def foldCase (s : CharSet) : Reader CharSet := do
  let flags := (← get).flags
  if !flags.caseless then return s
  else if flags.unicode then return .anyCase s
  else return .inter (.anyCase s) (.ranges [(0, 0x7F)])

/-- A class by property, after `\p` or `\P`. -/
def propertyClass (d : Dialect) (negated : Bool) : Reader CharSet := do
  if !(← get).flags.unicode then failure
  skip
  let (negated, name) ←
    if ← eat "\x7b" then do
      let inverted ← eat "^"
      let name ← takeWhile (· != '\x7d')
      expect "\x7d"
      pure (negated != inverted, name)
    else do
      pure (negated, [← next])
  let key := name.takeWhile fun c => c != '=' && c != ':'
  let (ranges, unequal) := match name.drop key.length with
    | [] => (property? name, false)
    | '=' :: value =>
      if key.getLast? == some '!' then (propertyValue? key.dropLast value, true)
      else (propertyValue? key value, false)
    | _ :: value => (propertyValue? key value, false)
  match ranges with
  | none => failure
  | some ranges =>
    let set ← foldCase (.ranges ranges)
    if negated != unequal then complement d set else return set

/-- Characters that a backslash makes stand for themselves: ASCII, except letters, digits and
angle brackets. -/
def isEscapable (c : Char) : Bool :=
  c.toNat < 128 && !c.isAlphanum && c != '<' && c != '>'

/-- A word boundary after `\b`: a plain one, or one named in braces. -/
def wordBoundary (ascii : Bool) : Reader Look := do
  let s ← get
  match s.rest with
  | '\x7b' :: rest =>
    let rest := rest.dropWhile fun c => s.flags.verbose && isBlank c
    if !(rest.head?.any fun c => c.isAlpha || c == '-') then return .word ascii
    else
      let name := rest.takeWhile fun c => c.isAlpha || c == '-'
      set { s with rest := rest.drop name.length }
      skip
      expect "\x7d"
      match String.ofList name with
      | "start" => return .wordStart ascii
      | "end" => return .wordEnd ascii
      | "start-half" => return .wordStartHalf ascii
      | "end-half" => return .wordEndHalf ascii
      | _ => failure
  | _ => return .word ascii

/-- What follows a backslash. -/
def escape (d : Dialect) : Reader Atom := do
  let c ← next
  let flags := (← get).flags
  let ascii := !flags.unicode
  match c with
  | 'd' | 'D' | 's' | 'S' | 'w' | 'W' => return .set (← shorthandClass d c)
  | 'p' => return .set (← propertyClass d false)
  | 'P' => return .set (← propertyClass d true)
  | 'x' =>
    let c ← hexadecimal 2
    if flags.unicode || c.toNat < 128 then return .char c
    else if d = .raw then return .byte else failure
  | 'u' => return .char (← hexadecimal 4)
  | 'U' => return .char (← hexadecimal 8)
  | 'a' => return .char '\x07'
  | 'f' => return .char '\x0c'
  | 't' => return .char '\t'
  | 'n' => return .char '\n'
  | 'r' => return .char '\r'
  | 'v' => return .char '\x0b'
  | 'A' => return .look .textStart
  | 'z' => return .look .textEnd
  | 'b' => return .look (← wordBoundary ascii)
  | 'B' => return .look (.notWord ascii)
  | '<' => return .look (.wordStart ascii)
  | '>' => return .look (.wordEnd ascii)
  | c => if isEscapable c then return .char c else failure

/-- The set of one character; without the Unicode flag it must be in ASCII. -/
def singleSet (c : Char) : Reader CharSet := do
  if !(← get).flags.unicode && c.toNat ≥ 128 then failure
  return .single c

/-! ## Bracketed sets -/

/-- The ASCII class with a name. -/
def asciiClass? (name : String) : Option CharRanges :=
  match name with
  | "alnum" => some [(0x30, 0x39), (0x41, 0x5A), (0x61, 0x7A)]
  | "alpha" => some [(0x41, 0x5A), (0x61, 0x7A)]
  | "ascii" => some [(0, 0x7F)]
  | "blank" => some [(9, 9), (32, 32)]
  | "cntrl" => some [(0, 0x1F), (0x7F, 0x7F)]
  | "digit" => some [(0x30, 0x39)]
  | "graph" => some [(0x21, 0x7E)]
  | "lower" => some [(0x61, 0x7A)]
  | "print" => some [(0x20, 0x7E)]
  | "punct" => some [(0x21, 0x2F), (0x3A, 0x40), (0x5B, 0x60), (0x7B, 0x7E)]
  | "space" => some [(9, 13), (32, 32)]
  | "upper" => some [(0x41, 0x5A)]
  | "word" => some [(0x30, 0x39), (0x41, 0x5A), (0x5F, 0x5F), (0x61, 0x7A)]
  | "xdigit" => some [(0x30, 0x39), (0x41, 0x46), (0x61, 0x66)]
  | _ => none

/-- A class such as `[:alpha:]`, if one comes next. -/
def asciiClass (d : Dialect) : Reader (Option CharSet) := do
  let s ← get
  match s.rest with
  | '[' :: ':' :: rest =>
    let (negated, rest) := match rest with
      | '^' :: rest => (true, rest)
      | rest => (false, rest)
    let name := rest.takeWhile (· != ':')
    match asciiClass? (String.ofList name), rest.drop name.length with
    | some ranges, ':' :: ']' :: rest =>
      set { s with rest := rest }
      let set ← foldCase (.ranges ranges)
      if negated then return some (← complement d set) else return some set
    | _, _ => return none
  | _ => return none

/-- One character or escape inside brackets. -/
def setAtom (d : Dialect) : Reader Atom := do
  match ← next with
  | '\\' => escape d
  | c => return .char c

/-- The set that an atom stands for inside brackets; a condition on a place is none. -/
def atomSet : Atom → Reader CharSet
  | .char c => singleSet c
  | .byte => return .empty
  | .set s => return s
  | .look _ => failure

/-- The character of an atom that ends a range. -/
def atomChar : Atom → Reader Char
  | .char c => return c
  | _ => failure

/-- What comes after the next character and blanks that do not count. -/
def peekSecond : Reader (Option Char) := do
  let s ← get
  let rest := s.rest.tail
  return (if s.flags.verbose then dropVerbose false rest else rest).head?

/-- A single member or a range of a bracketed set. -/
def setRange (d : Dialect) : Reader CharSet := do
  let first ← setAtom d
  skip
  match ← peek with
  | none => failure
  | some '-' =>
    let second ← peekSecond
    if second == some ']' || second == some '-' then atomSet first
    else
      bump
      skip
      let last ← setAtom d
      let low ← atomChar first
      let high ← atomChar last
      if low ≤ high then
        discard (singleSet low)
        discard (singleSet high)
        return .ranges [(low.toNat, high.toNat)]
      else failure
  | some _ => atomSet first

/-- An operator between sets. -/
inductive SetOperator where
  | inter
  | diff
  | symmDiff

/-- Reads an operator between sets, if one comes next. -/
def setOperator? : Reader (Option SetOperator) := do
  if ← eat "&&" then return some .inter
  else if ← eat "--" then return some .diff
  else if ← eat "~~" then return some .symmDiff
  else return none

def SetOperator.apply : SetOperator → CharSet → CharSet → CharSet
  | .inter => .inter
  | .diff => .diff
  | .symmDiff => .symmDiff

/-- Closes the operand of a set operator that is under way. -/
def closeOperand (pending : Option (CharSet × SetOperator)) (members : CharSet) :
    Reader CharSet := do
  match pending with
  | none => return members
  | some (left, op) => return op.apply (← foldCase left) (← foldCase members)

/-- Hyphens at the beginning of a bracketed set. -/
def leadingHyphens : Nat → CharSet → Reader CharSet
  | 0, members => return members
  | fuel + 1, members => do
    if (← peek) == some '-' then
      bump
      skip
      leadingHyphens fuel (.union members (.single '-'))
    else return members

mutual
/-- A bracketed set, from its opening bracket on. -/
def bracketed (d : Dialect) : Nat → Reader CharSet
  | 0 => failure
  | fuel + 1 => do
    expect "["
    skip
    let negated ← eat "^"
    skip
    let hyphens ← leadingHyphens (← get).rest.length .empty
    let members ←
      if hyphens matches .ranges [] then
        if ← eat "]" then do skip; pure (CharSet.single ']') else pure hyphens
      else pure hyphens
    let set ← foldCase (← setMembers d fuel none members)
    if negated then complement d set else return set

/-- The members of a bracketed set up to its closing bracket. -/
def setMembers (d : Dialect) : Nat → Option (CharSet × SetOperator) → CharSet → Reader CharSet
  | 0, _, _ => failure
  | fuel + 1, pending, members => do
    skip
    match ← peek with
    | none => failure
    | some '[' =>
      match ← asciiClass d with
      | some set => setMembers d fuel pending (.union members set)
      | none => do
        let set ← bracketed d fuel
        setMembers d fuel pending (.union members set)
    | some ']' =>
      bump
      closeOperand pending members
    | some _ =>
      match ← setOperator? with
      | some op => do
        let left ← closeOperand pending members
        setMembers d fuel (some (left, op)) .empty
      | none => do
        let set ← setRange d
        setMembers d fuel pending (.union members set)
end

/-! ## Groups and flags -/

/-- A letter for a flag, and what it switches. -/
def setFlag (c : Char) (on : Bool) (f : Flags) : Option Flags :=
  match c with
  | 'i' => some { f with caseless := on }
  | 'm' => some { f with multiline := on }
  | 's' => some { f with dotAll := on }
  | 'U' => some f
  | 'u' => some { f with unicode := on }
  | 'R' => some { f with crlf := on }
  | 'x' => some { f with verbose := on }
  | _ => none

/-- Flags up to `:` or `)`; answers whether a group follows. A flag stands once, and so does
the hyphen that switches off those after it. -/
def readFlags (seen : List Char) (on : Bool) (flags : Flags) : Nat → Reader (Bool × Flags)
  | 0 => failure
  | fuel + 1 => do
    match ← next with
    | ':' => if seen.head? == some '-' then failure else return (true, flags)
    | ')' => if seen.isEmpty || seen.head? == some '-' then failure else return (false, flags)
    | c =>
      if seen.contains c then failure
      else if c == '-' then readFlags (c :: seen) false flags fuel
      else match setFlag c on flags with
        | some flags => readFlags (c :: seen) on flags fuel
        | none => failure

/-- The name of a group up to `>`: a letter or `_`, then letters, digits, `_ . [ ]`, and no
name twice. -/
def groupName : Reader Unit := do
  let name ← takeWhile (· != '>')
  expect ">"
  let valid := match name with
    | [] => false
    | c :: rest => (c == '_' || isLetter c) &&
      rest.all fun c => c == '_' || c == '.' || c == '[' || c == ']' || isLetterOrNumber c
  let s ← get
  let name := String.ofList name
  if !valid || s.names.contains name then failure
  set { s with names := name :: s.names }

/-! ## Expressions -/

def lookAt : Char → Flags → Look
  | '^', f => if !f.multiline then .textStart else if f.crlf then .crlfStart else .lineStart
  | _, f => if !f.multiline then .textEnd else if f.crlf then .crlfEnd else .lineEnd

/-- The expression of the dot. -/
def dot (d : Dialect) : Reader Expr := do
  let flags := (← get).flags
  if flags.dotAll then return .set (← complement d .empty)
  else if flags.crlf then return .set (← complement d (.ranges [(10, 10), (13, 13)]))
  else return .set (← complement d (.ranges [(10, 10)]))

/-- A single character, escape or condition. -/
def primitive (d : Dialect) : Reader Expr := do
  match ← next with
  | '\\' =>
    match ← escape d with
    | .char c => return .set (← foldCase (← singleSet c))
    | .byte => return .set .empty
    | .set s => return .set s
    | .look l => return .look l
  | '.' => dot d
  | '^' => return .look (lookAt '^' (← get).flags)
  | '$' => return .look (lookAt '$' (← get).flags)
  | c => return .set (← foldCase (← singleSet c))

/-- The bounds of a counted repetition, after its opening brace. -/
def bounds : Reader (Nat × Option Nat) := do
  skip
  match ← decimal? with
  | none => failure
  | some min =>
    let max ←
      if ← eat "," then do
        skip
        if (← peek) == some '\x7d' then pure none
        else match ← decimal? with
          | some max => pure (some max)
          | none => failure
      else pure (some min)
    expect "\x7d"
    if max.any (· < min) then failure else return (min, max)

mutual
/-- Alternatives up to the end of the group or of the expression. -/
def alternatives (d : Dialect) : Nat → Reader Expr
  | 0 => failure
  | fuel + 1 => do
    let e ← sequence d fuel .empty none
    if ← eat "|" then return .alt e (← alternatives d fuel) else return e

/-- Parts in a row; `last` is the part that a repetition would apply to. -/
def sequence (d : Dialect) : Nat → Expr → Option Expr → Reader Expr
  | 0, _, _ => failure
  | fuel + 1, done, last => do
    skip
    let all := match last with
      | none => done
      | some e => .cat done e
    match ← peek with
    | none | some ')' | some '|' => return all
    | some '(' => do
      let part ← group d fuel
      sequence d fuel all part
    | some '[' => do
      let set ← bracketed d fuel
      sequence d fuel all (some (.set set))
    | some '?' => repetition d fuel done last 0 (some 1)
    | some '*' => repetition d fuel done last 0 none
    | some '+' => repetition d fuel done last 1 none
    | some '\x7b' =>
      match last with
      | none => failure
      | some e => do
        bump
        let (min, max) ← bounds
        skip
        discard (eat "?")
        sequence d fuel done (some (.repeated e min max))
    | some _ => do
      let part ← primitive d
      sequence d fuel all (some part)

/-- A repetition of `last` by a single character, which may be followed by `?`. -/
def repetition (d : Dialect) : Nat → Expr → Option Expr → Nat → Option Nat → Reader Expr
  | 0, _, _, _, _ => failure
  | fuel + 1, done, last, min, max =>
    match last with
    | none => failure
    | some e => do
      bump
      discard (eat "?")
      sequence d fuel done (some (.repeated e min max))

/-- A group, or flags for the rest of the group around it (`none`). -/
def group (d : Dialect) : Nat → Reader (Option Expr)
  | 0 => failure
  | fuel + 1 => do
    expect "("
    skip
    if (← startsWith "?=") || (← startsWith "?!") || (← startsWith "?<=") ||
      (← startsWith "?<!") then failure
    let outside := (← get).flags
    let isGroup ←
      if (← eat "?P<") || (← eat "?<") then do
        groupName
        pure true
      else if ← eat "?" then do
        let (isGroup, flags) ← readFlags [] true outside (← get).rest.length
        modify ({ · with flags := flags })
        pure isGroup
      else pure true
    if isGroup then
      let e ← alternatives d fuel
      expect ")"
      modify ({ · with flags := outside })
      return some e
    else return none
end

end Reader

/-- The greatest number of states that an expression may need. -/
def maxStates : Nat := 10 * 1024 * 1024 / 32

/-- Reads an expression; `none` when the text is none. -/
def read? (d : Dialect) (text : Text) : Option Expr :=
  match (Reader.alternatives d (4 * text.length + 4)).run ⟨text, .initial, []⟩ with
  | some (e, s) => if s.rest.isEmpty && e.states ≤ maxStates then some e else none
  | none => none

/-- Whether a text is an expression for searches in characters. -/
def isValid (text : Text) : Bool := (read? .text text).isSome

end TreeQuery.Regex
