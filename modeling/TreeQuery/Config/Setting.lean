/-
  TreeQuery.Config.Setting

  The value of a setting, as far as the engine tells values apart: a text, or
  something else. The value of an environment variable is trimmed and then read:

  * a value in double quotes is the text between them, and a single character in
    single quotes is that character,
  * `true` and `false` in any case, numbers, closed brackets and lists divided by
    commas are something else,
  * all other values stand for themselves.
-/

import TreeQuery.Text.Letters

namespace TreeQuery

/-- The value of a setting. -/
inductive Setting where
  | text (content : Text)
  | other
  deriving DecidableEq, Repr

namespace Setting

/-! ## Quoted texts -/

/-- The value of hexadecimal digits. -/
def hexadecimal? (digits : Text) : Option Nat :=
  digits.foldlM (fun value c =>
    if '0' ≤ c ∧ c ≤ '9' then some (value * 16 + (c.toNat - '0'.toNat))
    else if 'a' ≤ c ∧ c ≤ 'f' then some (value * 16 + (c.toNat - 'a'.toNat + 10))
    else if 'A' ≤ c ∧ c ≤ 'F' then some (value * 16 + (c.toNat - 'A'.toNat + 10))
    else none) 0

/-- The character whose number is written in the next `count` hexadecimal digits. -/
def character? (count : Nat) (t : Text) : Option (Char × Text) :=
  let digits := t.take count
  if digits.length < count then none
  else
    match hexadecimal? digits with
    | none => none
    | some value => if value.isValidChar then some (Char.ofNat value, t.drop count) else none

/-- The character that is written after a backslash. -/
def escaped? : Text → Option (Char × Text)
  | 'b' :: t => some ('\x08', t)
  | 't' :: t => some ('\t', t)
  | 'n' :: t => some ('\n', t)
  | 'f' :: t => some ('\x0c', t)
  | 'r' :: t => some ('\r', t)
  | '"' :: t => some ('"', t)
  | '\\' :: t => some ('\\', t)
  | 'u' :: t => character? 4 t
  | 'U' :: t => character? 8 t
  | _ => none

/-- Whether a character cannot stand for itself between quotes. -/
def isControl (c : Char) : Bool := (c.toNat < 0x20 && c != '\t') || c.toNat == 0x7f

/-- The text up to a closing double quote, and what follows it. At most `fuel` characters are
read. -/
def quoted? : Nat → Text → Option (Text × Text)
  | 0, _ => none
  | fuel + 1, t =>
    match t with
    | [] => none
    | '"' :: rest => some ([], rest)
    | '\\' :: rest =>
      match escaped? rest with
      | none => none
      | some (c, rest) => (quoted? fuel rest).map fun (content, rest) => (c :: content, rest)
    | c :: rest =>
      if isControl c then none
      else (quoted? fuel rest).map fun (content, rest) => (c :: content, rest)

/-! ## Values that are no text -/

/-- What follows the digits of a text, if it begins with one. -/
def afterDigits? : Text → Option Text
  | [] => none
  | c :: t => if c.isDigit then some (t.dropWhile Char.isDigit) else none

/-- What follows a sign, or the whole text. -/
def afterSign : Text → Text
  | '+' :: t => t
  | '-' :: t => t
  | t => t

/-- Whether a text is the end of a decimal number: nothing, or an exponent. -/
def isExponent : Text → Bool
  | [] => true
  | c :: t => (c == 'e' || c == 'E') && afterDigits? (afterSign t) == some []

/-- Whether a text is a number with a decimal point. -/
def isDecimal (t : Text) : Bool :=
  match afterSign t with
  | '.' :: fraction => (afterDigits? fraction).any isExponent
  | t =>
    match afterDigits? t with
    | some ('.' :: fraction) => isExponent (fraction.dropWhile Char.isDigit)
    | _ => false

/-- Whether a text is a whole number that a word of 64 bits can hold. -/
def isWhole (t : Text) : Bool :=
  let digits := afterSign t
  let value := digits.foldl (fun n c => n * 10 + (c.toNat - '0'.toNat)) 0
  afterDigits? digits == some [] &&
    if t.head? == some '-' then value ≤ UInt64.size / 2 else value < UInt64.size

/-- Whether the brackets that are open are all closed by the last character and not before. Between
double quotes brackets do not count. -/
def closesAtEnd (inQuotes : Bool) (expected : Text) : Text → Bool
  | [] => false
  | c :: t =>
    if inQuotes then closesAtEnd (c != '"') expected t
    else if c == '"' then closesAtEnd true expected t
    else if c == '[' then closesAtEnd false (']' :: expected) t
    else if c == '\x7b' then closesAtEnd false ('\x7d' :: expected) t
    else if expected.head? == some c then
      if expected.tail.isEmpty then t.isEmpty else closesAtEnd false expected.tail t
    else if c == ']' || c == '\x7d' then false
    else closesAtEnd false expected t

/-- Whether a text is in brackets. -/
def isBracketed (t : Text) : Bool :=
  (t.head? == some '[' || t.head? == some '\x7b') && closesAtEnd false [] t

/-- Whether a text is a list divided by commas. -/
def isCommaList (t : Text) : Bool :=
  t.contains ',' && !(['[', '\x7b', '"', '\''].any (some · == t.head?))

def isFlag (t : Text) : Bool := ["true", "false"].any (·.toList == t.map Char.toLower)

/-! ## Variables -/

/-- Reads the value of an environment variable. -/
def ofVariable (value : Text) : Setting :=
  let t := value.trim
  if isCommaList t || isFlag t || isDecimal t || isWhole t || isBracketed t then .other
  else
    match t with
    | '"' :: rest =>
      match quoted? (rest.length + 1) rest with
      | some (content, []) => .text content
      | _ => .text t
    | ['\'', c, '\''] => .text [c]
    | t => .text t

end Setting
end TreeQuery
