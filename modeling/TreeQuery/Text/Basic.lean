/-
  TreeQuery.Text.Basic

  A text is a list of characters, and a place in it is a byte offset into its
  UTF-8 encoding. An offset is a *boundary* when it falls between two characters
  (or at an end); only at a boundary can a text be cut.

  * `Text.size` counts the bytes of a text.
  * `Text.cut? t o` splits `t` at offset `o`, or answers `none` when `o` is past
    the end or inside a character.
  * `Text.slice? t a b` is the part of `t` between two boundaries.

  The main facts say that a cut loses nothing (`cut?_eq_some_iff`) and that the
  two sizes are the offset and what is left of the text.
-/

namespace TreeQuery

/-- A text: its characters in order. -/
abbrev Text := List Char

namespace Text

/-- The number of bytes of `t` in UTF-8. -/
def size : Text → Nat
  | [] => 0
  | c :: t => c.utf8Size + size t

@[simp] theorem size_nil : size [] = 0 := rfl

@[simp] theorem size_cons (c : Char) (t : Text) : size (c :: t) = c.utf8Size + size t := rfl

@[simp] theorem size_append (s t : Text) : size (s ++ t) = size s + size t := by
  induction s with
  | nil => simp
  | cons c s ih => simp [ih, Nat.add_assoc]

/-! ## Cutting at an offset -/

/-- Splits a text at a byte offset; `none` when the offset is not a boundary. -/
def cut? : Text → Nat → Option (Text × Text)
  | t, 0 => some ([], t)
  | [], _ + 1 => none
  | c :: t, o + 1 =>
    if c.utf8Size ≤ o + 1 then
      (cut? t (o + 1 - c.utf8Size)).map fun (front, back) => (c :: front, back)
    else none

@[simp] theorem cut?_zero (t : Text) : cut? t 0 = some ([], t) := by
  cases t <;> rfl

/-- A cut is exactly a way to write the text as a front of `o` bytes and a back. -/
theorem cut?_eq_some_iff {t front back : Text} {o : Nat} :
    cut? t o = some (front, back) ↔ t = front ++ back ∧ front.size = o := by
  induction t generalizing o front with
  | nil =>
    cases o with
    | zero => cases front <;> simp [eq_comm]
    | succ o =>
      cases front with
      | nil => simp [cut?]
      | cons c f => simp [cut?]
  | cons c t ih =>
    cases o with
    | zero =>
      cases front with
      | nil => simp [cut?, eq_comm]
      | cons d f =>
        have := d.utf8Size_pos
        simp [cut?]; omega
    | succ o =>
      cases front with
      | nil =>
        simp only [cut?]
        split <;> simp
      | cons d f =>
        simp only [cut?]
        split
        · next h =>
          simp only [Option.map_eq_some_iff, Prod.exists, Prod.mk.injEq, List.cons.injEq,
            List.cons_append, size_cons]
          constructor
          · rintro ⟨f', b', hcut, ⟨rfl, rfl⟩, rfl⟩
            obtain ⟨rfl, hs⟩ := ih.1 hcut
            exact ⟨⟨rfl, rfl⟩, by omega⟩
          · rintro ⟨⟨rfl, rfl⟩, hs⟩
            exact ⟨f, back, ih.2 ⟨rfl, by omega⟩, ⟨rfl, rfl⟩, rfl⟩
        · next h =>
          simp only [reduceCtorEq, List.cons_append, List.cons.injEq, size_cons, false_iff,
            not_and]
          rintro ⟨rfl, -⟩
          omega

/-- Whether a text can be cut at `o`. -/
def isBoundary (t : Text) (o : Nat) : Bool := (t.cut? o).isSome

theorem isBoundary_iff {t : Text} {o : Nat} :
    t.isBoundary o = true ↔ ∃ front back, t = front ++ back ∧ size front = o := by
  simp only [isBoundary, Option.isSome_iff_exists, Prod.exists, cut?_eq_some_iff]

/-- The bytes from `a` up to `b`; `none` unless `a ≤ b` and both are boundaries. -/
def slice? (t : Text) (a b : Nat) : Option Text :=
  if a ≤ b then
    (t.cut? a).bind fun (_, back) => (cut? back (b - a)).map (·.1)
  else none

/-- A slice is exactly a middle part that stands at offset `a` and ends at `b`. -/
theorem slice?_eq_some_iff {t mid : Text} {a b : Nat} :
    t.slice? a b = some mid ↔
      ∃ front back, t = front ++ mid ++ back ∧ size front = a ∧ a + size mid = b := by
  unfold slice?
  split
  · next h =>
    simp only [Option.bind_eq_some_iff, Option.map_eq_some_iff, Prod.exists, cut?_eq_some_iff]
    constructor
    · rintro ⟨front, rest, ⟨rfl, ha⟩, m, back, ⟨rfl, hm⟩, rfl⟩
      exact ⟨front, back, by simp, ha, by omega⟩
    · rintro ⟨front, back, rfl, ha, hm⟩
      exact ⟨front, mid ++ back, ⟨by simp, ha⟩, mid, back, ⟨rfl, by omega⟩, rfl⟩
  · next h =>
    simp only [reduceCtorEq, false_iff, not_exists, not_and]
    intro front back _ _
    omega

/-- The bytes from `a` up to `b`, or nothing when they are no part of the text. -/
def slice (t : Text) (a b : Nat) : Text := (t.slice? a b).getD []

/-- The text before offset `o`, or the whole text when `o` is no boundary. -/
def before (t : Text) (o : Nat) : Text :=
  match t.cut? o with
  | some (front, _) => front
  | none => t

/-- The text from offset `o` on, or nothing when `o` is no boundary. -/
def after (t : Text) (o : Nat) : Text :=
  match t.cut? o with
  | some (_, back) => back
  | none => []

/-! ## Lines -/

/-- What follows the last line feed of a text. -/
def lastLine (t : Text) : Text := (t.reverse.takeWhile (· != '\n')).reverse

/-- The number of line feeds in a text. -/
def newlines (t : Text) : Nat := t.count '\n'

/-- Rows passed and bytes passed in the row when a text has been read to its end. -/
def rowColumn (t : Text) : Nat × Nat := (t.newlines, t.lastLine.size)

/-- The first line of a text, without its ending (a line feed, or a carriage return and one). -/
def firstLine (t : Text) : Text :=
  let line := t.takeWhile (· != '\n')
  if line.length < t.length ∧ line.getLast? = some '\r' then line.dropLast else line

end Text
end TreeQuery
