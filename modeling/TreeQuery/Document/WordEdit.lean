/-
  TreeQuery.Document.WordEdit

  Edits whose numbers are words of 64 bits. Offsets follow the rule of plain edits, but
  each step of the arithmetic has to come to a word again:

  * the end of the removed bytes stops at the greatest word,
  * the difference and the sum behind it have no answer when they come to no word, and
    then `WordEdit.remap?` has none.
-/

import TreeQuery.Document.Edit

namespace TreeQuery

/-! ## Sums and differences -/

namespace Word

/-- The greatest word. -/
def greatest : UInt64 := .ofNat (UInt64.size - 1)

/-- The sum of two words, or the greatest word when the sum is past it. -/
def addStopping (a b : UInt64) : UInt64 :=
  if a.toNat + b.toNat < UInt64.size then a + b else greatest

/-- The sum of two words, if it is a word. -/
def add? (a b : UInt64) : Option UInt64 :=
  if a.toNat + b.toNat < UInt64.size then some (a + b) else none

/-- The difference of two words, if it is a word. -/
def sub? (a b : UInt64) : Option UInt64 := if b ≤ a then some (a - b) else none

end Word

/-! ## Edits -/

/-- One change of a text, in words. -/
structure WordEdit where
  start : UInt64
  removed : UInt64
  added : UInt64
  deriving DecidableEq, Repr

namespace WordEdit

/-- The same change in plain numbers. -/
def toEdit (e : WordEdit) : Edit := ⟨e.start.toNat, e.removed.toNat, e.added.toNat⟩

@[simp] theorem toEdit_start (e : WordEdit) : e.toEdit.start = e.start.toNat := rfl

@[simp] theorem toEdit_removed (e : WordEdit) : e.toEdit.removed = e.removed.toNat := rfl

@[simp] theorem toEdit_added (e : WordEdit) : e.toEdit.added = e.added.toNat := rfl

/-- Where the removed bytes end. -/
def removedEnd (e : WordEdit) : UInt64 := Word.addStopping e.start e.removed

/-- The offset after the edit, if every step comes to a word. -/
def remap? (e : WordEdit) (offset : UInt64) : Option UInt64 :=
  if offset ≤ e.start then some offset
  else if offset ≤ e.removedEnd then some e.start
  else (Word.sub? offset e.removed).bind (Word.add? · e.added)

end WordEdit
end TreeQuery
