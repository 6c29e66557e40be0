/-
  TreeQuery.Proofs.Document.Words

  Offsets worked out in words. The rule for offsets is stated once for all integers
  (`Edit.image`), and what an edit in words answers is held against it.

  * The end of the removed bytes may stop at the greatest word: no offset is past it then
    (`WordEdit.removedEnd_lt_iff`).
  * The difference is a word wherever it is taken (`WordEdit.removed_le`), so only the last
    sum can come to no word. It does exactly when the value of the rule is none
    (`WordEdit.remap?_eq_some_iff`, `WordEdit.exists_remap?_iff`).
  * Offsets keep their order as far as they have answers (`WordEdit.remap?_mono`).

  `WordEdit.remap_answers` puts these together and says for which edits every offset has
  an answer. Those of a text always have one while the new text can be measured in words
  (`WordEdit.exists_remap?_of_text`).
-/

import TreeQuery.Document.WordEdit

namespace TreeQuery

/-! ## The rule -/

namespace Edit

/-- Where the rule puts an offset, among all integers: up to the start it stays, past the start
    and up to the end of the removed bytes it goes to the start, and past that end it shifts by
    what was added less what was removed. -/
def image (e : Edit) (offset : Nat) : Int :=
  if offset ≤ e.start then offset
  else if offset ≤ e.start + e.removed then e.start
  else offset + ((e.added : Int) - e.removed)

/-- Plain numbers follow the rule. -/
theorem remap_eq_image (e : Edit) (offset : Nat) : (e.remap offset : Int) = e.image offset := by
  unfold remap image
  split
  · rfl
  · split
    · rfl
    · omega

theorem image_mono (e : Edit) {p q : Nat} (h : p ≤ q) : e.image p ≤ e.image q := by
  have hremap : e.remap p ≤ e.remap q := e.remap_mono h
  rw [← remap_eq_image, ← remap_eq_image]
  exact Int.ofNat_le.mpr hremap

/-- Up to the end of the removed bytes no offset goes up. -/
theorem image_le (e : Edit) {p : Nat} (h : p ≤ e.start + e.removed) : e.image p ≤ p := by
  unfold image
  split <;> omega

theorem image_past (e : Edit) {p : Nat} (h : e.start + e.removed < p) :
    e.image p = p + ((e.added : Int) - e.removed) := by
  have hstart : ¬ p ≤ e.start := by omega
  rw [image, if_neg hstart, if_neg (Nat.not_le.mpr h)]

end Edit

/-! ## Sums and differences -/

namespace Word

variable {a b c : UInt64}

theorem toNat_greatest : greatest.toNat = UInt64.size - 1 := by decide

theorem toNat_addStopping (a b : UInt64) :
    (addStopping a b).toNat = min (a.toNat + b.toNat) (UInt64.size - 1) := by
  unfold addStopping
  split
  · next h =>
    have hsum : (a + b).toNat = a.toNat + b.toNat := by
      rw [UInt64.toNat_add]
      exact Nat.mod_eq_of_lt h
    omega
  · have hgreatest := toNat_greatest
    omega

theorem sub?_eq_some (h : b ≤ a) : sub? a b = some (a - b) := if_pos h

theorem add?_eq_some_iff : add? a b = some c ↔ c.toNat = a.toNat + b.toNat := by
  have hc : c.toNat < UInt64.size := c.toNat_lt_size
  unfold add?
  split
  · next h =>
    have hsum : (a + b).toNat = a.toNat + b.toNat := by
      rw [UInt64.toNat_add]
      exact Nat.mod_eq_of_lt h
    rw [Option.some_inj, ← UInt64.toNat_inj, hsum]
    exact eq_comm
  · refine iff_of_false nofun ?_
    omega

theorem add?_eq_none_iff : add? a b = none ↔ UInt64.size ≤ a.toNat + b.toNat := by
  unfold add?
  split
  · next h => exact iff_of_false nofun (Nat.not_le.mpr h)
  · next h => exact iff_of_true rfl (Nat.not_lt.mp h)

end Word

/-! ## Edits in words -/

namespace WordEdit

variable {e : WordEdit} {p q : UInt64}

/-- No offset is past an end that has stopped at the greatest word. -/
theorem removedEnd_lt_iff : e.removedEnd < p ↔ e.start.toNat + e.removed.toNat < p.toNat := by
  have hp : p.toNat < UInt64.size := p.toNat_lt_size
  have hend : e.removedEnd.toNat = min (e.start.toNat + e.removed.toNat) (UInt64.size - 1) :=
    Word.toNat_addStopping e.start e.removed
  rw [UInt64.lt_iff_toNat_lt]
  omega

/-- The difference is a word wherever it is taken. -/
theorem removed_le (h : e.removedEnd < p) : e.removed ≤ p := by
  have hpast := removedEnd_lt_iff.mp h
  rw [UInt64.le_iff_toNat_le]
  omega

/-- Up to the end of the removed bytes nothing is worked out: the answer is the offset itself or
    the start of the edit, as the rule has it. -/
theorem remap?_of_le (h : p ≤ e.removedEnd) :
    ∃ q, e.remap? p = some q ∧ (q.toNat : Int) = e.toEdit.image p.toNat := by
  have hend : ¬ e.start.toNat + e.removed.toNat < p.toNat :=
    mt removedEnd_lt_iff.mpr (UInt64.not_lt.mpr h)
  by_cases hstart : p ≤ e.start
  · have hnat : p.toNat ≤ e.toEdit.start := UInt64.le_iff_toNat_le.mp hstart
    refine ⟨p, if_pos hstart, ?_⟩
    rw [Edit.image, if_pos hnat]
  · have hnat : ¬ p.toNat ≤ e.toEdit.start := mt UInt64.le_iff_toNat_le.mpr hstart
    have hinside : p.toNat ≤ e.toEdit.start + e.toEdit.removed := Nat.not_lt.mp hend
    refine ⟨e.start, ?_, ?_⟩
    · rw [remap?, if_neg hstart, if_pos h]
    · rw [Edit.image, if_neg hnat, if_pos hinside, toEdit_start]

/-- Past it, the removed bytes are taken off, which never fails, and the added ones put on. -/
theorem remap?_past (h : e.removedEnd < p) :
    e.remap? p = Word.add? (p - e.removed) e.added := by
  have hpast := removedEnd_lt_iff.mp h
  have hstart : ¬ p ≤ e.start := by
    rw [UInt64.le_iff_toNat_le]
    omega
  rw [remap?, if_neg hstart, if_neg (UInt64.not_le.mpr h), Word.sub?_eq_some (removed_le h),
    Option.bind_some]

/-- The sum past the removed bytes is the value of the rule. -/
theorem image_eq_sum (h : e.removedEnd < p) :
    e.toEdit.image p.toNat = (p - e.removed).toNat + e.added.toNat := by
  have hle : e.removed.toNat ≤ p.toNat := UInt64.le_iff_toNat_le.mp (removed_le h)
  have hsub : (p - e.removed).toNat = p.toNat - e.removed.toNat :=
    UInt64.toNat_sub_of_le p e.removed (removed_le h)
  rw [e.toEdit.image_past (removedEnd_lt_iff.mp h), toEdit_added, toEdit_removed]
  omega

/-- **What an offset is sent to.** An offset has an answer exactly when the rule's value is a
    word, and the answer is that value. -/
theorem remap?_eq_some_iff : e.remap? p = some q ↔ (q.toNat : Int) = e.toEdit.image p.toNat := by
  by_cases hend : p ≤ e.removedEnd
  · obtain ⟨r, hremap, himage⟩ := remap?_of_le hend
    rw [hremap, Option.some_inj, ← UInt64.toNat_inj]
    omega
  · have hpast : e.removedEnd < p := UInt64.not_le.mp hend
    rw [remap?_past hpast, Word.add?_eq_some_iff, image_eq_sum hpast]
    omega

/-- The same in plain numbers. -/
theorem remap?_eq_some_iff_toNat : e.remap? p = some q ↔ q.toNat = e.toEdit.remap p.toNat := by
  rw [remap?_eq_some_iff, ← Edit.remap_eq_image, Int.natCast_inj]

/-- An offset has no answer exactly when it is past the removed bytes, which can be taken off it,
    and the added ones lead past the greatest word. -/
theorem remap?_eq_none_iff : e.remap? p = none ↔ e.removedEnd < p ∧ e.removed ≤ p ∧
    UInt64.size ≤ (p - e.removed).toNat + e.added.toNat := by
  by_cases hend : p ≤ e.removedEnd
  · obtain ⟨r, hremap, -⟩ := remap?_of_le hend
    rw [hremap]
    exact iff_of_false nofun fun h => UInt64.not_le.mpr h.1 hend
  · have hpast : e.removedEnd < p := UInt64.not_le.mp hend
    rw [remap?_past hpast, Word.add?_eq_none_iff]
    exact ⟨fun hsum => ⟨hpast, removed_le hpast, hsum⟩, fun h => h.2.2⟩

theorem exists_remap?_iff :
    (∃ q, e.remap? p = some q) ↔ e.toEdit.image p.toNat < UInt64.size := by
  constructor
  · rintro ⟨q, hq⟩
    have hword : q.toNat < UInt64.size := q.toNat_lt_size
    have hvalue := remap?_eq_some_iff.mp hq
    omega
  · intro himage
    have hnot : ¬ e.remap? p = none := by
      intro hnone
      obtain ⟨hpast, -, hsum⟩ := remap?_eq_none_iff.mp hnone
      have hvalue := image_eq_sum hpast
      omega
    exact Option.ne_none_iff_exists'.mp hnot

/-- Where an offset has an answer, those before it have answers that are no greater. -/
theorem remap?_mono (h : p ≤ q) {q' : UInt64} (hq : e.remap? q = some q') :
    ∃ p', e.remap? p = some p' ∧ p' ≤ q' := by
  have himage : e.toEdit.image p.toNat ≤ e.toEdit.image q.toNat :=
    e.toEdit.image_mono (UInt64.le_iff_toNat_le.mp h)
  have hq' : (q'.toNat : Int) = e.toEdit.image q.toNat := remap?_eq_some_iff.mp hq
  have hword : q'.toNat < UInt64.size := q'.toNat_lt_size
  obtain ⟨p', hp⟩ := exists_remap?_iff.mpr (show e.toEdit.image p.toNat < UInt64.size by omega)
  have hp' : (p'.toNat : Int) = e.toEdit.image p.toNat := remap?_eq_some_iff.mp hp
  refine ⟨p', hp, ?_⟩
  rw [UInt64.le_iff_toNat_le]
  omega

/-! ## Edits that have answers for every offset -/

/-- Every offset has an answer without leaving the words, the answer is the rule's, and answers
    are in the order of the offsets. -/
structure IsExact (e : WordEdit) : Prop where
  evaluates : ∀ p, ∃ q, e.remap? p = some q
  follows : ∀ p q, e.remap? p = some q → (q.toNat : Int) = e.toEdit.image p.toNat
  monotone : ∀ p q p' q', p ≤ q → e.remap? p = some p' → e.remap? q = some q' → p' ≤ q'

theorem isExact_of_evaluates (h : ∀ p, ∃ q, e.remap? p = some q) : e.IsExact where
  evaluates := h
  follows _ _ := remap?_eq_some_iff.mp
  monotone p q p' q' hpq hp hq := by
    obtain ⟨r, hr, hle⟩ := remap?_mono hpq hq
    cases hp.symm.trans hr
    exact hle

/-- Edits that do not make a text longer have answers for every offset, and so have those whose
    removed bytes leave no offset past them. All others have none for the greatest offset. -/
theorem evaluates_iff : (∀ p, ∃ q, e.remap? p = some q) ↔
    e.added ≤ e.removed ∨ UInt64.size ≤ e.start.toNat + e.removed.toNat + 1 := by
  rw [UInt64.le_iff_toNat_le]
  constructor
  · intro h
    -- The greatest offset goes furthest, so it is enough to look at where it goes.
    have hgreatest : e.toEdit.image (UInt64.size - 1) < UInt64.size := by
      rw [← Word.toNat_greatest]
      exact exists_remap?_iff.mp (h Word.greatest)
    by_cases hpast : e.toEdit.start + e.toEdit.removed < UInt64.size - 1
    · rw [e.toEdit.image_past hpast] at hgreatest
      simp only [toEdit_added, toEdit_removed] at hgreatest
      exact .inl (by omega)
    · simp only [toEdit_start, toEdit_removed] at hpast
      exact .inr (by omega)
  · intro h p
    have hp : p.toNat < UInt64.size := p.toNat_lt_size
    rw [exists_remap?_iff]
    by_cases hend : p.toNat ≤ e.toEdit.start + e.toEdit.removed
    · have hle : e.toEdit.image p.toNat ≤ p.toNat := e.toEdit.image_le hend
      omega
    · have hpast : e.toEdit.start + e.toEdit.removed < p.toNat := Nat.not_le.mp hend
      rw [e.toEdit.image_past hpast]
      simp only [toEdit_start, toEdit_removed, toEdit_added] at hpast ⊢
      omega

/-- Within a text that can be measured in words before the edit and after it, every offset has an
    answer, the one of plain numbers. -/
theorem exists_remap?_of_text {n : Nat} (hp : p.toNat ≤ n)
    (hlength : n - e.removed.toNat + e.added.toNat < UInt64.size) :
    ∃ q, e.remap? p = some q ∧ q.toNat = e.toEdit.remap p.toNat := by
  have hword : p.toNat < UInt64.size := p.toNat_lt_size
  have himage : (e.toEdit.remap p.toNat : Int) = e.toEdit.image p.toNat := e.toEdit.remap_eq_image _
  have hroom : e.toEdit.image p.toNat < UInt64.size := by
    by_cases hend : p.toNat ≤ e.toEdit.start + e.toEdit.removed
    · have hle := e.toEdit.image_le hend
      omega
    · rw [e.toEdit.image_past (Nat.not_le.mp hend)]
      simp only [toEdit_start, toEdit_removed, toEdit_added] at hend ⊢
      omega
  obtain ⟨q, hq⟩ := exists_remap?_iff.mpr hroom
  have hvalue : (q.toNat : Int) = e.toEdit.image p.toNat := remap?_eq_some_iff.mp hq
  exact ⟨q, hq, by omega⟩

/-! ## All edits -/

/-- **When offsets can be worked out in words.** Every offset has an answer, the value of the
    rule in the order of the offsets, exactly for the edits that do not make a text longer or
    leave no offset past the removed bytes.

    For any edit: an offset has an answer exactly when the value of the rule is a word, and the
    answer is that value. The end of the removed bytes stops and the difference is a word, so
    the one step that can fail is the sum past the removed bytes. The offsets before one with an
    answer have answers that are no greater. In a text that can be measured in words before the
    edit and after it, every offset has an answer. -/
theorem remap_answers (e : WordEdit) :
    (e.IsExact ↔
      e.added ≤ e.removed ∨ UInt64.size ≤ e.start.toNat + e.removed.toNat + 1) ∧
    (∀ p q, e.remap? p = some q ↔ (q.toNat : Int) = e.toEdit.image p.toNat) ∧
    (∀ p, (∃ q, e.remap? p = some q) ↔ e.toEdit.image p.toNat < UInt64.size) ∧
    (∀ p, e.remap? p = none ↔ e.removedEnd < p ∧ e.removed ≤ p ∧
      UInt64.size ≤ (p - e.removed).toNat + e.added.toNat) ∧
    (∀ p q q', p ≤ q → e.remap? q = some q' → ∃ p', e.remap? p = some p' ∧ p' ≤ q') ∧
    (∀ (n : Nat) (p : UInt64), p.toNat ≤ n →
      n - e.removed.toNat + e.added.toNat < UInt64.size →
      ∃ q, e.remap? p = some q ∧ q.toNat = e.toEdit.remap p.toNat) := by
  have hexact : e.IsExact ↔
      e.added ≤ e.removed ∨ UInt64.size ≤ e.start.toNat + e.removed.toNat + 1 :=
    ⟨fun h => evaluates_iff.mp h.evaluates, fun h => isExact_of_evaluates (evaluates_iff.mpr h)⟩
  exact ⟨hexact, fun _ _ => remap?_eq_some_iff, fun _ => exists_remap?_iff,
    fun _ => remap?_eq_none_iff, fun _ _ _ hpq hq => remap?_mono hpq hq,
    fun _ _ hp hlength => exists_remap?_of_text hp hlength⟩

/-- Removing more than is added is exact, and so is an edit whose removed bytes end at the
    greatest word. Adding one byte to an empty text is not, but has answers within the text; and
    after adding two bytes at 3, the offset 4 has one, so 2 has one that is no greater. -/
theorem remap_answers_shortening : (⟨3, 4, 1⟩ : WordEdit).IsExact ∧
    (⟨5, Word.greatest, Word.greatest⟩ : WordEdit).IsExact ∧
    ¬ (⟨0, 0, 1⟩ : WordEdit).IsExact ∧
    (∃ q, (⟨0, 0, 1⟩ : WordEdit).remap? 0 = some q ∧ q.toNat = 0) ∧
    (∃ q, (⟨3, 0, 2⟩ : WordEdit).remap? 2 = some q ∧ q ≤ 6) :=
  ⟨(remap_answers ⟨3, 4, 1⟩).1.mpr (.inl (by decide)),
    (remap_answers ⟨5, Word.greatest, Word.greatest⟩).1.mpr (.inr (by decide)),
    mt (remap_answers ⟨0, 0, 1⟩).1.mp (by decide),
    (remap_answers ⟨0, 0, 1⟩).2.2.2.2.2 0 0 (by decide) (by decide),
    (remap_answers ⟨3, 0, 2⟩).2.2.2.2.1 2 4 6 (by decide) (by decide)⟩

/-- One byte more at the start: there is no word for where the greatest offset goes. -/
theorem exact_fails_adding_one : ¬ ∀ e : WordEdit, e.IsExact := by
  intro h
  obtain ⟨q, hq⟩ := (h ⟨0, 0, 1⟩).evaluates Word.greatest
  have hnone : (⟨0, 0, 1⟩ : WordEdit).remap? Word.greatest = none := by decide
  cases hnone.symm.trans hq

end WordEdit
end TreeQuery
