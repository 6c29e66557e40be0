/-
  TreeQuery.Proofs.Pattern.Places

  Reading goes on. A place is at or past another when the text between them has been
  read and the offset has grown by its bytes (`Place.Upto`, `Place.Past`); every function
  of the lexical level answers such a place.

  `Scan.Reads` says how a text is read from one place to another: sign by sign, name by
  name and string by string, with blanks between them. What holds of the tokens then
  holds of everything that is made of them.
-/

import TreeQuery.Pattern.Scan

namespace TreeQuery

namespace Place

/-- `q` is `p` or lies past it: some front of the text at `p` has been read. -/
def Upto (p q : Place) : Prop :=
  ∃ front, p.rest = front ++ q.rest ∧ q.offset = p.offset + Text.size front

/-- `q` lies past `p`: some characters of the text at `p` have been read. -/
def Past (p q : Place) : Prop :=
  ∃ c front, p.rest = c :: front ++ q.rest ∧ q.offset = p.offset + Text.size (c :: front)

theorem Upto.refl (p : Place) : p.Upto p := ⟨[], rfl, rfl⟩

theorem Past.upto {p q : Place} (h : p.Past q) : p.Upto q := by
  obtain ⟨c, front, hrest, hoffset⟩ := h
  exact ⟨c :: front, hrest, hoffset⟩

theorem Upto.trans {p q r : Place} (hpq : p.Upto q) (hqr : q.Upto r) : p.Upto r := by
  obtain ⟨front, hp, hq⟩ := hpq
  obtain ⟨front', hq', hr⟩ := hqr
  refine ⟨front ++ front', ?_, ?_⟩
  · rw [hp, hq', List.append_assoc]
  · rw [hr, hq, Text.size_append, Nat.add_assoc]

theorem Past.trans_upto {p q r : Place} (hpq : p.Past q) (hqr : q.Upto r) : p.Past r := by
  obtain ⟨c, front, hp, hq⟩ := hpq
  obtain ⟨front', hq', hr⟩ := hqr
  refine ⟨c, front ++ front', ?_, ?_⟩
  · rw [hp, hq']
    simp
  · rw [hr, hq]
    simp [Nat.add_assoc]

theorem Past.trans {p q r : Place} (hpq : p.Past q) (hqr : q.Past r) : p.Past r :=
  hpq.trans_upto hqr.upto

theorem Past.offset_lt {p q : Place} (h : p.Past q) : p.offset < q.offset := by
  obtain ⟨c, front, -, hoffset⟩ := h
  have hc := c.utf8Size_pos
  rw [hoffset, Text.size_cons]
  omega

theorem Past.length_lt {p q : Place} (h : p.Past q) : q.rest.length < p.rest.length := by
  obtain ⟨c, front, hrest, -⟩ := h
  rw [hrest, List.length_append, List.length_cons]
  omega

/-- The place after the first character. -/
theorem past_past {p : Place} {c : Char} {rest : Text} (h : p.rest = c :: rest) :
    p.Past (past p.offset c rest) := ⟨c, [], h, rfl⟩

end Place

namespace Scan

/-- Letters and digits lie between `0` and `z`. -/
theorem toNat_of_isAlphanum {c : Char} (h : c.isAlphanum = true) :
    48 ≤ c.toNat ∧ c.toNat ≤ 122 := by
  have hranges : c.isAlphanum = (((65 ≤ c.val ∧ c.val ≤ 90) || (97 ≤ c.val && c.val ≤ 122)) ||
      (48 ≤ c.val && c.val ≤ 57)) := rfl
  simp only [hranges, Bool.or_eq_true, Bool.and_eq_true, decide_eq_true_eq,
    UInt32.le_iff_toNat_le] at h
  rw [Char.toNat]
  rcases h with (⟨hlo, hhi⟩ | ⟨hlo, hhi⟩) | ⟨hlo, hhi⟩
  all_goals exact ⟨Nat.le_trans (by decide) hlo, Nat.le_trans hhi (by decide)⟩

theorem skip_upto (inComment : Bool) (offset : Nat) (t : Text) :
    Place.Upto ⟨offset, t⟩ (skip inComment offset t) := by
  induction t generalizing inComment offset with
  | nil => exact Place.Upto.refl _
  | cons c t ih =>
    have hnext : ∀ b, Place.Upto ⟨offset, c :: t⟩ (skip b (offset + c.utf8Size) t) := fun b =>
      (Place.past_past (p := ⟨offset, c :: t⟩) rfl).upto.trans (ih b _)
    rw [skip]
    split
    · split
      · exact Place.Upto.refl _
      · exact hnext _
    · split
      · exact hnext _
      · split
        · exact hnext _
        · exact Place.Upto.refl _

theorem blanks_upto (p : Place) : p.Upto (blanks p) := skip_upto false p.offset p.rest

theorem name_past {p : Place} (h : atName p = true) : p.Past (name p).2 := by
  cases hrest : p.rest with
  | nil => simp [atName, hrest] at h
  | cons c rest =>
    have hc : continuesName c = true := by
      simp only [atName, hrest, List.head?_cons, Option.any_some] at h
      simp [continuesName, h]
    refine ⟨c, rest.takeWhile continuesName, ?_, ?_⟩
    · simp [name, hrest, hc]
    · simp [name, hrest, hc]

theorem string_past {escaped : Bool} {offset : Nat} {t text : Text} {q : Place}
    (h : string escaped offset t = some (text, q)) : Place.Past ⟨offset, t⟩ q := by
  induction t generalizing escaped offset text with
  | nil => cases h
  | cons c t ih =>
    have hfirst : Place.Past ⟨offset, c :: t⟩ ⟨offset + c.utf8Size, t⟩ := Place.past_past rfl
    rw [string] at h
    split at h
    · obtain ⟨⟨text', q'⟩, hstring, heq⟩ := Option.map_eq_some_iff.1 h
      obtain ⟨-, rfl⟩ := Prod.mk.inj heq
      exact hfirst.trans (ih hstring)
    · split at h
      · exact hfirst.trans (ih h)
      · split at h
        · obtain ⟨-, rfl⟩ := Prod.mk.inj (Option.some.inj h)
          exact hfirst
        · split at h
          · cases h
          · obtain ⟨⟨text', q'⟩, hstring, heq⟩ := Option.map_eq_some_iff.1 h
            obtain ⟨-, rfl⟩ := Prod.mk.inj heq
            exact hfirst.trans (ih hstring)

/-! ## Tokens -/

/-- Whether a character is read as a token of its own: it begins no string and no comment, and
is neither `#` nor null. -/
def isSign (c : Char) : Bool := c != '"' && c != ';' && c != '#' && c != '\x00'

/-- `q` is reached from `p` by reading tokens and the blanks after them. -/
inductive Reads : Place → Place → Prop
  | sign {p : Place} {c : Char} {rest : Text} (hrest : p.rest = c :: rest)
      (hc : isSign c = true) : Reads p (.past p.offset c rest)
  | name {p : Place} (h : atName p = true) : Reads p (name p).2
  | string {p q : Place} {rest text : Text} (hrest : p.rest = '"' :: rest)
      (h : string false (p.offset + 1) rest = some (text, q)) : Reads p q
  | blanks {p q : Place} (h : Reads p q) : Reads p (blanks q)
  | trans {p q r : Place} (hpq : Reads p q) (hqr : Reads q r) : Reads p r

theorem Reads.past {p q : Place} (h : Reads p q) : p.Past q := by
  induction h with
  | sign hrest => exact Place.past_past hrest
  | name h => exact name_past h
  | string hrest h => exact (Place.past_past hrest).trans (string_past h)
  | blanks _ ih => exact ih.trans_upto (blanks_upto _)
  | trans _ _ hpq hqr => exact hpq.trans hqr

theorem all_continuesName_name (p : Place) : (name p).1.toList.all continuesName = true := by
  rw [name, String.toList_ofList, List.all_takeWhile]

/-- A character that starts a name continues it, so the name has at least this one. -/
theorem name_ne_empty {p : Place} (h : atName p = true) : (name p).1 ≠ "" := by
  intro hempty
  have hpast := (name_past h).length_lt
  have hnil : p.rest.takeWhile continuesName = [] := by
    rwa [name, String.ofList_eq_empty_iff] at hempty
  have hrest : (name p).2.rest = p.rest := by
    have hwhole := List.takeWhile_append_dropWhile (p := continuesName) (l := p.rest)
    rwa [hnil] at hwhole
  rw [hrest] at hpast
  exact Nat.lt_irrefl _ hpast

end Scan
end TreeQuery
