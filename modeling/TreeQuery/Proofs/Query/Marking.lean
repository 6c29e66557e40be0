/-
  TreeQuery.Proofs.Query.Marking

  Where marks are put in, and where the bytes of a text go. A mark stands after exactly
  those `#` that lie outside strings and comments and begin an operator
  (`Marked.mem_insertions_iff`), and the marked text is the caller's text, cut at these
  places, with marks in between (`Marked.text_eq_intercalate`).

  `Marked.placeOf` is the place of a byte in the marked text. It and `Marked.toBare` make a
  Galois connection (`Marked.gc_toBare_placeOf`): an offset of the marked text maps back to
  at most `o` exactly when it does not lie past the place of byte `o`. That `toBare` undoes
  `placeOf`, keeps order, and answers the start of the name inside a mark all follow.

  * `Marked.IsClosed` says by a grammar, without a scanner, what it is for a text to end
    outside strings and comments.
  * `Marked.marks_invertible` puts everything together.
-/

import Mathlib.Order.GaloisConnection.Basic
import TreeQuery.Proofs.Query.Marked

namespace TreeQuery

namespace Text

/-! ## Parts -/

/-- The parts of a text that `offsets` make, when `passed` bytes lie before it. -/
def partsFrom (passed : Nat) : List Nat → Text → List Text
  | [], t => [t]
  | o :: offsets, t => t.before (o - passed) :: partsFrom o offsets (t.after (o - passed))

/-- The parts of a text between ascending offsets. -/
def parts (t : Text) (offsets : List Nat) : List Text := partsFrom 0 offsets t

theorem before_append_after (t : Text) (o : Nat) : t.before o ++ t.after o = t := by
  rw [before, after]
  split
  · next hcut => exact (cut?_eq_some_iff.1 hcut).1.symm
  · exact List.append_nil t

theorem flatten_partsFrom (passed : Nat) (offsets : List Nat) (t : Text) :
    (partsFrom passed offsets t).flatten = t := by
  induction offsets generalizing passed t with
  | nil => simp [partsFrom]
  | cons o offsets ih => rw [partsFrom, List.flatten_cons, ih, before_append_after]

/-- A character more in front makes the first part longer. -/
theorem partsFrom_cons {passed : Nat} (c : Char) {offsets : List Nat} (t : Text)
    (h : ∀ o ∈ offsets, ∃ front rest, t = front ++ rest ∧ o = passed + c.utf8Size + front.size) :
    ∃ part parts, partsFrom (passed + c.utf8Size) offsets t = part :: parts ∧
      partsFrom passed offsets (c :: t) = (c :: part) :: parts := by
  cases offsets with
  | nil => exact ⟨t, [], rfl, rfl⟩
  | cons o offsets =>
    -- Both first parts end at `o`, and from there on the parts are the same.
    obtain ⟨front, rest, rfl, rfl⟩ := h o List.mem_cons_self
    have hinner : passed + c.utf8Size + front.size - (passed + c.utf8Size) = front.size := by omega
    have houter : passed + c.utf8Size + front.size - passed = size (c :: front) := by
      rw [size_cons]
      omega
    rw [partsFrom, partsFrom, hinner, houter, ← List.cons_append, before_append, after_append,
      before_append, after_append]
    exact ⟨front, _, rfl, rfl⟩

end Text

/-! ## Outside strings and comments -/

namespace Zone

/-- The zone after a whole text. -/
def afterText (z : Zone) (t : Text) : Zone := t.foldl (fun z c => z.after c) z

@[simp] theorem afterText_nil (z : Zone) : z.afterText [] = z := rfl

@[simp] theorem afterText_cons (z : Zone) (c : Char) (t : Text) :
    z.afterText (c :: t) = (z.after c).afterText t := rfl

theorem afterText_append (z : Zone) (s t : Text) :
    z.afterText (s ++ t) = (z.afterText s).afterText t := List.foldl_append

end Zone

namespace Marked

/-- What can stand between the quotes of a string: characters other than a quote, where a
backslash takes any character after it along. -/
inductive IsQuoted : Text → Prop
  | nil : IsQuoted []
  | char {c : Char} {t : Text} (hquote : c ≠ '"') (hbackslash : c ≠ '\\') (h : IsQuoted t) :
      IsQuoted (c :: t)
  | escape (c : Char) {t : Text} (h : IsQuoted t) : IsQuoted ('\\' :: c :: t)

/-- A text whose strings and comments are all at their end: it is made of characters that
begin neither, of whole strings, and of whole comments with the line feed after them. -/
inductive IsClosed : Text → Prop
  | nil : IsClosed []
  | char {c : Char} {t : Text} (hquote : c ≠ '"') (hcomment : c ≠ ';') (h : IsClosed t) :
      IsClosed (c :: t)
  | string {body t : Text} (hbody : IsQuoted body) (h : IsClosed t) :
      IsClosed ('"' :: (body ++ '"' :: t))
  | comment {body t : Text} (hbody : '\n' ∉ body) (h : IsClosed t) :
      IsClosed (';' :: (body ++ '\n' :: t))

theorem IsQuoted.afterText_eq {body : Text} (h : IsQuoted body) :
    Zone.string.afterText body = .string := by
  induction h with
  | nil => rfl
  | char hquote hbackslash _ ih =>
    rw [Zone.afterText_cons, Zone.after, if_neg hbackslash, if_neg hquote, ih]
  | escape c _ ih => exact ih

theorem afterText_comment {body : Text} (h : '\n' ∉ body) :
    Zone.comment.afterText body = .comment := by
  induction body with
  | nil => rfl
  | cons c body ih =>
    rw [List.mem_cons, not_or] at h
    rw [Zone.afterText_cons, Zone.after, if_neg (Ne.symm h.1), ih h.2]

theorem IsClosed.afterText_eq {t : Text} (h : IsClosed t) : Zone.plain.afterText t = .plain := by
  induction h with
  | nil => rfl
  | char hquote hcomment _ ih =>
    rw [Zone.afterText_cons, Zone.after, if_neg hquote, if_neg hcomment, ih]
  | string hbody _ ih =>
    show Zone.string.afterText _ = _
    rw [Zone.afterText_append, hbody.afterText_eq]
    exact ih
  | comment hbody _ ih =>
    show Zone.comment.afterText _ = _
    rw [Zone.afterText_append, afterText_comment hbody]
    exact ih

/-- A string that ends has a closing quote; after a backslash one more character is taken. -/
theorem exists_quoted (t : Text) :
    (Zone.string.afterText t = .plain →
      ∃ body rest, t = body ++ '"' :: rest ∧ IsQuoted body ∧ Zone.plain.afterText rest = .plain) ∧
    (Zone.escaped.afterText t = .plain →
      ∃ c body rest, t = c :: (body ++ '"' :: rest) ∧ IsQuoted body ∧
        Zone.plain.afterText rest = .plain) := by
  induction t with
  | nil => exact ⟨nofun, nofun⟩
  | cons c t ih =>
    obtain ⟨hstring, hescaped⟩ := ih
    constructor
    · intro h
      by_cases hbackslash : c = '\\'
      · subst hbackslash
        obtain ⟨d, body, rest, rfl, hbody, hrest⟩ := hescaped h
        exact ⟨'\\' :: d :: body, rest, rfl, .escape d hbody, hrest⟩
      · by_cases hquote : c = '"'
        · subst hquote
          exact ⟨[], t, rfl, .nil, h⟩
        · rw [Zone.afterText_cons, Zone.after, if_neg hbackslash, if_neg hquote] at h
          obtain ⟨body, rest, rfl, hbody, hrest⟩ := hstring h
          exact ⟨c :: body, rest, rfl, .char hquote hbackslash hbody, hrest⟩
    · intro h
      obtain ⟨body, rest, rfl, hbody, hrest⟩ := hstring h
      exact ⟨c, body, rest, rfl, hbody, hrest⟩

theorem exists_comment {t : Text} (h : Zone.comment.afterText t = .plain) :
    ∃ body rest, t = body ++ '\n' :: rest ∧ '\n' ∉ body ∧ Zone.plain.afterText rest = .plain := by
  induction t with
  | nil => cases h
  | cons c t ih =>
    by_cases hc : c = '\n'
    · subst hc
      exact ⟨[], t, rfl, List.not_mem_nil, h⟩
    · rw [Zone.afterText_cons, Zone.after, if_neg hc] at h
      obtain ⟨body, rest, rfl, hbody, hrest⟩ := ih h
      refine ⟨c :: body, rest, rfl, ?_, hrest⟩
      rw [List.mem_cons, not_or]
      exact ⟨Ne.symm hc, hbody⟩

/-- The scanner's zones say what the grammar says. -/
theorem isClosed_iff {t : Text} : IsClosed t ↔ Zone.plain.afterText t = .plain := by
  refine ⟨IsClosed.afterText_eq, fun h => ?_⟩
  -- By induction on the length: a string or a comment is taken off as a whole.
  induction hlength : t.length using Nat.strongRecOn generalizing t with
  | ind length ih =>
    cases t with
    | nil => exact .nil
    | cons c t =>
      by_cases hquote : c = '"'
      · subst hquote
        obtain ⟨body, rest, rfl, hbody, hrest⟩ := (exists_quoted t).1 h
        have hshort : rest.length < length := by
          rw [← hlength]
          simp only [List.length_cons, List.length_append]
          omega
        exact .string hbody (ih _ hshort hrest rfl)
      · by_cases hcomment : c = ';'
        · subst hcomment
          obtain ⟨body, rest, rfl, hbody, hrest⟩ := exists_comment h
          have hshort : rest.length < length := by
            rw [← hlength]
            simp only [List.length_cons, List.length_append]
            omega
          exact .comment hbody (ih _ hshort hrest rfl)
        · rw [Zone.afterText_cons, Zone.after, if_neg hquote, if_neg hcomment] at h
          have hshort : t.length < length := by
            rw [← hlength, List.length_cons]
            omega
          exact .char hquote hcomment (ih _ hshort h rfl)

/-! ## Where marks are put in -/

/-- Whether a mark is put in after the character `c`. -/
def marksAfter (z : Zone) (c : Char) (rest : Text) : Prop :=
  z = .plain ∧ c = '#' ∧ startsOperator rest = true

instance (z : Zone) (c : Char) (rest : Text) : Decidable (marksAfter z c rest) :=
  inferInstanceAs (Decidable (_ ∧ _ ∧ _))

theorem markFrom_cons (z : Zone) (c : Char) (t : Text) :
    markFrom z (c :: t) =
      c :: ((if marksAfter z c t then operatorMark else []) ++ markFrom (z.after c) t) := by
  rw [markFrom]
  by_cases h : marksAfter z c t
  · rw [if_pos h]
    exact if_pos h
  · rw [if_neg h]
    exact if_neg h

theorem insertionsFrom_cons (z : Zone) (o : Nat) (c : Char) (t : Text) :
    insertionsFrom z o (c :: t) =
      (if marksAfter z c t then [o + c.utf8Size] else []) ++
        insertionsFrom (z.after c) (o + c.utf8Size) t := by
  rw [insertionsFrom]
  by_cases h : marksAfter z c t
  · rw [if_pos h]
    exact if_pos h
  · rw [if_neg h]
    exact if_neg h

/-- `front` ends with a `#` outside strings and comments, and `rest` begins with a character
that is neither a blank nor `)`. -/
def OpensOperator (front rest : Text) : Prop :=
  ∃ before c more, front = before ++ ['#'] ∧ IsClosed before ∧ rest = c :: more ∧
    isBlank c = false ∧ c ≠ ')'

theorem startsOperator_iff {rest : Text} :
    startsOperator rest = true ↔ ∃ c more, rest = c :: more ∧ isBlank c = false ∧ c ≠ ')' := by
  cases rest with
  | nil => simp [startsOperator]
  | cons c more => simp [startsOperator]

theorem mem_insertionsFrom_iff {z : Zone} {o i : Nat} {t : Text} :
    i ∈ insertionsFrom z o t ↔ ∃ before rest, t = before ++ '#' :: rest ∧
      z.afterText before = .plain ∧ startsOperator rest = true ∧ i = o + before.size + 1 := by
  induction t generalizing z o with
  | nil => simp [insertionsFrom]
  | cons c t ih =>
    -- The mark of the first character, or a mark behind it.
    have hcases : i ∈ insertionsFrom z o (c :: t) ↔
        marksAfter z c t ∧ i = o + c.utf8Size ∨
          i ∈ insertionsFrom (z.after c) (o + c.utf8Size) t := by
      rw [insertionsFrom_cons, List.mem_append]
      split <;> simp [*]
    rw [hcases, ih]
    constructor
    · rintro (⟨⟨rfl, rfl, hstart⟩, rfl⟩ | ⟨before, rest, rfl, hzone, hstart, rfl⟩)
      · exact ⟨[], t, rfl, rfl, hstart, rfl⟩
      · refine ⟨c :: before, rest, rfl, hzone, hstart, ?_⟩
        rw [Text.size_cons, Nat.add_assoc o]
    · rintro ⟨before, rest, heq, hzone, hstart, rfl⟩
      cases before with
      | nil =>
        obtain ⟨rfl, rfl⟩ := List.cons.inj heq
        exact Or.inl ⟨⟨hzone, rfl, hstart⟩, rfl⟩
      | cons d before =>
        obtain ⟨rfl, rfl⟩ := List.cons.inj heq
        refine Or.inr ⟨before, rest, rfl, hzone, hstart, ?_⟩
        rw [Text.size_cons]
        omega

/-- **Where marks stand.** They are put in after the `#` of each operator, and nowhere else. -/
theorem mem_insertions_iff {t : Text} {i : Nat} :
    i ∈ (ofText t).insertions ↔
      ∃ front rest, t = front ++ rest ∧ front.size = i ∧ OpensOperator front rest := by
  have hwidth : Text.size ['#'] = 1 := rfl
  refine mem_insertionsFrom_iff.trans ⟨?_, ?_⟩
  · rintro ⟨before, rest, rfl, hzone, hstart, rfl⟩
    obtain ⟨c, more, rfl, hblank, hparen⟩ := startsOperator_iff.1 hstart
    refine ⟨before ++ ['#'], c :: more, by simp, ?_, before, c, more, rfl, isClosed_iff.2 hzone,
      rfl, hblank, hparen⟩
    rw [Text.size_append, hwidth, Nat.zero_add]
  · rintro ⟨_, rest, rfl, rfl, before, c, more, rfl, hclosed, rfl, hblank, hparen⟩
    refine ⟨before, c :: more, by simp, hclosed.afterText_eq,
      startsOperator_iff.2 ⟨c, more, rfl, hblank, hparen⟩, ?_⟩
    rw [Text.size_append, hwidth, Nat.zero_add]

-- No mark goes into strings and comments.
example : (ofText "(#eq? @a \"#b\") ; #c".toList).insertions = [2] := by decide +kernel

theorem insertionsFrom_pairwise (z : Zone) (o : Nat) (t : Text) :
    (insertionsFrom z o t).Pairwise (· < ·) := by
  induction t generalizing z o with
  | nil => exact List.Pairwise.nil
  | cons c t ih =>
    rw [insertionsFrom_cons]
    split
    · exact List.pairwise_cons.2 ⟨fun _ hi => lt_of_mem_insertionsFrom hi, ih _ _⟩
    · exact ih _ _

/-- Marks are put in between characters. -/
theorem exists_front_of_mem_insertionsFrom {z : Zone} {o i : Nat} {t : Text}
    (h : i ∈ insertionsFrom z o t) :
    ∃ front rest, t = front ++ rest ∧ i = o + Text.size front := by
  obtain ⟨before, rest, rfl, -, -, rfl⟩ := mem_insertionsFrom_iff.1 h
  refine ⟨before ++ ['#'], rest, by simp, ?_⟩
  have hwidth : Text.size ['#'] = 1 := rfl
  rw [Text.size_append, hwidth, Nat.add_assoc]

theorem markFrom_eq_intercalate (z : Zone) (o : Nat) (t : Text) :
    markFrom z t = operatorMark.intercalate (Text.partsFrom o (insertionsFrom z o t) t) := by
  induction t generalizing z o with
  | nil => simp [markFrom, insertionsFrom, Text.partsFrom]
  | cons c t ih =>
    obtain ⟨part, parts, hinner, houter⟩ := Text.partsFrom_cons c t
      fun i hi => exists_front_of_mem_insertionsFrom (z := z.after c) (o := o + c.utf8Size) hi
    have hmore := ih (z.after c) (o + c.utf8Size)
    rw [markFrom_cons, insertionsFrom_cons]
    split
    · -- The first part is the `#` alone, and the mark follows it.
      have hbefore : Text.before (c :: t) c.utf8Size = [c] := Text.before_append [c] t
      have hafter : Text.after (c :: t) c.utf8Size = t := Text.after_append [c] t
      rw [List.singleton_append, Text.partsFrom, Nat.add_sub_cancel_left, hbefore, hafter, hinner,
        List.intercalate_cons_cons, ← hinner, ← hmore]
      rfl
    · rw [List.nil_append, List.nil_append, houter, hmore, hinner]
      cases parts with
      | nil => simp only [List.intercalate_singleton]
      | cons next parts => simp only [List.intercalate_cons_cons, List.cons_append]

/-- **Marks and parts.** The marked text is the caller's, cut at the insertions, with a mark at
    each cut. -/
theorem text_eq_intercalate (t : Text) :
    (ofText t).text = operatorMark.intercalate (t.parts (ofText t).insertions) :=
  markFrom_eq_intercalate .plain 0 t

/-! ## Places of bytes -/

/-- The place in the marked text of the byte at `o`, or of the end. -/
def placeOf (m : Marked) (o : Nat) : Nat :=
  o + operatorMark.size * m.insertions.countP (· ≤ o)

theorem size_markFrom (z : Zone) (o : Nat) (t : Text) :
    (markFrom z t).size = t.size + operatorMark.size * (insertionsFrom z o t).length := by
  induction t generalizing z o with
  | nil => rfl
  | cons c t ih =>
    rw [markFrom_cons, insertionsFrom_cons, Text.size_cons, Text.size_cons, Text.size_append,
      ih (z.after c) (o + c.utf8Size), List.length_append, Nat.mul_add]
    split
    · rw [List.length_singleton, Nat.mul_one]
      omega
    · rw [List.length_nil, Nat.mul_zero, Text.size_nil]
      omega

theorem countP_le_eq_zero {o : Nat} {offsets : List Nat} (h : ∀ i ∈ offsets, o < i) :
    offsets.countP (· ≤ o) = 0 := by
  rw [List.countP_eq_zero]
  intro i hi
  rw [decide_eq_true_iff]
  exact Nat.not_le_of_lt (h i hi)

theorem countP_le_mono {o o' : Nat} (ho : o ≤ o') (offsets : List Nat) :
    offsets.countP (· ≤ o) ≤ offsets.countP (· ≤ o') := by
  refine List.countP_mono_left fun i _ hi => ?_
  rw [decide_eq_true_iff] at hi ⊢
  omega

theorem countP_insertionsFrom_eq_zero {z : Zone} {o n : Nat} {t : Text} (h : n ≤ o) :
    (insertionsFrom z o t).countP (· ≤ n) = 0 :=
  countP_le_eq_zero fun _ hi => Nat.lt_of_le_of_lt h (lt_of_mem_insertionsFrom hi)

theorem bytes_markFrom (z : Zone) (o n : Nat) (t : Text) (hn : n < t.size) :
    (markFrom z t).bytes[n + operatorMark.size * (insertionsFrom z o t).countP (· ≤ o + n)]? =
      t.bytes[n]? := by
  induction t generalizing z o n with
  | nil => exact absurd hn (Nat.not_lt_zero n)
  | cons c t ih =>
    have hwidth := String.length_utf8EncodeChar c
    rw [markFrom_cons, insertionsFrom_cons, List.countP_append, Text.bytes_cons, Text.bytes_cons]
    by_cases hfirst : n < c.utf8Size
    · -- No mark stands inside a character.
      have hown : (if marksAfter z c t then [o + c.utf8Size] else []).countP (· ≤ o + n) = 0 := by
        split
        · simp only [List.countP_singleton, Nat.add_le_add_iff_left, decide_eq_true_iff]
          rw [if_neg (by omega)]
        · rfl
      rw [hown, countP_insertionsFrom_eq_zero (by omega), Nat.add_zero, Nat.mul_zero, Nat.add_zero,
        List.getElem?_append_left (by omega), List.getElem?_append_left (by omega)]
    · -- The byte belongs to the rest, which stands behind the character and its mark.
      obtain ⟨k, rfl⟩ := Nat.exists_eq_add_of_le (Nat.le_of_not_lt hfirst)
      rw [Text.size_cons] at hn
      have hmore := ih (z.after c) (o + c.utf8Size) k (by omega)
      rw [Nat.add_assoc] at hmore
      have hrest : (String.utf8EncodeChar c ++ Text.bytes t)[c.utf8Size + k]? =
          (Text.bytes t)[k]? := by
        rw [List.getElem?_append_right (by omega), hwidth, Nat.add_sub_cancel_left]
      rw [hrest, ← hmore, List.getElem?_append_right (by omega), Text.bytes_append, hwidth]
      split
      · have hmark : operatorMark.bytes.length = operatorMark.size := Text.length_bytes _
        have hone : [o + c.utf8Size].countP (· ≤ o + (c.utf8Size + k)) = 1 := by
          simp
        rw [hone, Nat.mul_add, Nat.mul_one, List.getElem?_append_right (by omega)]
        congr 1
        omega
      · rw [Text.bytes_nil, List.nil_append, List.countP_nil, Nat.zero_add]
        congr 1
        omega

/-- **Bytes.** Each byte of the caller's text stands at its place. -/
theorem bytes_placeOf {t : Text} {o : Nat} (ho : o < t.size) :
    (ofText t).text.bytes[(ofText t).placeOf o]? = t.bytes[o]? := by
  have h := bytes_markFrom .plain 0 o t ho
  rwa [Nat.zero_add] at h

theorem placeOf_size (t : Text) : (ofText t).placeOf t.size = (ofText t).text.size := by
  have hall : (ofText t).insertions.countP (· ≤ t.size) = (ofText t).insertions.length := by
    rw [List.countP_eq_length]
    intro i hi
    obtain ⟨front, rest, rfl, rfl⟩ := exists_front_of_mem_insertionsFrom hi
    rw [decide_eq_true_iff, Text.size_append]
    omega
  rw [placeOf, hall]
  exact (size_markFrom .plain 0 t).symm

theorem exists_mark {z : Zone} {o i : Nat} {t : Text} (hi : i ∈ insertionsFrom z o t) :
    ∃ front rest, markFrom z t = front ++ operatorMark ++ rest ∧
      o + Text.size front + operatorMark.size =
        i + operatorMark.size * (insertionsFrom z o t).countP (· ≤ i) := by
  induction t generalizing z o with
  | nil => cases hi
  | cons c t ih =>
    rw [insertionsFrom_cons, List.mem_append] at hi
    rw [markFrom_cons, insertionsFrom_cons, List.countP_append]
    rcases hi with hown | hlater
    · -- The mark right after the first character.
      by_cases hmark : marksAfter z c t
      · rw [if_pos hmark, List.mem_singleton] at hown
        subst hown
        refine ⟨[c], markFrom (z.after c) t, by rw [if_pos hmark]; simp, ?_⟩
        rw [countP_insertionsFrom_eq_zero le_rfl, if_pos hmark]
        simp
      · rw [if_neg hmark] at hown
        cases hown
    · have hlt := lt_of_mem_insertionsFrom hlater
      obtain ⟨front, rest, hmarked, hsize⟩ := ih hlater
      refine ⟨c :: ((if marksAfter z c t then operatorMark else []) ++ front), rest, ?_, ?_⟩
      · rw [hmarked]
        simp only [List.cons_append, List.append_assoc]
      · rw [Text.size_cons, Text.size_append, Nat.mul_add]
        split
        · have hone : [o + c.utf8Size].countP (· ≤ i) = 1 := by
            simpa using Nat.le_of_lt hlt
          rw [hone]
          omega
        · rw [Text.size_nil, List.countP_nil]
          omega

/-- **Marks.** Right before the place of an operator's name stands a mark. -/
theorem slice?_mark {t : Text} {i : Nat} (hi : i ∈ (ofText t).insertions) :
    (ofText t).text.slice? ((ofText t).placeOf i - operatorMark.size) ((ofText t).placeOf i) =
      some operatorMark := by
  obtain ⟨front, rest, hmarked, hsize⟩ := exists_mark hi
  have hplace : Text.size front + operatorMark.size = (ofText t).placeOf i := by
    rw [Nat.zero_add] at hsize
    exact hsize
  exact Text.slice?_eq_some_iff.2 ⟨front, rest, hmarked, by omega, by omega⟩

/-! ## Back and forth -/

theorem mapBack_le_iff {offset shift o : Nat} {insertions : List Nat}
    (h : insertions.Pairwise (· < ·)) :
    mapBack offset shift insertions ≤ o ↔
      offset ≤ o + shift + operatorMark.size * insertions.countP (· ≤ o) := by
  induction insertions generalizing shift with
  | nil =>
    rw [mapBack, List.countP_nil]
    omega
  | cons i insertions ih =>
    obtain ⟨hfirst, hlater⟩ := List.pairwise_cons.1 h
    have hih : mapBack offset (shift + operatorMark.size) insertions ≤ o ↔
        offset ≤ o + (shift + operatorMark.size) + operatorMark.size * insertions.countP (· ≤ o) :=
      ih hlater
    have hmark : operatorMark.size = 7 := by decide
    rw [mapBack, List.countP_cons]
    rw [hmark] at hih ⊢
    -- The offset lies before the first mark, inside it or behind it; `o` before it or behind it.
    by_cases hi : i ≤ o
    · have hone : (if decide (i ≤ o) = true then 1 else 0) = 1 := if_pos (decide_eq_true hi)
      rw [hone]
      split
      · omega
      · split
        · omega
        · omega
    · -- No later mark lies before `o` either.
      have hnone : insertions.countP (· ≤ o) = 0 :=
        countP_le_eq_zero fun j hj => Nat.lt_trans (Nat.lt_of_not_le hi) (hfirst j hj)
      have hzero : (if decide (i ≤ o) = true then 1 else 0) = 0 := if_neg (by simpa using hi)
      rw [hnone] at hih ⊢
      rw [hzero]
      split
      · omega
      · split
        · omega
        · omega

/-- **Back and forth.** An offset maps back to at most `o` exactly when it is at most the place of
    the byte at `o`. -/
theorem gc_toBare_placeOf (t : Text) : GaloisConnection (ofText t).toBare (ofText t).placeOf :=
  fun _ _ => mapBack_le_iff (insertionsFrom_pairwise .plain 0 t)

theorem placeOf_strictMono (m : Marked) : StrictMono m.placeOf := by
  intro o o' ho
  have hcount := countP_le_mono (Nat.le_of_lt ho) m.insertions
  have hmarks := Nat.mul_le_mul_left operatorMark.size hcount
  show o + _ < o' + _
  omega

theorem toBare_placeOf (t : Text) (o : Nat) : (ofText t).toBare ((ofText t).placeOf o) = o := by
  have hgc := gc_toBare_placeOf t
  have hle : (ofText t).toBare ((ofText t).placeOf o) ≤ o := (hgc _ _).2 le_rfl
  refine Nat.le_antisymm hle ?_
  exact (placeOf_strictMono _).le_iff_le.1 ((hgc _ _).1 le_rfl)

/-- The bytes of a mark stand before the place of the name after it, and behind the places of all
earlier bytes. -/
theorem placeOf_lt_of_mem_insertions {m : Marked} {i o : Nat} (hi : i ∈ m.insertions)
    (ho : o < i) : m.placeOf o + operatorMark.size < m.placeOf i := by
  obtain ⟨earlier, later, heq⟩ := List.append_of_mem hi
  have hearlier := countP_le_mono (Nat.le_of_lt ho) earlier
  have hlater := countP_le_mono (Nat.le_of_lt ho) later
  -- The mark at `i` itself is counted at `i` and not at `o`.
  have hcount : m.insertions.countP (· ≤ o) + 1 ≤ m.insertions.countP (· ≤ i) := by
    rw [heq, List.countP_append, List.countP_append, List.countP_cons_of_neg (by simpa using ho),
      List.countP_cons_of_pos (p := fun j => decide (j ≤ i)) (by simp)]
    omega
  have hmarks := Nat.mul_le_mul_left operatorMark.size hcount
  rw [Nat.mul_succ] at hmarks
  rw [placeOf, placeOf]
  omega

/-- Inside a mark, an offset maps back to the start of the operator's name. -/
theorem toBare_of_inside {t : Text} {i q : Nat} (hi : i ∈ (ofText t).insertions)
    (hfrom : (ofText t).placeOf i - operatorMark.size ≤ q) (hto : q < (ofText t).placeOf i) :
    (ofText t).toBare q = i := by
  have hgc := gc_toBare_placeOf t
  have hle : (ofText t).toBare q ≤ i := (hgc _ _).2 (Nat.le_of_lt hto)
  refine Nat.le_antisymm hle (Nat.le_of_not_lt fun hlt => ?_)
  -- If it went to a byte before the name, it would stand at the place of that byte at the latest.
  have hq : q ≤ (ofText t).placeOf ((ofText t).toBare q) := (hgc _ _).1 le_rfl
  have hgap := placeOf_lt_of_mem_insertions hi hlt
  omega

/-- **Marks can be undone.** Marks are put in after exactly those `#` that lie outside strings
    and comments and before a character that is neither a blank nor `)`, and the text without
    them is the caller's. Each byte of the caller's text has its place among the marks, from
    which it is mapped back; the offsets inside a mark are mapped to the start of the name after
    it, and offsets keep their order. -/
theorem marks_invertible (t : Text) :
    (ofText t).insertions.Pairwise (· < ·) ∧
    (∀ i, i ∈ (ofText t).insertions ↔
      ∃ front rest, t = front ++ rest ∧ front.size = i ∧ OpensOperator front rest) ∧
    (ofText t).text = operatorMark.intercalate (t.parts (ofText t).insertions) ∧
    (t.parts (ofText t).insertions).flatten = t ∧
    (∀ o < t.size, (ofText t).text.bytes[(ofText t).placeOf o]? = t.bytes[o]?) ∧
    (ofText t).placeOf t.size = (ofText t).text.size ∧
    (∀ o ≤ t.size, (ofText t).toBare ((ofText t).placeOf o) = o) ∧
    (∀ i ∈ (ofText t).insertions,
      (ofText t).text.slice? ((ofText t).placeOf i - operatorMark.size) ((ofText t).placeOf i) =
          some operatorMark ∧
        ∀ q, (ofText t).placeOf i - operatorMark.size ≤ q → q < (ofText t).placeOf i →
          (ofText t).toBare q = i) ∧
    (∀ q q', q ≤ q' → (ofText t).toBare q ≤ (ofText t).toBare q') ∧
    ∀ q ≤ (ofText t).text.size, (ofText t).toBare q ≤ t.size := by
  have hgc := gc_toBare_placeOf t
  refine ⟨insertionsFrom_pairwise .plain 0 t, fun _ => mem_insertions_iff, text_eq_intercalate t,
    Text.flatten_partsFrom _ _ _, fun _ => bytes_placeOf, placeOf_size t,
    fun o _ => toBare_placeOf t o, fun i hi => ⟨slice?_mark hi, fun q => toBare_of_inside hi⟩,
    fun q q' hq => hgc.monotone_l hq, fun q hq => ?_⟩
  rw [← placeOf_size] at hq
  exact (hgc q t.size).2 hq

end Marked
end TreeQuery
