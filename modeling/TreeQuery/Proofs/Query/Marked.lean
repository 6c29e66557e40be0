/-
  TreeQuery.Proofs.Query.Marked

  A marked text against the text that it was made of. The reader goes through the
  marked text, and at every place that it comes to, what is left is what is left of the
  caller's text at a place there, with marks (`Marked.Mirrors`): marking and reading
  agree on where strings and comments begin and end.

  * `Marked.Mirrors.reads`: tokens are read in step.
  * `Marked.Mirrors.toBare_eq`: offsets are mapped back to the places in the caller's text.
  * `Pattern.spelled_of_read`: every clause that is read stands in the caller's text,
    with a mark before its name when it opens with `#` and without one when it opens
    with `.`.
-/

import Mathlib.Data.List.TakeWhile
import TreeQuery.Proofs.Pattern.Runs
import TreeQuery.Proofs.Text.Boundary
import TreeQuery.Query.Marked

namespace TreeQuery

namespace Marked

/-! ## Places -/

/-- `marked` is the place in the marked text of `t` that `bare` is in `t`, when `z` is the zone
there. -/
structure Mirrors (t : Text) (z : Zone) (bare marked : Place) : Prop where
  upto : Place.Upto ⟨0, t⟩ bare
  rest : marked.rest = markFrom z bare.rest
  /-- The marks that have been passed make up the difference of the offsets. -/
  passed : ∃ passed, insertionsFrom .plain 0 t = passed ++ insertionsFrom z bare.offset bare.rest ∧
    (∀ i ∈ passed, i ≤ bare.offset) ∧
    marked.offset = bare.offset + operatorMark.size * passed.length

theorem mirrors_begin (t : Text) : Mirrors t .plain ⟨0, t⟩ ⟨0, markFrom .plain t⟩ where
  upto := Place.Upto.refl _
  rest := rfl
  passed := ⟨[], rfl, nofun, rfl⟩

theorem lt_of_mem_insertionsFrom {z : Zone} {o i : Nat} {t : Text}
    (h : i ∈ insertionsFrom z o t) : o < i := by
  induction t generalizing z o with
  | nil => cases h
  | cons c t ih =>
    have hc := c.utf8Size_pos
    have hlater : i ∈ insertionsFrom (z.after c) (o + c.utf8Size) t → o < i := fun h => by
      have := ih h
      omega
    rw [insertionsFrom] at h
    split at h
    · rcases List.mem_cons.1 h with rfl | h
      · omega
      · exact hlater h
    · exact hlater h

/-- An offset behind some marks, less those marks. -/
theorem mapBack_append {passed later : List Nat} {o : Nat} (hpassed : ∀ i ∈ passed, i ≤ o)
    (hlater : ∀ i ∈ later, o < i) (shift : Nat) :
    mapBack (o + shift + operatorMark.size * passed.length) shift (passed ++ later) = o := by
  induction passed generalizing shift with
  | nil =>
    cases later with
    | nil => simp [mapBack]
    | cons i later =>
      have hi := hlater i List.mem_cons_self
      simp only [List.nil_append, List.length_nil, Nat.mul_zero, Nat.add_zero, mapBack]
      rw [if_pos (by omega)]
      omega
  | cons i passed ih =>
    have hi := hpassed i List.mem_cons_self
    have hpast : i + shift + operatorMark.size ≤
        o + shift + operatorMark.size * (passed.length + 1) := by
      rw [Nat.mul_succ]
      omega
    have hshift : o + shift + operatorMark.size * (passed.length + 1) =
        o + (shift + operatorMark.size) + operatorMark.size * passed.length := by
      rw [Nat.mul_succ]
      omega
    rw [List.length_cons, List.cons_append, mapBack, if_neg (by omega), if_neg (by omega), hshift]
    exact ih (fun j hj => hpassed j (List.mem_cons_of_mem _ hj)) _

namespace Mirrors

variable {t : Text} {z : Zone} {b m : Place}

/-- Offsets are mapped back. -/
theorem toBare_eq (h : Mirrors t z b m) : (ofText t).toBare m.offset = b.offset := by
  obtain ⟨passed, hinsertions, hpassed, hoffset⟩ := h.passed
  have hback := mapBack_append hpassed
    (fun i hi => lt_of_mem_insertionsFrom (z := z) (t := b.rest) hi) 0
  rwa [← hinsertions, Nat.add_zero, ← hoffset] at hback

/-- What is left of the caller's text. -/
theorem after_eq (h : Mirrors t z b m) : t.after b.offset = b.rest := by
  obtain ⟨front, hrest, hoffset⟩ := h.upto
  simp only [Nat.zero_add] at hrest hoffset
  rw [hoffset, hrest, Text.after_append]

theorem offset_eq (h : Mirrors t z b m) :
    m.offset = b.offset +
      operatorMark.size * (insertionsFrom .plain 0 t).countP (· ≤ b.offset) := by
  obtain ⟨passed, hinsertions, hpassed, hoffset⟩ := h.passed
  have hfront : passed.countP (· ≤ b.offset) = passed.length :=
    List.countP_eq_length.2 fun i hi => decide_eq_true (hpassed i hi)
  have hback : (insertionsFrom z b.offset b.rest).countP (· ≤ b.offset) = 0 :=
    List.countP_eq_zero.2 fun i hi => by
      have := lt_of_mem_insertionsFrom hi
      simpa using this
  rw [hinsertions, List.countP_append, hfront, hback, Nat.add_zero, hoffset]

/-- Places are in the same order in both texts. -/
theorem offset_lt {z' : Zone} {b' m' : Place} (h : Mirrors t z b m) (h' : Mirrors t z' b' m')
    (hlt : m.offset < m'.offset) : b.offset < b'.offset := by
  refine Nat.lt_of_not_le fun hle => ?_
  have hcount : (insertionsFrom .plain 0 t).countP (· ≤ b'.offset) ≤
      (insertionsFrom .plain 0 t).countP (· ≤ b.offset) :=
    List.countP_mono_left fun i _ hi => by
      simp only [decide_eq_true_eq] at hi ⊢
      omega
  have hmarks := Nat.mul_le_mul_left operatorMark.size hcount
  rw [h.offset_eq, h'.offset_eq] at hlt
  omega

/-! ## One character -/

theorem head?_markFrom (z : Zone) (t : Text) : (markFrom z t).head? = t.head? := by
  cases t with
  | nil => rfl
  | cons c t =>
    rw [markFrom]
    split <;> rfl

theorem head?_eq (h : Mirrors t z b m) : m.rest.head? = b.rest.head? := by
  rw [h.rest, head?_markFrom]

/-- At the end of the text the zone does not matter. -/
theorem ended (h : Mirrors t z b m) (hm : m.rest = []) : Mirrors t .plain b m := by
  obtain ⟨passed, hinsertions, hpassed, hoffset⟩ := h.passed
  have hb : b.rest = [] := by rw [← List.head?_eq_none_iff, ← h.head?_eq, hm]; rfl
  rw [hb] at hinsertions
  refine ⟨h.upto, by rw [hm, hb]; rfl, passed, ?_, hpassed, hoffset⟩
  rw [hinsertions, hb]
  rfl

/-- A character before which no mark is put in. -/
theorem past (h : Mirrors t z b m) {c : Char} {rest : Text} (hm : m.rest = c :: rest)
    (hc : z ≠ .plain ∨ c ≠ '#') :
    ∃ bare, b.rest = c :: bare ∧ rest = markFrom (z.after c) bare ∧
      Mirrors t (z.after c) (.past b.offset c bare) (.past m.offset c rest) := by
  obtain ⟨passed, hinsertions, hpassed, hoffset⟩ := h.passed
  have hrest := h.rest
  have hhead := h.head?_eq
  rw [hm] at hrest hhead
  obtain ⟨bare, hb⟩ := List.head?_eq_some_iff.1 hhead.symm
  have hnone : ¬ (z = .plain ∧ c = '#' ∧ startsOperator bare = true) := fun hmark =>
    hc.elim (fun hz => hz hmark.1) fun hc => hc hmark.2.1
  rw [hb, markFrom, if_neg hnone] at hrest
  rw [hb, insertionsFrom, if_neg hnone] at hinsertions
  refine ⟨bare, hb, (List.cons.inj hrest).2, h.upto.trans (Place.past_past hb).upto,
    (List.cons.inj hrest).2, passed, hinsertions, fun i hi => ?_, ?_⟩
  · exact Nat.le_trans (hpassed i hi) (Nat.le_add_right _ _)
  · simp only [Place.past, hoffset]
    omega

/-- The `#` before an operator name, and the mark after it. -/
theorem operator (h : Mirrors t .plain b m) {bare : Text} (hb : b.rest = '#' :: bare)
    (hbare : startsOperator bare = true) :
    m.rest = '#' :: (operatorMark ++ markFrom .plain bare) ∧
      Mirrors t .plain (.past b.offset '#' bare)
        ⟨m.offset + 1 + operatorMark.size, markFrom .plain bare⟩ := by
  obtain ⟨passed, hinsertions, hpassed, hoffset⟩ := h.passed
  have hrest := h.rest
  rw [hb, markFrom, if_pos ⟨rfl, rfl, hbare⟩] at hrest
  rw [hb, insertionsFrom, if_pos ⟨rfl, rfl, hbare⟩] at hinsertions
  refine ⟨hrest, h.upto.trans (Place.past_past hb).upto, rfl,
    passed ++ [b.offset + '#'.utf8Size], ?_, fun i hi => ?_, ?_⟩
  · rw [hinsertions, List.append_assoc]
    rfl
  · rcases List.mem_append.1 hi with hi | hi
    · exact Nat.le_trans (hpassed i hi) (Nat.le_add_right _ _)
    · exact Nat.le_of_eq (List.mem_singleton.1 hi)
  · have hwidth : '#'.utf8Size = 1 := rfl
    simp only [Place.past, hoffset, List.length_append, List.length_singleton, Nat.mul_succ, hwidth]
    omega

/-! ## Tokens -/

theorem after_eq_plain {c : Char} (h : Scan.isSign c = true) : Zone.after c .plain = .plain := by
  simp only [Scan.isSign, Bool.and_eq_true, bne_iff_ne] at h
  rw [Zone.after, if_neg h.1.1.1, if_neg h.1.1.2]

/-- The characters of a class are signs when the four that are no signs are not in it. -/
theorem isSign_of_class {p : Char → Bool} (hp : ['"', ';', '#', '\x00'].any p = false)
    {c : Char} (h : p c = true) : Scan.isSign c = true := by
  have hnone : c ∉ ['"', ';', '#', '\x00'] := fun hc =>
    Bool.false_ne_true (hp.symm.trans (List.any_eq_true.2 ⟨c, hc, h⟩))
  simpa [Scan.isSign, and_assoc] using hnone

theorem isSign_of_continuesName {c : Char} (h : Scan.continuesName c = true) :
    Scan.isSign c = true := isSign_of_class (by decide) h

theorem isSign_of_isSpace {c : Char} (h : Scan.isSpace c = true) : Scan.isSign c = true :=
  isSign_of_class (by decide) h

theorem sign (h : Mirrors t .plain b m) {c : Char} {rest : Text} (hm : m.rest = c :: rest)
    (hc : Scan.isSign c = true) :
    ∃ bare, b.rest = c :: bare ∧
      Mirrors t .plain (.past b.offset c bare) (.past m.offset c rest) := by
  have hhash : c ≠ '#' := by
    rintro rfl
    exact absurd hc (by decide)
  obtain ⟨bare, hb, -, hpast⟩ := h.past hm (Or.inr hhash)
  rw [after_eq_plain hc] at hpast
  exact ⟨bare, hb, hpast⟩

/-- A name is the same in both texts. -/
theorem name (h : Mirrors t .plain b m) :
    m.rest.takeWhile Scan.continuesName = b.rest.takeWhile Scan.continuesName ∧
      Mirrors t .plain (Scan.name b).2 (Scan.name m).2 := by
  -- The name ends at a place, or it goes on there by one character.
  have hend : ∀ {p : Place}, p.rest.head?.all (!Scan.continuesName ·) = true →
      p.rest.takeWhile Scan.continuesName = [] ∧ (Scan.name p).2 = p := by
    rintro ⟨offset, rest⟩ hp
    cases rest with
    | nil => exact ⟨rfl, rfl⟩
    | cons c rest =>
      have hc : ¬ Scan.continuesName c = true := by simpa using hp
      rw [Scan.name, List.takeWhile_cons_of_neg hc, List.dropWhile_cons_of_neg hc]
      exact ⟨rfl, rfl⟩
  have hnext : ∀ {p : Place} {c : Char} {rest : Text}, p.rest = c :: rest →
      Scan.continuesName c = true →
      p.rest.takeWhile Scan.continuesName = c :: rest.takeWhile Scan.continuesName ∧
        (Scan.name p).2 = (Scan.name (.past p.offset c rest)).2 := by
    intro p c rest hp hc
    rw [Scan.name, hp, List.takeWhile_cons_of_pos hc, List.dropWhile_cons_of_pos hc,
      Text.size_cons, ← Nat.add_assoc]
    exact ⟨rfl, rfl⟩
  induction hm : m.rest generalizing b m with
  | nil =>
    obtain ⟨hmname, hmend⟩ := hend (p := m) (by rw [hm]; rfl)
    obtain ⟨hbname, hbend⟩ := hend (p := b) (by rw [← h.head?_eq, hm]; rfl)
    rw [← hm, hmname, hbname, hmend, hbend]
    exact ⟨rfl, h⟩
  | cons c rest ih =>
    by_cases hc : Scan.continuesName c = true
    · obtain ⟨bare, hb, hpast⟩ := h.sign hm (isSign_of_continuesName hc)
      obtain ⟨hmname, hmend⟩ := hnext hm hc
      obtain ⟨hbname, hbend⟩ := hnext hb hc
      obtain ⟨hname, hmirrors⟩ := ih hpast rfl
      rw [← hm, hmname, hbname, hmend, hbend]
      exact ⟨congrArg (c :: ·) hname, hmirrors⟩
    · obtain ⟨hmname, hmend⟩ := hend (p := m) (by rw [hm]; simpa using hc)
      obtain ⟨hbname, hbend⟩ := hend (p := b) (by rw [← h.head?_eq, hm]; simpa using hc)
      rw [← hm, hmname, hbname, hmend, hbend]
      exact ⟨rfl, h⟩

/-- The zone in a string. -/
def stringZone (escaped : Bool) : Zone := if escaped then .escaped else .string

/-- The zone between tokens. -/
def blankZone (inComment : Bool) : Zone := if inComment then .comment else .plain

/-- A string ends at the same place in both texts. -/
theorem string {escaped : Bool} (h : Mirrors t (stringZone escaped) b m) {text : Text} {q : Place}
    (hstring : Scan.string escaped m.offset m.rest = some (text, q)) :
    ∃ b', Mirrors t .plain b' q := by
  induction hm : m.rest generalizing escaped b m text with
  | nil =>
    rw [hm] at hstring
    cases hstring
  | cons c rest ih =>
    obtain ⟨bare, -, -, hpast⟩ := h.past hm (Or.inl (by cases escaped <;> decide))
    -- No mark is put into a string, and the zone changes as the reader does.
    have hmore : ∀ (escaped' : Bool) {text' : Text},
        Zone.after c (stringZone escaped) = stringZone escaped' →
        Scan.string escaped' (m.offset + c.utf8Size) rest = some (text', q) →
        ∃ b', Mirrors t .plain b' q := by
      intro escaped' text' hzone hrest
      rw [hzone] at hpast
      exact ih hpast hrest rfl
    rw [hm, Scan.string] at hstring
    split at hstring
    · next hescaped =>
      obtain ⟨⟨text', q'⟩, hrest, heq⟩ := Option.map_eq_some_iff.1 hstring
      obtain ⟨-, rfl⟩ := Prod.mk.inj heq
      rw [hescaped] at hmore
      exact hmore false rfl hrest
    · next hescaped =>
      obtain rfl := Bool.eq_false_iff.2 hescaped
      split at hstring
      · next hc => exact hmore true (if_pos (beq_iff_eq.1 hc)) hstring
      · next hbackslash =>
        split at hstring
        · next hc =>
          obtain ⟨-, rfl⟩ := Prod.mk.inj (Option.some.inj hstring)
          obtain rfl := beq_iff_eq.1 hc
          exact ⟨_, hpast⟩
        · next hquote =>
          split at hstring
          · cases hstring
          · obtain ⟨⟨text', q'⟩, hrest, heq⟩ := Option.map_eq_some_iff.1 hstring
            obtain ⟨-, rfl⟩ := Prod.mk.inj heq
            refine hmore false ?_ hrest
            simp only [stringZone, Zone.after, beq_iff_eq] at hbackslash hquote ⊢
            simp [hbackslash, hquote]

/-- Whether the reader can go no further: it stands before a null character. -/
def IsStuck (p : Place) : Prop := p.rest.head? = some '\x00'

/-- Blanks and comments are skipped in step, but a comment can end at a null character. -/
theorem skip {inComment : Bool} (h : Mirrors t (blankZone inComment) b m) :
    (∃ b', Mirrors t .plain b' (Scan.skip inComment m.offset m.rest)) ∨
      IsStuck (Scan.skip inComment m.offset m.rest) := by
  induction hm : m.rest generalizing inComment b m with
  | nil =>
    rw [Scan.skip, ← hm]
    exact Or.inl ⟨b, h.ended hm⟩
  | cons c rest ih =>
    have hmore : ∀ {inComment' : Bool}, blankZone inComment ≠ .plain ∨ c ≠ '#' →
        Zone.after c (blankZone inComment) = blankZone inComment' →
        (∃ b', Mirrors t .plain b' (Scan.skip inComment' (m.offset + c.utf8Size) rest)) ∨
          IsStuck (Scan.skip inComment' (m.offset + c.utf8Size) rest) := by
      intro inComment' hc hzone
      obtain ⟨bare, -, -, hpast⟩ := h.past hm hc
      rw [hzone] at hpast
      exact ih hpast rfl
    rw [Scan.skip]
    split
    · next hcomment =>
      obtain rfl := hcomment
      split
      · -- The reader ends a comment before a null character, marking goes on to the line's end.
        next hnull => exact Or.inr (congrArg some (beq_iff_eq.1 hnull))
      · refine hmore (Or.inl (by decide)) ?_
        by_cases hc : c = '\n' <;> simp [blankZone, Zone.after, hc]
    · next hcomment =>
      obtain rfl := Bool.eq_false_iff.2 hcomment
      split
      · next hspace =>
        have hsign := isSign_of_isSpace hspace
        refine hmore (Or.inr ?_) (after_eq_plain hsign)
        rintro rfl
        exact absurd hsign (by decide)
      · split
        · next hc =>
          obtain rfl := beq_iff_eq.1 hc
          exact hmore (Or.inr (by decide)) rfl
        · rw [← hm]
          exact Or.inl ⟨b, h⟩

theorem blanks (h : Mirrors t (blankZone false) b m) :
    (∃ b', Mirrors t .plain b' (Scan.blanks m)) ∨ IsStuck (Scan.blanks m) := h.skip

theorem isStuck_blanks {p : Place} (h : IsStuck p) : IsStuck (Scan.blanks p) := by
  obtain ⟨rest, hrest⟩ := List.head?_eq_some_iff.1 h
  rw [Scan.blanks, hrest]
  rfl

/-- No token is read before a null character. -/
theorem not_isStuck_of_reads {p q : Place} (h : Scan.Reads p q) : ¬ IsStuck p := by
  intro hstuck
  induction h with
  | sign hrest hc =>
    rw [IsStuck, hrest] at hstuck
    obtain rfl := Option.some.inj hstuck
    exact absurd hc (by decide)
  | name h =>
    rw [Scan.atName, hstuck] at h
    exact absurd h (by decide)
  | string hrest =>
    rw [IsStuck, hrest] at hstuck
    exact absurd (Option.some.inj hstuck) (by decide)
  | blanks _ ih => exact ih hstuck
  | trans _ _ ih _ => exact ih hstuck

/-- **Reading in step.** Where the reader comes to in the marked text, it stands at a place of
    the caller's text. -/
theorem reads (h : Mirrors t .plain b m) {q : Place} (hreads : Scan.Reads m q) :
    (∃ b', Mirrors t .plain b' q) ∨ IsStuck q := by
  induction hreads generalizing b with
  | sign hrest hc =>
    obtain ⟨bare, -, hpast⟩ := h.sign hrest hc
    exact Or.inl ⟨_, hpast⟩
  | name => exact Or.inl ⟨_, h.name.2⟩
  | @string p q rest text hrest hstring =>
    obtain ⟨bare, -, -, hpast⟩ := h.past hrest (Or.inr (by decide))
    have hinside : Mirrors t (stringZone false) _ _ := hpast
    exact Or.inl (hinside.string hstring)
  | blanks _ ih =>
    rcases ih h with ⟨b', h'⟩ | hstuck
    · exact h'.blanks
    · exact Or.inr (isStuck_blanks hstuck)
  | trans _ hlater ihfirst ihlater =>
    rcases ihfirst h with ⟨b', h'⟩ | hstuck
    · exact ihlater h'
    · exact absurd hstuck (not_isStuck_of_reads hlater)

/-! ## Heads of clauses -/

/-- A name goes on over characters of names. -/
theorem name_append {front : Text} (hfront : front.all Scan.continuesName = true) (o : Nat)
    (rest : Text) :
    (front ++ rest).takeWhile Scan.continuesName =
        front ++ rest.takeWhile Scan.continuesName ∧
      (Scan.name ⟨o, front ++ rest⟩).2 = (Scan.name ⟨o + front.size, rest⟩).2 := by
  have hall : ∀ c ∈ front, Scan.continuesName c = true := List.all_eq_true.1 hfront
  have hname : (front ++ rest).takeWhile Scan.continuesName =
      front ++ rest.takeWhile Scan.continuesName := List.takeWhile_append_of_pos hall
  refine ⟨hname, ?_⟩
  simp only [Scan.name, hname, List.dropWhile_append_of_pos hall, Text.size_append, Nat.add_assoc]

/-- A character that can start a name starts an operator. -/
theorem startsOperator_of_startsName {c : Char} {rest : Text} (h : Scan.startsName c = true) :
    startsOperator (c :: rest) = true := by
  have hparen : c ≠ ')' := by
    rintro rfl
    exact absurd h (by decide)
  have hrange : ¬ isBlank c = true := by
    intro hblank
    obtain ⟨r, hr, hlo, hhi⟩ := CharRanges.contains_iff.1 hblank
    simp only [Scan.startsName, Bool.or_eq_true, beq_iff_eq] at h
    have hcode : (48 ≤ c.toNat ∧ c.toNat ≤ 122) ∨ c.toNat = 45 := by
      rcases h with (h | rfl) | rfl
      · exact Or.inl (Scan.toNat_of_isAlphanum h)
      · exact Or.inl (by decide)
      · exact Or.inr rfl
    -- Blanks are control characters, the space, or no ASCII.
    have hall : ∀ r ∈ blankRanges, r.2 ≤ 32 ∨ 133 ≤ r.1 := by decide
    have := hall r hr
    omega
  simp [startsOperator, hparen, hrange]

/-- The head of a clause that opens with `#` has a mark, and the reader goes on in step. -/
theorem hashed (h : Mirrors t .plain b m) {rest : Text} (hm : m.rest = '#' :: rest)
    (hname : Scan.atName ⟨m.offset + 1, rest⟩ = true) :
    ∃ bare b', b.rest = '#' :: bare ∧ Mirrors t .plain b' (Scan.name ⟨m.offset + 1, rest⟩).2 ∧
      (Scan.name ⟨m.offset + 1, rest⟩).1 =
        String.ofList (operatorMark ++ bare.takeWhile Scan.continuesName) := by
  have hhead := h.head?_eq
  rw [hm] at hhead
  obtain ⟨bare, hb⟩ := List.head?_eq_some_iff.1 hhead.symm
  -- Without a mark the name would start in the caller's text, and be marked.
  have hbare : startsOperator bare = true := by
    refine Decidable.byContradiction fun hnone => ?_
    have hrest := h.rest
    rw [hb, hm, markFrom, if_neg (fun hmark => hnone hmark.2.2)] at hrest
    have hstart := head?_markFrom (Zone.after '#' .plain) bare
    rw [← (List.cons.inj hrest).2] at hstart
    simp only [Scan.atName, hstart] at hname
    obtain ⟨c, hc, hcname⟩ := (Option.any_eq_true _ _).1 hname
    obtain ⟨more, rfl⟩ := List.head?_eq_some_iff.1 hc
    exact hnone (startsOperator_of_startsName hcname)
  obtain ⟨hrest, hpast⟩ := h.operator hb hbare
  obtain rfl := (List.cons.inj (hm.symm.trans hrest)).2
  obtain ⟨hnames, hend⟩ := hpast.name
  have hmark : operatorMark.all Scan.continuesName = true := by decide
  obtain ⟨hall, hplace⟩ := name_append hmark (m.offset + 1) (markFrom .plain bare)
  refine ⟨bare, _, hb, hplace ▸ hend, ?_⟩
  exact congrArg String.ofList (hall.trans (congrArg (operatorMark ++ ·) hnames))

end Mirrors

/-! ## Clauses -/

/-- `b` is where a clause opens in the caller's text, and it has the name that stands there,
with a mark before it when it opens with `#`. -/
def SpelledAt (t : Text) (b : Place) (opener : Nat) (name : String) : Prop :=
  ∃ m rest, Mirrors t .plain b m ∧ opener = m.offset ∧
    (b.rest = '#' :: rest ∧
        name = String.ofList (operatorMark ++ rest.takeWhile Scan.continuesName) ∨
      b.rest = '.' :: rest ∧ name = String.ofList (rest.takeWhile Scan.continuesName))

end Marked

namespace Reading

/-- The reader stands at a place of the caller's text, unless it can go no further, and the
clauses that have begun are spelled there. -/
structure InStep (t : Text) (s : Reading) : Prop where
  place : (∃ b, Marked.Mirrors t .plain b s.place) ∨ Marked.Mirrors.IsStuck s.place
  clauses : ∀ c, .clause c ∈ s.mentions → ∃ b, Marked.SpelledAt t b c.opener c.name
  clause : ∀ offset opener name arguments, s.mode = .clause offset opener name arguments →
    ∃ b, Marked.SpelledAt t b opener name

theorem inStep_initial (t : Text) : InStep t (.initial (Marked.ofText t).text) where
  place := (Marked.mirrors_begin t).blanks.imp id id
  clauses := nofun
  clause := nofun

theorem InStep.of_effect {t : Text} {s u : Reading} (hs : InStep t s) (h : Effect s u) :
    InStep t u := by
  have hplace : ∀ {q : Place}, Scan.Reads s.place q →
      (∃ b, Marked.Mirrors t .plain b q) ∨ Marked.Mirrors.IsStuck q := by
    intro q hreads
    rcases hs.place with ⟨b, hb⟩ | hstuck
    · exact hb.reads hreads
    · exact absurd hstuck (Marked.Mirrors.not_isStuck_of_reads hreads)
  cases h with
  | silent hreads hmode _ hmentions =>
    exact ⟨hplace hreads, by rw [hmentions]; exact hs.clauses,
      fun _ _ _ _ heq => absurd heq (Mode.ne_clause hmode)⟩
  | binds hreads hmode _ _ hmentions =>
    refine ⟨hplace hreads, fun c hc => ?_, fun _ _ _ _ heq => absurd heq (Mode.ne_clause hmode)⟩
    rw [hmentions, List.mem_append, List.mem_singleton] at hc
    exact hs.clauses c (hc.resolve_right nofun)
  | argues hreads hmode hmode' _ _ hmentions =>
    refine ⟨hplace hreads, by rw [hmentions]; exact hs.clauses, fun _ _ _ _ heq => ?_⟩
    rw [hmode'] at heq
    cases heq
    exact hs.clause _ _ _ _ hmode
  | ends hreads hmode hmode' _ hmentions =>
    refine ⟨hplace hreads, fun c hc => ?_, fun _ _ _ _ heq => absurd heq (Mode.ne_clause hmode')⟩
    rw [hmentions, List.mem_append, List.mem_singleton] at hc
    rcases hc with hc | hc
    · exact hs.clauses c hc
    · cases hc
      exact hs.clause _ _ _ _ hmode
  | @begins p c rest offset _ hreads hrest hc hname hend hmode _ hmentions =>
    -- A clause opens before a character that can be read, so the reader stands in step.
    have hopens : ∃ b, Marked.Mirrors t .plain b p := by
      refine (hplace hreads).resolve_right fun hstuck => ?_
      rw [Marked.Mirrors.IsStuck, hrest] at hstuck
      rcases hc with rfl | rfl <;> exact absurd (Option.some.inj hstuck) (by decide)
    obtain ⟨b, hb⟩ := hopens
    -- After the head the reader is in step again.
    have hhead : (∃ b', Marked.Mirrors t .plain b' (Scan.name ⟨p.offset + 1, rest⟩).2) ∧
        Marked.SpelledAt t b p.offset (Scan.name ⟨p.offset + 1, rest⟩).1 := by
      rcases hc with rfl | rfl
      · obtain ⟨bare, b', hbare, hmirrors, hspelled⟩ := hb.hashed hrest hname
        exact ⟨⟨b', hmirrors⟩, p, bare, hb, rfl, Or.inl ⟨hbare, hspelled⟩⟩
      · obtain ⟨bare, hbare, hpast⟩ := hb.sign hrest (by decide)
        obtain ⟨hnames, hmirrors⟩ := hpast.name
        exact ⟨⟨_, hmirrors⟩, p, bare, hb, rfl, Or.inr ⟨hbare, congrArg String.ofList hnames⟩⟩
    obtain ⟨⟨b', hb'⟩, hspelled⟩ := hhead
    refine ⟨hend ▸ hb'.blanks, by rw [hmentions]; exact hs.clauses, fun _ _ _ _ heq => ?_⟩
    rw [hmode] at heq
    cases heq
    exact ⟨b, hspelled⟩

end Reading

/-! ## The caller's clauses -/

namespace Marked

/-- What stands in the caller's text where a clause opens. -/
def clauseText (m : Marked) (c : Clause) : Text := m.bare.after (m.toBare c.opener)

/-- Whether a clause opens with `#` in the caller's text. -/
def isHashed (m : Marked) (c : Clause) : Bool := (m.clauseText c).head? == some '#'

/-- The name of a clause in the caller's text. -/
def writtenName (m : Marked) (c : Clause) : String :=
  String.ofList ((m.clauseText c).tail.takeWhile Scan.continuesName)

/-- A clause stands in the caller's text under its name, and with a mark before its name in the
marked text if it opens with `#` and not with `.`. -/
structure Spelled (m : Marked) (c : Clause) : Prop where
  opens : m.isHashed c = false → (m.clauseText c).head? = some '.'
  name : c.name.toList =
    (if m.isHashed c then operatorMark else []) ++ (m.writtenName c).toList

theorem SpelledAt.spelled {t : Text} {b : Place} {c : Clause}
    (h : SpelledAt t b c.opener c.name) : (ofText t).Spelled c := by
  obtain ⟨m, rest, hmirrors, hopener, hspelled⟩ := h
  have htext : (ofText t).clauseText c = b.rest := by
    rw [clauseText, hopener, hmirrors.toBare_eq]
    exact hmirrors.after_eq
  rcases hspelled with ⟨hrest, hname⟩ | ⟨hrest, hname⟩
  · have hhashed : (ofText t).isHashed c = true := by
      rw [isHashed, htext, hrest]
      rfl
    refine ⟨fun hdot => absurd (hdot.symm.trans hhashed) nofun, ?_⟩
    rw [hhashed, hname, writtenName, htext, hrest]
    simp
  · have hdotted : (ofText t).isHashed c = false := by
      rw [isHashed, htext, hrest]
      rfl
    refine ⟨fun _ => by rw [htext, hrest]; rfl, ?_⟩
    rw [hdotted, hname, writtenName, htext, hrest]
    simp

end Marked

namespace Pattern

variable {v : Vocabulary} {t : Text} {patterns : List Pattern} {names : List String}

theorem spelledAt_of_read (h : Pattern.read v (Marked.ofText t).text = .ok (patterns, names)) :
    ∀ c ∈ patterns.flatMap (·.item.clauses), ∃ b, Marked.SpelledAt t b c.opener c.name := by
  obtain ⟨s, hgoes, -, hmentions, -⟩ := goes_of_read h
  have hstep := hgoes.invariant rfl (Reading.inStep_initial t) Reading.InStep.of_effect
  intro c hc
  obtain ⟨pattern, hpattern, hc⟩ := List.mem_flatMap.1 hc
  refine hstep.clauses c ?_
  rw [← hmentions]
  exact List.mem_flatMap.2 ⟨pattern, hpattern, Item.mem_clauses_iff.1 hc⟩

/-- **Clauses of the caller's text.** The clauses that are read in a marked text stand in the
    caller's text, in their order and under their names. -/
theorem spelled_of_read (h : Pattern.read v (Marked.ofText t).text = .ok (patterns, names)) :
    (∀ c ∈ patterns.flatMap (·.item.clauses), (Marked.ofText t).Spelled c) ∧
      (patterns.flatMap (·.item.clauses)).Pairwise fun c d =>
        (Marked.ofText t).toBare c.opener < (Marked.ofText t).toBare d.opener := by
  have hspelled := spelledAt_of_read h
  refine ⟨fun c hc => (hspelled c hc).elim fun _ hb => hb.spelled, ?_⟩
  refine List.Pairwise.imp_of_mem ?_ (List.pairwise_map.1 (openers_of_read h))
  intro c d hc hd hlt
  obtain ⟨b, m, -, hb, hm, -⟩ := hspelled c hc
  obtain ⟨b', m', -, hb', hm', -⟩ := hspelled d hd
  rw [hm, hm'] at hlt ⊢
  rw [hb.toBare_eq, hb'.toBare_eq]
  exact hb.offset_lt hb' hlt

end Pattern
end TreeQuery
