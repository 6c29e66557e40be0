/-
  TreeQuery.Proofs.Pattern.Swap

  A step looks no further than it reads. Two texts that are the same up to some `#` are
  read by the same steps as long as that `#` is ahead (`Place.Ahead`): no token goes over
  it, and of what stands behind a token only the first character counts.

  * `Reading.step_swap`: a step that ends before the `#` is the same when another text
    stands behind it (`Reading.swap`).
  * `Reading.step_open`: a step that begins the clause of the `#` begins it in the other
    text too, under the name that stands there.
-/

import TreeQuery.Proofs.Pattern.Runs

namespace TreeQuery

/-! ## Texts with the same front -/

/-- The `#` with `back` behind it is still to be read. -/
def Place.Ahead (back : Text) (p : Place) : Prop := '#' :: back <:+ p.rest

/-- A text that ends in `#` and `back`, with `back'` for `back`. -/
def Text.swap (t back back' : Text) : Text := t.take (t.length - (back.length + 1)) ++ '#' :: back'

/-- A place with another text behind the `#`. -/
def Place.swap (back back' : Text) (p : Place) : Place := ⟨p.offset, p.rest.swap back back'⟩

namespace Reading

/-- A state with another text behind the `#`. -/
def swap (back back' : Text) (s : Reading) : Reading :=
  { s with place := s.place.swap back back' }

/-- A state after the head of a clause that starts at `start` and whose `#` stands at `opener`,
with `back` behind it. -/
def afterHead (start opener : Nat) (back : Text) (s : Reading) : Reading :=
  { s with
    place := Scan.blanks (Scan.name ⟨opener + 1, back⟩).2
    mode := .clause start opener (Scan.name ⟨opener + 1, back⟩).1 [] }

end Reading

variable {back back' : Text}

namespace Text

theorem swap_append (front : Text) :
    swap (front ++ '#' :: back) back back' = front ++ '#' :: back' := by
  have hlength : (front ++ '#' :: back).length - (back.length + 1) = front.length := by
    rw [List.length_append, List.length_cons, Nat.add_sub_cancel]
  rw [swap, hlength, List.take_left]

theorem swap_cons {t : Text} (c : Char) (h : '#' :: back <:+ t) :
    swap (c :: t) back back' = c :: t.swap back back' := by
  obtain ⟨front, rfl⟩ := h
  rw [← List.cons_append, swap_append, swap_append]
  rfl

theorem head?_swap {t : Text} (h : '#' :: back <:+ t) :
    (t.swap back back').head? = t.head? := by
  obtain ⟨front, rfl⟩ := h
  rw [swap_append]
  cases front <;> rfl

end Text

namespace Place

theorem Ahead.of_upto {p q : Place} (h : q.Ahead back) (hpq : p.Upto q) : p.Ahead back := by
  obtain ⟨front, hrest, -⟩ := hpq
  exact h.trans ⟨front, hrest.symm⟩

theorem offset_swap (p : Place) : (p.swap back back').offset = p.offset := rfl

/-- Past a character that stands before the `#`. -/
theorem past_swap (o : Nat) (c : Char) (rest : Text) :
    past o c (Text.swap rest back back') = (past o c rest).swap back back' := rfl

/-- The first character, when the `#` comes later. -/
theorem rest_swap {p : Place} {c : Char} {rest : Text} (hp : p.rest = c :: rest)
    (h : '#' :: back <:+ rest) : (p.swap back back').rest = c :: rest.swap back back' := by
  rw [swap, hp, Text.swap_cons c h]

/-- The first character is the same. -/
theorem rest_swap_ne {p : Place} {c : Char} (hp : p.Ahead back)
    (h : ∀ rest, p.rest = c :: rest → False) (rest : Text) :
    (p.swap back back').rest ≠ c :: rest := by
  intro hrest
  have hhead : (p.swap back back').rest.head? = p.rest.head? := Text.head?_swap hp
  rw [hrest] at hhead
  obtain ⟨rest', hrest'⟩ := List.head?_eq_some_iff.1 hhead.symm
  exact h rest' hrest'

theorem Ahead.tail {p : Place} {c : Char} {rest : Text} (h : p.Ahead back)
    (hp : p.rest = c :: rest) (hc : c ≠ '#') : '#' :: back <:+ rest := by
  rw [Ahead, hp] at h
  exact (List.suffix_cons_iff.1 h).resolve_left fun heq => hc (List.cons.inj heq).1.symm

theorem Ahead.rest {p q : Place} {c : Char} {rest : Text} (hp : p.rest = c :: rest)
    (h : q.Ahead back) (hpq : p.Past q) : '#' :: back <:+ rest := by
  obtain ⟨c', front, hrest, -⟩ := hpq
  obtain ⟨-, rfl⟩ := List.cons.inj (hp.symm.trans hrest)
  exact h.trans (List.suffix_append _ _)

end Place

/-! ## Tokens -/

namespace Scan

theorem skip_swap {inComment : Bool} {o : Nat} {t : Text} (h : (skip inComment o t).Ahead back) :
    skip inComment o (t.swap back back') = (skip inComment o t).swap back back' := by
  induction t generalizing inComment o with
  | nil => exact absurd h.length_le (by simp [skip])
  | cons c t ih =>
    -- What is skipped stands before the `#`.
    have hmore : ∀ {b o}, (skip b o t).Ahead back → '#' :: back <:+ t := fun hskip =>
      hskip.of_upto (skip_upto _ _ t)
    rw [skip] at h
    split at h
    · next hcomment =>
      split at h
      · next hnull =>
        have ht : '#' :: back <:+ t := by
          refine (List.suffix_cons_iff.1 h).resolve_left fun heq => ?_
          rw [← (List.cons.inj heq).1] at hnull
          exact absurd hnull (by decide)
        rw [Text.swap_cons c ht, skip, skip, if_pos hcomment, if_pos hcomment, if_pos hnull,
          if_pos hnull, Place.swap, Text.swap_cons c ht]
      · next hnull =>
        rw [Text.swap_cons c (hmore h), skip, skip, if_pos hcomment, if_pos hcomment, if_neg hnull,
          if_neg hnull, ih h]
    · next hcomment =>
      split at h
      · next hspace =>
        rw [Text.swap_cons c (hmore h), skip, skip, if_neg hcomment, if_neg hcomment,
          if_pos hspace, if_pos hspace, ih h]
      · next hspace =>
        split at h
        · next hsemicolon =>
          rw [Text.swap_cons c (hmore h), skip, skip, if_neg hcomment, if_neg hcomment,
            if_neg hspace, if_neg hspace, if_pos hsemicolon, if_pos hsemicolon, ih h]
        · next hsemicolon =>
          -- The token that stands here can be the `#` itself.
          obtain ⟨t', ht'⟩ : ∃ t', Text.swap (c :: t) back back' = c :: t' :=
            List.head?_eq_some_iff.1 (Text.head?_swap h)
          rw [ht', skip, skip, if_neg hcomment, if_neg hcomment, if_neg hspace, if_neg hspace,
            if_neg hsemicolon, if_neg hsemicolon, Place.swap, ht']

theorem blanks_swap {p : Place} (h : (blanks p).Ahead back) :
    blanks (p.swap back back') = (blanks p).swap back back' := skip_swap h

theorem atName_swap {p : Place} (h : p.Ahead back) : atName (p.swap back back') = atName p := by
  rw [atName, Place.swap, Text.head?_swap h, atName]

/-- A `#` ends a name. -/
theorem name_append_hash (front back : Text) :
    (front ++ '#' :: back).takeWhile continuesName = front.takeWhile continuesName ∧
      (front ++ '#' :: back).dropWhile continuesName =
        front.dropWhile continuesName ++ '#' :: back := by
  induction front with
  | nil => exact ⟨rfl, rfl⟩
  | cons c front ih =>
    by_cases hc : continuesName c = true
    · simp only [List.cons_append, List.takeWhile_cons_of_pos hc, List.dropWhile_cons_of_pos hc]
      exact ⟨congrArg (c :: ·) ih.1, ih.2⟩
    · simp only [List.cons_append, List.takeWhile_cons_of_neg hc, List.dropWhile_cons_of_neg hc]
      exact ⟨trivial, trivial⟩

theorem name_swap {p : Place} (h : p.Ahead back) :
    (name p).2.Ahead back ∧
      name (p.swap back back') = ((name p).1, (name p).2.swap back back') := by
  obtain ⟨front, hfront⟩ := h
  obtain ⟨htake, hdrop⟩ := name_append_hash front back
  obtain ⟨htake', hdrop'⟩ := name_append_hash front back'
  rw [name, name, Place.swap, ← hfront, Text.swap_append, htake, hdrop, htake', hdrop', Place.swap,
    Text.swap_append]
  exact ⟨List.suffix_append _ _, rfl⟩

theorem string_swap {escaped : Bool} {o : Nat} {t text : Text} {q : Place}
    (h : string escaped o t = some (text, q)) (hq : q.Ahead back) :
    string escaped o (t.swap back back') = some (text, q.swap back back') := by
  induction t generalizing escaped o text with
  | nil => cases h
  | cons c t ih =>
    have ht : '#' :: back <:+ t := hq.rest (p := ⟨o, c :: t⟩) rfl (string_past h)
    rw [Text.swap_cons c ht]
    rw [string] at h ⊢
    split at h
    · next hescaped =>
      obtain ⟨⟨text', q'⟩, hmore, heq⟩ := Option.map_eq_some_iff.1 h
      obtain ⟨rfl, rfl⟩ := Prod.mk.inj heq
      rw [if_pos hescaped, ih hmore, Option.map_some]
    · next hescaped =>
      rw [if_neg hescaped]
      split at h
      · next hbackslash => rw [if_pos hbackslash, ih h]
      · next hbackslash =>
        rw [if_neg hbackslash]
        split at h
        · next hquote =>
          obtain ⟨rfl, rfl⟩ := Prod.mk.inj (Option.some.inj h)
          rw [if_pos hquote]
          rfl
        · next hquote =>
          rw [if_neg hquote]
          split at h
          · cases h
          · next hline =>
            obtain ⟨⟨text', q'⟩, hmore, heq⟩ := Option.map_eq_some_iff.1 h
            obtain ⟨rfl, rfl⟩ := Prod.mk.inj heq
            rw [if_neg hline, ih hmore, Option.map_some]

end Scan

namespace Reading

variable {v : Vocabulary}

/-! ## Parts of a state -/

theorem place_swap (s : Reading) : (s.swap back back').place = s.place.swap back back' := rfl

theorem mode_swap (s : Reading) : (s.swap back back').mode = s.mode := rfl

theorem frames_swap (s : Reading) : (s.swap back back').frames = s.frames := rfl

theorem captures_swap (s : Reading) : (s.swap back back').captures = s.captures := rfl

/-! ## Tests -/

theorem readToken_swap {p q : Place} {test : NodeTest} {rest : Text} (hp : p.rest = '"' :: rest)
    (h : readToken v p = .ok (test, q)) (hq : q.Ahead back) :
    readToken v (p.swap back back') = .ok (test, q.swap back back') := by
  have hrest := hq.rest hp (readToken_reads hp h).past
  rw [readToken, hp, List.tail_cons] at h
  rw [readToken, Place.rest_swap hp hrest, List.tail_cons]
  split at h
  · cases h
  · next text after hstring =>
    simp only at h
    split at h
    · next hknown =>
      obtain ⟨rfl, rfl⟩ := Prod.mk.inj (Except.ok.inj h)
      rw [Place.swap, Scan.string_swap hstring hq]
      simp only [if_pos hknown]
    · cases h

theorem readMissing_swap {p q : Place} {test : NodeTest} (h : readMissing v p = .ok (test, q))
    (hq : q.Ahead back) : readMissing v (p.swap back back') = .ok (test, q.swap back back') := by
  have hp : p.Ahead back := by
    rcases readMissing_reads h with rfl | hreads
    · exact hq
    · exact hq.of_upto hreads.past.upto
  have hhead : (p.swap back back').rest.head? = p.rest.head? := Text.head?_swap hp
  rw [readMissing] at h ⊢
  rw [Scan.atName_swap hp, hhead]
  split at h
  · next hname =>
    rw [if_pos hname, (Scan.name_swap hp).2]
    simp only at h ⊢
    split at h
    · obtain ⟨rfl, rfl⟩ := Prod.mk.inj (Except.ok.inj h)
      rfl
    · cases h
  · next hname =>
    rw [if_neg hname]
    split at h
    · next hquote =>
      obtain ⟨rest, hrest⟩ := List.head?_eq_some_iff.1 hquote
      obtain ⟨⟨test', after⟩, htoken, hresult⟩ := bind_eq_ok_iff.1 h
      obtain ⟨rfl, rfl⟩ := Prod.mk.inj (Except.ok.inj hresult)
      simp only [readToken_swap hrest htoken hq]
      rfl
    · obtain ⟨rfl, rfl⟩ := Prod.mk.inj (Except.ok.inj h)
      rfl
    · cases h

theorem readSubtype_swap {start : Nat} {test test' : NodeTest} {p q : Place}
    (h : readSubtype v start test p = .ok (test', q)) (hq : q.Ahead back) :
    readSubtype v start test (p.swap back back') = .ok (test', q.swap back back') := by
  rw [readSubtype] at h ⊢
  split at h
  · next rest hrest =>
    split at h
    · cases h
    · next supertype hsupertype =>
      simp only at h
      split at h
      · next hname =>
        split at h
        · cases h
        · next symbol hsymbol =>
          split at h
          · next hallowed =>
            obtain ⟨rfl, rfl⟩ := Prod.mk.inj (Except.ok.inj h)
            have hafter := hq.of_upto (Scan.blanks_upto _)
            have hp := hafter.of_upto (Scan.name_past hname).upto
            have hslash : (p.swap back back').rest = '/' :: Text.swap rest back back' :=
              Place.rest_swap hrest hp
            rw [hslash]
            simp only [hsupertype, Place.offset_swap, Place.past_swap, Scan.atName_swap hp,
              if_pos hname, (Scan.name_swap hp).2, hsymbol, if_pos hallowed, Scan.blanks_swap hq]
          · cases h
      · cases h
  · next hnone =>
    obtain ⟨rfl, rfl⟩ := Prod.mk.inj (Except.ok.inj h)
    split
    · next rest hslash => exact absurd hslash (Place.rest_swap_ne hq hnone rest)
    · rfl

theorem readTest_swap {p q : Place} {test : NodeTest} (h : readTest v p = .ok (test, q))
    (hq : q.Ahead back) : readTest v (p.swap back back') = .ok (test, q.swap back back') := by
  have hp : p.Ahead back := hq.of_upto (readTest_reads h).past.upto
  -- Whatever the name is, what may follow it is the same in both texts.
  have hend : ∀ {test' : NodeTest} {p' : Place},
      readSubtype v p.offset test' (Scan.blanks p') = .ok (test, q) → p'.Ahead back ∧
        readSubtype v p.offset test' (Scan.blanks (p'.swap back back')) =
          .ok (test, q.swap back back') := by
    intro test' p' h
    have hblanks : (Scan.blanks p').Ahead back := by
      rcases readSubtype_reads h with rfl | hreads
      · exact hq
      · exact hq.of_upto hreads.past.upto
    rw [Scan.blanks_swap hblanks]
    exact ⟨hblanks.of_upto (Scan.blanks_upto _), readSubtype_swap h hq⟩
  obtain ⟨hafter, hname⟩ := @Scan.name_swap _ back' _ hp
  rw [readTest] at h ⊢
  rw [Scan.atName_swap hp, hname, Place.offset_swap]
  split at h
  · next hstart =>
    rw [if_pos hstart]
    simp only [bind, Except.bind, pure, Except.pure] at h ⊢
    split at h
    · next hwild =>
      rw [if_pos hwild]
      exact (hend h).2
    · next hwild =>
      rw [if_neg hwild]
      split at h
      · next hmissing =>
        rw [if_pos hmissing]
        split at h
        · cases h
        · next result hread =>
          obtain ⟨hresult, hmore⟩ := hend h
          have hblanks : (Scan.blanks (Scan.name p).2).Ahead back := by
            rcases readMissing_reads hread with heq | hreads
            · exact heq ▸ hresult
            · exact hresult.of_upto hreads.past.upto
          rw [Scan.blanks_swap hblanks, readMissing_swap hread hresult]
          exact hmore
      · next hmissing =>
        rw [if_neg hmissing]
        split at h
        · exact (hend h).2
        · cases h
  · cases h

/-! ## The stack -/

theorem finishItem_swap {s t : Reading} {item : Item} (h : finishItem v s item = .ok t) :
    finishItem v (s.swap back back') item = .ok (t.swap back back') := by
  obtain ⟨⟨patterns, frames⟩, hdeliver, hstate⟩ := bind_eq_ok_iff.1 h
  obtain rfl := Except.ok.inj hstate
  have hdeliver' : deliver v (s.swap back back').patterns item (s.swap back back').frames =
      .ok (patterns, frames) := hdeliver
  rw [finishItem, hdeliver']
  rfl

theorem closeRound_swap {s t : Reading} {after : Place} (h : closeRound s after = .ok t)
    (ht : t.place.Ahead back) :
    closeRound (s.swap back back') (after.swap back back') = .ok (t.swap back back') := by
  rw [closeRound] at h ⊢
  rw [frames_swap]
  split at h
  · split at h
    · cases h
    · next hanchor =>
      obtain rfl := Except.ok.inj h
      simp only [if_neg hanchor, Scan.blanks_swap ht]
      rfl
  · obtain rfl := Except.ok.inj h
    simp only [Scan.blanks_swap ht]
    rfl
  · cases h

theorem closeSquare_swap {s t : Reading} {after : Place} (h : closeSquare s after = .ok t)
    (ht : t.place.Ahead back) :
    closeSquare (s.swap back back') (after.swap back back') = .ok (t.swap back back') := by
  rw [closeSquare] at h ⊢
  rw [frames_swap]
  split at h
  · obtain rfl := Except.ok.inj h
    simp only [Scan.blanks_swap ht]
    rfl
  · cases h

/-- A parenthesis before an item is that of a group. -/
theorem openRound_of_group {s : Reading} {after : Place} {c : Char} {rest : Text}
    (hrest : (Scan.blanks after).rest = c :: rest) (hc : c = '(' ∨ c = '"' ∨ c = '[') :
    openRound v s after = .ok { s with
      place := Scan.blanks after
      frames := .group s.place.offset [] false :: s.frames } := by
  rw [openRound]
  rcases hc with rfl | rfl | rfl
  all_goals
    simp only [hrest]
    rfl

/-- A parenthesis before `#` or `.` and a name is that of a clause. -/
theorem openRound_of_clause {s : Reading} {after : Place} {c : Char} {rest : Text}
    (hrest : (Scan.blanks after).rest = c :: rest) (hc : c = '#' ∨ c = '.')
    (hname : Scan.atName ⟨(Scan.blanks after).offset + 1, rest⟩ = true) :
    openRound v s after = .ok { s with
      place := Scan.blanks (Scan.name ⟨(Scan.blanks after).offset + 1, rest⟩).2
      mode := .clause s.place.offset (Scan.blanks after).offset
        (Scan.name ⟨(Scan.blanks after).offset + 1, rest⟩).1 [] } := by
  rw [openRound]
  rcases hc with rfl | rfl
  all_goals
    simp only [hrest, if_pos hname]
    rfl

/-- A parenthesis before a name is that of a node. -/
theorem openRound_of_atName {s : Reading} {after : Place}
    (hname : Scan.atName (Scan.blanks after) = true) :
    openRound v s after = do
      let (test, after) ← readTest v (Scan.blanks after)
      return { s with
        place := Scan.blanks after
        frames := .node s.place.offset test [] [] false s.isBare :: s.frames } := by
  -- The signs that open something else begin no name.
  have hstarts : ∀ {c : Char} {rest : Text}, (Scan.blanks after).rest = c :: rest →
      Scan.startsName c = true := by
    intro c rest hrest
    rwa [Scan.atName, hrest] at hname
  rw [openRound]
  simp only
  split
  · next hrest => exact absurd (hstarts hrest) (by decide)
  · next hrest => exact absurd (hstarts hrest) (by decide)
  · next hrest => exact absurd (hstarts hrest) (by decide)
  · next hrest => exact absurd (hstarts hrest) (by decide)
  · next hrest => exact absurd (hstarts hrest) (by decide)
  · rfl

/-- What a parenthesis can open. -/
theorem openRound_cases {s t : Reading} {after : Place} (h : openRound v s after = .ok t) :
    (∃ c rest, (Scan.blanks after).rest = c :: rest ∧ (c = '(' ∨ c = '"' ∨ c = '[')) ∨
    (∃ c rest, (Scan.blanks after).rest = c :: rest ∧ (c = '#' ∨ c = '.') ∧
      Scan.atName ⟨(Scan.blanks after).offset + 1, rest⟩ = true) ∨
    Scan.atName (Scan.blanks after) = true := by
  rw [openRound] at h
  simp only at h
  split at h
  · exact .inl ⟨_, _, ‹_›, .inl rfl⟩
  · exact .inl ⟨_, _, ‹_›, .inr (.inl rfl)⟩
  · exact .inl ⟨_, _, ‹_›, .inr (.inr rfl)⟩
  · split at h
    · exact .inr (.inl ⟨_, _, ‹_›, .inl rfl, ‹_›⟩)
    · cases h
  · split at h
    · exact .inr (.inl ⟨_, _, ‹_›, .inr rfl, ‹_›⟩)
    · cases h
  · obtain ⟨⟨test, last⟩, htest, -⟩ := bind_eq_ok_iff.1 h
    rw [readTest] at htest
    split at htest
    · exact .inr (.inr ‹_›)
    · cases htest

theorem openRound_swap {s t : Reading} {after : Place} (h : openRound v s after = .ok t)
    (ht : t.place.Ahead back) :
    openRound v (s.swap back back') (after.swap back back') = .ok (t.swap back back') := by
  rcases openRound_cases h with ⟨c, rest, hrest, hc⟩ | ⟨c, rest, hrest, hc, hname⟩ | hname
  · -- The first item of a group begins with another sign than `#`.
    rw [openRound_of_group hrest hc] at h
    obtain rfl := Except.ok.inj h
    have hhash : c ≠ '#' := by
      rcases hc with rfl | rfl | rfl <;> decide
    have hrest' := @Place.rest_swap _ back' _ _ _ hrest (ht.tail hrest hhash)
    rw [← Scan.blanks_swap ht] at hrest'
    rw [openRound_of_group hrest' hc, Scan.blanks_swap ht]
    rfl
  · -- The name of a clause stands before the `#`.
    rw [openRound_of_clause hrest hc hname] at h
    obtain rfl := Except.ok.inj h
    have hhead : Place.Ahead back ⟨(Scan.blanks after).offset + 1, rest⟩ :=
      (ht.of_upto (Scan.blanks_upto _)).of_upto (Scan.name_past hname).upto
    have hp : (Scan.blanks after).Ahead back := by
      rw [Place.Ahead, hrest]
      exact List.IsSuffix.trans hhead (List.suffix_cons _ _)
    have hrest' := @Place.rest_swap _ back' _ _ _ hrest hhead
    have hhead' : (⟨(Scan.blanks (after.swap back back')).offset + 1, Text.swap rest back back'⟩ :
        Place) = Place.swap back back' ⟨(Scan.blanks after).offset + 1, rest⟩ := by
      rw [Scan.blanks_swap hp]
      rfl
    rw [← Scan.blanks_swap hp] at hrest'
    rw [openRound_of_clause hrest' hc (by rw [hhead', Scan.atName_swap hhead, hname]), hhead',
      (Scan.name_swap hhead).2, Scan.blanks_swap ht, Scan.blanks_swap hp]
    rfl
  · rw [openRound_of_atName hname] at h
    obtain ⟨⟨test, last⟩, htest, hstate⟩ := bind_eq_ok_iff.1 h
    obtain rfl := Except.ok.inj hstate
    have hlast : last.Ahead back := ht.of_upto (Scan.blanks_upto _)
    have hp : (Scan.blanks after).Ahead back := hlast.of_upto (readTest_reads htest).past.upto
    have hblanks := @Scan.blanks_swap _ back' _ hp
    rw [openRound_of_atName (by rw [hblanks, Scan.atName_swap hp, hname]), hblanks,
      readTest_swap htest hlast]
    simp only [bind, Except.bind, pure, Except.pure, Scan.blanks_swap ht]
    rfl

theorem readAbsent_swap {s t : Reading} {after : Place} {o : Nat} {test : NodeTest}
    {children : List Item} {absent : List String} {first : Bool} {frames : List Frame}
    (h : readAbsent v s after o test children absent first frames = .ok t)
    (ht : t.place.Ahead back) :
    readAbsent v (s.swap back back') (after.swap back back') o test children absent first frames =
      .ok (t.swap back back') := by
  rw [readAbsent] at h ⊢
  simp only at h ⊢
  split at h
  · next hname =>
    split at h
    · next hknown =>
      obtain rfl := Except.ok.inj h
      have hafter : (Scan.name (Scan.blanks after)).2.Ahead back :=
        ht.of_upto (Scan.blanks_upto _)
      have hp : (Scan.blanks after).Ahead back := hafter.of_upto (Scan.name_past hname).upto
      rw [Scan.blanks_swap hp, Scan.atName_swap hp, (Scan.name_swap hp).2, if_pos hname,
        if_pos hknown, Scan.blanks_swap ht]
      rfl
    · cases h
  · cases h

theorem readLabel_swap {s t : Reading} (h : readLabel s = .ok t) (hs : s.place.Ahead back)
    (ht : t.place.Ahead back) :
    readLabel (s.swap back back') = .ok (t.swap back back') := by
  rw [readLabel] at h ⊢
  simp only at h ⊢
  split at h
  · next rest hcolon =>
    obtain rfl := Except.ok.inj h
    have hpast : (Place.past (Scan.blanks (Scan.name s.place).2).offset ':' rest).Ahead back :=
      ht.of_upto (Scan.blanks_upto _)
    have hp : (Scan.blanks (Scan.name s.place).2).Ahead back :=
      hpast.of_upto (Place.past_past hcolon).upto
    rw [place_swap, (Scan.name_swap hs).2]
    simp only [Scan.blanks_swap hp, Place.rest_swap hcolon hpast, Place.past_swap]
    rw [Place.offset_swap, Scan.blanks_swap ht]
    rfl
  · cases h

theorem openItem_swap {s t : Reading} {c : Char} {rest : Text} (hrest : s.place.rest = c :: rest)
    (h : openItem v s c (.past s.place.offset c rest) = .ok t) (hs : s.place.Ahead back)
    (ht : t.place.Ahead back) :
    openItem v (s.swap back back') c
      (.past s.place.offset c (Text.swap rest back back')) = .ok (t.swap back back') := by
  rw [Place.past_swap]
  unfold openItem at h ⊢
  split at h
  · exact openRound_swap h ht
  · obtain rfl := Except.ok.inj h
    rw [Scan.blanks_swap ht]
    rfl
  · exact closeRound_swap h ht
  · exact closeSquare_swap h ht
  · obtain rfl := Except.ok.inj h
    rw [Scan.blanks_swap ht]
    rfl
  · obtain ⟨⟨test, last⟩, htoken, hstate⟩ := bind_eq_ok_iff.1 h
    obtain rfl := Except.ok.inj hstate
    have hlast : last.Ahead back := ht.of_upto (Scan.blanks_upto _)
    rw [place_swap, readToken_swap hrest htoken hlast]
    simp only [bind, Except.bind, pure, Except.pure, Scan.blanks_swap ht]
    rfl
  · split at h
    · next hname =>
      rw [place_swap, Scan.atName_swap hs, if_pos hname]
      exact readLabel_swap h hs ht
    · cases h

theorem stepItems_swap {s t : Reading} (hmode : s.mode = .items) (h : stepItems v s = .ok t)
    (ht : t.place.Ahead back) : stepItems v (s.swap back back') = .ok (t.swap back back') := by
  -- The step reads at least one character, so the `#` is not the first.
  have hpast := ((stepItems_act h).effect hmode rfl rfl rfl rfl).2.past
  rw [stepItems] at h ⊢
  split at h
  · cases h
  · next c rest hrest =>
    have hmore := ht.rest hrest hpast
    have hrest' : (s.swap back back').place.rest = c :: Text.swap rest back back' :=
      Place.rest_swap hrest hmore
    rw [hrest', frames_swap, place_swap, Place.offset_swap]
    simp only [Place.past_swap] at h ⊢
    split at h
    · exact readAbsent_swap h ht
    · obtain rfl := Except.ok.inj h
      simp only [Scan.blanks_swap ht]
      rfl
    · obtain rfl := Except.ok.inj h
      simp only [Scan.blanks_swap ht]
      rfl
    · exact openItem_swap hrest h (ht.of_upto hpast.upto) ht

theorem stepSuffixes_swap {s t : Reading} {item : Item} (hmode : s.mode = .suffixes item)
    (hsound : s.mode.isSound = true) (h : stepSuffixes v s item = .ok t)
    (ht : t.place.Ahead back) :
    stepSuffixes v (s.swap back back') item = .ok (t.swap back back') := by
  have hpast := (stepSuffixes_effect hmode hsound h).2.past
  -- A suffix ends where the blanks after it begin.
  have hadd : ∀ {suffix : Suffix} {after : Place}, (Scan.blanks after).Ahead back →
      stepSuffixes.addSuffix (s.swap back back') item suffix (after.swap back back') =
        (stepSuffixes.addSuffix s item suffix after).swap back back' := by
    intro suffix after hafter
    rw [stepSuffixes.addSuffix, Scan.blanks_swap hafter]
    rfl
  have hrest' : ∀ {c : Char} {rest : Text}, s.place.rest = c :: rest →
      (s.swap back back').place.rest = c :: Text.swap rest back back' :=
    fun hrest => Place.rest_swap hrest (ht.rest hrest hpast)
  have hafter : ∀ c rest,
      Place.past (s.swap back back').place.offset c (Text.swap rest back back') =
        (Place.past s.place.offset c rest).swap back back' := fun _ _ => rfl
  unfold stepSuffixes at h ⊢
  split at h
  · next rest hrest =>
    obtain rfl := Except.ok.inj h
    simp only [hrest' hrest, hafter, hadd ht]
  · next rest hrest =>
    obtain rfl := Except.ok.inj h
    simp only [hrest' hrest, hafter, hadd ht]
  · next rest hrest =>
    obtain rfl := Except.ok.inj h
    simp only [hrest' hrest, hafter, hadd ht]
  · next rest hrest =>
    simp only at h
    split at h
    · next hname =>
      have hp : (Place.past s.place.offset '@' rest).Ahead back := ht.rest hrest hpast
      obtain rfl := Except.ok.inj h
      have hadd' := @hadd (.capture (Scan.name (.past s.place.offset '@' rest)).1) _ ht
      simp only [hrest' hrest, hafter, Scan.atName_swap hp, if_pos hname, (Scan.name_swap hp).2,
        hadd']
      rfl
    · cases h
  · next hplus hstar hquestion hat =>
    obtain ⟨s', hfinish, hitem⟩ := bind_eq_ok_iff.1 h
    obtain ⟨-, hitems, -⟩ := finishItem_eq_ok hfinish
    have hitem' := @stepItems_swap _ back' _ _ _ hitems hitem ht
    have hs : s.place.Ahead back := ht.of_upto hpast.upto
    -- No suffix stands in the other text either, for the first character is the same.
    split
    · next rest hrest => exact absurd hrest (Place.rest_swap_ne hs hplus rest)
    · next rest hrest => exact absurd hrest (Place.rest_swap_ne hs hstar rest)
    · next rest hrest => exact absurd hrest (Place.rest_swap_ne hs hquestion rest)
    · next rest hrest => exact absurd hrest (Place.rest_swap_ne hs hat rest)
    · rw [finishItem_swap hfinish]
      exact hitem'

theorem stepClause_swap {s t : Reading} {offset opener : Nat} {name : String}
    {arguments : List ClauseArgument} (hmode : s.mode = .clause offset opener name arguments)
    (h : stepClause v s offset opener name arguments = .ok t) (ht : t.place.Ahead back) :
    stepClause v (s.swap back back') offset opener name arguments = .ok (t.swap back back') := by
  have hpast := (stepClause_effect hmode h).2.past
  have hadd : ∀ {argument : ClauseArgument} {after : Place}, (Scan.blanks after).Ahead back →
      stepClause.addArgument (s.swap back back') offset opener name arguments argument
          (after.swap back back') =
        (stepClause.addArgument s offset opener name arguments argument after).swap back back' := by
    intro argument after hafter
    rw [stepClause.addArgument, Scan.blanks_swap hafter]
    rfl
  have hrest' : ∀ {c : Char} {rest : Text}, s.place.rest = c :: rest →
      (s.swap back back').place.rest = c :: Text.swap rest back back' :=
    fun hrest => Place.rest_swap hrest (ht.rest hrest hpast)
  have hafter : ∀ c rest,
      Place.past (s.swap back back').place.offset c (Text.swap rest back back') =
        (Place.past s.place.offset c rest).swap back back' := fun _ _ => rfl
  unfold stepClause at h ⊢
  split at h
  · next rest hrest =>
    obtain ⟨hplace, -⟩ := finishItem_eq_ok h
    rw [hplace] at ht
    simp only [hrest' hrest, hafter, Scan.blanks_swap ht]
    exact finishItem_swap h
  · next rest hrest =>
    have hp : (Place.past s.place.offset '@' rest).Ahead back := ht.rest hrest hpast
    simp only at h
    split at h
    · next hname =>
      split at h
      · next hbound =>
        obtain rfl := Except.ok.inj h
        simp only [hrest' hrest, hafter, Scan.atName_swap hp, if_pos hname, (Scan.name_swap hp).2,
          captures_swap, if_pos hbound, hadd ht]
      · cases h
    · cases h
  · next rest hrest =>
    split at h
    · next hstring =>
      obtain rfl := Except.ok.inj h
      have hstring' := @Scan.string_swap _ back' _ _ _ _ _ hstring (ht.of_upto (Scan.blanks_upto _))
      simp only [hrest' hrest]
      simp only [place_swap, Place.offset_swap, hstring', hadd ht]
    · cases h
  · next hround hat hquote =>
    have hs : s.place.Ahead back := ht.of_upto hpast.upto
    simp only at h
    split at h
    · next hname =>
      obtain rfl := Except.ok.inj h
      split
      · next rest hrest => exact absurd hrest (Place.rest_swap_ne hs hround rest)
      · next rest hrest => exact absurd hrest (Place.rest_swap_ne hs hat rest)
      · next rest hrest => exact absurd hrest (Place.rest_swap_ne hs hquote rest)
      · rw [place_swap]
        simp only [Scan.atName_swap hs, if_pos hname, (Scan.name_swap hs).2, hadd ht]
    · cases h

/-- **Looking ahead.** A step that ends before the `#` does not depend on what stands behind it. -/
theorem step_swap {s t : Reading} (hsound : s.mode.isSound = true) (h : step v s = .ok t)
    (ht : t.place.Ahead back) : step v (s.swap back back') = .ok (t.swap back back') := by
  cases hmode : s.mode with
  | items =>
    rw [step, hmode] at h
    rw [step, mode_swap, hmode]
    exact stepItems_swap hmode h ht
  | suffixes item =>
    rw [step, hmode] at h
    rw [step, mode_swap, hmode]
    exact stepSuffixes_swap hmode hsound h ht
  | clause offset opener name arguments =>
    rw [step, hmode] at h
    rw [step, mode_swap, hmode]
    exact stepClause_swap hmode h ht

/-! ## The clause of the `#` -/

/-- Only a parenthesis begins a clause. -/
theorem stepItems_of_round {s : Reading} {rest : Text} (hrest : s.place.rest = '(' :: rest) :
    stepItems v s = openRound v s (.past s.place.offset '(' rest) := by
  rw [stepItems, hrest]
  rfl

theorem exists_openRound {s t : Reading} (hs : s.mode = .items) (h : stepItems v s = .ok t)
    (ht : t.mode.isClause = true) :
    ∃ rest, s.place.rest = '(' :: rest ∧
      openRound v s (.past s.place.offset '(' rest) = .ok t := by
  -- What leaves the mode as it is begins no clause.
  have hkeeps : ∀ {u : Reading}, u.mode = s.mode → u ≠ t := by
    rintro u hu rfl
    rw [hu, hs] at ht
    cases ht
  have hmakes : ∀ {u : Reading} {item : Item}, u.mode = .suffixes item → u ≠ t := by
    rintro u item hu rfl
    rw [hu] at ht
    cases ht
  rw [stepItems] at h
  split at h
  · cases h
  · next c rest hrest =>
    simp only at h
    split at h
    · rw [readAbsent] at h
      simp only at h
      split at h
      · split at h
        · exact absurd (Except.ok.inj h) (hkeeps rfl)
        · cases h
      · cases h
    · exact absurd (Except.ok.inj h) (hkeeps rfl)
    · exact absurd (Except.ok.inj h) (hkeeps rfl)
    · unfold openItem at h
      split at h
      · exact ⟨rest, hrest, h⟩
      · exact absurd (Except.ok.inj h) (hkeeps rfl)
      · rw [closeRound] at h
        split at h
        · split at h
          · cases h
          · exact absurd (Except.ok.inj h) (hmakes rfl)
        · exact absurd (Except.ok.inj h) (hmakes rfl)
        · cases h
      · rw [closeSquare] at h
        split at h
        · exact absurd (Except.ok.inj h) (hmakes rfl)
        · cases h
      · exact absurd (Except.ok.inj h) (hmakes rfl)
      · obtain ⟨_, -, hstate⟩ := bind_eq_ok_iff.1 h
        exact absurd (Except.ok.inj hstate) (hmakes rfl)
      · split at h
        · rw [readLabel] at h
          simp only at h
          split at h
          · exact absurd (Except.ok.inj h) (hkeeps rfl)
          · cases h
        · cases h

theorem openRound_open {s t : Reading} {after : Place} {start opener : Nat} {name : String}
    (hs : s.mode = .items) (h : openRound v s after = .ok t)
    (ht : t.mode = .clause start opener name [])
    (hopener : (Scan.blanks after).offset = opener → (Scan.blanks after).rest = '#' :: back)
    (hname : Scan.atName ⟨opener + 1, back'⟩ = true) :
    openRound v (s.swap back back') (after.swap back back') =
      .ok (t.afterHead start opener back') := by
  rcases openRound_cases h with ⟨c, rest, hrest, hc⟩ | ⟨c, rest, hrest, hc, hname'⟩ | hname'
  · rw [openRound_of_group hrest hc] at h
    obtain rfl := Except.ok.inj h
    cases hs.symm.trans ht
  · rw [openRound_of_clause hrest hc hname'] at h
    obtain rfl := Except.ok.inj h
    obtain ⟨rfl, rfl, -, -⟩ := Mode.clause.inj ht
    have hhash := hopener rfl
    have hp : (Scan.blanks after).Ahead back := ⟨[], hhash.symm⟩
    have hblanks := @Scan.blanks_swap _ back' _ hp
    have hrest' : (Scan.blanks (after.swap back back')).rest = '#' :: back' := by
      rw [hblanks, Place.swap, hhash]
      exact Text.swap_append []
    rw [openRound_of_clause hrest' (.inl rfl) (by rw [hblanks]; exact hname), hblanks]
    rfl
  · rw [openRound_of_atName hname'] at h
    obtain ⟨⟨test, last⟩, -, hstate⟩ := bind_eq_ok_iff.1 h
    obtain rfl := Except.ok.inj hstate
    cases hs.symm.trans ht

/-- **The clause of the `#`.** A step that begins the clause of the `#` begins it in the other text
    too, under the name that stands there. -/
theorem step_open {s t : Reading} {start opener : Nat} {name : String} (hs : s.place.Ahead back)
    (h : step v s = .ok t) (ht : t.mode = .clause start opener name [])
    (hopener : ∀ p : Place, s.place.Upto p → p.offset = opener → p.rest = '#' :: back)
    (hname : Scan.atName ⟨opener + 1, back'⟩ = true) :
    step v (s.swap back back') = .ok (t.afterHead start opener back') := by
  -- Between items the parenthesis is the same in both texts.
  have hitems : ∀ {s' : Reading}, s'.place = s.place → s'.mode = .items →
      stepItems v s' = .ok t →
      (∃ rest, (s'.swap back back').place.rest = '(' :: rest) ∧
        stepItems v (s'.swap back back') = .ok (t.afterHead start opener back') := by
    intro s' hplace hmode h
    obtain ⟨rest, hrest, hopen⟩ := exists_openRound hmode h (by rw [ht, Mode.isClause])
    have hupto : s.place.Upto (Scan.blanks (.past s'.place.offset '(' rest)) := by
      rw [← hplace]
      exact (Place.past_past hrest).upto.trans (Scan.blanks_upto _)
    have hrest' : (s'.swap back back').place.rest = '(' :: Text.swap rest back back' :=
      Place.rest_swap hrest ((hplace ▸ hs).tail hrest (by decide))
    refine ⟨⟨_, hrest'⟩, ?_⟩
    rw [stepItems_of_round hrest']
    exact openRound_open hmode hopen ht (hopener _ hupto) hname
  cases hmode : s.mode with
  | items =>
    rw [step, hmode] at h
    rw [step, mode_swap, hmode]
    exact (hitems rfl hmode h).2
  | suffixes item =>
    rw [step, hmode] at h
    rw [step, mode_swap, hmode]
    have hadd : ∀ {suffix : Suffix} {after : Place},
        stepSuffixes.addSuffix s item suffix after ≠ t := by
      rintro suffix after rfl
      cases ht
    simp only [stepSuffixes] at h
    split at h
    · exact absurd (Except.ok.inj h) hadd
    · exact absurd (Except.ok.inj h) hadd
    · exact absurd (Except.ok.inj h) hadd
    · split at h
      · obtain rfl := Except.ok.inj h
        cases ht
      · cases h
    · obtain ⟨s', hfinish, hitem⟩ := bind_eq_ok_iff.1 h
      obtain ⟨hplace, hitems', -⟩ := finishItem_eq_ok hfinish
      -- The item before it ends, and the step goes on between items.
      obtain ⟨⟨rest, hrest⟩, hopens⟩ := hitems hplace hitems' hitem
      have hrest' : (s.swap back back').place.rest = '(' :: rest := by
        rw [← hrest, swap, swap, hplace]
      unfold stepSuffixes
      simp only [hrest', finishItem_swap hfinish]
      exact hopens
  | clause offset opener' name' arguments =>
    rw [step, hmode] at h
    -- Within a clause there are arguments, or the clause ends.
    have hadd : ∀ {argument : ClauseArgument} {after : Place},
        stepClause.addArgument s offset opener' name' arguments argument after ≠ t := by
      rintro argument after rfl
      cases ht
    simp only [stepClause] at h
    split at h
    · obtain ⟨-, hitems', -⟩ := finishItem_eq_ok h
      cases hitems'.symm.trans ht
    · split at h
      · split at h
        · exact absurd (Except.ok.inj h) hadd
        · cases h
      · cases h
    · split at h
      · exact absurd (Except.ok.inj h) hadd
      · cases h
    · split at h
      · exact absurd (Except.ok.inj h) hadd
      · cases h

end Reading
end TreeQuery
