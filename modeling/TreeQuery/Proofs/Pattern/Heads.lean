/-
  TreeQuery.Proofs.Pattern.Heads

  One clause under two names. Two texts are the same but for the name of one clause; both
  names have the same size. The one text is read step by step with the other until the
  clause begins (`Reading.Stage`), and from then on the name does not matter.

  * `Pattern.read_of_name`: under a name that can be read, the patterns are the same but for
    the name of the clause.
  * `Pattern.read_of_foreign`: a character that cannot stand in a name ends the reading with
    a fault in its place.
-/

import TreeQuery.Proofs.Pattern.Swap
import TreeQuery.Proofs.Pattern.Unnamed
import TreeQuery.Proofs.Text.Boundary

namespace TreeQuery

/-! ## Places of a text -/

namespace Place

variable {front back : Text} {p : Place}

/-- Before the `#` it is ahead. -/
theorem ahead_of_le (h : Upto ⟨0, front ++ '#' :: back⟩ p) (hle : p.offset ≤ Text.size front) :
    p.Ahead back := by
  obtain ⟨passed, hrest, hoffset⟩ := h
  have hpassed : Text.size passed ≤ Text.size front := by omega
  obtain ⟨middle, -, hmiddle⟩ := Text.exists_middle hrest.symm hpassed
  rw [Ahead, hmiddle]
  exact List.suffix_append _ _

/-- The place of the `#`. -/
theorem rest_of_offset_eq (h : Upto ⟨0, front ++ '#' :: back⟩ p)
    (heq : p.offset = Text.size front) : p.rest = '#' :: back := by
  obtain ⟨passed, hrest, hoffset⟩ := h
  have hafter := congrArg (Text.after · p.offset) hrest
  simp only at hafter hoffset
  rw [heq, Text.after_append, ← heq, hoffset, Nat.zero_add, Text.after_append] at hafter
  exact hafter.symm

end Place

namespace Reading

variable {v : Vocabulary}

theorem Goes.upto {s t : Reading} (h : Goes v s t) (hsound : s.mode.isSound = true) :
    s.place.Upto t.place := by
  induction h with
  | refl => exact .refl _
  | tail hgoes hstep ih =>
    exact ih.trans (step_effect (hgoes.isSound hsound) hstep).2.past.upto

/-! ## Two readings -/

/-- How far the reading of a text has come: it stands before the `#`, and a text with `back'`
behind the `#` is read in step; it has begun the clause of the `#`, and so has the other; or it
has gone over the `#` without beginning a clause there. -/
inductive Stage (v : Vocabulary) (front back back' : Text) (s : Reading) : Prop
  | before (hplace : s.place.offset ≤ front.size)
      (hgoes : Goes v (.initial (front ++ '#' :: back')) (s.swap back back'))
  | inside {t : Reading} {start : Nat}
      (hfirst : Goes v (.initial (front ++ '#' :: back)) (t.afterHead start front.size back))
      (hsecond : Goes v (.initial (front ++ '#' :: back')) (t.afterHead start front.size back'))
      (hgoes : Goes v (t.afterHead start front.size back) s)
  | beyond (hplace : front.size < s.place.offset) (hlandmarks : .opener front.size ∉ s.landmarks)

variable {front back back' : Text}

theorem stage_initial : Stage v front back back' (.initial (front ++ '#' :: back)) := by
  have hupto : Place.Upto ⟨0, front ++ '#' :: back⟩ (initial (front ++ '#' :: back)).place :=
    Scan.blanks_upto _
  by_cases hle : (initial (front ++ '#' :: back)).place.offset ≤ Text.size front
  · have hahead := Place.ahead_of_le hupto hle
    have hinitial : initial (front ++ '#' :: back') =
        (initial (front ++ '#' :: back)).swap back back' := by
      have hblanks := @Scan.blanks_swap _ back' _ hahead
      rw [Place.swap, Text.swap_append] at hblanks
      rw [initial, hblanks]
      rfl
    exact .before hle (hinitial ▸ .refl)
  · exact .beyond (Nat.lt_of_not_le hle) List.not_mem_nil

/-- A step that begins a clause stands behind the clause's head. -/
theorem Effect.eq_afterHead {s t : Reading} {start opener : Nat} {name : String} {back : Text}
    (h : Effect s t) (ht : t.mode = .clause start opener name [])
    (hopener : ∀ p : Place, s.place.Upto p → p.offset = opener → p.rest = '#' :: back) :
    t = t.afterHead start opener back := by
  cases h with
  | silent _ hmode | binds _ hmode | ends _ _ hmode => exact absurd ht (Mode.ne_clause hmode)
  | argues _ _ hmode => cases hmode.symm.trans ht
  | @begins p c rest offset _ hplace hrest _ _ hend hmode =>
    obtain ⟨rfl, rfl, rfl, -⟩ := Mode.clause.inj (hmode.symm.trans ht)
    have hhash := hopener p hplace.past.upto rfl
    obtain ⟨-, rfl⟩ := List.cons.inj (hrest.symm.trans hhash)
    rw [afterHead, ← hend, ← ht]

/-- A clause that has begun had begun before the step, or begins with it. -/
theorem Effect.opener_mem {s t : Reading} {o : Nat} (h : Effect s t)
    (ho : .opener o ∈ t.landmarks) :
    .opener o ∈ s.landmarks ∨ ∃ start name, t.mode = .clause start o name [] := by
  have hstarts : ∀ {new : List Landmark}, s.Starts new → .opener o ∉ new := by
    rintro new (rfl | rfl)
    · exact List.not_mem_nil
    · exact fun hmem => by cases List.mem_singleton.1 hmem
  cases h with
  | silent _ _ _ _ hnew hlandmarks =>
    rw [hlandmarks, List.mem_append] at ho
    exact .inl (ho.resolve_right (hstarts hnew))
  | binds _ _ _ _ _ hlandmarks | argues _ _ _ _ _ _ hlandmarks | ends _ _ _ _ _ hlandmarks =>
    exact .inl (hlandmarks ▸ ho)
  | begins _ _ _ _ _ hmode _ _ hnew hlandmarks =>
    rw [hlandmarks, List.mem_append, List.mem_append, List.mem_singleton] at ho
    rcases ho with ho | ho | ho
    · exact .inl ho
    · exact absurd ho (hstarts hnew)
    · obtain rfl := Landmark.opener.inj ho
      exact .inr ⟨_, _, hmode⟩

theorem Stage.step {s t : Reading} (hs : Stage v front back back' s)
    (hgoes : Goes v (.initial (front ++ '#' :: back)) s) (hstep : step v s = .ok t)
    (hname : Scan.atName ⟨front.size + 1, back'⟩ = true) : Stage v front back back' t := by
  have hsound := hgoes.isSound rfl
  obtain ⟨-, heffect⟩ := step_effect hsound hstep
  have hpast := heffect.past
  have hupto : Place.Upto ⟨0, front ++ '#' :: back⟩ s.place :=
    (Scan.blanks_upto _).trans (hgoes.upto rfl)
  cases hs with
  | before hplace hother =>
    by_cases hle : t.place.offset ≤ front.size
    · have hahead := Place.ahead_of_le (hupto.trans hpast.upto) hle
      exact .before hle (hother.tail (step_swap hsound hstep hahead))
    · by_cases hopens : ∃ start name, t.mode = .clause start front.size name []
      · obtain ⟨start, name, hmode⟩ := hopens
        have hopener : ∀ p : Place, s.place.Upto p → p.offset = Text.size front →
            p.rest = '#' :: back := fun p hp => Place.rest_of_offset_eq (hupto.trans hp)
        have heq := heffect.eq_afterHead hmode hopener
        have hopen := step_open (Place.ahead_of_le hupto hplace) hstep hmode hopener hname
        exact .inside (heq ▸ hgoes.tail hstep) (hother.tail hopen) (heq ▸ .refl)
      · -- No clause stands at the `#`, for all that stood before it began before it.
        have hbegin : InOrder (.initial (front ++ '#' :: back)) := ⟨List.Pairwise.nil, nofun⟩
        have horder := (hgoes.invariant rfl hbegin InOrder.of_effect).2
        refine .beyond (Nat.lt_of_not_le hle) fun hmem => ?_
        have hbefore := horder _ ((heffect.opener_mem hmem).resolve_right hopens)
        exact Nat.lt_irrefl _ (Nat.lt_of_lt_of_le hbefore hplace)
  | inside hfirst hsecond hmore => exact .inside hfirst hsecond (hmore.tail hstep)
  | beyond hplace hlandmarks =>
    obtain ⟨new, heq, -, hplaces⟩ := heffect.landmarks_eq
    refine .beyond (Nat.lt_trans hplace hpast.offset_lt) fun hmem => ?_
    rw [heq, List.mem_append] at hmem
    have hbehind := (hplaces _ (hmem.resolve_left hlandmarks)).1
    exact Nat.lt_irrefl _ (Nat.lt_of_lt_of_le hplace hbehind)

theorem Goes.stage {s : Reading} (h : Goes v (.initial (front ++ '#' :: back)) s)
    (hname : Scan.atName ⟨front.size + 1, back'⟩ = true) : Stage v front back back' s := by
  induction h with
  | refl => exact stage_initial
  | tail hgoes hstep ih => exact ih.step hgoes hstep hname

end Reading

/-! ## The name of the clause -/

namespace Scan

/-- Whether a character can neither stand in a name nor follow that of a clause. -/
def isForeign (c : Char) : Bool :=
  !continuesName c && !isSpace c && c != ';' && c != ')' && c != '@' && c != '"'

/-- A text that is read as one name. -/
structure IsName (t : Text) : Prop where
  starts : t.head?.any startsName = true
  continues : t.all continuesName = true

theorem IsName.atName_append {front : Text} (h : IsName front) (o : Nat) (rest : Text) :
    atName ⟨o, front ++ rest⟩ = true := by
  have hstarts := h.starts
  cases front with
  | nil => cases hstarts
  | cons c front => exact hstarts

/-- A name goes on to the first character that cannot stand in it. -/
theorem name_append {front rest : Text} (h : front.all continuesName = true) (o : Nat)
    (hrest : rest.head?.all (!continuesName ·) = true) :
    name ⟨o, front ++ rest⟩ = (String.ofList front, ⟨o + Text.size front, rest⟩) := by
  have hend : rest.takeWhile continuesName = [] ∧ rest.dropWhile continuesName = rest := by
    cases rest with
    | nil => exact ⟨rfl, rfl⟩
    | cons c rest =>
      have hc : ¬ continuesName c = true := by simpa using hrest
      exact ⟨List.takeWhile_cons_of_neg hc, List.dropWhile_cons_of_neg hc⟩
  have hall : ∀ c ∈ front, continuesName c = true := List.all_eq_true.1 h
  simp only [name, List.takeWhile_append_of_pos hall, List.dropWhile_append_of_pos hall, hend.1,
    hend.2, List.append_nil]

end Scan

namespace Pattern

variable {v : Vocabulary} {front back back' : Text} {patterns : List Pattern} {names : List String}

/-- Both readings go on from the head of the clause. -/
theorem exists_afterHead (h : Pattern.read v (front ++ '#' :: back) = .ok (patterns, names))
    (hclause : .opener front.size ∈ patterns.flatMap landmarks)
    (hname : Scan.atName ⟨front.size + 1, back'⟩ = true) :
    ∃ (t : Reading) (start : Nat),
      Pattern.read v (front ++ '#' :: back) = Reading.run v (t.afterHead start front.size back) ∧
      Pattern.read v (front ++ '#' :: back') =
        Reading.run v (t.afterHead start front.size back') := by
  obtain ⟨s, hgoes, -, -, hlandmarks, hend⟩ := goes_of_read h
  have hupto : Place.Upto ⟨0, front ++ '#' :: back⟩ s.place :=
    (Scan.blanks_upto _).trans (hgoes.upto rfl)
  cases hgoes.stage hname with
  | before hplace =>
    have hahead := Place.ahead_of_le hupto hplace
    rw [Place.Ahead, hend] at hahead
    cases List.suffix_nil.1 hahead
  | inside hfirst hsecond => exact ⟨_, _, hfirst.run_eq rfl, hsecond.run_eq rfl⟩
  | beyond _ hnone => exact absurd (hlandmarks ▸ hclause) hnone

/-- **A name that can be read.** When another name of the same size stands for the name of a
    clause, the text is read to the same patterns but for this name. -/
theorem read_of_name {name name' rest : Text}
    (h : Pattern.read v (front ++ '#' :: (name ++ rest)) = .ok (patterns, names))
    (hclause : .opener front.size ∈ patterns.flatMap landmarks)
    (hname : Scan.IsName name) (hname' : Scan.IsName name') (hsize : name'.size = name.size)
    (hrest : rest.head?.all (!Scan.continuesName ·) = true) :
    ∃ patterns', Pattern.read v (front ++ '#' :: (name' ++ rest)) = .ok (patterns', names) ∧
      patterns'.map (unname front.size) = patterns.map (unname front.size) := by
  obtain ⟨t, start, hfirst, hsecond⟩ :=
    exists_afterHead h hclause (hname'.atName_append _ rest)
  -- Behind the heads the two states differ in the name alone.
  have hunname : (t.afterHead start front.size (name' ++ rest)).unname front.size =
      (t.afterHead start front.size (name ++ rest)).unname front.size := by
    rw [Reading.afterHead, Reading.afterHead, Scan.name_append hname.continues _ hrest,
      Scan.name_append hname'.continues _ hrest, hsize]
    simp only [Reading.unname, Mode.unname, if_true]
  have hbehind : ∀ {back : Text}, Scan.atName ⟨front.size + 1, back⟩ = true →
      front.size < (t.afterHead start front.size back).place.offset := fun hback =>
    Nat.lt_of_succ_lt ((Scan.name_past hback).trans_upto (Scan.blanks_upto _)).offset_lt
  have hrun := Reading.run_unname (v := v) (s := t.afterHead start front.size (name ++ rest)) rfl
    (hbehind (hname.atName_append _ rest))
  have hrun' := Reading.run_unname (v := v) (s := t.afterHead start front.size (name' ++ rest)) rfl
    (hbehind (hname'.atName_append _ rest))
  rw [hunname, hrun, ← hfirst, ← hsecond, h] at hrun'
  cases hread : Pattern.read v (front ++ '#' :: (name' ++ rest)) with
  | error fault =>
    rw [hread] at hrun'
    cases hrun'
  | ok result =>
    rw [hread] at hrun'
    obtain ⟨hpatterns, hnames⟩ := Prod.mk.inj (Except.ok.inj hrun')
    exact ⟨result.1, congrArg Except.ok (Prod.ext rfl hnames.symm), hpatterns.symm⟩

/-- **A name that cannot be read.** A foreign character in the name of a clause ends the reading
    where it stands. -/
theorem read_of_foreign {name' more : Text} {d : Char}
    (h : Pattern.read v (front ++ '#' :: back) = .ok (patterns, names))
    (hclause : .opener front.size ∈ patterns.flatMap landmarks)
    (hname' : Scan.IsName name') (hd : Scan.isForeign d = true) :
    Pattern.read v (front ++ '#' :: (name' ++ d :: more)) =
      .error ⟨.malformed, front.size + 1 + name'.size⟩ := by
  obtain ⟨t, start, -, hsecond⟩ :=
    exists_afterHead h hclause (hname'.atName_append _ (d :: more))
  simp only [Scan.isForeign, Bool.and_eq_true, bne_iff_ne, Bool.not_eq_true'] at hd
  obtain ⟨⟨⟨⟨⟨hcontinues, hspace⟩, hsemicolon⟩, hround⟩, hat⟩, hquote⟩ := hd
  have hplace : (t.afterHead start front.size (name' ++ d :: more)).place =
      ⟨front.size + 1 + name'.size, d :: more⟩ := by
    have hend : (d :: more).head?.all (!Scan.continuesName ·) = true := by simpa using hcontinues
    rw [Reading.afterHead, Scan.name_append hname'.continues _ hend, Scan.blanks, Scan.skip]
    simp [hspace, hsemicolon]
  have hmode : ∃ name, (t.afterHead start front.size (name' ++ d :: more)).mode =
      .clause start front.size name [] := ⟨_, rfl⟩
  obtain ⟨name, hmode⟩ := hmode
  have hstep : Reading.step v (t.afterHead start front.size (name' ++ d :: more)) =
      .error ⟨.malformed, front.size + 1 + name'.size⟩ := by
    have hstarts : ¬ Scan.startsName d = true := fun hstarts => by
      simp [Scan.continuesName, hstarts] at hcontinues
    simp only [Reading.step, hmode]
    unfold Reading.stepClause
    rw [hplace]
    split
    · next heq => exact absurd (List.cons.inj heq).1 hround
    · next heq => exact absurd (List.cons.inj heq).1 hat
    · next heq => exact absurd (List.cons.inj heq).1 hquote
    · exact if_neg hstarts
  rw [hsecond, Reading.run, hplace, hstep]
  rfl

end Pattern
end TreeQuery
