/-
  TreeQuery.Proofs.Query.Sites

  Where errors over clauses point. Marks are put in by a scan of the text, clauses are read
  by the reader, and the sites of clauses are the `#` before the marks. The two agree: a
  token never runs over the `#` of an operator, so the sites of a text are the `#` of its
  clauses, in their order (`Pattern.sites_of_read`), and the sites between the start of a
  pattern and the start of the next are those of the pattern (`Query.sitesOf_eq`).

  A clause that opens with `.` has no site and yet takes one, if the registry resolves it. So
  an error points at its own clause exactly when this clause and all that the registry has
  resolved before it in the pattern open with `#` (`Query.error_place_iff`).
-/

import Mathlib.Data.List.NodupEquivFin
import TreeQuery.Proofs.Query.Failures
import TreeQuery.Proofs.Query.Marking

namespace TreeQuery

namespace Marked

open Mirrors (stringZone blankZone IsStuck)

/-! ## Tokens run over no operator -/

theorem insertionsFrom_past {z : Zone} {c : Char} (o : Nat) (t : Text) (h : z ≠ .plain ∨ c ≠ '#') :
    insertionsFrom z o (c :: t) = insertionsFrom (z.after c) (o + c.utf8Size) t := by
  have hnone : ¬ marksAfter z c t := fun hmark =>
    h.elim (fun hz => hz hmark.1) fun hc => hc hmark.2.1
  rw [insertionsFrom_cons, if_neg hnone, List.nil_append]

theorem insertionsFrom_sign {c : Char} (o : Nat) (t : Text) (h : Scan.isSign c = true) :
    insertionsFrom .plain o (c :: t) = insertionsFrom .plain (o + c.utf8Size) t := by
  have hhash : c ≠ '#' := by
    rintro rfl
    exact absurd h (by decide)
  rw [insertionsFrom_past o t (.inr hhash), Mirrors.after_eq_plain h]

theorem insertionsFrom_signs {front : Text} (o : Nat) (t : Text)
    (h : ∀ c ∈ front, Scan.isSign c = true) :
    insertionsFrom .plain o (front ++ t) = insertionsFrom .plain (o + front.size) t := by
  induction front generalizing o with
  | nil => rfl
  | cons c front ih =>
    rw [List.forall_mem_cons] at h
    rw [List.cons_append, insertionsFrom_sign o _ h.1, ih _ h.2, Text.size_cons, Nat.add_assoc]

theorem insertionsFrom_name (p : Place) :
    insertionsFrom .plain p.offset p.rest =
      insertionsFrom .plain (Scan.name p).2.offset (Scan.name p).2.rest := by
  have hsigns : ∀ c ∈ p.rest.takeWhile Scan.continuesName, Scan.isSign c = true := fun c hc =>
    Mirrors.isSign_of_continuesName (List.mem_takeWhile_imp hc)
  have h := insertionsFrom_signs p.offset (p.rest.dropWhile Scan.continuesName) hsigns
  rwa [List.takeWhile_append_dropWhile] at h

theorem insertionsFrom_string {escaped : Bool} {o : Nat} {t text : Text} {q : Place}
    (h : Scan.string escaped o t = some (text, q)) :
    insertionsFrom (stringZone escaped) o t = insertionsFrom .plain q.offset q.rest := by
  induction t generalizing escaped o text with
  | nil => cases h
  | cons c t ih =>
    -- The zone changes as the reader does.
    have hmore : ∀ (escaped' : Bool) {text' : Text},
        Zone.after c (stringZone escaped) = stringZone escaped' →
        Scan.string escaped' (o + c.utf8Size) t = some (text', q) →
        insertionsFrom (stringZone escaped) o (c :: t) =
          insertionsFrom .plain q.offset q.rest := by
      intro escaped' text' hzone hrest
      rw [insertionsFrom_past o t (.inl (by cases escaped <;> decide)), hzone, ih hrest]
    rw [Scan.string] at h
    split at h
    · next hescaped =>
      obtain ⟨⟨text', q'⟩, hrest, heq⟩ := Option.map_eq_some_iff.mp h
      obtain ⟨-, rfl⟩ := Prod.mk.inj heq
      subst hescaped
      exact hmore false rfl hrest
    · next hescaped =>
      obtain rfl := Bool.eq_false_iff.mpr hescaped
      split at h
      · next hc => exact hmore true (if_pos (beq_iff_eq.mp hc)) h
      · next hbackslash =>
        split at h
        · next hc =>
          obtain ⟨-, rfl⟩ := Prod.mk.inj (Option.some.inj h)
          obtain rfl := beq_iff_eq.mp hc
          rfl
        · next hquote =>
          split at h
          · cases h
          · obtain ⟨⟨text', q'⟩, hrest, heq⟩ := Option.map_eq_some_iff.mp h
            obtain ⟨-, rfl⟩ := Prod.mk.inj heq
            refine hmore false ?_ hrest
            simp only [stringZone, Zone.after, beq_iff_eq] at hbackslash hquote ⊢
            simp [hbackslash, hquote]

theorem insertionsFrom_skip (inComment : Bool) (o : Nat) (t : Text) :
    insertionsFrom (blankZone inComment) o t =
        insertionsFrom .plain (Scan.skip inComment o t).offset (Scan.skip inComment o t).rest ∨
      IsStuck (Scan.skip inComment o t) := by
  induction t generalizing inComment o with
  | nil => exact .inl rfl
  | cons c t ih =>
    have hmore : ∀ {inComment' : Bool}, blankZone inComment ≠ .plain ∨ c ≠ '#' →
        Zone.after c (blankZone inComment) = blankZone inComment' →
        insertionsFrom (blankZone inComment) o (c :: t) =
            insertionsFrom .plain (Scan.skip inComment' (o + c.utf8Size) t).offset
              (Scan.skip inComment' (o + c.utf8Size) t).rest ∨
          IsStuck (Scan.skip inComment' (o + c.utf8Size) t) := by
      intro inComment' hc hzone
      rw [insertionsFrom_past o t hc, hzone]
      exact ih inComment' _
    rw [Scan.skip]
    split
    · next hcomment =>
      obtain rfl := hcomment
      split
      · next hnull => exact .inr (congrArg some (beq_iff_eq.mp hnull))
      · refine hmore (.inl (by decide)) ?_
        by_cases hc : c = '\n' <;> simp [blankZone, Zone.after, hc]
    · next hcomment =>
      obtain rfl := Bool.eq_false_iff.mpr hcomment
      split
      · next hspace =>
        have hsign := Mirrors.isSign_of_isSpace hspace
        refine hmore (.inr ?_) (Mirrors.after_eq_plain hsign)
        rintro rfl
        exact absurd hsign (by decide)
      · split
        · next hc =>
          obtain rfl := beq_iff_eq.mp hc
          exact hmore (.inr (by decide)) rfl
        · exact .inl rfl

/-- Between two places that the reader comes to, no mark is put in. -/
theorem insertionsFrom_reads {p q : Place} (h : Scan.Reads p q) :
    insertionsFrom .plain p.offset p.rest = insertionsFrom .plain q.offset q.rest ∨ IsStuck q := by
  -- One case for each token; a null character in a comment leaves the reader stuck.
  induction h with
  | sign hrest hc =>
    left
    rw [hrest, insertionsFrom_sign _ _ hc]
    rfl
  | name => exact .inl (insertionsFrom_name _)
  | @string p q rest text hrest hstring =>
    left
    rw [hrest, insertionsFrom_past _ _ (.inr (by decide))]
    exact insertionsFrom_string hstring
  | @blanks p q _ ih =>
    rcases ih with heq | hstuck
    · rw [heq]
      exact insertionsFrom_skip false q.offset q.rest
    · exact .inr (Mirrors.isStuck_blanks hstuck)
  | trans _ hlater ihfirst ihlater =>
    rcases ihfirst with heq | hstuck
    · rwa [heq]
    · exact absurd hstuck (Mirrors.not_isStuck_of_reads hlater)

/-- The head of a clause: a `#` has an operator after it, a `.` has none. -/
theorem insertionsFrom_head {p : Place} {c : Char} {rest : Text} (hrest : p.rest = c :: rest)
    (hc : c = '#' ∨ c = '.') (hname : Scan.atName ⟨p.offset + 1, rest⟩ = true) :
    insertionsFrom .plain p.offset p.rest =
      (if c = '#' then [p.offset + 1] else []) ++
        insertionsFrom .plain (p.offset + 1) rest := by
  obtain ⟨d, hd, hstart⟩ := (Option.any_eq_true _ _).mp hname
  obtain ⟨more, rfl⟩ := List.head?_eq_some_iff.mp hd
  rw [hrest]
  rcases hc with rfl | rfl
  · rw [insertionsFrom_cons, if_pos ⟨rfl, rfl, Mirrors.startsOperator_of_startsName hstart⟩]
    rfl
  · rw [insertionsFrom_past _ _ (.inr (by decide))]
    rfl

/-! ## Marks of the marked text -/

theorem startsOperator_markFrom (z : Zone) (t : Text) :
    startsOperator (markFrom z t) = startsOperator t := by
  rw [startsOperator, Mirrors.head?_markFrom]
  rfl

/-- A mark begins like a name. -/
theorem startsOperator_mark (t : Text) : startsOperator (operatorMark ++ t) = true := by
  have hmark : operatorMark = ['w', 'e', 'a', 'v', 'e', 'r', '-'] := by decide
  have hstart : Scan.startsName 'w' = true := by decide
  rw [hmark]
  exact Mirrors.startsOperator_of_startsName hstart

/-- A marked text would be marked at the same operators, each behind the marks before it. -/
theorem insertionsFrom_markFrom (z : Zone) (o n : Nat) (t : Text) :
    insertionsFrom z (o + operatorMark.size * n) (markFrom z t) =
      (insertionsFrom z o t).map fun i =>
        i + operatorMark.size * (n + (insertionsFrom z o t).countP (· < i)) := by
  induction t generalizing z o n with
  | nil => rfl
  | cons c t ih =>
    rw [markFrom_cons]
    by_cases hmark : marksAfter z c t
    · have hzone : z.after c = .plain := by
        rw [hmark.1, hmark.2.1]
        rfl
      have hwidth : c.utf8Size = 1 := by
        rw [hmark.2.1]
        rfl
      have hown : insertionsFrom z o (c :: t) = (o + 1) :: insertionsFrom .plain (o + 1) t := by
        rw [insertionsFrom_cons, if_pos hmark, hzone, hwidth, List.singleton_append]
      -- The mark begins an operator, and no further mark is put into it.
      have hagain : marksAfter z c (operatorMark ++ markFrom .plain t) :=
        ⟨hmark.1, hmark.2.1, startsOperator_mark _⟩
      have hall : operatorMark.all Scan.isSign = true := by decide
      have hsigns := List.all_eq_true.mp hall
      have hshift : o + operatorMark.size * n + 1 + operatorMark.size =
          o + 1 + operatorMark.size * (n + 1) := by
        rw [Nat.mul_succ]
        omega
      have hmarked : insertionsFrom z (o + operatorMark.size * n)
          (c :: (operatorMark ++ markFrom .plain t)) =
          (o + operatorMark.size * n + 1) ::
            insertionsFrom .plain (o + 1 + operatorMark.size * (n + 1)) (markFrom .plain t) := by
        rw [insertionsFrom_cons, if_pos hagain, hzone, hwidth, insertionsFrom_signs _ _ hsigns,
          hshift, List.singleton_append]
      -- All later marks stand behind this one, so it counts for them and they not for it.
      have hbehind : ∀ i ∈ insertionsFrom .plain (o + 1) t, o + 1 < i := fun i =>
        lt_of_mem_insertionsFrom
      have hfirst : ((o + 1) :: insertionsFrom .plain (o + 1) t).countP (· < o + 1) = 0 := by
        rw [List.countP_eq_zero, List.forall_mem_cons]
        refine ⟨by simp, fun i hi => ?_⟩
        rw [decide_eq_true_iff]
        exact Nat.not_lt_of_lt (hbehind i hi)
      rw [if_pos hmark, hzone, hown, hmarked, ih .plain (o + 1) (n + 1), List.map_cons, hfirst]
      congr 1
      · rw [Nat.add_zero n]
        omega
      · refine List.map_congr_left fun i hi => ?_
        rw [List.countP_cons_of_pos (by simpa using hbehind i hi)]
        congr 2
        omega
    · have hagain : ¬ marksAfter z c (markFrom (z.after c) t) := by
        rwa [marksAfter, startsOperator_markFrom]
      have hlater := ih (z.after c) (o + c.utf8Size) n
      have hshift : o + operatorMark.size * n + c.utf8Size =
          o + c.utf8Size + operatorMark.size * n := by omega
      rw [if_neg hmark, List.nil_append, insertionsFrom_cons, if_neg hagain, List.nil_append,
        insertionsFrom_cons, if_neg hmark, List.nil_append, hshift, hlater]

/-- Of the marks of a marked text, each maps back to the site of a mark. -/
theorem sites_eq_map (t : Text) :
    (ofText t).sites =
      (insertionsFrom .plain 0 (ofText t).text).map fun i => (ofText t).toBare (i - 1) := by
  have hmarked := insertionsFrom_markFrom .plain 0 0 t
  rw [Nat.mul_zero, Nat.add_zero] at hmarked
  show _ = (insertionsFrom .plain 0 (markFrom .plain t)).map _
  rw [hmarked, List.map_map]
  refine List.map_congr_left fun i hi => ?_
  have hpos : 0 < i := lt_of_mem_insertionsFrom hi
  have hcount : (insertionsFrom .plain 0 t).countP (· < i) =
      (insertionsFrom .plain 0 t).countP (· ≤ i - 1) := by
    refine List.countP_congr fun j _ => ?_
    simp only [decide_eq_true_iff]
    omega
  have hplace : i + operatorMark.size * (0 + (insertionsFrom .plain 0 t).countP (· < i)) - 1 =
      (ofText t).placeOf (i - 1) := by
    rw [hcount, Nat.zero_add]
    show _ = i - 1 + operatorMark.size * (insertionsFrom .plain 0 t).countP (· ≤ i - 1)
    omega
  show i - 1 = (ofText t).toBare (_ - 1)
  rw [hplace, toBare_placeOf]

end Marked

namespace Reading

open Marked.Mirrors (IsStuck)

/-- Whether a clause opens with `#` there in the caller's text. -/
def isHashedAt (t : Text) : Landmark → Bool
  | .start _ => false
  | .opener o => (t.after ((Marked.ofText t).toBare o)).head? == some '#'

/-- Landmarks stand at places of the caller's text, and the marks that have been passed are those
of the clauses that open with `#`. -/
structure Charted (t : Text) (s : Reading) : Prop where
  inStep : InStep t s
  landmarks : ∀ l ∈ s.landmarks, ∃ b m, Marked.Mirrors t .plain b m ∧ l.offset = m.offset
  marks : Marked.insertionsFrom .plain 0 (Marked.ofText t).text =
      (s.landmarks.filter (isHashedAt t)).map (·.offset + 1) ++
        Marked.insertionsFrom .plain s.place.offset s.place.rest ∨ IsStuck s.place

theorem charted_initial (t : Text) : Charted t (.initial (Marked.ofText t).text) where
  inStep := inStep_initial t
  landmarks := nofun
  marks := Marked.insertionsFrom_skip false 0 (Marked.ofText t).text

/-- A token starts where the reader stands in step. -/
theorem InStep.mirrors {t : Text} {s : Reading} (hs : InStep t s) {q : Place}
    (h : Scan.Reads s.place q) : ∃ b, Marked.Mirrors t .plain b s.place :=
  hs.place.resolve_right (Marked.Mirrors.not_isStuck_of_reads h)

theorem InStep.reads {t : Text} {s : Reading} (hs : InStep t s) {q : Place}
    (h : Scan.Reads s.place q) : (∃ b, Marked.Mirrors t .plain b q) ∨ IsStuck q := by
  obtain ⟨b, hb⟩ := hs.mirrors h
  exact hb.reads h

theorem Starts.filter_eq_nil {t : Text} {s : Reading} {new : List Landmark} (h : s.Starts new) :
    new.filter (isHashedAt t) = [] := by
  rcases h with rfl | rfl
  · rfl
  · rfl

/-- What starts between items starts where the reader stands. -/
theorem Charted.starts {t : Text} {s : Reading} (hs : Charted t s) {q : Place}
    (hreads : Scan.Reads s.place q) {new : List Landmark} (hnew : s.Starts new) :
    ∀ l ∈ s.landmarks ++ new, ∃ b m, Marked.Mirrors t .plain b m ∧ l.offset = m.offset := by
  intro l hl
  rcases List.mem_append.mp hl with hl | hl
  · exact hs.landmarks l hl
  · obtain ⟨b, hb⟩ := hs.inStep.mirrors hreads
    rcases hnew with rfl | rfl
    · cases hl
    · rw [List.mem_singleton.mp hl]
      exact ⟨b, s.place, hb, rfl⟩

/-- Tokens pass no marks. -/
theorem Charted.marks_of_reads {t : Text} {s : Reading} (hs : Charted t s) {q : Place}
    (hreads : Scan.Reads s.place q) :
    Marked.insertionsFrom .plain 0 (Marked.ofText t).text =
        (s.landmarks.filter (isHashedAt t)).map (·.offset + 1) ++
          Marked.insertionsFrom .plain q.offset q.rest ∨ IsStuck q := by
  have hmarks := hs.marks.resolve_right (Marked.Mirrors.not_isStuck_of_reads hreads)
  rw [hmarks]
  exact (Marked.insertionsFrom_reads hreads).imp_left fun heq => by rw [heq]

theorem Charted.of_effect {t : Text} {s u : Reading} (hs : Charted t s) (h : Effect s u) :
    Charted t u := by
  have hstep := hs.inStep.of_effect h
  -- Only the head of a clause has a mark.
  have hquiet : Scan.Reads s.place u.place → ∀ {new : List Landmark}, s.Starts new →
      u.landmarks = s.landmarks ++ new → Charted t u := by
    intro hreads new hnew hlandmarks
    refine ⟨hstep, hlandmarks ▸ hs.starts hreads hnew, ?_⟩
    rw [hlandmarks, List.filter_append, hnew.filter_eq_nil, List.append_nil]
    exact hs.marks_of_reads hreads
  have hnothing : Scan.Reads s.place u.place → u.landmarks = s.landmarks → Charted t u :=
    fun hreads heq => hquiet hreads (.inl rfl) (by rw [heq, List.append_nil])
  cases h with
  | silent hreads _ _ _ hnew hlandmarks => exact hquiet hreads hnew hlandmarks
  | binds hreads _ _ _ _ hlandmarks => exact hnothing hreads hlandmarks
  | argues hreads _ _ _ _ _ hlandmarks => exact hnothing hreads hlandmarks
  | ends hreads _ _ _ _ hlandmarks => exact hnothing hreads hlandmarks
  | @begins p c rest offset new hreads hrest hc hname hend hmode _ _ hnew hlandmarks =>
    -- The head of a clause is there to be read, so the reader is not stuck before it.
    have hopen : ¬ IsStuck p := by
      intro hstuck
      rw [IsStuck, hrest] at hstuck
      rcases hc with rfl | rfl <;> exact absurd (Option.some.inj hstuck) (by decide)
    obtain ⟨b, hb⟩ := (hs.inStep.reads hreads).resolve_right hopen
    refine ⟨hstep, ?_, ?_⟩
    · rw [hlandmarks, ← List.append_assoc]
      intro l hl
      rcases List.mem_append.mp hl with hl | hl
      · exact hs.starts hreads hnew l hl
      · rw [List.mem_singleton.mp hl]
        exact ⟨b, p, hb, rfl⟩
    · have hhash : isHashedAt t (.opener p.offset) = (c == '#') := by
        rw [isHashedAt, hb.toBare_eq, hb.after_eq, ← hb.head?_eq, hrest]
        rfl
      have hmarks := (hs.marks_of_reads hreads).resolve_right hopen
      rw [Marked.insertionsFrom_head hrest hc hname] at hmarks
      have hafter : Scan.Reads ⟨p.offset + 1, rest⟩ u.place := hend ▸ .blanks (.name hname)
      have hown : ([Landmark.opener p.offset].filter (isHashedAt t)).map (·.offset + 1) =
          if c = '#' then [p.offset + 1] else [] := by
        rw [List.filter_singleton, hhash]
        rcases hc with rfl | rfl <;> rfl
      rw [hlandmarks, List.filter_append, List.filter_append, hnew.filter_eq_nil, List.nil_append,
        List.map_append, hown, hmarks, List.append_assoc]
      refine (Marked.insertionsFrom_reads hafter).imp_left fun heq => ?_
      rw [← heq]

end Reading

/-! ## Sites of clauses -/

theorem Pattern.landmarks_eq (p : Pattern) :
    p.landmarks = .start p.start :: p.item.clauses.map (.opener ·.opener) := by
  rw [landmarks, Mention.landmarks, ← Item.clauses_eq]

namespace Pattern

variable {v : Vocabulary} {t : Text} {patterns : List Pattern} {names : List String}

theorem filter_landmarks (t : Text) (patterns : List Pattern) :
    (patterns.flatMap landmarks).filter (Reading.isHashedAt t) =
      ((patterns.flatMap (·.item.clauses)).filter (Marked.ofText t).isHashed).map
        (.opener ·.opener) := by
  induction patterns with
  | nil => rfl
  | cons p patterns ih =>
    rw [List.flatMap_cons, List.filter_append, ih, List.flatMap_cons, List.filter_append,
      List.map_append, landmarks_eq, List.filter_cons_of_neg (by exact nofun), List.filter_map]
    rfl

/-- **Sites.** The sites of a text that can be read are the `#` of its clauses, in their order. -/
theorem sites_of_read (h : Pattern.read v (Marked.ofText t).text = .ok (patterns, names)) :
    (Marked.ofText t).sites =
      ((patterns.flatMap (·.item.clauses)).filter (Marked.ofText t).isHashed).map
        ((Marked.ofText t).toBare ·.opener) := by
  obtain ⟨s, hgoes, -, -, hlandmarks, hend⟩ := goes_of_read h
  have hcharted := hgoes.invariant rfl (Reading.charted_initial t) Reading.Charted.of_effect
  have hopen : ¬ Marked.Mirrors.IsStuck s.place := by
    rw [Marked.Mirrors.IsStuck, hend]
    intro hstuck
    cases hstuck
  -- At the end nothing is left to be marked.
  have hmarks := hcharted.marks.resolve_right hopen
  rw [hend, ← hlandmarks, filter_landmarks] at hmarks
  rw [Marked.sites_eq_map, hmarks]
  simp [Marked.insertionsFrom, Landmark.offset]

/-- Landmarks are in the same order in the caller's text. -/
theorem landmarks_toBare_of_read
    (h : Pattern.read v (Marked.ofText t).text = .ok (patterns, names)) :
    (patterns.flatMap landmarks).Pairwise fun l l' =>
      (Marked.ofText t).toBare l.offset < (Marked.ofText t).toBare l'.offset := by
  obtain ⟨s, hgoes, -, -, hlandmarks, -⟩ := goes_of_read h
  have hcharted := hgoes.invariant rfl (Reading.charted_initial t) Reading.Charted.of_effect
  refine (landmarks_of_read h).imp_of_mem fun {l l'} hl hl' hlt => ?_
  rw [hlandmarks] at hl hl'
  obtain ⟨b, m, hb, hm⟩ := hcharted.landmarks l hl
  obtain ⟨b', m', hb', hm'⟩ := hcharted.landmarks l' hl'
  rw [hm, hm'] at hlt ⊢
  rw [hb.toBare_eq, hb'.toBare_eq]
  exact hb.offset_lt hb' hlt

end Pattern

namespace Query

variable {language : Language} {source : Text} {patterns : List Pattern} {names : List String}

theorem opener_mem_landmarks {c : Clause} {ps : List Pattern}
    (hc : c ∈ ps.flatMap (·.item.clauses)) :
    .opener c.opener ∈ ps.flatMap Pattern.landmarks := by
  obtain ⟨p, hp, hc⟩ := List.mem_flatMap.mp hc
  refine List.mem_flatMap.mpr ⟨p, hp, ?_⟩
  rw [Pattern.landmarks_eq]
  exact List.mem_cons_of_mem _ (List.mem_map_of_mem hc)

section

variable {v : Vocabulary} {t : Text} {earlier later : List Pattern} {p : Pattern} {c : Clause}

/-- The clauses of earlier patterns open before the start of a pattern. -/
theorem not_isWithin_of_earlier
    (h : Pattern.read v (Marked.ofText t).text = .ok (earlier ++ p :: later, names))
    (hc : c ∈ earlier.flatMap (·.item.clauses)) :
    isWithin (Marked.ofText t) p later.head? ((Marked.ofText t).toBare c.opener) = false := by
  have hordered := Pattern.landmarks_toBare_of_read h
  rw [List.flatMap_append] at hordered
  have hstart : Landmark.start p.start ∈ (p :: later).flatMap Pattern.landmarks :=
    List.mem_flatMap.mpr ⟨p, List.mem_cons_self, List.mem_cons_self⟩
  have hbefore : (Marked.ofText t).toBare c.opener < (Marked.ofText t).toBare p.start :=
    (List.pairwise_append.mp hordered).2.2 _ (opener_mem_landmarks hc) _ hstart
  rw [isWithin, decide_eq_false (Nat.not_le_of_lt hbefore), Bool.false_and]

/-- Its own clauses open behind its start. -/
theorem start_lt_opener
    (h : Pattern.read v (Marked.ofText t).text = .ok (earlier ++ p :: later, names))
    (hc : c ∈ p.item.clauses) :
    (Marked.ofText t).toBare p.start < (Marked.ofText t).toBare c.opener := by
  have hordered := Pattern.landmarks_toBare_of_read h
  rw [List.flatMap_append, List.flatMap_cons, Pattern.landmarks_eq] at hordered
  have hown := (List.pairwise_append.mp (List.pairwise_append.mp hordered).2.1).1
  exact (List.pairwise_cons.mp hown).1 _ (List.mem_map_of_mem hc)

/-- They open before the start of the next pattern. -/
theorem isWithin_of_own
    (h : Pattern.read v (Marked.ofText t).text = .ok (earlier ++ p :: later, names))
    (hc : c ∈ p.item.clauses) :
    isWithin (Marked.ofText t) p later.head? ((Marked.ofText t).toBare c.opener) = true := by
  have hordered := Pattern.landmarks_toBare_of_read h
  rw [List.flatMap_append, List.flatMap_cons] at hordered
  have hbefore := (List.pairwise_append.mp (List.pairwise_append.mp hordered).2.1).2.2
  have hopener : Landmark.opener c.opener ∈ p.landmarks := by
    rw [Pattern.landmarks_eq]
    exact List.mem_cons_of_mem _ (List.mem_map_of_mem hc)
  have hnext : later.head?.all
      ((Marked.ofText t).toBare c.opener < (Marked.ofText t).toBare ·.start) = true := by
    rw [Option.all_eq_true]
    intro q hq
    have hstart : Landmark.start q.start ∈ later.flatMap Pattern.landmarks :=
      List.mem_flatMap.mpr ⟨q, List.mem_of_mem_head? hq, List.mem_cons_self⟩
    exact decide_eq_true (hbefore _ hopener _ hstart)
  rw [isWithin, decide_eq_true (Nat.le_of_lt (start_lt_opener h hc)), Bool.true_and, hnext]

/-- The clauses of later patterns open behind the start of the next. -/
theorem not_isWithin_of_later
    (h : Pattern.read v (Marked.ofText t).text = .ok (earlier ++ p :: later, names))
    (hc : c ∈ later.flatMap (·.item.clauses)) :
    isWithin (Marked.ofText t) p later.head? ((Marked.ofText t).toBare c.opener) = false := by
  have hordered := Pattern.landmarks_toBare_of_read h
  rw [List.flatMap_append, List.flatMap_cons] at hordered
  obtain ⟨-, hlater, -⟩ := List.pairwise_append.mp (List.pairwise_append.mp hordered).2.1
  cases later with
  | nil => cases hc
  | cons q later =>
    have hopener := opener_mem_landmarks hc
    rw [List.flatMap_cons, Pattern.landmarks_eq, List.cons_append] at hopener hlater
    have hbehind := (List.pairwise_cons.mp hlater).1 _
      ((List.mem_cons.mp hopener).resolve_left nofun)
    have hnext : ((q :: later).head?.all
        ((Marked.ofText t).toBare c.opener < (Marked.ofText t).toBare ·.start)) = false :=
      decide_eq_false (Nat.lt_asymm hbehind)
    rw [isWithin, hnext, Bool.and_false]

theorem filter_map_toBare_eq_nil {m : Marked} {next : Option Pattern} {cs : List Clause}
    (h : ∀ c ∈ cs, isWithin m p next (m.toBare c.opener) = false) :
    ((cs.filter m.isHashed).map (m.toBare ·.opener)).filter (isWithin m p next) = [] := by
  rw [List.filter_eq_nil_iff, List.forall_mem_map]
  intro c hc
  rw [h c (List.mem_of_mem_filter hc)]
  exact Bool.false_ne_true

/-- The sites of a pattern are the `#` of its own clauses. -/
theorem sitesOf_eq
    (h : Pattern.read v (Marked.ofText t).text = .ok (earlier ++ p :: later, names)) :
    sitesOf (Marked.ofText t) p later.head? =
      (p.item.clauses.filter (Marked.ofText t).isHashed).map
        ((Marked.ofText t).toBare ·.opener) := by
  have hearlier := filter_map_toBare_eq_nil fun c => not_isWithin_of_earlier (c := c) h
  have hown : ((p.item.clauses.filter (Marked.ofText t).isHashed).map
      ((Marked.ofText t).toBare ·.opener)).filter (isWithin (Marked.ofText t) p later.head?) =
      (p.item.clauses.filter (Marked.ofText t).isHashed).map
        ((Marked.ofText t).toBare ·.opener) := by
    rw [List.filter_eq_self, List.forall_mem_map]
    intro c hc
    exact isWithin_of_own h (List.mem_of_mem_filter hc)
  have hlater := filter_map_toBare_eq_nil fun c => not_isWithin_of_later (c := c) h
  rw [sitesOf, Pattern.sites_of_read h]
  simp only [List.flatMap_append, List.flatMap_cons, List.filter_append, List.map_append]
  rw [hearlier, hown, hlater, List.nil_append, List.append_nil]

end

/-! ## The place of an error -/

/-- The element that has the number `k` among all has it among those that pass a test just when
all up to it pass. -/
theorem getElem?_filter_eq_iff {α : Type} {as : List α} {test : α → Bool} (hnodup : as.Nodup)
    {k : Nat} {a : α} (ha : as[k]? = some a) :
    (as.filter test)[k]? = some a ↔ ∀ b ∈ as.take (k + 1), test b = true := by
  constructor
  · intro h
    -- Elements that pass keep their order, so each has moved forwards if at all.
    obtain ⟨place, hplace⟩ := List.sublist_iff_exists_orderEmbedding_getElem?_eq.mp
      (List.filter_sublist (p := test) (l := as))
    have hlength : k < as.length := (List.getElem?_eq_some_iff.mp ha).1
    have hsame : as[k]? = as[place k]? := by rw [← hplace, h, ha]
    have hfixed : k = place k := (List.getElem?_inj hlength hnodup).mp hsame
    intro b hb
    obtain ⟨i, hi, rfl⟩ := List.mem_take_iff_getElem.mp hb
    have hle : i ≤ place i := place.strictMono.le_apply
    have hlast : k - i + place i ≤ place (k - i + i) := place.strictMono.add_le_nat (k - i) i
    have hback : k - i + i = k := by omega
    rw [hback] at hlast
    have hstays : place i = i := by omega
    have hmem : (as.filter test)[i]? = some as[i] := by
      rw [hplace, hstays]
      exact List.getElem?_eq_getElem _
    exact List.of_mem_filter (List.mem_of_getElem? hmem)
  · intro hall
    have hfront : (as.take (k + 1)).filter test = as.take (k + 1) := List.filter_eq_self.mpr hall
    have hfirst : (as.take (k + 1))[k]? = some a := by
      rw [List.getElem?_take_of_lt (Nat.lt_succ_self k), ha]
    have hlength := (List.getElem?_eq_some_iff.mp hfirst).1
    rw [← List.take_append_drop (k + 1) as, List.filter_append, hfront,
      List.getElem?_append_left hlength, hfirst]

/-- No two clauses of a text open at one place. -/
theorem nodup_openers {v : Vocabulary} {t : Text}
    (h : Pattern.read v (Marked.ofText t).text = .ok (patterns, names)) :
    ((patterns.flatMap (·.item.clauses)).map ((Marked.ofText t).toBare ·.opener)).Nodup :=
  List.pairwise_map.mpr ((Pattern.spelled_of_read h).2.imp Nat.ne_of_lt)

/-- Clauses that open with `#` are general. -/
theorem filter_isHashed_generalClauses (m : Marked) (p : Pattern) :
    (generalClauses m p).filter m.isHashed = p.item.clauses.filter m.isHashed := by
  rw [generalClauses, List.filter_filter]
  refine List.filter_congr fun d _ => ?_
  rw [Marked.isGeneral, Bool.and_or_distrib_left]
  cases m.isHashed d <;> rfl

/-- The `k`-th site of a pattern is the place of its `k`-th general clause just when no clause up
to this one is without a site. -/
theorem site_eq_opener_iff {v : Vocabulary} {t : Text} {earlier later : List Pattern} {p : Pattern}
    (h : Pattern.read v (Marked.ofText t).text = .ok (earlier ++ p :: later, names)) {k : Nat}
    {c : Clause} (hc : (generalClauses (Marked.ofText t) p)[k]? = some c) :
    (sitesOf (Marked.ofText t) p later.head?)[k]?.getD ((Marked.ofText t).toBare p.start) =
        (Marked.ofText t).toBare c.opener ↔
      ∀ d ∈ (generalClauses (Marked.ofText t) p).take (k + 1),
        (Marked.ofText t).isHashed d = true := by
  have hp : p ∈ earlier ++ p :: later := List.mem_append_right _ List.mem_cons_self
  have hopeners := nodup_openers h
  have hmem {d : Clause} (hd : d ∈ generalClauses (Marked.ofText t) p) :
      d ∈ (earlier ++ p :: later).flatMap (·.item.clauses) :=
    List.mem_flatMap.mpr ⟨p, hp, List.mem_of_mem_filter hd⟩
  have hgeneral := List.mem_of_getElem? hc
  have hnodup : (generalClauses (Marked.ofText t) p).Nodup :=
    ((List.nodup_flatMap.mp hopeners.of_map).1 p hp).filter _
  rw [sitesOf_eq h, ← filter_isHashed_generalClauses, ← getElem?_filter_eq_iff hnodup hc,
    List.getElem?_map]
  cases hd : ((generalClauses (Marked.ofText t) p).filter (Marked.ofText t).isHashed)[k]? with
  | none =>
    -- The start of the pattern is the place of none of its clauses.
    refine iff_of_false (fun heq => ?_) nofun
    have hlt := start_lt_opener h (List.mem_of_mem_filter hgeneral)
    exact Nat.ne_of_lt hlt heq
  | some d =>
    have hd' := List.mem_of_mem_filter (List.mem_of_getElem? hd)
    constructor
    · intro heq
      rw [List.inj_on_of_nodup_map hopeners (hmem hd') (hmem hgeneral) heq]
    · intro heq
      rw [Option.some.inj heq]
      rfl

/-- **Where an error points.** An accepted text that is refused over the `k`-th general clause of a
    pattern is refused at the `k`-th `#` of the pattern, or at its start when it has no such `#`.
    That is the place of the clause exactly when the clause and all the general clauses before it
    in the pattern open with `#`. -/
theorem error_place_iff (h : Accepted language source patterns names) {registry : Registry}
    {e : QueryError} (he : compile language source registry = .error e) :
    ∃ i k p c kind fault,
      FirstFailure registry (Marked.ofText source) names patterns i k p c kind fault ∧
      e.kind = kind ∧ e.text = fault.message ∧
      (e.row, e.column) = (source.before e.offset).rowColumn ∧
      e.offset = ((p.item.clauses.filter (Marked.ofText source).isHashed).map
        ((Marked.ofText source).toBare ·.opener))[k]?.getD
          ((Marked.ofText source).toBare p.start) ∧
      (e.offset = (Marked.ofText source).toBare c.opener ↔
        ∀ d ∈ (generalClauses (Marked.ofText source) p).take (k + 1),
          (Marked.ofText source).isHashed d = true) := by
  obtain ⟨i, k, p, c, kind, fault, hfirst, rfl⟩ := h.compile_eq_error_iff.mp he
  obtain ⟨hi, hp⟩ := List.getElem?_eq_some_iff.mp hfirst.pattern
  have hsplit : patterns = patterns.take i ++ p :: patterns.drop (i + 1) := by
    rw [← hp, ← List.drop_eq_getElem_cons hi, List.take_append_drop]
  have hread := h.read
  rw [hsplit] at hread
  -- The next pattern is the first of those behind the `i`-th.
  have hsites := sitesOf_eq hread
  have hplace := site_eq_opener_iff hread hfirst.clause
  rw [List.head?_drop] at hsites hplace
  refine ⟨i, k, p, c, kind, fault, hfirst, rfl, rfl, rfl, ?_, hplace⟩
  rw [← hsites]
  rfl

/-! ### A dotted clause before another -/

/-- A name with two general clauses, the first of which opens with `.`. -/
def dottedFirst : Text := "((identifier) @a (.in_message_map? @a) (#nope? @a))".toList

/-- The first clause, which passes. -/
def blockClause : Clause := ⟨18, "in_message_map?", [.capture "a"]⟩

/-- The second clause, which names no predicate. -/
def nopeClause : Clause := ⟨40, "weaver-nope?", [.capture "a"]⟩

/-- What is read in the text. -/
def dottedFirstPattern : Pattern :=
  ⟨0, .group 0 [capturedIdentifier, .clause 17 blockClause, .clause 39 nopeClause] []⟩

theorem accepted_dottedFirst : Accepted .cpp dottedFirst [dottedFirstPattern] ["a"] where
  read := by with_unfolding_all exact rfl
  possible := by decide +kernel
  ownClauses := by
    have hnames : ∀ c ∈ dottedFirstPattern.item.clauses, c.name ∉ TextFilter.ownNames := by decide
    intro p hp c hc
    obtain rfl := List.mem_singleton.mp hp
    exact ⟨.other, TextFilter.ofClause_eq_other_iff.mpr (hnames c hc)⟩

theorem generalClauses_dottedFirst :
    generalClauses (Marked.ofText dottedFirst) dottedFirstPattern = [blockClause, nopeClause] := by
  decide +kernel

theorem passes_blockClause :
    Passes .builtins (Marked.ofText dottedFirst) ["a"] blockClause := by
  have hname : (Marked.ofText dottedFirst).operatorName blockClause = "in_message_map?" := by
    decide +kernel
  rw [Passes, hname]
  refine ⟨_, rfl, ⟨le_rfl, fun max hmax => ?_⟩, fun a ha => ⟨_, List.mem_singleton.mp ha⟩, _, rfl⟩
  cases hmax

theorem firstFailure_dottedFirst :
    FirstFailure .builtins (Marked.ofText dottedFirst) ["a"] [dottedFirstPattern] 0 1
      dottedFirstPattern nopeClause .unknownPredicate (.unknown "nope?") where
  pattern := rfl
  clause := by
    rw [generalClauses_dottedFirst]
    rfl
  earlier := nofun
  before := by
    rw [generalClauses_dottedFirst]
    intro d hd
    rw [List.mem_singleton.mp hd]
    exact passes_blockClause
  fails := by
    have hname : (Marked.ofText dottedFirst).operatorName nopeClause = "nope?" := by
      decide +kernel
    rw [hname]
    exact .unknown rfl

/-- An error need not point at its clause: the first clause has taken the `#` of the second. -/
theorem place_fails_dottedFirst :
    ¬ ∀ patterns names, Accepted .cpp dottedFirst patterns names →
      ∀ e, compile .cpp dottedFirst .builtins = .error e →
        ∀ i k p c kind fault,
          FirstFailure .builtins (Marked.ofText dottedFirst) names patterns i k p c kind fault →
          e.offset = (Marked.ofText dottedFirst).toBare c.opener := by
  intro hall
  have herror := accepted_dottedFirst.compile_eq_error_iff.mpr
    ⟨_, _, _, _, _, _, firstFailure_dottedFirst, rfl⟩
  have hplace := hall _ _ accepted_dottedFirst _ herror _ _ _ _ _ _ firstFailure_dottedFirst
  have hsites : sitesOf (Marked.ofText dottedFirst) dottedFirstPattern none = [40] := by
    decide +kernel
  have hend : [dottedFirstPattern][0 + 1]? = none := rfl
  rw [hend, hsites] at hplace
  exact absurd hplace (by decide +kernel)

/-- The error points at the start of the pattern. -/
theorem error_place_dottedFirst :
    ∃ e, compile .cpp dottedFirst .builtins = .error e ∧ e.offset = 0 ∧
      (e.row, e.column) = (0, 0) := by
  have herror := accepted_dottedFirst.compile_eq_error_iff.mpr
    ⟨_, _, _, _, _, _, firstFailure_dottedFirst, rfl⟩
  obtain ⟨i, k, p, c, kind, fault, hfirst, -, -, hrow, hoffset, -⟩ :=
    error_place_iff accepted_dottedFirst herror
  obtain rfl : dottedFirstPattern = p :=
    (List.mem_singleton.mp (List.mem_of_getElem? hfirst.pattern)).symm
  have hclause := hfirst.clause
  rw [generalClauses_dottedFirst] at hclause
  have hhashed : (dottedFirstPattern.item.clauses.filter (Marked.ofText dottedFirst).isHashed).map
      ((Marked.ofText dottedFirst).toBare ·.opener) = [40] := by
    decide +kernel
  have hzero : ∀ k : Nat, k ≠ 0 → [40][k]? = none := by
    intro k hk
    simpa using hk
  have hk : k ≠ 0 := by
    rintro rfl
    obtain rfl : blockClause = c := Option.some.inj hclause
    obtain ⟨invocation, hok⟩ := Registry.exists_resolve_iff.mpr passes_blockClause
    cases hok.symm.trans hfirst.fails.resolve_eq.1
  rw [hhashed, hzero k hk] at hoffset
  refine ⟨_, herror, hoffset, ?_⟩
  rw [hrow, hoffset]
  rfl

end Query
end TreeQuery
