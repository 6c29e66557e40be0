/-
  TreeQuery.Proofs.Query.Quotes

  Names that errors quote. An error over a kind, a field or a capture quotes the name that
  stands at the fault in the marked text, with marks taken out of it again: the one it may
  begin with, and each that follows a `#`. What is taken out can be more than was put in.
  A name is quoted as the caller wrote it exactly when it does not begin with a mark and
  holds none behind a `#` in a string or a comment, where marking puts none in
  (`Marked.HasOwnMark`).

  * `Reading.exists_mirrors_of_names`: faults over names are found at places of the caller's
    text, never inside a mark.
  * `Marked.dropMarks_nameAt`: what is left of the name there when marks are taken out.
  * `Query.names_quoted_iff` puts these together.
-/

import TreeQuery.Proofs.Pattern.Faults
import TreeQuery.Proofs.Query.Coordinates

namespace TreeQuery

namespace Marked

/-! ## Marks that the caller wrote -/

/-- A mark of the caller's own: it follows a `#` in a string or a comment. -/
def HasOwnMark (zone : Zone) (t : Text) : Prop :=
  ∃ before rest, t = before ++ '#' :: (operatorMark ++ rest) ∧ zone.afterText before ≠ .plain

/-- A text without the marks that follow a `#` in a string or a comment. -/
def dropOwnMarks (zone : Zone) : Text → Text
  | [] => []
  | c :: rest =>
    if zone ≠ .plain ∧ c = '#' ∧ operatorMark <+: rest then
      c :: dropOwnMarks (zone.afterText (c :: operatorMark)) (rest.drop operatorMark.length)
    else c :: dropOwnMarks (zone.after c) rest
termination_by t => t.length
decreasing_by all_goals simp; try omega

theorem hasOwnMark_cons_iff {z : Zone} {c : Char} {t : Text} :
    HasOwnMark z (c :: t) ↔
      (z ≠ .plain ∧ c = '#' ∧ operatorMark <+: t) ∨ HasOwnMark (z.after c) t := by
  constructor
  · rintro ⟨before, rest, heq, hzone⟩
    cases before with
    | nil =>
      obtain ⟨rfl, rfl⟩ := List.cons.inj heq
      exact Or.inl ⟨hzone, rfl, rest, rfl⟩
    | cons d before =>
      obtain ⟨rfl, rfl⟩ := List.cons.inj heq
      exact Or.inr ⟨before, rest, rfl, hzone⟩
  · rintro (⟨hzone, rfl, rest, rfl⟩ | ⟨before, rest, rfl, hzone⟩)
    · exact ⟨[], rest, rfl, hzone⟩
    · exact ⟨c :: before, rest, rfl, hzone⟩

theorem hash_mem_of_hasOwnMark {z : Zone} {t : Text} (h : HasOwnMark z t) : '#' ∈ t := by
  obtain ⟨before, rest, rfl, -⟩ := h
  exact List.mem_append_right _ List.mem_cons_self

theorem length_dropOwnMarks_le (z : Zone) (t : Text) : (dropOwnMarks z t).length ≤ t.length := by
  induction z, t using dropOwnMarks.induct with
  | case1 => rw [dropOwnMarks]
  | case2 z c rest hown ih =>
    rw [dropOwnMarks, if_pos hown]
    simp only [List.length_cons, List.length_drop] at ih ⊢
    omega
  | case3 z c rest hown ih =>
    rw [dropOwnMarks, if_neg hown]
    simpa using ih

/-- Nothing is dropped exactly when the text has no mark of the caller's own. -/
theorem dropOwnMarks_eq_self_iff {z : Zone} {t : Text} :
    dropOwnMarks z t = t ↔ ¬ HasOwnMark z t := by
  induction t generalizing z with
  | nil =>
    rw [dropOwnMarks]
    exact iff_of_true rfl fun h => absurd (hash_mem_of_hasOwnMark h) nofun
  | cons c t ih =>
    rw [hasOwnMark_cons_iff, dropOwnMarks]
    by_cases hown : z ≠ .plain ∧ c = '#' ∧ operatorMark <+: t
    · rw [if_pos hown]
      refine iff_of_false (fun heq => ?_) (not_not_intro (Or.inl hown))
      -- A whole mark is missing.
      have hlength := congrArg List.length heq
      have hle := length_dropOwnMarks_le (z.afterText (c :: operatorMark))
        (t.drop operatorMark.length)
      have hmark := hown.2.2.length_le
      have hpos : 0 < operatorMark.length := by decide
      simp only [List.length_cons, List.length_drop] at hlength hle
      omega
    · rw [if_neg hown, or_iff_right hown, ← ih]
      exact ⟨fun heq => (List.cons.inj heq).2, fun heq => congrArg (c :: ·) heq⟩

/-! ## Words that no mark can change -/

section

variable {word : Text}

/-- A word without `#` begins a text exactly when it begins the text without the caller's marks. -/
theorem prefix_dropOwnMarks_iff (hword : '#' ∉ word) (z : Zone) (t : Text) :
    word <+: dropOwnMarks z t ↔ word <+: t := by
  induction word generalizing z t with
  | nil => simp
  | cons d word ih =>
    rw [List.mem_cons, not_or] at hword
    cases t with
    | nil => rw [dropOwnMarks]
    | cons c t =>
      rw [dropOwnMarks]
      split
      · next hown =>
        obtain ⟨-, rfl, -⟩ := hown
        exact iff_of_false (fun h => hword.1 (List.cons_prefix_cons.1 h).1.symm)
          fun h => hword.1 (List.cons_prefix_cons.1 h).1.symm
      · rw [List.cons_prefix_cons, List.cons_prefix_cons, ih hword.2]

/-- A word without `#` is marked as it is. -/
theorem markFrom_append (hword : '#' ∉ word) (z : Zone) (t : Text) :
    markFrom z (word ++ t) = word ++ markFrom (z.afterText word) t := by
  induction word generalizing z with
  | nil => rfl
  | cons d word ih =>
    rw [List.mem_cons, not_or] at hword
    have hmark : ¬ marksAfter z d (word ++ t) := fun hmark => hword.1 hmark.2.1.symm
    rw [List.cons_append, markFrom_cons, if_neg hmark, ih hword.2]
    rfl

theorem prefix_markFrom_iff (hword : '#' ∉ word) (z : Zone) (t : Text) :
    word <+: markFrom z t ↔ word <+: t := by
  induction word generalizing z t with
  | nil => simp
  | cons d word ih =>
    rw [List.mem_cons, not_or] at hword
    cases t with
    | nil => rfl
    | cons c t =>
      rw [markFrom_cons, List.cons_prefix_cons, List.cons_prefix_cons]
      refine and_congr_right fun hc => ?_
      have hmark : ¬ marksAfter z c t := fun hmark => hword.1 (hc.trans hmark.2.1).symm
      rw [if_neg hmark]
      exact ih hword.2 _ _

/-- A word without quotes and backslashes is read as it is. -/
theorem quotedName_append (hword : ∀ c ∈ word, c ≠ '"' ∧ c ≠ '\\') (t : Text) :
    nameAt.quotedName false (word ++ t) = word ++ nameAt.quotedName false t := by
  induction word with
  | nil => rfl
  | cons d word ih =>
    rw [List.forall_mem_cons] at hword
    rw [List.cons_append, nameAt.quotedName]
    simp only [beq_eq_false_iff_ne.2 hword.1.1, beq_eq_false_iff_ne.2 hword.1.2, Bool.false_and,
      Bool.false_eq_true, if_false, ih hword.2, List.cons_append]

theorem prefix_quotedName_iff (hword : ∀ c ∈ word, c ≠ '"' ∧ c ≠ '\\') (t : Text) :
    word <+: nameAt.quotedName false t ↔ word <+: t := by
  induction word generalizing t with
  | nil => simp
  | cons d word ih =>
    rw [List.forall_mem_cons] at hword
    cases t with
    | nil => rfl
    | cons c t =>
      rw [nameAt.quotedName, List.cons_prefix_cons]
      by_cases hc : d = c
      · obtain rfl := hc
        simp only [beq_eq_false_iff_ne.2 hword.1.1, beq_eq_false_iff_ne.2 hword.1.2,
          Bool.false_and, Bool.false_eq_true, if_false, List.cons_prefix_cons, true_and, ih hword.2]
      · refine iff_of_false (fun h => ?_) fun h => hc h.1
        split at h
        · exact absurd h.length_le (by simp)
        · exact hc (List.cons_prefix_cons.1 h).1

end

theorem hash_not_mem_operatorMark : '#' ∉ operatorMark := by decide

theorem operatorMark_unquoted : ∀ c ∈ operatorMark, c ≠ '"' ∧ c ≠ '\\' := by
  have hall : operatorMark.all (fun c => c != '"' && c != '\\') = true := by decide
  simpa using hall

/-- In a text that begins with a mark an operator starts. -/
theorem startsOperator_of_prefix {t : Text} (h : operatorMark <+: t) : startsOperator t = true := by
  obtain ⟨rest, rfl⟩ := h
  exact Mirrors.startsOperator_of_startsName (c := 'w') (by decide)

/-! ## Taking marks out of a name -/

/-- A character that no mark follows stays. -/
theorem dropMarks_cons {c : Char} {t : Text} (h : ¬ (c = '#' ∧ operatorMark <+: t)) :
    dropMarks (c :: t) = c :: dropMarks t := by
  rw [← List.isPrefixOf_iff_prefix] at h
  rw [dropMarks, if_neg h]

/-- Of a `#` and a mark, the `#` is left. -/
theorem dropMarks_mark (t : Text) :
    dropMarks ('#' :: (operatorMark ++ t)) = '#' :: dropMarks t := by
  have hprefix : operatorMark.isPrefixOf (operatorMark ++ t) = true :=
    List.isPrefixOf_iff_prefix.2 (List.prefix_append _ _)
  rw [dropMarks, if_pos ⟨rfl, hprefix⟩, List.drop_left]

theorem dropOwnMarks_mark {z : Zone} (hz : z ≠ .plain) (t : Text) :
    dropOwnMarks z ('#' :: (operatorMark ++ t)) =
      '#' :: dropOwnMarks (z.afterText ('#' :: operatorMark)) t := by
  rw [dropOwnMarks, if_pos ⟨hz, rfl, List.prefix_append _ _⟩, List.drop_left]

theorem dropMarks_eq_self {t : Text} (h : '#' ∉ t) : dropMarks t = t := by
  induction t with
  | nil => rw [dropMarks]
  | cons c t ih =>
    rw [List.mem_cons, not_or] at h
    rw [dropMarks_cons fun hmark => h.1 hmark.1.symm, ih h.2]

/-- The characters before a quote, with marks put in and taken out: what is put in is taken out
again, and so are the marks of the caller's own. -/
theorem dropMarks_quotedName (z : Zone) (escaped : Bool) (t : Text) :
    dropMarks (nameAt.quotedName escaped (markFrom z t)) =
      dropOwnMarks z (nameAt.quotedName escaped t) := by
  induction hlength : t.length using Nat.strongRecOn generalizing z escaped t with
  | ind length ih =>
    cases t with
    | nil => rw [markFrom, nameAt.quotedName, dropMarks, dropOwnMarks]
    | cons c rest =>
      have hshorter : ∀ {more : Text}, more.length ≤ rest.length → more.length < length := by
        intro more hle
        rw [← hlength, List.length_cons]
        omega
      rw [markFrom_cons, nameAt.quotedName, nameAt.quotedName]
      by_cases hend : (c == '"' && !escaped) = true
      · rw [if_pos hend, if_pos hend, dropMarks, dropOwnMarks]
      rw [if_neg hend, if_neg hend]
      by_cases hmark : marksAfter z c rest
      · -- A mark is put in, and taken out.
        obtain ⟨rfl, rfl, -⟩ := id hmark
        have hescaped : ('#' == '\\' && !escaped) = false := rfl
        rw [if_pos hmark, hescaped, quotedName_append operatorMark_unquoted, dropMarks_mark,
          ih _ (hshorter le_rfl) _ _ rest rfl, dropOwnMarks, if_neg (by simp)]
      rw [if_neg hmark, List.nil_append]
      by_cases hown : z ≠ .plain ∧ c = '#' ∧ operatorMark <+: rest
      · -- A mark of the caller's own is taken out.
        obtain ⟨hz, rfl, more, rfl⟩ := hown
        have hescaped : ('#' == '\\' && !escaped) = false := rfl
        rw [hescaped, markFrom_append hash_not_mem_operatorMark,
          quotedName_append operatorMark_unquoted, quotedName_append operatorMark_unquoted,
          dropMarks_mark, dropOwnMarks_mark hz, ih _ (hshorter (by simp)) _ _ more rfl]
        rfl
      · -- The character stays.
        have hnone : ¬ (c = '#' ∧ operatorMark <+: rest) := by
          rintro ⟨rfl, hprefix⟩
          refine hown ⟨?_, rfl, hprefix⟩
          rintro rfl
          exact hmark ⟨rfl, rfl, startsOperator_of_prefix hprefix⟩
        have hkeep : ∀ {more : Text}, (operatorMark <+: more ↔ operatorMark <+: rest) →
            ¬ (c = '#' ∧ operatorMark <+: nameAt.quotedName (c == '\\' && !escaped) more) := by
          rintro more hmore ⟨rfl, hprefix⟩
          exact hnone ⟨rfl, hmore.1 ((prefix_quotedName_iff operatorMark_unquoted more).1 hprefix)⟩
        rw [dropMarks_cons (hkeep (prefix_markFrom_iff hash_not_mem_operatorMark _ _)),
          ih _ (hshorter le_rfl) _ _ rest rfl, dropOwnMarks,
          if_neg fun hdrop => hkeep Iff.rfl hdrop.2]

/-! ## The name at a place -/

/-- Characters of a class without `#` are the same in both texts. -/
theorem takeWhile_markFrom {p : Char → Bool} (hp : p '#' = false) (z : Zone) (t : Text) :
    (markFrom z t).takeWhile p = t.takeWhile p := by
  induction t generalizing z with
  | nil => rfl
  | cons c t ih =>
    rw [markFrom_cons]
    by_cases hc : p c = true
    · have hmark : ¬ marksAfter z c t := by
        rintro ⟨-, rfl, -⟩
        exact absurd (hp.symm.trans hc) nofun
      rw [if_neg hmark, List.takeWhile_cons_of_pos hc, List.takeWhile_cons_of_pos hc]
      exact congrArg (c :: ·) (ih _)
    · rw [List.takeWhile_cons_of_neg hc, List.takeWhile_cons_of_neg hc]

namespace Mirrors

variable {t : Text} {z : Zone} {b m : Place}

/-- Past a front of the caller's text the reader is past the front with its marks, and the same
character stands before it unless that is a mark's. -/
theorem exists_append (h : Mirrors t z b m) {front back : Text} (hb : b.rest = front ++ back) :
    ∃ marked, m.rest = marked ++ markFrom (z.afterText front) back ∧
      Mirrors t (z.afterText front) ⟨b.offset + front.size, back⟩
        ⟨m.offset + marked.size, markFrom (z.afterText front) back⟩ ∧
      (front = [] ↔ marked = []) ∧ (marked.getLast? = some '"' ↔ front.getLast? = some '"') := by
  induction front generalizing z b m with
  | nil =>
    obtain ⟨o, rest⟩ := b
    obtain ⟨o', rest'⟩ := m
    obtain rfl : rest = back := hb
    obtain rfl : rest' = markFrom z rest := h.rest
    exact ⟨[], rfl, h, Iff.rfl, Iff.rfl⟩
  | cons c front ih =>
    rw [List.cons_append] at hb
    obtain ⟨marked, hrest, hmirrors, hempty, hlast⟩ := ih (h.next hb) rfl
    refine ⟨c :: ((if marksAfter z c (front ++ back) then operatorMark else []) ++ marked),
      ?_, ?_, iff_of_false nofun nofun, ?_⟩
    · have hmore : markFrom (z.after c) (front ++ back) = marked ++ _ := hrest
      rw [h.rest_eq_cons hb, hmore, List.cons_append, List.append_assoc]
      rfl
    · simp only [Place.past, Nat.add_assoc] at hmirrors
      simp only [Text.size_cons, Text.size_append]
      exact hmirrors
    · by_cases hfront : front = []
      · -- The character stands last, or it is a `#` and the mark after it does.
        obtain rfl := hempty.1 hfront
        obtain rfl := hfront
        by_cases hmark : marksAfter z c ([] ++ back)
        · obtain ⟨-, rfl, -⟩ := id hmark
          rw [if_pos hmark]
          decide
        · rw [if_neg hmark]
          rfl
      · have hmarked : marked ≠ [] := mt hempty.2 hfront
        rw [← List.cons_append, List.getLast?_append_of_ne_nil _ hmarked, hlast,
          ← List.singleton_append, List.getLast?_append_of_ne_nil _ hfront]

end Mirrors

/-- The zone at an offset of the caller's text. -/
def zoneAt (t : Text) (o : Nat) : Zone := Zone.plain.afterText (t.before o)

/-- **Names in both texts.** When marks are taken out of the name at the place of a boundary, what
is left is the name in the caller's text without the marks of the caller's own. -/
theorem dropMarks_nameAt {t : Text} {o : Nat} (ho : t.isBoundary o = true) :
    dropMarks (nameAt (ofText t).text ((ofText t).placeOf o)) =
      dropOwnMarks (zoneAt t o) (nameAt t o) := by
  obtain ⟨front, back, rfl, rfl⟩ := Text.isBoundary_iff.1 ho
  have hparts : (⟨0, front ++ back⟩ : Place).rest = front ++ back := rfl
  obtain ⟨marked, htext, hmirrors, -, hlast⟩ :=
    (mirrors_begin (front ++ back)).exists_append hparts
  have hplace : marked.size = (ofText (front ++ back)).placeOf front.size := by
    simpa using hmirrors.offset_eq_placeOf
  have hmarked : (ofText (front ++ back)).text =
      marked ++ markFrom (Zone.plain.afterText front) back := htext
  rw [← hplace, hmarked, zoneAt]
  simp only [nameAt, Text.before_append, Text.after_append]
  by_cases hquoted : front.getLast? = some '"'
  · rw [if_pos hquoted, if_pos (hlast.2 hquoted)]
    exact dropMarks_quotedName _ _ _
  · rw [if_neg hquoted, if_neg (mt hlast.1 hquoted), takeWhile_markFrom (by decide)]
    -- There is no `#` in such a name.
    have hhash : '#' ∉ back.takeWhile fun c => isLetterOrNumber c || c == '_' || c == '-' :=
      fun hmem => absurd (List.mem_takeWhile_imp hmem) (by decide)
    rw [dropMarks_eq_self hhash,
      dropOwnMarks_eq_self_iff.2 fun hown => hhash (hash_mem_of_hasOwnMark hown)]

/-- A name stands at its offset. -/
theorem nameAt_prefix (t : Text) (o : Nat) : nameAt t o <+: t.after o := by
  have hquoted : ∀ (escaped : Bool) (rest : Text), nameAt.quotedName escaped rest <+: rest := by
    intro escaped rest
    induction rest generalizing escaped with
    | nil => exact List.prefix_refl _
    | cons c rest ih =>
      rw [nameAt.quotedName]
      split
      · exact List.nil_prefix
      · exact List.cons_prefix_cons.2 ⟨rfl, ih _⟩
  rw [nameAt]
  split
  · exact hquoted _ _
  · exact List.takeWhile_prefix _

/-- **Names that are quoted as they stand.** They do not begin with a mark, and hold no mark of the
caller's own. -/
theorem unmark_dropOwnMarks_eq_iff {z : Zone} {name : Text} :
    unmark (dropOwnMarks z name) = name ↔ ¬ operatorMark <+: name ∧ ¬ HasOwnMark z name := by
  rw [unmark, ← prefix_dropOwnMarks_iff hash_not_mem_operatorMark z name,
    ← dropOwnMarks_eq_self_iff]
  by_cases hprefix : operatorMark <+: dropOwnMarks z name
  · rw [if_pos (List.isPrefixOf_iff_prefix.2 hprefix)]
    refine iff_of_false (fun heq => ?_) fun h => h.1 hprefix
    -- The mark in front is missing.
    have hlength := congrArg List.length heq
    have hle := length_dropOwnMarks_le z name
    have hmark := hprefix.length_le
    have hpos : 0 < operatorMark.length := by decide
    rw [List.length_drop] at hlength
    omega
  · rw [if_neg (mt List.isPrefixOf_iff_prefix.1 hprefix)]
    exact (and_iff_right hprefix).symm

end Marked

/-! ## Faults over names -/

namespace Reading

variable {v : Vocabulary} {t : Text} {s : Reading}

/-- The constructs that are open began at places of the caller's text. -/
def FramesInStep (t : Text) (s : Reading) : Prop :=
  ∀ frame ∈ s.frames, ∃ z b m, Marked.Mirrors t z b m ∧ m.offset = frame.offset

theorem Effect.reads {s u : Reading} (h : Effect s u) : ∃ q, Scan.Reads s.place q := by
  cases h with
  | silent hreads => exact ⟨_, hreads⟩
  | binds hreads => exact ⟨_, hreads⟩
  | begins hreads => exact ⟨_, hreads⟩
  | argues hreads => exact ⟨_, hreads⟩
  | ends hreads => exact ⟨_, hreads⟩

/-- A step is read at a place of the caller's text, and a construct that it opens begins there. -/
theorem framesInStep_of_goes (h : Goes v (.initial (Marked.ofText t).text) s) :
    FramesInStep t s := by
  induction h with
  | refl => exact nofun
  | @tail s u hgoes hstep ih =>
    have hinStep := hgoes.invariant rfl (inStep_initial t) InStep.of_effect
    obtain ⟨q, hreads⟩ := (step_effect (hgoes.isSound rfl) hstep).2.reads
    obtain ⟨b, hb⟩ := hinStep.place.resolve_right (Marked.Mirrors.not_isStuck_of_reads hreads)
    intro frame hframe
    rcases step_framesFrom hstep frame hframe with hnew | ⟨old, hold, hoffset⟩
    · exact ⟨.plain, b, s.place, hb, hnew.symm⟩
    · rw [← hoffset]
      exact ih old hold

/-- Where a name begins that a state can find at fault, there is a place of the caller's text. -/
theorem exists_mirrors_of_names (h : Goes v (.initial (Marked.ofText t).text) s) {o : Nat}
    (ho : s.Names o) : ∃ z b m, Marked.Mirrors t z b m ∧ m.offset = o := by
  have hinStep := h.invariant rfl (inStep_initial t) InStep.of_effect
  -- Where the reader gets to it is in step, unless it is stuck there.
  have hreached : ∀ {q : Place}, Scan.Reaches s.place q → ¬ Marked.Mirrors.IsStuck q →
      ∃ b, Marked.Mirrors t .plain b q := by
    rintro q (rfl | hq) hnot
    · exact hinStep.place.resolve_right hnot
    · obtain ⟨b, hb⟩ := hinStep.place.resolve_right (Marked.Mirrors.not_isStuck_of_reads hq)
      exact (hb.reads hq).resolve_right hnot
  rcases ho with (⟨hq, hname⟩ | ⟨hq, hrest⟩) | ⟨frame, hframe, hoffset⟩
  · obtain ⟨b, hb⟩ := hreached hq (Marked.Mirrors.not_isStuck_of_reads (.name hname))
    exact ⟨.plain, b, _, hb, rfl⟩
  · have hnot : ¬ Marked.Mirrors.IsStuck _ := fun hstuck => by
      rw [Marked.Mirrors.IsStuck, hrest] at hstuck
      cases hstuck
    obtain ⟨b, hb⟩ := hreached hq hnot
    -- The name begins behind the quote.
    obtain ⟨_, _, _, hpast⟩ := hb.past hrest (Or.inr (by decide))
    exact ⟨_, _, _, hpast, rfl⟩
  · obtain ⟨z, b, m, hm, hm'⟩ := framesInStep_of_goes h frame hframe
    exact ⟨z, b, m, hm, hm'.trans hoffset⟩

end Reading

/-! ## Quoted names -/

/-- The kinds of errors over a name. -/
def QueryErrorKind.IsNamed (kind : QueryErrorKind) : Prop :=
  kind = .nodeType ∨ kind = .field ∨ kind = .capture

namespace Marked

variable {m : Marked} {f : Fault}

theorem ofFault_offset : (m.ofFault f).offset = min (m.toBare f.offset) m.bare.size := by
  rw [ofFault]
  cases f.cause <;> rfl

theorem isNamed_kind_ofFault : (m.ofFault f).kind.IsNamed ↔ f.cause.isNamed = true := by
  rw [ofFault]
  cases f.cause <;> simp [errorAt, QueryError.ofOffset, QueryErrorKind.IsNamed, FaultCause.isNamed]

theorem text_ofFault (hnamed : f.cause.isNamed = true) :
    (m.ofFault f).text = cleanText (nameAt m.text f.offset) := by
  rw [ofFault]
  cases hcause : f.cause with
  | malformed => simp [hcause, FaultCause.isNamed] at hnamed
  | impossible => simp [hcause, FaultCause.isNamed] at hnamed
  | unknownKind => rfl
  | unknownField => rfl
  | unknownCapture => rfl

end Marked

namespace Query

section

variable {language : Language} {source : Text} {registry : Registry} {e : QueryError}

/-- An error over a name is a refusal by the place where the name begins. -/
theorem exists_refused_at_name (h : compile language source registry = .error e)
    (hkind : e.kind.IsNamed) :
    ∃ z b m, Marked.Mirrors source z b m ∧ Refused language source m.offset e ∧
      e.offset = b.offset ∧
      e.text = Marked.cleanText (nameAt (Marked.ofText source).text m.offset) := by
  rcases accepted_or_refused language source with ⟨patterns, names, haccepted⟩ | ⟨o, e', hrefused⟩
  · -- The clauses of an accepted text fail for other reasons.
    obtain ⟨i, k, p, c, kind, fault, hfirst, rfl⟩ := haccepted.compile_eq_error_iff.1 h
    rcases hkind with rfl | rfl | rfl <;> cases hfirst.fails
  obtain rfl : e' = e := Except.error.inj ((hrefused.compile_eq registry).symm.trans h)
  cases hrefused with
  | impossible => exact absurd (Marked.isNamed_kind_ofFault.1 hkind) nofun
  | ownClause => rcases hkind with hkind | hkind | hkind <;> cases hkind
  | @reading fault hread =>
    have hnamed := Marked.isNamed_kind_ofFault.1 hkind
    obtain ⟨s, hgoes, hnames⟩ := Pattern.exists_names_of_read hread hnamed
    obtain ⟨z, b, m, hmirrors, hoffset⟩ := Reading.exists_mirrors_of_names hgoes hnames
    refine ⟨z, b, m, hmirrors, hoffset ▸ .reading hread, ?_, hoffset ▸ Marked.text_ofFault hnamed⟩
    rw [Marked.ofFault_offset, ← hoffset, hmirrors.toBare_eq]
    exact Nat.min_eq_left (Text.le_size_of_isBoundary hmirrors.isBoundary)

/-- **Quoted names.** An error over a kind, a field or a capture is a refusal by the place of its
offset, and quotes the name that stands there in the caller's text, without the mark that it begins
with and without those of the caller's own. So the name is quoted as the caller wrote it exactly
when it has none of these. -/
theorem names_quoted_iff (h : compile language source registry = .error e)
    (hkind : e.kind.IsNamed) :
    Refused language source ((Marked.ofText source).placeOf e.offset) e ∧
      source.isBoundary e.offset = true ∧
      nameAt source e.offset <+: source.after e.offset ∧
      e.text.toList = Marked.unmark
        (Marked.dropOwnMarks (Marked.zoneAt source e.offset) (nameAt source e.offset)) ∧
      (e.text.toList = nameAt source e.offset ↔
        ¬ operatorMark <+: nameAt source e.offset ∧
          ¬ Marked.HasOwnMark (Marked.zoneAt source e.offset) (nameAt source e.offset)) := by
  obtain ⟨z, b, m, hmirrors, hrefused, hoffset, htext⟩ := exists_refused_at_name h hkind
  have hplace : m.offset = (Marked.ofText source).placeOf e.offset := by
    rw [hoffset, hmirrors.offset_eq_placeOf]
  have hboundary : source.isBoundary e.offset = true := hoffset ▸ hmirrors.isBoundary
  have hquoted : e.text.toList = Marked.unmark
      (Marked.dropOwnMarks (Marked.zoneAt source e.offset) (nameAt source e.offset)) := by
    rw [htext, Marked.cleanText, String.toList_ofList, hplace, Marked.dropMarks_nameAt hboundary]
  refine ⟨hplace ▸ hrefused, hboundary, Marked.nameAt_prefix _ _, hquoted, ?_⟩
  rw [hquoted]
  exact Marked.unmark_dropOwnMarks_eq_iff

end

/-! ### Names with marks of their own -/

/-- A kind whose name begins with a mark. -/
def markedName : Text := "(weaver-foo)".toList

/-- The error over the name is not a quote of the text at its offset. -/
theorem quotes_fail_markedName :
    ¬ ∀ e, compile .cpp markedName Registry.builtins = .error e → e.kind.IsNamed →
      e.text.toList <+: markedName.after e.offset := by
  intro hall
  have herror : compile .cpp markedName Registry.builtins = .error ⟨.nodeType, 0, 1, 1, "foo"⟩ :=
    faultOf?_eq_some_iff.1 (by decide +kernel)
  exact absurd (hall _ herror (Or.inl rfl)) (by decide +kernel)

/-- An operator stands before the fault, which is over a string with a mark of the caller's own. -/
def ownMark : Text := "((identifier) @a (#eq? @a \"x\")) \"#weaver-é\"".toList

/-- The mark in the string is missing in what is quoted. -/
theorem names_quoted_iff_ownMark :
    ∃ e, compile .cpp ownMark Registry.builtins = .error e ∧ e.kind.IsNamed ∧
      Refused .cpp ownMark ((Marked.ofText ownMark).placeOf e.offset) e ∧
      (nameAt ownMark e.offset, e.text) = ("#weaver-é".toList, "#é") ∧
      Marked.HasOwnMark (Marked.zoneAt ownMark e.offset) (nameAt ownMark e.offset) := by
  have herror : compile .cpp ownMark Registry.builtins = .error ⟨.nodeType, 0, 33, 33, "#é"⟩ :=
    faultOf?_eq_some_iff.1 (by decide +kernel)
  have hnamed : QueryErrorKind.nodeType.IsNamed := Or.inl rfl
  obtain ⟨hrefused, -, -, -, hiff⟩ := names_quoted_iff herror hnamed
  have hname : nameAt ownMark 33 = "#weaver-é".toList := by decide +kernel
  -- It does not begin with a mark, so what is missing is one inside.
  have hunmarked : ¬ operatorMark <+: nameAt ownMark 33 := by
    rw [hname]
    decide
  have hown := mt (fun hnone => hiff.2 ⟨hunmarked, hnone⟩) (by rw [hname]; decide)
  exact ⟨_, herror, hnamed, hrefused, by rw [hname], not_not.1 hown⟩

end Query
end TreeQuery
