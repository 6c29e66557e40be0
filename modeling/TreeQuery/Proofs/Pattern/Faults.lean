/-
  TreeQuery.Proofs.Pattern.Faults

  Where and why a reading is refused over a name. A kind or a field that is not known is at
  fault where the name begins: where the reader stands or comes to in its step, behind the
  opening quote of a string there, or, for a field, where its label began
  (`Reading.Names`). Only an argument of a clause can be at fault for a capture, and it is
  when nothing before it binds the name.

  * `Reading.step_named`: the place of a fault over a name that a step finds.
  * `Reading.step_framesFrom`: a step opens constructs where it stands, and those that were open
    began where they did before.
  * `Pattern.exists_names_of_read`: the state at which a text is refused over a name.
  * `Reading.step_unknownCapture_iff`: the state at which a fault of a capture is found.
  * `Pattern.read_unknownCapture_iff`: a text has such a fault exactly when its reading
    comes to such a state.
-/

import TreeQuery.Proofs.Pattern.Runs

namespace TreeQuery

/-- Whether a fault is over a name. -/
def FaultCause.isNamed : FaultCause → Bool
  | unknownKind | unknownField | unknownCapture => true
  | malformed | impossible => false

namespace Scan

/-- The reader stands at `q`, or comes to it, from `p`. -/
def Reaches (p q : Place) : Prop := q = p ∨ Reads p q

theorem Reaches.trans {p q r : Place} (hpq : Reaches p q) (hqr : Reaches q r) : Reaches p r := by
  rcases hpq with rfl | hpq
  · exact hqr
  · rcases hqr with rfl | hqr
    · exact Or.inr hpq
    · exact Or.inr (hpq.trans hqr)

/-- A name begins at `o`, by itself or in a string, where the reader comes to from `p`. -/
inductive NameAt (p : Place) : Nat → Prop
  | name {q : Place} (hq : Reaches p q) (hname : atName q = true) : NameAt p q.offset
  | string {q : Place} {rest : Text} (hq : Reaches p q) (hrest : q.rest = '"' :: rest) :
      NameAt p (q.offset + 1)

theorem NameAt.of_reaches {p q : Place} {o : Nat} (hpq : Reaches p q) (h : NameAt q o) :
    NameAt p o := by
  cases h with
  | name hq hname => exact .name (hpq.trans hq) hname
  | string hq hrest => exact .string (hpq.trans hq) hrest

end Scan

namespace Reading

/-- Faults over names are found at offsets of which `P` holds. -/
def NamedAt {α : Type} (P : Nat → Prop) (x : Except Fault α) : Prop :=
  ∀ fault, x = .error fault → fault.cause.isNamed = true → P fault.offset

/-- Besides, no fault is over a capture. Only clauses look captures up, and items are read so. -/
def OfItem {α : Type} (P : Nat → Prop) (x : Except Fault α) : Prop :=
  ∀ fault, x = .error fault →
    fault.cause ≠ .unknownCapture ∧ (fault.cause.isNamed = true → P fault.offset)

section

variable {α β : Type} {P Q : Nat → Prop}

theorem OfItem.named {x : Except Fault α} (h : OfItem P x) : NamedAt P x := fun fault hfault =>
  (h fault hfault).2

theorem named_ok (a : α) : NamedAt P (.ok a) := nofun

theorem named_malformed (p : Place) : NamedAt P (malformed p : Except Fault α) := by
  rintro fault ⟨⟩ ⟨⟩

theorem ofItem_ok (a : α) : OfItem P (.ok a) := nofun

theorem ofItem_error {cause : FaultCause} {o : Nat} (hcause : cause ≠ .unknownCapture) (h : P o) :
    OfItem P (.error ⟨cause, o⟩ : Except Fault α) := by
  rintro fault ⟨⟩
  exact ⟨hcause, fun _ => h⟩

theorem ofItem_nameless {cause : FaultCause} {o : Nat} (h : cause.isNamed = false) :
    OfItem P (.error ⟨cause, o⟩ : Except Fault α) := by
  rintro fault ⟨⟩
  refine ⟨?_, fun hnamed => absurd (h.symm.trans hnamed) nofun⟩
  rintro rfl
  cases h

theorem ofItem_malformed (p : Place) : OfItem P (malformed p : Except Fault α) :=
  ofItem_nameless rfl

theorem ofItem_bind {x : Except Fault α} {f : α → Except Fault β} (hx : OfItem P x)
    (hf : ∀ a, x = .ok a → OfItem P (f a)) : OfItem P (x >>= f) := by
  intro fault h
  rcases bind_eq_error_iff.1 h with hfirst | ⟨a, ha, hlater⟩
  · exact hx fault hfirst
  · exact hf a ha fault hlater

theorem ofItem_mono {x : Except Fault α} (hx : OfItem P x) (h : ∀ o, P o → Q o) :
    OfItem Q x := fun fault hfault => (hx fault hfault).imp_right fun hP hnamed => h _ (hP hnamed)

end

/-! ## Names of kinds -/

variable {v : Vocabulary}

theorem readToken_ofItem {p : Place} {rest : Text} (hp : p.rest = '"' :: rest) :
    OfItem (Scan.NameAt p) (readToken v p) := by
  unfold readToken
  split
  · exact ofItem_malformed p
  · simp only
    split
    · exact ofItem_ok _
    · exact ofItem_error (by decide) (.string (.inl rfl) hp)

theorem readMissing_ofItem (p : Place) : OfItem (Scan.NameAt p) (readMissing v p) := by
  unfold readMissing
  split
  · next hname =>
    simp only
    split
    · exact ofItem_ok _
    · exact ofItem_error (by decide) (.name (.inl rfl) hname)
  · split
    · next hquote =>
      obtain ⟨rest, hrest⟩ := List.head?_eq_some_iff.1 hquote
      exact ofItem_bind (readToken_ofItem hrest) fun _ _ => ofItem_ok _
    · exact ofItem_ok _
    · exact ofItem_malformed p

theorem readSubtype_ofItem (start : Nat) (test : NodeTest) (p : Place) :
    OfItem (Scan.NameAt p) (readSubtype v start test p) := by
  unfold readSubtype
  split
  · next rest hrest =>
    split
    · exact ofItem_nameless rfl
    · simp only
      split
      · next hname =>
        split
        · exact ofItem_error (by decide) (.name (.inr (.sign hrest (by decide))) hname)
        · split
          · exact ofItem_ok _
          · exact ofItem_nameless rfl
      · exact ofItem_malformed _
  · exact ofItem_ok _

theorem readTest_ofItem (p : Place) : OfItem (Scan.NameAt p) (readTest v p) := by
  -- The name of the node is read first, and what belongs to it stands behind.
  have hend : ∀ {q : Place} {test : NodeTest}, Scan.Reads p q →
      OfItem (Scan.NameAt p) (readSubtype v p.offset test (Scan.blanks q)) := fun hq =>
    ofItem_mono (readSubtype_ofItem _ _ _) fun _ => .of_reaches (.inr (.blanks hq))
  unfold readTest
  split
  · next hname =>
    have hafter : Scan.Reads p (Scan.name p).2 := .name hname
    simp only
    split
    · exact ofItem_bind (ofItem_ok _) fun _ heq => by
        obtain rfl := Except.ok.inj heq
        exact hend hafter
    · split
      · refine ofItem_bind (ofItem_mono (readMissing_ofItem _) fun _ =>
          .of_reaches (.inr (.blanks hafter))) fun ⟨test, q⟩ hmissing => ?_
        rcases readMissing_reads hmissing with rfl | hreads
        · exact hend (.blanks hafter)
        · exact hend (.trans (.blanks hafter) hreads)
      · split
        · exact ofItem_bind (ofItem_ok _) fun _ heq => by
            obtain rfl := Except.ok.inj heq
            exact hend hafter
        · exact ofItem_bind (ofItem_error (by decide) (.name (.inl rfl) hname)) nofun
  · exact ofItem_malformed p

/-! ## The stack -/

/-- A label is looked up when its item is complete, and is at fault where it began. -/
theorem deliver_ofItem (patterns : List Pattern) (item : Item) (frames : List Frame) :
    OfItem (fun o => ∃ frame ∈ frames, frame.offset = o) (deliver v patterns item frames) := by
  induction frames generalizing item with
  | nil => exact ofItem_ok _
  | cons frame frames ih =>
    cases frame with
    | choice o branches => exact ofItem_ok _
    | group o items anchor => exact ofItem_ok _
    | node o test children absent anchor first => exact ofItem_ok _
    | field o name =>
      rw [deliver]
      split
      · refine ofItem_mono (ih _) fun o hopen => ?_
        obtain ⟨frame, hframe, ho⟩ := hopen
        exact ⟨frame, List.mem_cons_of_mem _ hframe, ho⟩
      · exact ofItem_error (by decide) ⟨_, List.mem_cons_self, rfl⟩

/-- Constructs that are open after an item was delivered were open before, where they are. -/
theorem deliver_frames {patterns patterns' : List Pattern} {item : Item}
    {frames frames' : List Frame}
    (h : deliver v patterns item frames = .ok (patterns', frames')) :
    ∀ frame ∈ frames', ∃ frame' ∈ frames, frame'.offset = frame.offset := by
  have hkeep : ∀ {old new : Frame} {rest : List Frame}, old.offset = new.offset →
      ∀ frame ∈ new :: rest, ∃ frame' ∈ old :: rest, frame'.offset = frame.offset := by
    intro old new rest hoffset
    refine List.forall_mem_cons.2 ⟨⟨old, List.mem_cons_self, hoffset⟩, fun frame hframe => ?_⟩
    exact ⟨frame, List.mem_cons_of_mem _ hframe, rfl⟩
  induction frames generalizing item with
  | nil =>
    obtain ⟨-, rfl⟩ := Prod.mk.inj (Except.ok.inj h)
    exact nofun
  | cons frame frames ih =>
    cases frame with
    | choice o branches =>
      obtain ⟨-, rfl⟩ := Prod.mk.inj (Except.ok.inj h)
      exact hkeep rfl
    | group o items anchor =>
      obtain ⟨-, rfl⟩ := Prod.mk.inj (Except.ok.inj h)
      exact hkeep rfl
    | node o test children absent anchor first =>
      obtain ⟨-, rfl⟩ := Prod.mk.inj (Except.ok.inj h)
      exact hkeep rfl
    | field o name =>
      rw [deliver] at h
      split at h
      · intro frame hframe
        obtain ⟨frame', hframe', hoffset⟩ := ih h frame hframe
        exact ⟨frame', List.mem_cons_of_mem _ hframe', hoffset⟩
      · cases h

theorem finishItem_ofItem (s : Reading) (item : Item) :
    OfItem (fun o => ∃ frame ∈ s.frames, frame.offset = o) (finishItem v s item) :=
  ofItem_bind (deliver_ofItem _ _ _) fun _ _ => ofItem_ok _

theorem finishItem_frames {s t : Reading} {item : Item} (h : finishItem v s item = .ok t) :
    ∀ frame ∈ t.frames, ∃ frame' ∈ s.frames, frame'.offset = frame.offset := by
  obtain ⟨⟨patterns, frames⟩, hdeliver, hstate⟩ := bind_eq_ok_iff.1 h
  obtain rfl := Except.ok.inj hstate
  exact deliver_frames hdeliver

/-! ## Between items -/

theorem closeRound_ofItem (s : Reading) (after : Place) :
    OfItem (Scan.NameAt s.place) (closeRound s after) := by
  unfold closeRound
  split
  · split
    · exact ofItem_malformed _
    · exact ofItem_ok _
  · exact ofItem_ok _
  · exact ofItem_malformed _

theorem closeSquare_ofItem (s : Reading) (after : Place) :
    OfItem (Scan.NameAt s.place) (closeSquare s after) := by
  unfold closeSquare
  split
  · exact ofItem_ok _
  · exact ofItem_malformed _

theorem openRound_ofItem {s : Reading} {rest : Text} (hrest : s.place.rest = '(' :: rest) :
    OfItem (Scan.NameAt s.place) (openRound v s (.past s.place.offset '(' rest)) := by
  have hplace : Scan.Reads s.place (Scan.blanks (.past s.place.offset '(' rest)) :=
    .blanks (.sign hrest (by decide))
  unfold openRound
  simp only
  split
  · exact ofItem_ok _
  · exact ofItem_ok _
  · exact ofItem_ok _
  · split
    · exact ofItem_ok _
    · exact ofItem_malformed _
  · split
    · exact ofItem_ok _
    · exact ofItem_malformed _
  · exact ofItem_bind (ofItem_mono (readTest_ofItem _) fun _ => .of_reaches (.inr hplace))
      fun _ _ => ofItem_ok _

theorem readAbsent_ofItem {s : Reading} {rest : Text} (hrest : s.place.rest = '!' :: rest) (o : Nat)
    (test : NodeTest) (children : List Item) (absent : List String) (first : Bool)
    (frames : List Frame) :
    OfItem (Scan.NameAt s.place)
      (readAbsent v s (.past s.place.offset '!' rest) o test children absent first frames) := by
  unfold readAbsent
  simp only
  split
  · next hname =>
    split
    · exact ofItem_ok _
    · exact ofItem_error (by decide) (.name (.inr (.blanks (.sign hrest (by decide)))) hname)
  · exact ofItem_malformed _

theorem readLabel_ofItem (s : Reading) : OfItem (Scan.NameAt s.place) (readLabel s) := by
  unfold readLabel
  simp only
  split
  · exact ofItem_ok _
  · exact ofItem_malformed _

theorem openItem_ofItem {s : Reading} {c : Char} {rest : Text} (hrest : s.place.rest = c :: rest) :
    OfItem (Scan.NameAt s.place) (openItem v s c (.past s.place.offset c rest)) := by
  unfold openItem
  split
  · exact openRound_ofItem hrest
  · exact ofItem_ok _
  · exact closeRound_ofItem s _
  · exact closeSquare_ofItem s _
  · exact ofItem_ok _
  · exact ofItem_bind (readToken_ofItem hrest) fun _ _ => ofItem_ok _
  · split
    · exact readLabel_ofItem s
    · exact ofItem_malformed _

theorem stepItems_ofItem (s : Reading) : OfItem (Scan.NameAt s.place) (stepItems v s) := by
  unfold stepItems
  split
  · exact ofItem_malformed _
  · next c rest hrest =>
    simp only
    split
    · exact readAbsent_ofItem hrest _ _ _ _ _ _
    · exact ofItem_ok _
    · exact ofItem_ok _
    · exact openItem_ofItem hrest

/-- Constructs that are open in `t` began where `s` stands, or where one does that is open in `s`. -/
def FramesFrom (s t : Reading) : Prop :=
  ∀ frame ∈ t.frames, frame.offset = s.place.offset ∨
    ∃ frame' ∈ s.frames, frame'.offset = frame.offset

theorem framesFrom_of_frames_eq {s t : Reading} (h : t.frames = s.frames) : FramesFrom s t :=
  fun frame hframe => Or.inr ⟨frame, h ▸ hframe, rfl⟩

/-- A step between items opens one construct, or changes or closes the innermost. -/
theorem Act.framesFrom {s t : Reading} (h : Act s t) : FramesFrom s t := by
  have hsame : FramesFrom s s := framesFrom_of_frames_eq rfl
  cases h with
  | opens _ _ hoffset => exact List.forall_mem_cons.2 ⟨Or.inl hoffset, hsame⟩
  | alters hframes _ _ hoffset =>
    rw [FramesFrom, hframes, List.forall_mem_cons] at hsame
    rw [FramesFrom, hframes]
    exact List.forall_mem_cons.2 ⟨Or.inr ⟨_, List.mem_cons_self, hoffset.symm⟩, hsame.2⟩
  | closes hframes =>
    rw [FramesFrom, hframes, List.forall_mem_cons] at hsame
    rw [FramesFrom, hframes]
    exact hsame.2
  | makes => exact framesFrom_of_frames_eq rfl
  | begins => exact framesFrom_of_frames_eq rfl

/-! ## One step -/

/-- A name begins at `o` where a state reads on, or where a construct began that is open in it. -/
def Names (s : Reading) (o : Nat) : Prop :=
  Scan.NameAt s.place o ∨ ∃ frame ∈ s.frames, frame.offset = o

theorem stepSuffixes_ofItem (s : Reading) (item : Item) :
    OfItem s.Names (stepSuffixes v s item) := by
  unfold stepSuffixes
  split
  · exact ofItem_ok _
  · exact ofItem_ok _
  · exact ofItem_ok _
  · simp only
    split
    · exact ofItem_ok _
    · exact ofItem_malformed _
  · refine ofItem_bind (ofItem_mono (finishItem_ofItem s item) fun _ => Or.inr) fun t hfinish => ?_
    have hplace : t.place = s.place := (finishItem_eq_ok hfinish).1
    exact ofItem_mono (stepItems_ofItem t) fun _ ho => Or.inl (hplace ▸ ho)

theorem finish_ofItem (s : Reading) : OfItem s.Names (finish v s) := by
  have hclose : ∀ t : Reading, OfItem s.Names
      (if t.frames.isEmpty then pure (t.patterns.reverse, t.captures) else malformed t.place) := by
    intro t
    split
    · exact ofItem_ok _
    · exact ofItem_malformed _
  unfold finish
  simp only
  split
  · exact ofItem_bind (ofItem_ok _) fun t _ => hclose t
  · exact ofItem_bind (ofItem_mono (finishItem_ofItem s _) fun _ => Or.inr) fun t _ => hclose t
  · exact ofItem_bind (ofItem_malformed _) nofun

theorem stepClause_named (s : Reading) (offset opener : Nat) (name : String)
    (arguments : List ClauseArgument) :
    NamedAt s.Names (stepClause v s offset opener name arguments) := by
  unfold stepClause
  split
  · exact (ofItem_mono (finishItem_ofItem _ _) fun _ => Or.inr).named
  · next rest hrest =>
    simp only
    split
    · next hname =>
      split
      · exact named_ok _
      · rintro fault ⟨⟩ -
        exact Or.inl (.name (.inr (.sign hrest (by decide))) hname)
    · exact named_malformed _
  · split
    · exact named_ok _
    · exact named_malformed _
  · split
    · exact named_ok _
    · exact named_malformed _

/-- **Names at fault.** Over a name a step fails where the name begins. -/
theorem step_named (s : Reading) : NamedAt s.Names (step v s) := by
  unfold step
  split
  · exact (ofItem_mono (stepItems_ofItem s) fun _ => Or.inl).named
  · exact (stepSuffixes_ofItem s _).named
  · exact stepClause_named s _ _ _ _

theorem stepSuffixes_framesFrom {s t : Reading} {item : Item}
    (h : stepSuffixes v s item = .ok t) : FramesFrom s t := by
  unfold stepSuffixes at h
  split at h
  · obtain rfl := Except.ok.inj h
    exact framesFrom_of_frames_eq rfl
  · obtain rfl := Except.ok.inj h
    exact framesFrom_of_frames_eq rfl
  · obtain rfl := Except.ok.inj h
    exact framesFrom_of_frames_eq rfl
  · simp only at h
    split at h
    · obtain rfl := Except.ok.inj h
      exact framesFrom_of_frames_eq rfl
    · cases h
  · -- The item is delivered first, and then it is a step between items.
    obtain ⟨u, hfinish, hitem⟩ := bind_eq_ok_iff.1 h
    have hplace : u.place = s.place := (finishItem_eq_ok hfinish).1
    intro frame hframe
    rcases (stepItems_act hitem).framesFrom frame hframe with hnew | ⟨frame', hframe', hoffset⟩
    · exact Or.inl (hplace ▸ hnew)
    · obtain ⟨old, hold, hoffset'⟩ := finishItem_frames hfinish frame' hframe'
      exact Or.inr ⟨old, hold, hoffset'.trans hoffset⟩

theorem stepClause_framesFrom {s t : Reading} {offset opener : Nat} {name : String}
    {arguments : List ClauseArgument} (h : stepClause v s offset opener name arguments = .ok t) :
    FramesFrom s t := by
  unfold stepClause at h
  split at h
  · exact fun frame hframe => Or.inr (finishItem_frames h frame hframe)
  · simp only at h
    split at h
    · split at h
      · obtain rfl := Except.ok.inj h
        exact framesFrom_of_frames_eq rfl
      · cases h
    · cases h
  · split at h
    · obtain rfl := Except.ok.inj h
      exact framesFrom_of_frames_eq rfl
    · cases h
  · split at h
    · obtain rfl := Except.ok.inj h
      exact framesFrom_of_frames_eq rfl
    · cases h

/-- **Open constructs.** Those that are open after a step began where it stood, or where they
began before. -/
theorem step_framesFrom {s t : Reading} (h : step v s = .ok t) : FramesFrom s t := by
  unfold step at h
  split at h
  · exact (stepItems_act h).framesFrom
  · exact stepSuffixes_framesFrom h
  · exact stepClause_framesFrom h

/-! ## Captures -/

/-- The reading stands in a clause, before an argument `@name`, and nothing that it has read
binds the name. -/
def AtUnbound (s : Reading) (name : String) : Prop :=
  s.mode.isClause = true ∧ ∃ rest, s.place.rest = '@' :: rest ∧
    Scan.atName (.past s.place.offset '@' rest) = true ∧
    name = (Scan.name (.past s.place.offset '@' rest)).1 ∧ .binds name ∉ s.mentions

theorem stepClause_unknownCapture_iff {s : Reading} {offset opener : Nat} {name : String}
    {arguments : List ClauseArgument} (hs : Bound s)
    (hmode : s.mode = .clause offset opener name arguments) :
    (∃ o, stepClause v s offset opener name arguments = .error ⟨.unknownCapture, o⟩) ↔
      ∃ capture, AtUnbound s capture := by
  constructor
  · rintro ⟨o, h⟩
    unfold stepClause at h
    split at h
    · exact absurd rfl (finishItem_ofItem _ _ _ h).1
    · next rest hrest =>
      simp only at h
      split at h
      · next hname =>
        split at h
        · cases h
        · next hunbound =>
          refine ⟨_, by rw [hmode]; rfl, rest, hrest, hname, rfl, ?_⟩
          rwa [← hs.captures_iff, ← List.contains_iff_mem]
      · cases h
    · split at h <;> cases h
    · split at h <;> cases h
  · rintro ⟨capture, -, rest, hrest, hname, rfl, hunbound⟩
    rw [← hs.captures_iff, ← List.contains_iff_mem] at hunbound
    refine ⟨(Place.past s.place.offset '@' rest).offset, ?_⟩
    unfold stepClause
    rw [hrest]
    simp only [hname, if_true, hunbound, if_false, Bool.false_eq_true]

/-- A step finds a capture at fault exactly when it stands before an argument that names it and
nothing binds it. -/
theorem step_unknownCapture_iff {s : Reading} (hs : Bound s) :
    (∃ o, step v s = .error ⟨.unknownCapture, o⟩) ↔ ∃ capture, AtUnbound s capture := by
  -- Elsewhere there is neither a fault of a capture nor an argument.
  have helse : ∀ {P : Nat → Prop}, OfItem P (step v s) → s.mode.isClause = false →
      ((∃ o, step v s = .error ⟨.unknownCapture, o⟩) ↔ ∃ capture, AtUnbound s capture) := by
    intro P hitem hmode
    constructor
    · rintro ⟨o, h⟩
      exact absurd rfl (hitem _ h).1
    · rintro ⟨capture, hclause, -⟩
      rw [hmode] at hclause
      cases hclause
  cases hmode : s.mode with
  | items => exact helse (by rw [step, hmode]; exact stepItems_ofItem s) (by rw [hmode]; rfl)
  | suffixes item =>
    exact helse (by rw [step, hmode]; exact stepSuffixes_ofItem s item) (by rw [hmode]; rfl)
  | clause offset opener name arguments =>
    rw [step, hmode]
    exact stepClause_unknownCapture_iff hs hmode

end Reading

namespace Pattern

/-- A text that is refused over a name is refused where the name begins, at some state of its
reading. -/
theorem exists_names_of_read {v : Vocabulary} {text : Text} {fault : Fault}
    (h : Pattern.read v text = .error fault) (hnamed : fault.cause.isNamed = true) :
    ∃ s, Reading.Goes v (.initial text) s ∧ s.Names fault.offset := by
  obtain ⟨s, hgoes, ⟨-, hfinish⟩ | ⟨fault', hstep, hfault⟩⟩ :=
    Reading.run_ends v (s := .initial text) rfl
  · exact ⟨s, hgoes, (Reading.finish_ofItem s fault (hfinish.symm.trans h)).2 hnamed⟩
  · obtain rfl := Except.error.inj (hfault.symm.trans h)
    exact ⟨s, hgoes, Reading.step_named s fault' hstep hnamed⟩

/-- **Captures at fault.** A text is refused over a capture exactly when its reading comes to an
    argument of a clause that names one, and nothing before the argument binds it. -/
theorem read_unknownCapture_iff {v : Vocabulary} {text : Text} :
    (∃ offset, Pattern.read v text = .error ⟨.unknownCapture, offset⟩) ↔
      ∃ s name, Reading.Goes v (.initial text) s ∧ s.AtUnbound name := by
  have hbound : ∀ {s : Reading}, Reading.Goes v (.initial text) s → s.Bound := fun hgoes =>
    hgoes.invariant rfl (Reading.bound_initial text) Reading.Bound.of_effect
  constructor
  · rintro ⟨offset, h⟩
    obtain ⟨s, hgoes, ⟨-, hfinish⟩ | ⟨fault, hstep, hfault⟩⟩ :=
      Reading.run_ends v (s := .initial text) rfl
    · exact absurd rfl (Reading.finish_ofItem s _ (hfinish.symm.trans h)).1
    · obtain rfl := Except.error.inj (hfault.symm.trans h)
      obtain ⟨name, hname⟩ := (Reading.step_unknownCapture_iff (hbound hgoes)).1 ⟨offset, hstep⟩
      exact ⟨s, name, hgoes, hname⟩
  · rintro ⟨s, name, hgoes, hname⟩
    have ⟨_, rest, hrest, _⟩ := hname
    obtain ⟨offset, hstep⟩ := (Reading.step_unknownCapture_iff (hbound hgoes)).2 ⟨name, hname⟩
    refine ⟨offset, ?_⟩
    rw [Pattern.read, hgoes.run_eq rfl, Reading.run, if_neg (by simp [hrest]), hstep]

end Pattern
end TreeQuery
