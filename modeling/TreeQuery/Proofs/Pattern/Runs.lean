/-
  TreeQuery.Proofs.Pattern.Runs

  Whole readings, as chains of steps (`Reading.Goes`). A reading of a text goes on from
  its beginning until the text ends or a step finds a fault (`Reading.run_ends`), and
  what every step keeps holds of all that has been read.

  * `Pattern.goes_of_read`: a successful reading is a chain of steps to the end of the text.
  * `Pattern.bound_of_read`: a clause names captures that are bound before it in the text.
  * `Pattern.landmarks_of_read`: patterns and clauses are listed in the order in which they
    start.
-/

import Mathlib.Data.List.Flatten
import TreeQuery.Proofs.Pattern.Steps

namespace TreeQuery

namespace Reading

/-- `t` is reached from `s` by steps. -/
inductive Goes (v : Vocabulary) (s : Reading) : Reading → Prop
  | refl : Goes v s s
  | tail {t u : Reading} (h : Goes v s t) (hstep : step v t = .ok u) : Goes v s u

namespace Goes

variable {v : Vocabulary} {s t u : Reading}

theorem trans (hst : Goes v s t) (htu : Goes v t u) : Goes v s u := by
  induction htu with
  | refl => exact hst
  | tail _ hstep ih => exact ih.tail hstep

theorem isSound (h : Goes v s t) (hsound : s.mode.isSound = true) : t.mode.isSound = true := by
  induction h with
  | refl => exact hsound
  | tail _ hstep ih => exact (step_effect ih hstep).1

/-- What the effect of every step keeps holds of all states that are reached. -/
theorem invariant {P : Reading → Prop} (h : Goes v s t) (hsound : s.mode.isSound = true)
    (hs : P s) (hkeep : ∀ {t u : Reading}, P t → Effect t u → P u) : P t := by
  induction h with
  | refl => exact hs
  | tail hgoes hstep ih => exact hkeep ih (step_effect (hgoes.isSound hsound) hstep).2

end Goes

/-! ## The end of a reading -/

/-- A step reads a token, so there is one. -/
theorem rest_ne_nil_of_step {v : Vocabulary} {s t : Reading} (hsound : s.mode.isSound = true)
    (h : step v s = .ok t) : s.place.rest ≠ [] := by
  intro hnil
  have hlt := (step_effect hsound h).2.past.length_lt
  rw [hnil] at hlt
  exact Nat.not_lt_zero _ hlt

theorem run_of_step {v : Vocabulary} {s t : Reading} (hsound : s.mode.isSound = true)
    (h : step v s = .ok t) : run v s = run v t := by
  rw [run, if_neg (by simpa using rest_ne_nil_of_step hsound h), h]
  exact if_pos (step_effect hsound h).2.past.length_lt

/-- A reading is the rest of it from any state that it reaches. -/
theorem Goes.run_eq {v : Vocabulary} {s t : Reading} (h : Goes v s t)
    (hsound : s.mode.isSound = true) : run v s = run v t := by
  induction h with
  | refl => rfl
  | tail hgoes hstep ih => rw [ih, run_of_step (hgoes.isSound hsound) hstep]

/-- Steps lead to the end of the text or to a fault. -/
theorem run_ends (v : Vocabulary) {s : Reading} (hsound : s.mode.isSound = true) :
    ∃ t, Goes v s t ∧ (t.place.rest = [] ∧ run v s = finish v t ∨
      ∃ fault, step v t = .error fault ∧ run v s = .error fault) := by
  -- By induction on the text that is left, which every step shortens.
  induction hlength : s.place.rest.length using Nat.strongRecOn generalizing s with
  | ind length ih =>
    by_cases hnil : s.place.rest = []
    · exact ⟨s, .refl, Or.inl ⟨hnil, by rw [run, if_pos (by simp [hnil])]⟩⟩
    · cases hstep : step v s with
      | error fault =>
        refine ⟨s, .refl, Or.inr ⟨fault, hstep, ?_⟩⟩
        rw [run, if_neg (by simpa using hnil), hstep]
      | ok t =>
        obtain ⟨hsound', heffect⟩ := step_effect hsound hstep
        obtain ⟨u, hgoes, hend⟩ := ih _ (hlength ▸ heffect.past.length_lt) hsound' rfl
        rw [← run_of_step hsound hstep] at hend
        exact ⟨u, (Goes.refl.tail hstep).trans hgoes, hend⟩

/-- The end of a text makes patterns of all that has been said. -/
theorem finish_eq_ok {v : Vocabulary} {s : Reading} {patterns : List Pattern}
    {names : List String} (h : finish v s = .ok (patterns, names)) :
    names = s.captures ∧ patterns.flatMap (·.item.mentions) = s.mentions ∧
      patterns.flatMap Pattern.landmarks = s.landmarks := by
  -- When no construct is open, what has been said is what the patterns say.
  have hclosed : ∀ {t : Reading}, t.mode = .items →
      (if t.frames.isEmpty then pure (t.patterns.reverse, t.captures) else malformed t.place) =
        (.ok (patterns, names) : Except Fault (List Pattern × List String)) →
      names = t.captures ∧ patterns.flatMap (·.item.mentions) = t.mentions ∧
        patterns.flatMap Pattern.landmarks = t.landmarks := by
    intro t hmode h
    split at h
    · next hframes =>
      obtain ⟨rfl, rfl⟩ := Prod.mk.inj (Except.ok.inj h)
      refine ⟨rfl, ?_, ?_⟩
      · rw [mentions, hmode, List.isEmpty_iff.1 hframes]
        simp [closedMentions, Frame.mentionsOfList, Mode.mentions]
      · rw [landmarks, hmode, List.isEmpty_iff.1 hframes]
        simp [landmarksOf, Frame.start?, Frame.mentionsOfList, Mode.start?, Mode.landmarks]
    · cases h
  rw [finish] at h
  cases hmode : s.mode with
  | items =>
    rw [hmode] at h
    exact hclosed hmode h
  | suffixes item =>
    rw [hmode] at h
    obtain ⟨t, hfinish, hend⟩ := bind_eq_ok_iff.1 h
    obtain ⟨-, hitems, hcaptures, hmentions⟩ := finishItem_eq_ok hfinish
    obtain ⟨hnames, hpatterns, hlandmarks⟩ := hclosed hitems hend
    rw [hnames, hpatterns, hlandmarks, hcaptures, hmentions, finishItem_landmarks hfinish, mentions,
      landmarks, hmode]
    exact ⟨rfl, rfl, rfl⟩
  | clause offset opener name arguments =>
    rw [hmode] at h
    cases h

end Reading

/-! ## Captures -/

/-- Every clause among the mentions names captures that are bound before it. -/
def Mention.Grounded (mentions : List Mention) : Prop :=
  ∀ before c after, mentions = before ++ .clause c :: after →
    ∀ name, .capture name ∈ c.arguments → .binds name ∈ before

namespace Mention

theorem grounded_nil : Grounded [] := by
  intro before c after heq
  cases before <;> cases heq

theorem Grounded.concat {mentions : List Mention} (h : Grounded mentions) {m : Mention}
    (hm : ∀ c, m = .clause c → ∀ name, .capture name ∈ c.arguments → .binds name ∈ mentions) :
    Grounded (mentions ++ [m]) := by
  intro before c after heq
  -- The clause is the new mention or one of the old.
  rcases List.append_eq_append_iff.1 heq with ⟨as, rfl, hlast⟩ | ⟨bs, rfl, hlast⟩
  · cases as with
    | nil =>
      obtain ⟨rfl, -⟩ := List.cons.inj hlast
      simpa using hm c rfl
    | cons a as => cases as <;> cases hlast
  · cases bs with
    | nil =>
      obtain ⟨rfl, -⟩ := List.cons.inj hlast
      simpa using hm c rfl
    | cons b bs =>
      obtain ⟨rfl, -⟩ := List.cons.inj hlast
      exact h before c bs rfl

end Mention

namespace Reading

/-- The captures of a state are what has been bound, and clauses name only those. -/
structure Bound (s : Reading) : Prop where
  captures_iff : ∀ name, name ∈ s.captures ↔ .binds name ∈ s.mentions
  names : ∀ name ∈ s.captures, name.toList.all Scan.continuesName = true
  grounded : Mention.Grounded s.mentions
  clause : ∀ offset opener name arguments, s.mode = .clause offset opener name arguments →
    ∀ capture, .capture capture ∈ arguments → capture ∈ s.captures

theorem bound_initial (text : Text) : Bound (.initial text) :=
  ⟨fun _ => ⟨nofun, nofun⟩, nofun, Mention.grounded_nil, nofun⟩

theorem Bound.of_effect {s t : Reading} (hs : Bound s) (h : Effect s t) : Bound t := by
  -- When nothing is said, the clause that is being read is all that can have changed.
  have hquiet : t.captures = s.captures → t.mentions = s.mentions →
      (∀ offset opener name arguments, t.mode = .clause offset opener name arguments →
        ∀ capture, .capture capture ∈ arguments → capture ∈ s.captures) → Bound t := by
    intro hcaptures hmentions hclause
    exact ⟨by rw [hcaptures, hmentions]; exact hs.captures_iff, by rw [hcaptures]; exact hs.names,
      by rw [hmentions]; exact hs.grounded, by rw [hcaptures]; exact hclause⟩
  cases h with
  | silent _ hmode hcaptures hmentions =>
    exact hquiet hcaptures hmentions fun _ _ _ _ heq => absurd heq (Mode.ne_clause hmode)
  | begins _ _ _ _ _ hmode hcaptures hmentions =>
    refine hquiet hcaptures hmentions fun _ _ _ _ heq capture hcapture => ?_
    rw [hmode] at heq
    cases heq
    cases hcapture
  | argues _ hmode hmode' hargument hcaptures hmentions =>
    refine hquiet hcaptures hmentions fun _ _ _ _ heq capture hcapture => ?_
    rw [hmode'] at heq
    cases heq
    rcases List.mem_cons.1 hcapture with hlast | hearlier
    · exact hargument capture hlast.symm
    · exact hs.clause _ _ _ _ hmode capture hearlier
  | @binds bound _ hmode hname hcaptures hmentions =>
    have hmem : ∀ name, name ∈ t.captures ↔ name ∈ s.captures ∨ name = bound := by
      intro name
      rw [hcaptures]
      split
      · next hcontains =>
        have hbound := List.contains_iff_mem.1 hcontains
        exact ⟨Or.inl, fun h => h.elim id fun heq => heq ▸ hbound⟩
      · simp
    refine ⟨fun name => ?_, fun name h => ?_, ?_,
      fun _ _ _ _ heq => absurd heq (Mode.ne_clause hmode)⟩
    · rw [hmem, hmentions, hs.captures_iff]
      simp
    · rcases (hmem name).1 h with h | rfl
      · exact hs.names name h
      · exact hname
    · rw [hmentions]
      exact hs.grounded.concat fun _ h => by cases h
  | @ends offset opener name arguments _ hmode hmode' hcaptures hmentions =>
    refine ⟨fun bound => ?_, by rw [hcaptures]; exact hs.names, ?_,
      fun _ _ _ _ heq => absurd heq (Mode.ne_clause hmode')⟩
    · rw [hcaptures, hmentions, hs.captures_iff]
      simp
    · rw [hmentions]
      refine hs.grounded.concat fun c hc bound hbound => ?_
      cases hc
      exact (hs.captures_iff bound).1 (hs.clause _ _ _ _ hmode bound (List.mem_reverse.1 hbound))

/-- A capture has at least one character. -/
theorem captures_ne_empty_of_effect {s t : Reading} (hs : ∀ name ∈ s.captures, name ≠ "")
    (h : Effect s t) : ∀ name ∈ t.captures, name ≠ "" := by
  cases h with
  | silent _ _ hcaptures | begins _ _ _ _ _ _ hcaptures | argues _ _ _ _ hcaptures
  | ends _ _ _ hcaptures =>
    rw [hcaptures]
    exact hs
  | binds _ _ _ hcaptures _ _ hnonempty =>
    intro name hname
    rw [hcaptures] at hname
    split at hname
    · exact hs name hname
    · rcases List.mem_append.1 hname with hname | hname
      · exact hs name hname
      · rw [List.mem_singleton.1 hname]
        exact hnonempty

/-- A capture is entered when its name is not there yet. -/
theorem captures_nodup_of_effect {s t : Reading} (hs : s.captures.Nodup) (h : Effect s t) :
    t.captures.Nodup := by
  cases h with
  | silent _ _ hcaptures | begins _ _ _ _ _ _ hcaptures | argues _ _ _ _ hcaptures
  | ends _ _ _ hcaptures =>
    rw [hcaptures]
    exact hs
  | @binds bound _ _ _ hcaptures =>
    rw [hcaptures]
    split
    · exact hs
    · next hnew =>
      refine List.nodup_append.2
        ⟨hs, List.pairwise_singleton _ bound, fun name hname other hother => ?_⟩
      rw [List.mem_singleton.1 hother]
      rintro rfl
      exact hnew (List.contains_iff_mem.2 hname)

end Reading

/-! ## Landmarks in order -/

namespace Reading

/-- What a step starts stands behind all that has started, in the part that it reads. -/
theorem Effect.landmarks_eq {s t : Reading} (h : Effect s t) :
    ∃ new, t.landmarks = s.landmarks ++ new ∧ new.Pairwise (·.offset < ·.offset) ∧
      ∀ l ∈ new, s.place.offset ≤ l.offset ∧ l.offset < t.place.offset := by
  have hpast := h.past.offset_lt
  have hstarts : ∀ {new : List Landmark}, s.Starts new → new.Pairwise (·.offset < ·.offset) ∧
      ∀ l ∈ new, l.offset = s.place.offset := by
    rintro new (rfl | rfl)
    · exact ⟨List.Pairwise.nil, nofun⟩
    · exact ⟨List.pairwise_singleton _ _, fun l hl => by rw [List.mem_singleton.1 hl]; rfl⟩
  have hnothing : t.landmarks = s.landmarks → ∃ new, t.landmarks = s.landmarks ++ new ∧
      new.Pairwise (·.offset < ·.offset) ∧
      ∀ l ∈ new, s.place.offset ≤ l.offset ∧ l.offset < t.place.offset := fun heq =>
    ⟨[], by rw [heq, List.append_nil], List.Pairwise.nil, nofun⟩
  cases h with
  | silent _ _ _ _ hnew hlandmarks =>
    obtain ⟨hordered, hplaces⟩ := hstarts hnew
    refine ⟨_, hlandmarks, hordered, fun l hl => ?_⟩
    rw [hplaces l hl]
    exact ⟨Nat.le_refl _, hpast⟩
  | binds _ _ _ _ _ hlandmarks => exact hnothing hlandmarks
  | argues _ _ _ _ _ _ hlandmarks => exact hnothing hlandmarks
  | ends _ _ _ _ _ hlandmarks => exact hnothing hlandmarks
  | begins hplace _ _ hname hend _ _ _ hnew hlandmarks =>
    obtain ⟨hordered, hplaces⟩ := hstarts hnew
    have hbehind := hplace.past.offset_lt
    have hafter := (Scan.name_past hname).trans_upto (Scan.blanks_upto _)
    rw [← hend] at hafter
    have hbefore := Nat.lt_of_succ_lt hafter.offset_lt
    refine ⟨_, hlandmarks, List.pairwise_append.2 ⟨hordered, List.pairwise_singleton _ _, ?_⟩, ?_⟩
    · intro l hl l' hl'
      rw [hplaces l hl, List.mem_singleton.1 hl']
      exact hbehind
    · intro l hl
      rcases List.mem_append.1 hl with hl | hl
      · rw [hplaces l hl]
        exact ⟨Nat.le_refl _, hpast⟩
      · rw [List.mem_singleton.1 hl]
        exact ⟨Nat.le_of_lt hbehind, hbefore⟩

/-- Landmarks stand one after the other, and before the place that has been reached. -/
def InOrder (s : Reading) : Prop :=
  s.landmarks.Pairwise (·.offset < ·.offset) ∧ ∀ l ∈ s.landmarks, l.offset < s.place.offset

theorem InOrder.of_effect {s t : Reading} (hs : InOrder s) (h : Effect s t) : InOrder t := by
  obtain ⟨hordered, hpassed⟩ := hs
  obtain ⟨new, heq, hnew, hplaces⟩ := h.landmarks_eq
  have hlt := h.past.offset_lt
  rw [InOrder, heq]
  constructor
  · refine List.pairwise_append.2 ⟨hordered, hnew, fun l hl l' hl' => ?_⟩
    exact Nat.lt_of_lt_of_le (hpassed l hl) (hplaces l' hl').1
  · intro l hl
    rcases List.mem_append.1 hl with hl | hl
    · exact Nat.lt_trans (hpassed l hl) hlt
    · exact (hplaces l hl).2

end Reading

/-! ## Whole texts -/

namespace Pattern

/-- A text that can be read is read by steps to its end. -/
theorem goes_of_read {v : Vocabulary} {text : Text} {patterns : List Pattern}
    {names : List String} (h : Pattern.read v text = .ok (patterns, names)) :
    ∃ s, Reading.Goes v (.initial text) s ∧ names = s.captures ∧
      patterns.flatMap (·.item.mentions) = s.mentions ∧
      patterns.flatMap landmarks = s.landmarks ∧ s.place.rest = [] := by
  obtain ⟨s, hgoes, ⟨hend, hfinish⟩ | ⟨fault, -, hfault⟩⟩ :=
    Reading.run_ends v (s := .initial text) rfl
  · obtain ⟨hnames, hmentions, hlandmarks⟩ := Reading.finish_eq_ok (hfinish.symm.trans h)
    exact ⟨s, hgoes, hnames, hmentions, hlandmarks, hend⟩
  · cases hfault.symm.trans h

variable {v : Vocabulary} {text : Text} {patterns : List Pattern} {names : List String}

theorem bound_of_read (h : Pattern.read v text = .ok (patterns, names)) :
    (∀ name, name ∈ names ↔ .binds name ∈ patterns.flatMap (·.item.mentions)) ∧
      (∀ name ∈ names, name.toList.all Scan.continuesName = true) ∧
      Mention.Grounded (patterns.flatMap (·.item.mentions)) := by
  obtain ⟨s, hgoes, hnames, hmentions, -⟩ := goes_of_read h
  have hbound := hgoes.invariant rfl (Reading.bound_initial text) Reading.Bound.of_effect
  rw [hnames, hmentions]
  exact ⟨hbound.captures_iff, hbound.names, hbound.grounded⟩

/-- The captures of a text have at least one character each. -/
theorem captures_ne_empty_of_read (h : Pattern.read v text = .ok (patterns, names)) :
    ∀ name ∈ names, name ≠ "" := by
  obtain ⟨s, hgoes, rfl, -⟩ := goes_of_read h
  exact hgoes.invariant rfl nofun Reading.captures_ne_empty_of_effect

/-- No two captures of a text have one name. -/
theorem captures_nodup_of_read (h : Pattern.read v text = .ok (patterns, names)) :
    names.Nodup := by
  obtain ⟨s, hgoes, rfl, -⟩ := goes_of_read h
  exact hgoes.invariant rfl List.nodup_nil Reading.captures_nodup_of_effect

/-- The landmarks of a text are in the order of the text. -/
theorem landmarks_of_read (h : Pattern.read v text = .ok (patterns, names)) :
    (patterns.flatMap landmarks).Pairwise (·.offset < ·.offset) := by
  obtain ⟨s, hgoes, -, -, hlandmarks, -⟩ := goes_of_read h
  have hbegin : Reading.InOrder (.initial text) := ⟨List.Pairwise.nil, nofun⟩
  rw [hlandmarks]
  exact (hgoes.invariant rfl hbegin Reading.InOrder.of_effect).1

/-- The clauses of a text, pattern after pattern, are in the order in which they open. -/
theorem openers_of_read (h : Pattern.read v text = .ok (patterns, names)) :
    ((patterns.flatMap (·.item.clauses)).map (·.opener)).Pairwise (· < ·) := by
  have hopeners : ((patterns.flatMap (·.item.clauses)).map fun c => Landmark.opener c.opener) =
      patterns.flatMap fun p => Mention.landmarks p.item.mentions := by
    simp only [Mention.landmarks, Item.clauses_eq, List.map_flatMap]
  have hsub : (patterns.flatMap fun p => Mention.landmarks p.item.mentions).Sublist
      (patterns.flatMap landmarks) := by
    exact List.Sublist.flatMap_right _ fun p _ => List.sublist_cons_self _ _
  have hordered := (landmarks_of_read h).sublist hsub
  rw [← hopeners, List.pairwise_map] at hordered
  exact List.pairwise_map.2 hordered

end Pattern
end TreeQuery
