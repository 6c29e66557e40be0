/-
  TreeQuery.Proofs.Document.Deeds

  A document and what was done with it. The edits in the history are those of the deeds
  (`Sound.edits`), every mark was made by a deed (`Sound.made`), and an offset that was a
  boundary when the cursor was set to it, or a mark made at it, goes with the edits since
  then to a boundary of the text (`Run.offsetsFit`). The cursor stands there
  (`Run.cursorFollows`). What marks do depends on the calls.
-/

import TreeQuery.Proofs.Document.Rounds

namespace TreeQuery

/-- The offset that a deed sets the cursor or a mark to. -/
def Deed.offset? : Deed → Option Nat
  | .cursorSet o => some o
  | .marked _ o => some o
  | _ => none

namespace Document

variable {d d' : Document} {a : Action} {deed : Option Deed} {deeds : List Deed}

/-! ## Effects that are no edits -/

/-- An action that is no edit leaves text, history and agenda as they are, and registers
    nobody but under the next number. -/
theorem Effect.frame (h : Effect d a deed d') (hedit : ∀ e, deed ≠ some (.edited e)) :
    d'.buffer.text = d.buffer.text ∧ d'.history = d.history ∧ d'.agenda = d.agenda ∧
      ∀ r ∈ d'.registrations, r ∈ d.registrations ∨ r.id = ⟨d.issued⟩ := by
  have hregister : ∀ {l : Listener}, ∀ r ∈ d.registrations ++ [⟨⟨d.issued⟩, l⟩],
      r ∈ d.registrations ∨ r.id = ⟨d.issued⟩ := by
    intro l r hr
    refine (List.mem_append.1 hr).imp_right fun hr => ?_
    rw [List.mem_singleton.1 hr]
  cases h with
  | edited ha he => exact absurd rfl (hedit _)
  | same | cursorSet | dropRecorder => exact ⟨rfl, rfl, rfl, fun _ => .inl⟩
  | marked | subscribe | resubscribe => exact ⟨rfl, rfl, rfl, hregister⟩
  | dropMark | unsubscribe =>
    exact ⟨rfl, rfl, rfl, fun r hr => .inl (List.mem_filter.1 hr).1⟩

/-- Only an edit changes the account of a number. -/
theorem Effect.account_eq (h : Effect d a deed d') (hedit : ∀ e, deed ≠ some (.edited e))
    (id : ListenerId) : d'.account id = d.account id := by
  obtain ⟨-, hhistory, hagenda, -⟩ := h.frame hedit
  rw [account, account, hhistory, hagenda]

/-- A deed that is no edit adds no edit. -/
theorem editsOf_append_toList (hedit : ∀ e, deed ≠ some (.edited e)) :
    editsOf (deeds ++ deed.toList) = editsOf deeds := by
  cases deed with
  | none => exact congrArg editsOf (List.append_nil deeds)
  | some x => exact editsOf_concat_of_ne (fun e h => hedit e (h ▸ rfl)) deeds

/-- Whether a deed is an edit. -/
theorem edited_or_ne (deed : Option Deed) :
    (∃ e, deed = some (.edited e)) ∨ ∀ e, deed ≠ some (.edited e) := by
  cases deed with
  | none => exact .inr fun e h => by cases h
  | some x =>
    cases x with
    | edited e => exact .inl ⟨e, rfl⟩
    | cursorSet o => exact .inr fun e h => by cases h
    | marked n o => exact .inr fun e h => by cases h
    | handedOut id => exact .inr fun e h => by cases h

/-! ## Marks under an action -/

/-- An action makes a mark, or every mark was there before and stands where it stood. -/
theorem Effect.marks_cases (h : Effect d a deed d') :
    (∃ o, deed = some (.marked d.marks.length o) ∧ d' = d.marked o) ∨
      (∀ n o, deed ≠ some (.marked n o)) ∧ d'.marks.length = d.marks.length ∧
        ∀ (n : Nat) (m' : Mark), d'.marks[n]? = some m' →
          ∃ m : Mark, d.marks[n]? = some m ∧ m'.id = m.id ∧ m'.offset = m.offset ∧
            (m'.held = true → m.held = true) := by
  cases h with
  | marked => exact .inl ⟨_, rfl, rfl⟩
  | same | edited | cursorSet | subscribe | resubscribe | unsubscribe | dropRecorder =>
    refine .inr ⟨fun n o heq => (by cases heq), rfl, fun n m' hm' => ?_⟩
    exact ⟨m', hm', rfl, rfl, fun hheld => hheld⟩
  | @dropMark k m hm =>
    obtain ⟨hget, hheld⟩ := mark?_eq_some_iff.1 hm
    refine .inr ⟨fun n o heq => (by cases heq), List.length_set .., fun n m' hm' => ?_⟩
    simp only [Document.dropMark, unregister, List.getElem?_set] at hm'
    split at hm'
    · next hk =>
      subst hk
      split at hm'
      · cases hm'
        exact ⟨m, hget, rfl, rfl, fun h => by cases h⟩
      · cases hm'
    · exact ⟨m', hm', rfl, rfl, fun hheld => hheld⟩

/-! ## Numbers handed out -/

/-- Numbers that were handed out are given out, and not to marks. -/
def HandedOutApart (deeds : List Deed) (d : Document) : Prop :=
  ∀ id, Deed.handedOut id ∈ deeds → id.number < d.issued ∧ id ∉ d.markIds

/-- An action gives out one number or none: to a mark, or it hands it out. -/
theorem Effect.numbers (h : Effect d a deed d') :
    (d'.issued = d.issued + 1 ∧ d'.markIds = d.markIds ++ [⟨d.issued⟩] ∧
        ∀ id, deed ≠ some (.handedOut id)) ∨
      (d'.issued = d.issued + 1 ∧ d'.markIds = d.markIds ∧
        deed = some (.handedOut ⟨d.issued⟩)) ∨
      d'.issued = d.issued ∧ d'.markIds = d.markIds ∧ ∀ id, deed ≠ some (.handedOut id) := by
  cases h with
  | marked => exact .inl ⟨rfl, List.map_append, fun id h => by cases h⟩
  | subscribe | resubscribe => exact .inr (.inl ⟨rfl, rfl, rfl⟩)
  | same | edited | cursorSet | unsubscribe | dropRecorder =>
    exact .inr (.inr ⟨rfl, rfl, fun id h => by cases h⟩)
  | dropMark hm => exact .inr (.inr ⟨rfl, markIds_dropMark hm, fun id h => by cases h⟩)

theorem Registry.handedOutApart (hd : d.Registry) (h : HandedOutApart deeds d)
    (heffect : Effect d a deed d') : HandedOutApart (deeds ++ deed.toList) d' := by
  intro id hmem
  rw [List.mem_append, Option.mem_toList] at hmem
  rcases heffect.numbers with ⟨hissued, hmarks, hne⟩ | ⟨hissued, hmarks, rfl⟩ |
    ⟨hissued, hmarks, hne⟩
  · -- The new number goes to a mark, and what was handed out is below it.
    obtain ⟨hlt, hnot⟩ := h id (hmem.resolve_right (hne id))
    rw [hissued, hmarks, List.mem_append, List.mem_singleton]
    refine ⟨Nat.lt_succ_of_lt hlt, fun hor => hor.elim hnot fun heq => ?_⟩
    rw [heq] at hlt
    exact Nat.lt_irrefl _ hlt
  · rw [hissued, hmarks]
    rcases hmem with hmem | hmem
    · exact ⟨Nat.lt_succ_of_lt (h id hmem).1, (h id hmem).2⟩
    · cases hmem
      exact ⟨Nat.lt_succ_self _, hd.next_notMem_markIds⟩
  · rw [hissued, hmarks]
    exact h id (hmem.resolve_right (hne id))

/-! ## Sound documents -/

/-- **Deeds and document agree.** -/
structure Sound (deeds : List Deed) (d : Document) : Prop where
  registry : d.Registry
  rounds : d.Rounds
  edits : (applications d.history).map (·.2) = editsOf deeds
  made : ∀ n, (∃ o, Deed.marked n o ∈ deeds) ↔ n < d.marks.length
  handed : HandedOutApart deeds d

theorem sound_ofText (text : Text) : Sound [.cursorSet 0] (.ofText text) := by
  refine ⟨registry_ofText text, rounds_ofText text, rfl, fun n => ?_, fun id hmem => ?_⟩
  · simp [ofText]
  · simp at hmem

theorem Sound.pop {t : Task} {rest : List Task} (h : Sound deeds d)
    (hagenda : d.agenda = t :: rest) (ht : t.isTell = false) :
    Sound deeds { d with agenda := rest } :=
  ⟨h.registry.pop hagenda, h.rounds.pop hagenda ht, h.edits, h.made, h.handed⟩

theorem length_marksTold (d : Document) (l : Listener) (e : Edit) :
    (d.marksTold l e).length = d.marks.length := by
  cases l with
  | mark n => exact List.length_modify ..
  | recorder n => rfl

theorem Sound.told {round : Nat} {whom : Registration} {e : Edit} {asked rest : List Task}
    (h : Sound deeds d) (hagenda : d.agenda = .tell round whom e :: rest)
    (hasked : ∀ t ∈ asked, t.isTell = false) :
    Sound deeds (d.told round whom e (asked ++ rest)) := by
  refine ⟨h.registry.told hagenda hasked, h.rounds.told hagenda hasked, ?_, fun n => ?_,
    fun id hmem => ?_⟩
  · simp only [Document.told, applications_concat_told]
    exact h.edits
  · rw [h.made n]
    simp only [Document.told, length_marksTold]
  · rw [markIds_told]
    exact h.handed id hmem

theorem Sound.effect (h : Sound deeds d) (heffect : Effect d a deed d') :
    Sound (deeds ++ deed.toList) d' := by
  refine ⟨h.registry.effect heffect, h.rounds.effect h.registry heffect, ?_, fun n => ?_,
    h.registry.handedOutApart h.handed heffect⟩
  -- An edit is written into the history and counted among the deeds.
  · rcases edited_or_ne deed with ⟨e, rfl⟩ | hedit
    · cases heffect with
      | edited ha he =>
        simp only [Document.edited, applications_concat_applied, List.map_append, h.edits]
        exact (editsOf_concat_edited deeds e).symm
    · rw [editsOf_append_toList hedit, (heffect.frame hedit).2.1, h.edits]
  -- A new mark is numbered by the count of those before it.
  · have hmade := h.made n
    rcases heffect.marks_cases with ⟨o, rfl, rfl⟩ | ⟨hne, hlength, -⟩
    · have hlength : (d.marked o).marks.length = d.marks.length + 1 := List.length_append
      rw [hlength, Nat.lt_succ_iff_lt_or_eq, ← hmade]
      simp only [Option.toList_some, List.mem_append, List.mem_singleton, Deed.marked.injEq]
      constructor
      · rintro ⟨o', hmem | ⟨rfl, rfl⟩⟩
        · exact .inl ⟨o', hmem⟩
        · exact .inr rfl
      · rintro (⟨o', hmem⟩ | rfl)
        · exact ⟨o', .inl hmem⟩
        · exact ⟨o, .inr ⟨rfl, rfl⟩⟩
    · rw [hlength, ← hmade]
      refine exists_congr fun o => ?_
      rw [List.mem_append]
      refine or_iff_left fun hmem => hne n o ?_
      exact Option.mem_toList.1 hmem

end Document

open Document

namespace Run

variable {allows : Caller → List Deed → Document → Action → Prop} {text : Text}
  {deeds : List Deed} {d : Document}

/-- In every state of a run the deeds and the document agree. -/
theorem sound (h : Run allows text deeds d) : Sound deeds d :=
  h.invariant (sound_ofText text) Sound.pop Sound.told fun hd _ _ heffect => hd.effect heffect

/-- Induction over a run of sound states. -/
theorem invariant_of_sound {motive : List Deed → Document → Prop}
    (start : motive [.cursorSet 0] (.ofText text))
    (pop : ∀ {deeds d t rest}, Sound deeds d → motive deeds d → d.agenda = t :: rest →
      t.isTell = false → motive deeds { d with agenda := rest })
    (tell : ∀ {deeds d round whom e rest asked}, Sound deeds d → motive deeds d →
      d.agenda = .tell round whom e :: rest → (∀ t ∈ asked, t.isTell = false) →
      motive deeds (d.told round whom e (asked ++ rest)))
    (act : ∀ {deeds d caller a deed d'}, Sound deeds d → motive deeds d →
      (caller = .owner → d.agenda = []) → allows caller deeds d a → Effect d a deed d' →
      motive (deeds ++ deed.toList) d')
    (h : Run allows text deeds d) : motive deeds d := by
  have hboth : Sound deeds d ∧ motive deeds d :=
    h.invariant (motive := fun deeds d => Sound deeds d ∧ motive deeds d)
      ⟨sound_ofText text, start⟩
      (fun hd hagenda ht => ⟨hd.1.pop hagenda ht, pop hd.1 hd.2 hagenda ht⟩)
      (fun hd hagenda hasked => ⟨hd.1.told hagenda hasked, tell hd.1 hd.2 hagenda hasked⟩)
      (fun hd hcaller ha heffect =>
        ⟨hd.1.effect heffect, act hd.1 hd.2 hcaller ha heffect⟩)
  exact hboth.2

end Run

/-- **Induction from one state to a later one**, when the first is sound. -/
theorem Onward.invariant {allows : Caller → List Deed → Document → Action → Prop}
    {deeds₀ deeds : List Deed} {d₀ d : Document} {motive : List Deed → Document → Prop}
    (hsound : Sound deeds₀ d₀) (start : motive deeds₀ d₀)
    (pop : ∀ {deeds d t rest}, Sound deeds d → motive deeds d → d.agenda = t :: rest →
      t.isTell = false → motive deeds { d with agenda := rest })
    (tell : ∀ {deeds d round whom e rest asked}, Sound deeds d → motive deeds d →
      d.agenda = .tell round whom e :: rest → (∀ t ∈ asked, t.isTell = false) →
      motive deeds (d.told round whom e (asked ++ rest)))
    (act : ∀ {deeds d caller a}, Sound deeds d → motive deeds d →
      (caller = .owner → d.agenda = []) → allows caller deeds d a →
      motive (deeds ++ (d.deed? a).toList) (d.begin a).2)
    (h : Onward allows deeds₀ d₀ deeds d) : Sound deeds d ∧ motive deeds d := by
  induction h with
  | refl => exact ⟨hsound, start⟩
  | turn _ hturn ih =>
    obtain ⟨hd, hmotive⟩ := ih
    cases hturn with
    | act hbegins =>
      cases hbegins with
      | owner hidle ha =>
        exact ⟨hd.effect (begin_effect _ _), act hd hmotive (fun _ => hidle) ha⟩
      | react hagenda ha =>
        have hpopped := hd.pop hagenda rfl
        exact ⟨hpopped.effect (begin_effect _ _),
          act hpopped (pop hd hmotive hagenda rfl) (fun h => by cases h) ha⟩
    | tell hagenda =>
      obtain ⟨asked, hasked, hstep⟩ := step_tell _ _ _ _ _
      rw [hstep]
      exact ⟨hd.told hagenda hasked, tell hd hmotive hagenda hasked⟩
    | finish hagenda => exact ⟨hd.pop hagenda rfl, pop hd hmotive hagenda rfl⟩

/-- The document on which an action of a run is begun is sound. -/
theorem Begins.sound {allows : Caller → List Deed → Document → Action → Prop}
    {deeds : List Deed} {before d : Document} {a : Action}
    (h : Begins allows deeds before d a) (hsound : Sound deeds before) : Sound deeds d := by
  cases h with
  | owner => exact hsound
  | react hagenda => exact hsound.pop hagenda rfl

namespace Run

variable {allows : Caller → List Deed → Document → Action → Prop} {text : Text}
  {deeds : List Deed} {d : Document}

/-! ## Offsets and the cursor -/

/-- Offsets that were set, gone along with the edits since then, are boundaries. -/
def OffsetsFit (deeds : List Deed) (d : Document) : Prop :=
  ∀ x o after, x :: after <:+ deeds → x.offset? = some o →
    d.buffer.text.isBoundary (Edit.remapAll (editsOf after) o) = true

/-- **Offsets that are set stay boundaries**, when they go with the edits. -/
theorem offsetsFit (h : Run allows text deeds d) : OffsetsFit deeds d := by
  refine h.invariant ?_ (fun hd _ _ => hd) (fun hd _ _ => hd) ?_
  · intro x o after hsince ho
    have hfirst : x :: after <:+ [] ++ [Deed.cursorSet 0] := hsince
    rcases cons_suffix_concat_iff.1 hfirst with ⟨rfl, rfl⟩ | ⟨since, -, hprior⟩
    · cases ho
      exact text.isBoundary_zero
    · exact absurd hprior.length_le (by simp)
  · intro deeds d caller a deed d' hd _ _ heffect x o after hsince ho
    -- In every case the offset was set by the last deed, or the claim held of it before.
    cases heffect with
    | @edited a ha e text' he =>
      rcases cons_suffix_concat_iff.1 hsince with ⟨-, rfl⟩ | ⟨since, rfl, hprior⟩
      · cases ho
      · rw [editsOf_concat_edited, Edit.remapAll_concat]
        exact Edit.remap_isBoundary he (hd x o since hprior ho)
    | cursorSet a ho' | marked a ho' =>
      rcases cons_suffix_concat_iff.1 hsince with ⟨rfl, rfl⟩ | ⟨since, rfl, hprior⟩
      · cases ho
        exact ho'
      · rw [editsOf_concat_of_ne fun e h => by cases h]
        exact hd x o since hprior ho
    | subscribe | resubscribe =>
      rcases cons_suffix_concat_iff.1 hsince with ⟨-, rfl⟩ | ⟨since, rfl, hprior⟩
      · cases ho
      · rw [editsOf_concat_of_ne fun e h => by cases h]
        exact hd x o since hprior ho
    | same | dropMark | unsubscribe | dropRecorder =>
      rw [Option.toList_none, List.append_nil] at hsince
      exact hd x o after hsince ho

/-- The cursor stands where the edits since it was set last took it. -/
def CursorFollows (deeds : List Deed) (d : Document) : Prop :=
  ∀ o after, Deed.cursorSet o :: after <:+ deeds → (∀ o', Deed.cursorSet o' ∉ after) →
    d.buffer.cursor = Edit.remapAll (editsOf after) o

/-- **The cursor goes with the edits**, from where it was set last. -/
theorem cursorFollows (h : Run allows text deeds d) : CursorFollows deeds d := by
  refine h.invariant ?_ (fun hd _ _ => hd) (fun hd _ _ => hd) ?_
  · intro o after hsince _
    have hfirst : Deed.cursorSet o :: after <:+ [] ++ [Deed.cursorSet 0] := hsince
    rcases cons_suffix_concat_iff.1 hfirst with ⟨rfl, heq⟩ | ⟨since, -, hprior⟩
    · cases heq
      rfl
    · exact absurd hprior.length_le (by simp)
  · intro deeds d caller a deed d' hd _ _ heffect o after hsince hlast
    -- Whatever deed comes last, the cursor was not set between the two.
    have hbefore : ∀ {x since}, after = since ++ [x] → ∀ o', Deed.cursorSet o' ∉ since :=
      fun heq o' hmem => hlast o' (heq ▸ List.mem_append_left _ hmem)
    cases heffect with
    | edited ha he =>
      rcases cons_suffix_concat_iff.1 hsince with ⟨-, heq⟩ | ⟨since, rfl, hprior⟩
      · cases heq
      · rw [editsOf_concat_edited, Edit.remapAll_concat, ← hd o since hprior (hbefore rfl)]
        rfl
    | @cursorSet a o' ho' =>
      rcases cons_suffix_concat_iff.1 hsince with ⟨rfl, heq⟩ | ⟨since, rfl, hprior⟩
      · cases heq
        rfl
      · -- A later setting of the cursor would come after the last one.
        exact absurd (List.mem_append_right _ List.mem_cons_self) (hlast o')
    | marked | subscribe | resubscribe =>
      rcases cons_suffix_concat_iff.1 hsince with ⟨-, heq⟩ | ⟨since, rfl, hprior⟩
      · cases heq
      · rw [editsOf_concat_of_ne fun e h => by cases h]
        exact hd o since hprior (hbefore rfl)
    | same | dropMark | unsubscribe | dropRecorder =>
      rw [Option.toList_none, List.append_nil] at hsince
      exact hd o after hsince hlast

/-- There is always a deed that set the cursor last. -/
theorem exists_last_cursorSet (h : Run allows text deeds d) :
    ∃ o after, Deed.cursorSet o :: after <:+ deeds ∧ ∀ o', Deed.cursorSet o' ∉ after := by
  refine h.invariant (motive := fun deeds _ => ∃ o after, Deed.cursorSet o :: after <:+ deeds ∧
    ∀ o', Deed.cursorSet o' ∉ after) ⟨0, [], List.suffix_rfl, by simp⟩ (fun hd _ _ => hd)
    (fun hd _ _ => hd) ?_
  rintro deeds d caller a deed d' ⟨o, after, hsince, hlast⟩ - - -
  cases deed with
  | none => exact ⟨o, after, by simpa using hsince, hlast⟩
  | some x =>
    by_cases hx : ∃ o', x = .cursorSet o'
    · obtain ⟨o', rfl⟩ := hx
      exact ⟨o', [], List.suffix_append _ _, by simp⟩
    · refine ⟨o, after ++ [x], cons_suffix_concat_iff.2 (.inr ⟨after, rfl, hsince⟩), ?_⟩
      intro o' hmem
      rcases List.mem_append.1 hmem with hmem | hmem
      · exact hlast o' hmem
      · exact hx ⟨o', (List.mem_singleton.1 hmem).symm⟩

end Run
end TreeQuery
