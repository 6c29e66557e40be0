/-
  TreeQuery.Proofs.Document.Positions

  Positions while listeners make no edits. The cursor goes with all edits and stays a boundary
  of the text. A mark goes with the edits up to the end of its registration (`Run.marksGo`),
  and it does so when it is called: while a round is under way it may have a call to come.

  What its owner can do with a mark depends on whether it stands on a boundary
  (`Document.fresh_iff`), and a mark that is registered and has no call to come does
  (`Run.positions_follow`). Both are needed. A listener that is told before the mark finds it
  where the edit did not take it yet, and the end of a registration under the number of a mark,
  which a number of another document may be, leaves the mark behind
  (`Run.positions_stale`).

  Numbers of marks are not handed out, so when only such numbers are used, or numbers that nobody
  has, nobody but its owner ends the registration of a mark (`Run.heldRegistered`).
-/

import TreeQuery.Document.Session
import TreeQuery.Proofs.Document.Lines
import TreeQuery.Proofs.Document.Marks

namespace TreeQuery

open Document

namespace Document

variable {d d' : Document} {a : Action} {deed : Option Deed} {deeds : List Deed}

/-! ## Registrations of marks -/

/-- Marks that their owners have are registered. -/
def HeldRegistered (d : Document) : Prop := ∀ n m, d.mark? n = some m → d.Registers n m

/-- An action keeps marks registered, unless it ends a registration under the number of a mark. -/
theorem Registry.heldRegistered_effect (hd : d.Registry) (h : d.HeldRegistered)
    (hids : ∀ id, a = .unsubscribe id → id ∉ d.markIds) (heffect : Effect d a deed d') :
    d'.HeldRegistered := by
  intro n m' hm'
  -- A mark that is there already stays registered, and a new one is registered when it is made.
  by_cases hn : n < d.marks.length
  · obtain ⟨m, hm, hid, -⟩ := heffect.exists_mark? hn hm'
    refine heffect.registers hd hm hm' hid (fun ha => ?_) (h n m hm)
    exact hids m.id ha (List.mem_of_getElem? (mem_markIds (mark?_eq_some_iff.1 hm).1))
  · obtain ⟨hget, -⟩ := mark?_eq_some_iff.1 hm'
    rcases heffect.marks_cases with ⟨o, rfl, rfl⟩ | ⟨-, hlength, -⟩
    · rcases getElem?_concat_eq_some_iff.1 hget with hget | ⟨rfl, rfl⟩
      · exact absurd (List.getElem?_eq_some_iff.1 hget).1 hn
      · exact List.mem_append_right _ List.mem_cons_self
    · have hlt := (List.getElem?_eq_some_iff.1 hget).1
      rw [hlength] at hlt
      exact absurd hlt hn

/-- A number that was handed out, or that nobody has, is no mark's. -/
theorem Sound.notMem_markIds (h : Sound deeds d) {id : ListenerId}
    (hid : Deed.handedOut id ∈ deeds ∨ d.issued ≤ id.number) : id ∉ d.markIds := by
  rcases hid with hhanded | hunknown
  · exact (h.handed id hhanded).2
  · exact fun hmem => Nat.not_lt.2 hunknown (h.registry.markIds_lt_issued id hmem)

/-- Telling a listener keeps marks registered. -/
theorem Registry.heldRegistered_told (hd : d.Registry) (h : d.HeldRegistered) {round : Nat}
    {whom : Registration} {e : Edit} {asked rest : List Task}
    (hagenda : d.agenda = .tell round whom e :: rest) (hasked : ∀ t ∈ asked, t.isTell = false) :
    (d.told round whom e (asked ++ rest)).HeldRegistered := by
  intro n m' hm'
  obtain ⟨m, hm, hstays⟩ := hd.stays_told hagenda hasked hm'
  rw [Registers, hstays.id]
  exact h n m hm

end Document

namespace Run

variable {allows : Caller → List Deed → Document → Action → Prop} {text : Text}
  {deeds : List Deed} {d : Document}

/-- Registrations are ended under numbers that were handed out, or that nobody has. -/
def KnownNumbers (allows : Caller → List Deed → Document → Action → Prop) : Prop :=
  ∀ {caller deeds d id}, allows caller deeds d (.unsubscribe id) →
    Deed.handedOut id ∈ deeds ∨ d.issued ≤ id.number

/-- **Marks stay registered** as long as their owners have them. -/
theorem heldRegistered (h : Run allows text deeds d) (hids : KnownNumbers allows) :
    d.HeldRegistered := by
  refine h.invariant_of_sound (motive := fun _ d => d.HeldRegistered) ?_ (fun _ hd _ _ => hd) ?_ ?_
  · intro n m hm
    have hget := (mark?_eq_some_iff.1 hm).1
    simp [ofText] at hget
  · exact fun hsound hd hagenda => hsound.registry.heldRegistered_told hd hagenda
  · intro deeds d caller a deed d' hsound hd _ ha heffect
    refine hsound.registry.heldRegistered_effect hd ?_ heffect
    rintro id rfl
    exact hsound.notMem_markIds (hids ha)

/-! ## Where marks stand -/

/-- Every mark that its owner has goes with the edits since it was made. -/
def MarksGo (deeds : List Deed) (d : Document) : Prop :=
  ∀ n o after m, Deed.marked n o :: after <:+ deeds → d.mark? n = some m →
    d.GoesWith n m (editsOf after) o

/-- **Marks go with the edits** as long as they are registered, when listeners make none. -/
theorem marksGo (h : Run allows text deeds d) (hquiet : QuietListeners allows) :
    MarksGo deeds d := by
  refine h.invariant_of_sound ?_ ?_ ?_ ?_
  · intro n o after m _ hm
    simp [mark?, ofText] at hm
  · intro deeds d t rest _ hd hagenda ht n o after m hsince hm
    exact (hd n o after m hsince hm).stays (stays_pop hagenda ht)
  · intro deeds d round whom e rest asked hsound hd hagenda hasked n o after m' hsince hm'
    obtain ⟨m, hm, hstays⟩ := hsound.registry.stays_told hagenda hasked hm'
    exact (hd n o after m hsince hm).stays hstays
  · intro deeds d caller a deed d' hsound hd hcaller ha heffect n o after m' hsince hm'
    obtain ⟨hget', hheld'⟩ := mark?_eq_some_iff.1 hm'
    rcases heffect.mark_since hsound hsince hget' with
      ⟨rfl, rfl, rfl, rfl⟩ | ⟨since, m, rfl, hprior, hget, hid, hoffset, hheld⟩
    -- A new mark has no edits since, and no call to come under its number.
    · refine .nil (destination_of_pending ?_)
      have haccount : (d.marked o).account ⟨d.issued⟩ = [] :=
        (heffect.account_eq (fun e heq => by cases heq) _).trans hsound.registry.account_next
      exact (List.append_eq_nil_iff.1 haccount).2
    · have hm : d.mark? n = some m := mark?_eq_some_iff.2 ⟨hget, hheld hheld'⟩
      have hgoes := hd n o since m hprior hm
      rcases edited_or_ne deed with ⟨e, rfl⟩ | hedit
      · cases heffect with
        | edited hisEdit he =>
          have hidle := hquiet.idle_of_isEdit hcaller ha hisEdit
          obtain rfl : m = m' := Option.some.inj (hm.symm.trans hm')
          rw [Option.toList_some, editsOf_concat_edited]
          exact hgoes.edited hsound.registry hidle hm e _
      · rw [editsOf_append_toList hedit]
        exact hgoes.stays (heffect.stays hsound.registry hedit hget hid hoffset)

end Run

/-! ## What marks are good for -/

namespace Document

variable {d : Document} {n : Nat} {m : Mark}

/-- What its owner can do with a mark: it lies in the text, has a line and a column in every
    session on the document, and moves the cursor when it is restored. -/
structure Fresh (d : Document) (n : Nat) (m : Mark) : Prop where
  le_size : m.offset ≤ d.buffer.text.size
  isBoundary : d.buffer.text.isBoundary m.offset = true
  lineColumn : ∃ line column, d.buffer.lineColumn m.offset = .ok (line, column) ∧
    1 ≤ line ∧ 1 ≤ column
  view : ∀ s : Session, s.document = d → s.isLive = true →
    (s.viewMark m).offset = m.offset ∧ 1 ≤ (s.viewMark m).line ∧ 1 ≤ (s.viewMark m).column
  restore : d.begin (.restore n) = (.ok .done, d.atCursor m.offset)

/-- What is left of it otherwise: no line and no column, and restoring the mark does nothing. -/
structure Stale (d : Document) (n : Nat) (m : Mark) : Prop where
  lineColumn : ∃ fault, d.buffer.lineColumn m.offset = .error fault
  view : ∀ s : Session, s.document = d → s.isLive = true →
    (s.viewMark m).line = 0 ∧ (s.viewMark m).column = 0
  restore : d.begin (.restore n) = (.ok .done, d)

/-- A mark on a boundary is fresh. -/
theorem fresh_of_isBoundary (hm : d.mark? n = some m)
    (h : d.buffer.text.isBoundary m.offset = true) : Fresh d n m := by
  obtain ⟨line, column, hposition, hline, hcolumn⟩ := Buffer.lineColumn_of_isBoundary h
  refine ⟨Text.le_size_of_isBoundary h, h, ⟨line, column, hposition, hline, hcolumn⟩, ?_, ?_⟩
  · rintro s rfl hlive
    rw [Session.viewMark, if_pos hlive, hposition]
    exact ⟨rfl, hline, hcolumn⟩
  · rw [begin, hm]
    simp only [restore_eq, if_pos h]

/-- A mark on no boundary is stale. -/
theorem stale_of_not_isBoundary (hm : d.mark? n = some m)
    (h : ¬ d.buffer.text.isBoundary m.offset = true) : Stale d n m := by
  obtain ⟨fault, hfault⟩ : ∃ fault, d.buffer.lineColumn m.offset = .error fault := by
    cases hposition : d.buffer.lineColumn m.offset with
    | error fault => exact ⟨fault, rfl⟩
    | ok position => exact absurd (Buffer.exists_lineColumn_iff.1 ⟨position, hposition⟩) h
  refine ⟨⟨fault, hfault⟩, ?_, ?_⟩
  · rintro s rfl hlive
    rw [Session.viewMark, if_pos hlive, hfault]
    exact ⟨rfl, rfl⟩
  · rw [begin, hm]
    simp only [restore_eq, if_neg h]

/-- **A mark is fresh exactly on a boundary**, and stale anywhere else. -/
theorem fresh_iff (hm : d.mark? n = some m) :
    (Fresh d n m ↔ d.buffer.text.isBoundary m.offset = true) ∧ (¬ Fresh d n m → Stale d n m) :=
  ⟨⟨Fresh.isBoundary, fresh_of_isBoundary hm⟩,
    fun hnot => stale_of_not_isBoundary hm fun h => hnot (fresh_of_isBoundary hm h)⟩

end Document

namespace Run

variable {allows : Caller → List Deed → Document → Action → Prop} {text : Text}
  {deeds : List Deed} {d : Document}

/-! ## All positions -/

/-- Listeners make no edits from inside calls; anything else may happen. -/
def Quietly : Caller → List Deed → Document → Action → Prop := fun caller _ _ a =>
  caller = .listener → a.isEdit = false

/-- Moreover a registration is ended under a number that was handed out, or that nobody has. -/
def Usual : Caller → List Deed → Document → Action → Prop := fun caller deeds d a =>
  Quietly caller deeds d a ∧
    ∀ id, a = .unsubscribe id → Deed.handedOut id ∈ deeds ∨ d.issued ≤ id.number

theorem quietListeners_quietly : QuietListeners Quietly := fun ha => ha rfl

theorem quietListeners_usual : QuietListeners Usual := fun ha => ha.1 rfl

theorem knownNumbers_usual : KnownNumbers Usual := fun ha => ha.2 _ rfl

/-- **Where positions are fresh.** In every state of a run in which listeners make no edits:

    * the cursor is a boundary of the text, and the offset it was set to last, gone along with
      the edits since then;
    * a mark that its owner has goes with the edits since it was made, up to the end of its
      registration and as far as it was called; if it is registered and has no call to come, as
      between actions, it stands where all of them took it, and this is a boundary;
    * it is fresh exactly on a boundary, and stale anywhere else.

    When registrations are ended under numbers that were handed out, or that nobody has, every
    mark that its owner has is registered. -/
theorem positions_follow (h : Run allows text deeds d) (hquiet : QuietListeners allows) :
    (d.buffer.text.isBoundary d.buffer.cursor = true ∧ d.buffer.cursor ≤ d.buffer.text.size ∧
        (∃ o after, Deed.cursorSet o :: after <:+ deeds ∧ ∀ o', Deed.cursorSet o' ∉ after) ∧
        CursorFollows deeds d) ∧
      (∀ n m, d.mark? n = some m →
        (∃ o, Deed.marked n o ∈ deeds) ∧
          (∀ o after, Deed.marked n o :: after <:+ deeds →
            d.GoesWith n m (editsOf after) o ∧
            d.buffer.text.isBoundary (Edit.remapAll (editsOf after) o) = true ∧
            (d.Registers n m → pending m.id d.agenda = [] →
              m.offset = Edit.remapAll (editsOf after) o)) ∧
          (d.Registers n m → pending m.id d.agenda = [] → Fresh d n m) ∧
          (Fresh d n m ↔ d.buffer.text.isBoundary m.offset = true) ∧
          (¬ Fresh d n m → Stale d n m)) ∧
      (KnownNumbers allows → ∀ n m, d.mark? n = some m → d.Registers n m) := by
  refine ⟨?_, ?_, fun hids => h.heldRegistered hids⟩
  · obtain ⟨o, after, hsince, hlast⟩ := h.exists_last_cursorSet
    have hcursor := h.cursorFollows o after hsince hlast
    have hboundary : d.buffer.text.isBoundary d.buffer.cursor = true := by
      rw [hcursor]
      exact h.offsetsFit _ o after hsince rfl
    exact ⟨hboundary, Text.le_size_of_isBoundary hboundary, ⟨o, after, hsince, hlast⟩,
      h.cursorFollows⟩
  · intro n m hm
    have hn : n < d.marks.length :=
      (List.getElem?_eq_some_iff.1 (mark?_eq_some_iff.1 hm).1).1
    obtain ⟨o, hmade⟩ := (h.sound.made n).2 hn
    have hoffset : ∀ o after, Deed.marked n o :: after <:+ deeds → d.Registers n m →
        pending m.id d.agenda = [] → m.offset = Edit.remapAll (editsOf after) o := by
      intro o after hsince hreg hnone
      rw [← (h.marksGo hquiet n o after m hsince hm).destination_eq hreg,
        destination_of_pending hnone]
    refine ⟨⟨o, hmade⟩, fun o after hsince => ?_, fun hreg hnone => ?_, fresh_iff hm⟩
    · exact ⟨h.marksGo hquiet n o after m hsince hm, h.offsetsFit _ o after hsince rfl,
        hoffset o after hsince⟩
    · obtain ⟨front, after, heq⟩ := List.append_of_mem hmade
      have hsince : Deed.marked n o :: after <:+ deeds := heq ▸ List.suffix_append _ _
      refine fresh_of_isBoundary hm ?_
      rw [hoffset o after hsince hreg hnone]
      exact h.offsetsFit _ o after hsince rfl

/-- Any action is usual for an owner, unless it ends a registration. -/
theorem usual_owner {a : Action} (ha : ∀ id, a ≠ .unsubscribe id) : Usual .owner deeds d a :=
  ⟨fun h => (by cases h), fun id h => absurd h (ha id)⟩

/-- A mark before the `b` of a line, with a recorder registered before it, after an insertion
    in front and a restoration. -/
theorem positions_follow_restored :
    ∃ deeds d, Run Usual "é\nab".toList deeds d ∧ d.mark? 0 = some ⟨6, ⟨1⟩, true⟩ ∧
      d.Registers 0 ⟨6, ⟨1⟩, true⟩ ∧ Fresh d 0 ⟨6, ⟨1⟩, true⟩ ∧ d.buffer.cursor = 6 ∧
      d.buffer.text.isBoundary d.buffer.cursor = true := by
  have hstart : Run Usual "é\nab".toList _ _ := .start
  have hrecorder := hstart.owner rfl (usual_owner (a := .subscribe []) (by simp))
  have hmark := hrecorder.owner rfl (usual_owner (a := .createMark 4) (by simp))
  have hedit := hmark.owner rfl (usual_owner (a := .insert 3 "xy".toList) (by simp [Action.insert]))
  have htold := (hedit.tell rfl).finish rfl
  have hround := htold.tell rfl
  have hrestored := hround.owner rfl (usual_owner (a := .restore 0) (by simp))
  obtain ⟨⟨hcursor, -⟩, hmarks, hregistered⟩ := positions_follow hrestored quietListeners_usual
  have hreg := hregistered knownNumbers_usual 0 ⟨6, ⟨1⟩, true⟩ rfl
  obtain ⟨-, -, hfresh, -⟩ := hmarks 0 ⟨6, ⟨1⟩, true⟩ rfl
  exact ⟨_, _, hrestored, rfl, hreg, hfresh hreg rfl, rfl, hcursor⟩

/-- The whole text is removed. A recorder that is told before the mark at its end restores the
    mark, which is registered but not called yet. And when the registration of the mark was ended
    under its number, it is left at 3 for good. -/
theorem positions_stale :
    (∃ deeds before d m, Run Usual "abc".toList deeds before ∧
      Begins Usual deeds before d (.restore 0) ∧ d.mark? 0 = some m ∧ d.Registers 0 m ∧
      m.offset = 3 ∧ d.buffer = ⟨[], 0⟩ ∧ Stale d 0 m) ∧
    ∃ deeds d m, Run Quietly "abc".toList deeds d ∧ d.agenda = [] ∧ d.mark? 0 = some m ∧
      m.offset = 3 ∧ d.buffer = ⟨[], 0⟩ ∧ Stale d 0 m := by
  constructor
  · have hstart : Run Usual "abc".toList _ _ := .start
    have hrecorder := hstart.owner rfl (usual_owner (a := .subscribe [[.restore 0]]) (by simp))
    have hmark := hrecorder.owner rfl (usual_owner (a := .createMark 3) (by simp))
    have hedit := hmark.owner rfl (usual_owner (a := .remove 0 3) (by simp [Action.remove]))
    have htold := hedit.tell rfl
    refine ⟨_, _, _, ⟨3, ⟨1⟩, true⟩, htold, .react rfl ⟨fun _ => rfl, by simp⟩, rfl, ?_, rfl, rfl,
      stale_of_not_isBoundary rfl ?_⟩ <;> decide
  · have hstart : Run Quietly "abc".toList _ _ := .start
    have hmark := hstart.owner (a := .createMark 3) rfl (fun h => by cases h)
    have hended := hmark.owner (a := .unsubscribe ⟨0⟩) rfl (fun h => by cases h)
    have hedit := hended.owner (a := .remove 0 3) rfl (fun h => by cases h)
    refine ⟨_, _, ⟨3, ⟨0⟩, true⟩, hedit, rfl, rfl, rfl, rfl, stale_of_not_isBoundary rfl ?_⟩
    decide

end Run
end TreeQuery
