/-
  TreeQuery.Proofs.Document.Following

  Marks keep to their text. From any state on, as long as listeners make no edits from inside
  calls, a mark goes with the edits that are made, up to the end of its registration
  (`Onward.pendingFollows`).

  One edit takes a registered mark in front of it nowhere, and the bytes before the mark stay; it
  takes a mark behind it along with the bytes after it; and any other mark goes to its start.
  Since every edit keeps the order of offsets, marks that stay registered never pass each other
  (`Run.marks_keep_to_text`). A mark whose registration was ended stays where it is, and others
  pass it (`Run.marks_pass_unregistered`).
-/

import TreeQuery.Proofs.Document.Positions

namespace TreeQuery

open Document

/-- Edits one after the other keep the order of offsets. -/
theorem Edit.remapAll_mono (edits : List Edit) {p q : Nat} (h : p ≤ q) :
    remapAll edits p ≤ remapAll edits q := by
  induction edits generalizing p q with
  | nil => exact h
  | cons e edits ih => exact ih (e.remap_mono h)

namespace Document

/-- From `d₀` on a mark went with edits as long as it was registered; if it was not, it stayed. -/
structure Follows (d₀ : Document) (m₀ : Mark) (edits : List Edit) (d : Document) (n : Nat)
    (m : Mark) : Prop where
  id : m.id = m₀.id
  goes : d.GoesWith n m edits (d₀.destination m₀)
  registers : d.Registers n m → d₀.Registers n m₀
  rests : ¬ d₀.Registers n m₀ → d.destination m = d₀.destination m₀

/-- The marks that are held in `d₀` and now go with the edits since `d₀`. -/
structure PendingFollows (deeds₀ : List Deed) (d₀ : Document) (deeds : List Deed) (d : Document) :
    Prop where
  made : d₀.marks.length ≤ d.marks.length
  follows : ∃ since, deeds = deeds₀ ++ since ∧
    ∀ n m₀ m, d₀.mark? n = some m₀ → d.mark? n = some m →
      Follows d₀ m₀ (editsOf since) d n m

variable {deeds₀ deeds : List Deed} {d₀ d d' : Document} {a : Action} {deed : Option Deed}
  {n : Nat} {m₀ m m' : Mark} {edits : List Edit}

namespace Follows

theorem refl (d₀ : Document) (n : Nat) (m₀ : Mark) : Follows d₀ m₀ [] d₀ n m₀ :=
  ⟨rfl, .nil rfl, fun hreg => hreg, fun _ => rfl⟩

theorem stays (h : Follows d₀ m₀ edits d n m) (hstays : Stays d m d' n m') :
    Follows d₀ m₀ edits d' n m' where
  id := hstays.id.trans h.id
  goes := h.goes.stays hstays
  registers hreg := h.registers (hstays.registers hreg)
  rests hnot := hstays.destination.trans (h.rests hnot)

/-- One more edit that finds no calls to come. -/
theorem edited (h : Follows d₀ m₀ edits d n m) (hd : d.Registry) (hidle : d.agenda = [])
    (hm : d.mark? n = some m) (e : Edit) (after : Text) :
    Follows d₀ m₀ (edits ++ [e]) (d.edited e after) n m where
  id := h.id
  goes := h.goes.edited hd hidle hm e after
  registers hreg := h.registers ((registers_edited hm e after).1 hreg)
  rests hnot := by
    rw [hd.destination_edited hidle hm, if_neg (mt h.registers hnot)]
    exact h.rests hnot

end Follows

namespace PendingFollows

theorem refl : PendingFollows deeds₀ d₀ deeds₀ d₀ where
  made := Nat.le_refl _
  follows := by
    refine ⟨[], (List.append_nil _).symm, fun n m₀ m hm₀ hm => ?_⟩
    obtain rfl : m₀ = m := Option.some.inj (hm₀.symm.trans hm)
    exact .refl d₀ n m₀

theorem pop {t : Task} {rest : List Task} (h : PendingFollows deeds₀ d₀ deeds d)
    (hagenda : d.agenda = t :: rest) (ht : t.isTell = false) :
    PendingFollows deeds₀ d₀ deeds { d with agenda := rest } := by
  refine ⟨h.made, ?_⟩
  obtain ⟨since, hdeeds, hfollows⟩ := h.follows
  exact ⟨since, hdeeds, fun n m₀ m hm₀ hm => (hfollows n m₀ m hm₀ hm).stays (stays_pop hagenda ht)⟩

theorem told (h : PendingFollows deeds₀ d₀ deeds d) (hd : d.Registry) {round : Nat}
    {whom : Registration} {e : Edit} {asked rest : List Task}
    (hagenda : d.agenda = .tell round whom e :: rest) (hasked : ∀ t ∈ asked, t.isTell = false) :
    PendingFollows deeds₀ d₀ deeds (d.told round whom e (asked ++ rest)) := by
  refine ⟨?_, ?_⟩
  · rw [Document.told, length_marksTold]
    exact h.made
  obtain ⟨since, hdeeds, hfollows⟩ := h.follows
  refine ⟨since, hdeeds, fun n m₀ m' hm₀ hm' => ?_⟩
  obtain ⟨m, hm, hstays⟩ := hd.stays_told hagenda hasked hm'
  exact (hfollows n m₀ m hm₀ hm).stays hstays

/-- An edit comes to the edits since. -/
theorem edited (h : PendingFollows deeds₀ d₀ deeds d) (hd : d.Registry) (hidle : d.agenda = [])
    (e : Edit) (after : Text) :
    PendingFollows deeds₀ d₀ (deeds ++ [.edited e]) (d.edited e after) := by
  refine ⟨h.made, ?_⟩
  obtain ⟨since, rfl, hfollows⟩ := h.follows
  refine ⟨since ++ [.edited e], List.append_assoc .., fun n m₀ m hm₀ hm => ?_⟩
  have hm : d.mark? n = some m := hm
  rw [editsOf_concat_edited]
  exact (hfollows n m₀ m hm₀ hm).edited hd hidle hm e after

/-- No other action gives a mark another destination. -/
theorem effect (h : PendingFollows deeds₀ d₀ deeds d) (hd : d.Registry)
    (heffect : Effect d a deed d') (hedit : ∀ e, deed ≠ some (.edited e)) :
    PendingFollows deeds₀ d₀ (deeds ++ deed.toList) d' := by
  obtain ⟨since, rfl, hfollows⟩ := h.follows
  refine ⟨Nat.le_trans h.made heffect.marks_length_le, since ++ deed.toList,
    List.append_assoc .., fun n m₀ m' hm₀ hm' => ?_⟩
  -- A mark that is made comes after the others, and these stand where they stood.
  have hn : n < d.marks.length := Nat.lt_of_lt_of_le
    (List.getElem?_eq_some_iff.1 (mark?_eq_some_iff.1 hm₀).1).1 h.made
  obtain ⟨m, hm, hid, hoffset⟩ := heffect.exists_mark? hn hm'
  rw [editsOf_append_toList hedit]
  exact (hfollows n m₀ m hm₀ hm).stays
    (heffect.stays hd hedit (mark?_eq_some_iff.1 hm).1 hid hoffset)

end PendingFollows
end Document

namespace Run

/-- Nobody makes an edit. -/
def Calm : Caller → List Deed → Document → Action → Prop := fun _ _ _ a => a.isEdit = false

theorem quietListeners_calm : QuietListeners Calm := id

end Run

namespace Onward

variable {allows : Caller → List Deed → Document → Action → Prop} {deeds₀ deeds : List Deed}
  {d₀ d : Document}

/-- **Marks go with the edits** from any state on, when listeners make no edits from then on. -/
theorem pendingFollows (hsound : Sound deeds₀ d₀) (hquiet : Run.QuietListeners allows)
    (h : Onward allows deeds₀ d₀ deeds d) : PendingFollows deeds₀ d₀ deeds d := by
  refine (h.invariant hsound .refl (fun _ hd => hd.pop)
    (fun hsound hd => hd.told hsound.registry) ?_).2
  intro deeds d caller a hsound hd hcaller ha
  have heffect := begin_effect d a
  generalize d.deed? a = deed, (d.begin a).2 = d' at heffect
  rcases edited_or_ne deed with ⟨e, rfl⟩ | hedit
  · cases heffect with
    | edited hisEdit he =>
      exact hd.edited hsound.registry (hquiet.idle_of_isEdit hcaller ha hisEdit) e _
  · exact hd.effect hsound.registry heffect hedit

/-- Without edits the text stays. -/
theorem text_of_calm (hsound : Sound deeds₀ d₀) (h : Onward Run.Calm deeds₀ d₀ deeds d) :
    d.buffer.text = d₀.buffer.text ∧ editsOf deeds = editsOf deeds₀ := by
  refine (h.invariant hsound (motive := fun deeds d => d.buffer.text = d₀.buffer.text ∧
    editsOf deeds = editsOf deeds₀) ⟨rfl, rfl⟩ (fun _ hd _ _ => hd) (fun _ hd _ _ => hd) ?_).2
  intro deeds d caller a _ hd _ ha
  have heffect := begin_effect d a
  generalize d.deed? a = deed, (d.begin a).2 = d' at heffect
  rcases edited_or_ne deed with ⟨e, rfl⟩ | hedit
  · cases heffect with
    | edited hisEdit he =>
      rw [show a.isEdit = false from ha] at hisEdit
      cases hisEdit
  · rw [(heffect.frame hedit).1, editsOf_append_toList hedit]
    exact hd

/-- Without edits every mark goes to where the calls to come take it. -/
theorem destination_of_calm (hsound : Sound deeds₀ d₀)
    (h : Onward Run.Calm deeds₀ d₀ deeds d) {n : Nat} {m₀ m : Mark}
    (hm₀ : d₀.mark? n = some m₀) (hm : d.mark? n = some m) :
    m.id = m₀.id ∧ d.destination m = d₀.destination m₀ := by
  obtain ⟨since, rfl, hfollows⟩ := (h.pendingFollows hsound Run.quietListeners_calm).follows
  have hfollow := hfollows n m₀ m hm₀ hm
  have hnone : editsOf since = [] := by
    have hedits := (h.text_of_calm hsound).2
    rw [editsOf_append] at hedits
    exact List.append_right_eq_self.1 hedits
  obtain ⟨met, missed, hsplit, hdestination, -⟩ := hfollow.goes
  rw [hnone] at hsplit
  obtain ⟨rfl, -⟩ := List.append_eq_nil_iff.1 hsplit.symm
  exact ⟨hfollow.id, hdestination⟩

end Onward

namespace Run

variable {allows : Caller → List Deed → Document → Action → Prop} {text : Text}
  {deeds deeds' : List Deed} {d d' : Document}

/-- A round in which nobody makes another edit takes a registered mark where the edit of the round
    takes it, and leaves the text that the edit made. -/
theorem offset_of_calm (h : Run allows text deeds d) (hidle : d.agenda = []) {start stop : Nat}
    {new : Text} {outcome : Outcome} (hok : (d.begin (.replace start stop new)).1 = .ok outcome)
    (hround : Onward Calm (deeds ++ (d.deed? (.replace start stop new)).toList)
      (d.begin (.replace start stop new)).2 deeds' d') (hidle' : d'.agenda = []) :
    let e : Edit := ⟨start, stop - start, new.size⟩
    e.Replaces d.buffer.text d'.buffer.text ∧ start ≤ stop ∧
      ∀ n m m', d.mark? n = some m → d'.mark? n = some m' →
        m'.id = m.id ∧ m'.offset = if d.Registers n m then e.remap m.offset else m.offset := by
  intro e
  obtain ⟨hdeed, front, old, back, htext, rfl, rfl, hedited⟩ := begin_replace hok
  have hsound := h.sound.effect (begin_effect d (.replace front.size (front.size + old.size) new))
  obtain ⟨htext', -⟩ := hround.text_of_calm hsound
  refine ⟨⟨front, old, new, back, htext, ?_, ?_⟩, Nat.le_add_right _ _, fun n m m' hm hm' => ?_⟩
  · rw [htext', hedited]
    rfl
  · exact congrArg (Edit.mk front.size · new.size) (Nat.add_sub_cancel_left ..)
  · have hbegun : (d.begin (.replace front.size (front.size + old.size) new)).2.mark? n = some m := by
      rw [hedited]
      exact hm
    obtain ⟨hid, hdestination⟩ := hround.destination_of_calm hsound hbegun hm'
    rw [destination_of_idle hidle', hedited,
      h.registry.destination_edited hidle hm, destination_of_idle hidle] at hdestination
    exact ⟨hid, hdestination⟩

/-- **Marks keep to their text and never cross, while they are registered.** In a state of a run
    in which nothing is left to do, whatever was done before:

    * when a replacement of the bytes from `start` to `stop` succeeds, and nobody makes another
      edit until nothing is left to do again, then a registered mark up to `start` stays, with the
      bytes before it; a registered mark past `stop` has the same bytes after it as before; any
      other registered mark goes to `start`; and a mark that is not registered stays;
    * as long as listeners make no edits, whatever edits the owner makes, a mark goes with them up
      to the end of its registration, and of two marks that stay registered the one that was not
      after the other is not after it later. -/
theorem marks_keep_to_text (h : Run allows text deeds d) (hidle : d.agenda = []) :
    (∀ start stop new outcome, (d.begin (.replace start stop new)).1 = .ok outcome →
      ∀ deeds' d', Onward Calm (deeds ++ (d.deed? (.replace start stop new)).toList)
          (d.begin (.replace start stop new)).2 deeds' d' → d'.agenda = [] →
        ∀ n m m', d.mark? n = some m → d'.mark? n = some m' →
          (d.Registers n m →
            (m.offset ≤ start → m'.offset = m.offset ∧
              d'.buffer.text.bytes.take m'.offset = d.buffer.text.bytes.take m.offset) ∧
            (stop < m.offset →
              d'.buffer.text.bytes.drop m'.offset = d.buffer.text.bytes.drop m.offset) ∧
            (start < m.offset → m.offset ≤ stop → m'.offset = start)) ∧
          (¬ d.Registers n m → m'.offset = m.offset)) ∧
      ∀ deeds' d', Onward Quietly deeds d deeds' d' → d'.agenda = [] →
        (∃ since, deeds' = deeds ++ since ∧
          ∀ n m m', d.mark? n = some m → d'.mark? n = some m' →
            d'.GoesWith n m' (editsOf since) m.offset ∧
            (d'.Registers n m' → m'.offset = Edit.remapAll (editsOf since) m.offset) ∧
            (¬ d.Registers n m → m'.offset = m.offset)) ∧
        ∀ n k m m' q q', d.mark? n = some m → d'.mark? n = some m' →
          d.mark? k = some q → d'.mark? k = some q' →
            d'.Registers n m' → d'.Registers k q' →
              m.offset ≤ q.offset → m'.offset ≤ q'.offset := by
  constructor
  · intro start stop new outcome hok deeds' d' hround hidle' n m m' hm hm'
    obtain ⟨hreplaces, hle, hmarks⟩ := h.offset_of_calm hidle hok hround hidle'
    have hstop : start + (stop - start) = stop := Nat.add_sub_of_le hle
    obtain ⟨-, hoffset⟩ := hmarks n m m' hm hm'
    refine ⟨fun hreg => ?_, fun hnot => ?_⟩
    · rw [hoffset, if_pos hreg]
      refine ⟨fun hbefore => ?_, fun hpast => ?_, fun hafter hinside => ?_⟩
      · rw [Edit.remap_of_le hbefore]
        exact ⟨rfl, hreplaces.take_bytes hbefore⟩
      · exact hreplaces.drop_bytes (hstop.symm ▸ hpast)
      · exact Edit.remap_inside hafter (hstop.symm ▸ hinside)
    · rw [hoffset, if_neg hnot]
  · intro deeds' d' honward hidle'
    obtain ⟨since, hdeeds, hfollows⟩ :=
      (honward.pendingFollows h.sound quietListeners_quietly).follows
    have hgoes : ∀ n m m', d.mark? n = some m → d'.mark? n = some m' →
        d'.GoesWith n m' (editsOf since) m.offset := fun n m m' hm hm' => by
      have hfollow := (hfollows n m m' hm hm').goes
      rwa [destination_of_idle hidle] at hfollow
    have hmet : ∀ n m m', d.mark? n = some m → d'.mark? n = some m' → d'.Registers n m' →
        m'.offset = Edit.remapAll (editsOf since) m.offset := fun n m m' hm hm' hreg => by
      rw [← (hgoes n m m' hm hm').destination_eq hreg, destination_of_idle hidle']
    refine ⟨⟨since, hdeeds, fun n m m' hm hm' => ?_⟩, ?_⟩
    · refine ⟨hgoes n m m' hm hm', hmet n m m' hm hm', fun hnot => ?_⟩
      have hrests := (hfollows n m m' hm hm').rests hnot
      rwa [destination_of_idle hidle, destination_of_idle hidle'] at hrests
    · intro n k m m' q q' hm hm' hq hq' hreg hreg' hle
      rw [hmet n m m' hm hm' hreg, hmet k q q' hq hq' hreg']
      exact Edit.remapAll_mono _ hle

/-- Eight letters with four marks, and a recorder that sets the cursor when it is told of an
edit. -/
def fourMarks : Document where
  buffer := ⟨"abcdefgh".toList, 0⟩
  registrations := [⟨⟨0⟩, .recorder 0⟩, ⟨⟨1⟩, .mark 0⟩, ⟨⟨2⟩, .mark 1⟩, ⟨⟨3⟩, .mark 2⟩,
    ⟨⟨4⟩, .mark 3⟩]
  issued := 5
  marks := [⟨1, ⟨1⟩, true⟩, ⟨3, ⟨2⟩, true⟩, ⟨5, ⟨3⟩, true⟩, ⟨6, ⟨4⟩, true⟩]
  recorders := [⟨[], [[.setCursor 0]], true⟩]
  agenda := []
  history := []

/-- Four of the letters are replaced by one of two bytes: the marks at both ends of them and
    inside go to the first end, and the last mark stays with the letters after it. -/
theorem marks_keep_to_text_fourMarks :
    ∃ deeds deeds' d', Run Unlimited "abcdefgh".toList deeds fourMarks ∧ fourMarks.agenda = [] ∧
      (fourMarks.begin (.replace 1 5 "é".toList)).1 = .ok .done ∧
      Onward Calm (deeds ++ (fourMarks.deed? (.replace 1 5 "é".toList)).toList)
        (fourMarks.begin (.replace 1 5 "é".toList)).2 deeds' d' ∧ d'.agenda = [] ∧
      fourMarks.mark? 3 = some ⟨6, ⟨4⟩, true⟩ ∧ d'.mark? 3 = some ⟨4, ⟨4⟩, true⟩ ∧
      fourMarks.Registers 3 ⟨6, ⟨4⟩, true⟩ ∧
      d'.marks.map (·.offset) = [1, 1, 1, 4] ∧ d'.buffer.text = "aéfgh".toList ∧
      d'.buffer.text.bytes.drop 4 = fourMarks.buffer.text.bytes.drop 6 := by
  have hstart : Run Unlimited "abcdefgh".toList _ _ := .start
  have hrecorder := hstart.owner (a := .subscribe [[.setCursor 0]]) rfl trivial
  have hfirst := hrecorder.owner (a := .createMark 1) rfl trivial
  have hsecond := hfirst.owner (a := .createMark 3) rfl trivial
  have hthird := hsecond.owner (a := .createMark 5) rfl trivial
  obtain ⟨deeds, hrun⟩ : ∃ deeds, Run Unlimited "abcdefgh".toList deeds fourMarks :=
    ⟨_, hthird.owner (a := .createMark 6) rfl trivial⟩
  have hok : (fourMarks.begin (.replace 1 5 "é".toList)).1 = .ok .done := rfl
  have hreg : fourMarks.Registers 3 ⟨6, ⟨4⟩, true⟩ := by decide
  -- The recorder is told and sets the cursor, and then the marks are told.
  have hround : Onward Calm (deeds ++ (fourMarks.deed? (.replace 1 5 "é".toList)).toList)
      (fourMarks.begin (.replace 1 5 "é".toList)).2 _ _ :=
    ((((((Onward.refl.turn (.tell rfl)).turn (.act (.react rfl rfl))).turn (.finish rfl)).turn
      (.tell rfl)).turn (.tell rfl)).turn (.tell rfl)).turn (.tell rfl)
  obtain ⟨hmarks, -⟩ := marks_keep_to_text hrun rfl
  obtain ⟨htold, -⟩ := hmarks 1 5 _ _ hok _ _ hround rfl 3 ⟨6, ⟨4⟩, true⟩ ⟨4, ⟨4⟩, true⟩ rfl rfl
  obtain ⟨-, hdrop, -⟩ := htold hreg
  exact ⟨deeds, _, _, hrun, rfl, hok, hround, rfl, rfl, rfl, hreg, rfl, rfl, hdrop (by decide)⟩

/-- Two marks of three letters, the first of which is not registered any more. -/
def leftBehind : Document where
  buffer := ⟨"abc".toList, 0⟩
  registrations := [⟨⟨1⟩, .mark 1⟩]
  issued := 2
  marks := [⟨3, ⟨0⟩, true⟩, ⟨2, ⟨1⟩, true⟩]
  recorders := []
  agenda := []
  history := []

/-- One mark before a listener that makes an edit, and one after it, after both edits. -/
def parted : Document :=
  performAll (.ofText "abcdef".toList)
    [.createMark 3, .subscribe [[.insert 1 "zz".toList]], .createMark 3, .remove 0 2]

/-- The number of the registration of a mark is ended. Two letters are inserted at the front: the
    mark stays at 3, other bytes are after it, and the mark that was before it is after it. And
    when a listener makes an edit, two marks at one place come to stand at two. -/
theorem marks_pass_unregistered :
    (∃ deeds deeds' d', Run Unlimited "abc".toList deeds leftBehind ∧ leftBehind.agenda = [] ∧
      (leftBehind.begin (.insert 0 "zz".toList)).1 = .ok .done ∧
      Onward Calm (deeds ++ (leftBehind.deed? (.insert 0 "zz".toList)).toList)
        (leftBehind.begin (.insert 0 "zz".toList)).2 deeds' d' ∧ d'.agenda = [] ∧
      leftBehind.marks.map (·.offset) = [3, 2] ∧ d'.marks.map (·.offset) = [3, 4] ∧
      d'.buffer.text.bytes.drop 3 ≠ leftBehind.buffer.text.bytes.drop 3) ∧
    ∃ deeds, Run Unlimited "abcdef".toList deeds parted ∧ parted.agenda = [] ∧
      parted.marks = [⟨1, ⟨0⟩, true⟩, ⟨3, ⟨2⟩, true⟩] := by
  constructor
  · have hstart : Run Unlimited "abc".toList _ _ := .start
    have hfirst := hstart.owner (a := .createMark 3) rfl trivial
    have hsecond := hfirst.owner (a := .createMark 2) rfl trivial
    obtain ⟨deeds, hrun⟩ : ∃ deeds, Run Unlimited "abc".toList deeds leftBehind :=
      ⟨_, hsecond.owner (a := .unsubscribe ⟨0⟩) rfl trivial⟩
    have hround : Onward Calm (deeds ++ (leftBehind.deed? (.insert 0 "zz".toList)).toList)
        (leftBehind.begin (.insert 0 "zz".toList)).2 _ _ := Onward.refl.turn (.tell rfl)
    exact ⟨deeds, _, _, hrun, rfl, rfl, hround, rfl, rfl, rfl, by decide⟩
  · have hstart : Run Unlimited "abcdef".toList _ _ := .start
    obtain ⟨more, hrun, hidle⟩ := exists_performAll hstart rfl _
    exact ⟨_, hrun, hidle, by cbv⟩

end Run
end TreeQuery
