/-
  TreeQuery.Proofs.Document.Composition

  Edits that are made of others. A replacement is a removal and then an insertion, and
  a removal of what was just inserted is no edit at all: both are laws of `Edit.remap`,
  and both hold of documents with marks, a cursor and listeners.

  Between two edits listeners are called, and may act. `Document.Quiet` says that they
  make no edits and do only what a set of actions allows, whatever the set. A mark that
  the set lets nobody drop or unregister went with the edit if it was registered, and stayed
  if it was not; a cursor that it lets nobody set went with the edit (`Document.Quiet.carried`).
  The laws of documents follow from one round after the other:

  * `Document.replace_eq_remove_insert`: one round against two.
  * `Document.insert_remove_restores`: two rounds against none.

  Without the limits on the set they fail (`Document.replace_ne_remove_insert`,
  `Document.insert_remove_alters`): a listener can set the cursor in one round and not in
  another, and can unregister a mark between two rounds.
-/

import TreeQuery.Proofs.Document.Following
import TreeQuery.Proofs.Document.Words

namespace TreeQuery

open Document

/-! ## Edits -/

namespace Edit

/-- A replacement takes every offset where the removal and then the insertion take it. -/
theorem remap_replace (start removed added p : Nat) :
    remap ⟨start, removed, added⟩ p = remap ⟨start, 0, added⟩ (remap ⟨start, removed, 0⟩ p) := by
  rcases Nat.lt_or_ge start p with hpast | hle
  · rcases Nat.lt_or_ge (start + removed) p with hbehind | hinside
    · -- What is behind the removed bytes is behind the start when they are gone.
      have hrest : start < p - removed + 0 := by omega
      rw [remap_past (e := ⟨start, removed, added⟩) hbehind,
        remap_past (e := ⟨start, removed, 0⟩) hbehind, remap_past (e := ⟨start, 0, added⟩) hrest]
      rfl
    · rw [remap_inside (e := ⟨start, removed, added⟩) hpast hinside,
        remap_inside (e := ⟨start, removed, 0⟩) hpast hinside,
        remap_of_le (e := ⟨start, 0, added⟩) (Nat.le_refl start)]
  · rw [remap_of_le (e := ⟨start, removed, added⟩) hle,
      remap_of_le (e := ⟨start, removed, 0⟩) hle, remap_of_le (e := ⟨start, 0, added⟩) hle]

/-- An insertion takes no offset between the bytes that it adds, and none to their end that was not
behind their place. So to remove them brings every offset back. -/
theorem remap_undo (start added p : Nat) :
    remap ⟨start, added, 0⟩ (remap ⟨start, 0, added⟩ p) = p := by
  rcases Nat.lt_or_ge start p with hpast | hle
  · have hbehind : start + added < p + added := Nat.add_lt_add_right hpast added
    rw [remap_past (e := ⟨start, 0, added⟩) hpast, Nat.sub_zero,
      remap_past (e := ⟨start, added, 0⟩) hbehind]
    exact Nat.add_sub_cancel p added
  · rw [remap_of_le (e := ⟨start, 0, added⟩) hle, remap_of_le (e := ⟨start, added, 0⟩) hle]

end Edit

/-- In words the removal and then the insertion have an answer where the replacement has one. -/
theorem WordEdit.remap?_replace (e : WordEdit) (p : UInt64) :
    e.remap? p = (remap? ⟨e.start, e.removed, 0⟩ p).bind (remap? ⟨e.start, 0, e.added⟩) := by
  have hlaw := Edit.remap_replace e.start.toNat e.removed.toNat e.added.toNat p.toNat
  refine Option.ext fun q => ?_
  rw [Option.bind_eq_some_iff]
  constructor
  · intro hq
    -- A removal has answers for all offsets.
    have hshorter : (0 : UInt64) ≤ e.removed := UInt64.le_iff_toNat_le.mpr (Nat.zero_le _)
    obtain ⟨r, hr⟩ := evaluates_iff (e := ⟨e.start, e.removed, 0⟩).mpr (.inl hshorter) p
    refine ⟨r, hr, ?_⟩
    rw [remap?_eq_some_iff_toNat] at hq hr ⊢
    rw [hq, hr]
    exact hlaw
  · rintro ⟨r, hr, hq⟩
    rw [remap?_eq_some_iff_toNat] at hq hr ⊢
    rw [hq, hr]
    exact hlaw.symm

/-! ## Rounds without further edits -/

namespace Run

/-- Listeners act, as far as `does` allows, and make no edits. -/
def Serving (does : Action → Prop) : Caller → List Deed → Document → Action → Prop :=
  fun caller _ _ a => caller = .listener ∧ does a ∧ a.isEdit = false

end Run

namespace Document

variable {does : Action → Prop} {deeds deeds₀ deeds' : List Deed} {d d₀ d' : Document} {a : Action}
  {deed : Option Deed} {n : Nat} {m : Mark}

/-- After the action and until nothing is left to do, listeners only do what `does` allows, and
no edits. All that is done by then is `deeds'`. -/
def Quiet (does : Action → Prop) (deeds : List Deed) (d : Document) (a : Action)
    (deeds' : List Deed) : Prop :=
  Onward (Run.Serving does) (deeds ++ (d.deed? a).toList) (d.begin a).2 deeds' (d.perform a).2

/-- Nothing is left to do in the end. -/
theorem agenda_settle (d : Document) : d.settle.agenda = [] :=
  (Onward.exists_settle [] d).choose_spec.2

/-- None of these actions moves the cursor. Where one does, it matters how often listeners are
called, and so whether an edit is made at once or in parts. -/
def LeavesCursor (does : Action → Prop) : Prop :=
  (∀ offset, ¬ does (.setCursor offset)) ∧ ∀ mark, ¬ does (.restore mark)

/-- The other actions leave the cursor where it is. -/
theorem cursor_begin (d : Document) (hedit : a.isEdit = false) (hset : ∀ o, a ≠ .setCursor o)
    (hrestore : ∀ k, a ≠ .restore k) : (d.begin a).2.buffer.cursor = d.buffer.cursor := by
  cases a with
  | replace => cases hedit
  | setCursor o => exact absurd rfl (hset o)
  | restore k => exact absurd rfl (hrestore k)
  | createMark o =>
    simp only [begin, createMark]
    cases d.buffer.checkOffset o <;> rfl
  | dropMark k =>
    simp only [begin]
    cases d.mark? k <;> rfl
  | resubscribe k | dropRecorder k =>
    simp only [begin]
    cases d.recorder? k <;> rfl
  | subscribe | unsubscribe => rfl

/-- A mark is dropped by its own action only. -/
theorem Effect.mark?_eq (h : Effect d a deed d') (hne : a ≠ .dropMark n) (hm : d.mark? n = some m) :
    d'.mark? n = some m := by
  obtain ⟨hget, hheld⟩ := mark?_eq_some_iff.1 hm
  cases h with
  | same | edited | cursorSet | subscribe | resubscribe | unsubscribe | dropRecorder => exact hm
  | marked =>
    -- A new mark comes after those that there are.
    refine mark?_eq_some_iff.2 ⟨?_, hheld⟩
    rw [← hget]
    exact List.getElem?_append_left (List.getElem?_eq_some_iff.1 hget).1
  | @dropMark k =>
    have hk : k ≠ n := fun hk => hne (congrArg Action.dropMark hk)
    refine mark?_eq_some_iff.2 ⟨?_, hheld⟩
    rw [← hget]
    exact List.getElem?_set_ne hk

/-- A mark that is told of an edit is still there. -/
theorem exists_mark?_told {round : Nat} {whom : Registration} {e : Edit} {agenda : List Task}
    (hm : d.mark? n = some m) : ∃ m', (d.told round whom e agenda).mark? n = some m' := by
  obtain ⟨hget, hheld⟩ := mark?_eq_some_iff.1 hm
  obtain ⟨id, listener⟩ := whom
  cases listener with
  | recorder k => exact ⟨m, hm⟩
  | mark k =>
    by_cases hk : k = n
    · refine ⟨{ m with offset := e.remap m.offset }, mark?_eq_some_iff.2 ⟨?_, hheld⟩⟩
      simp only [told, marksTold, List.getElem?_modify, hk, hget, if_true, Option.map_eq_map,
        Option.map_some]
    · refine ⟨m, mark?_eq_some_iff.2 ⟨?_, hheld⟩⟩
      simp only [told, marksTold, List.getElem?_modify, hk, hget, if_false, Option.map_eq_map,
        Option.map_some]

end Document

namespace Onward

variable {does : Action → Prop} {deeds₀ deeds : List Deed} {d₀ d : Document} {n : Nat} {m₀ m : Mark}

/-- A mark that no listener may drop stays. -/
theorem exists_mark? (hsound : Sound deeds₀ d₀) (h : Onward (Run.Serving does) deeds₀ d₀ deeds d)
    (hkeep : ¬ does (.dropMark n)) (hm₀ : d₀.mark? n = some m₀) : ∃ m, d.mark? n = some m := by
  refine (h.invariant hsound (motive := fun _ d => ∃ m, d.mark? n = some m) ⟨m₀, hm₀⟩
    (fun _ hd _ _ => hd) (fun _ hd _ _ => exists_mark?_told hd.choose_spec) ?_).2
  rintro deeds d caller a - ⟨m, hm⟩ - ⟨-, hdoes, -⟩
  refine ⟨m, (begin_effect d a).mark?_eq ?_ hm⟩
  rintro rfl
  exact hkeep hdoes

/-- A mark that no listener may unregister stays registered as long as its owner has it. -/
theorem registers (hsound : Sound deeds₀ d₀) (h : Onward (Run.Serving does) deeds₀ d₀ deeds d)
    (hkeep : ¬ does (.unsubscribe m₀.id)) (hm₀ : d₀.mark? n = some m₀) (hreg : d₀.Registers n m₀)
    (hm : d.mark? n = some m) : d.Registers n m := by
  have hkept := (h.invariant hsound (motive := fun _ d => d₀.marks.length ≤ d.marks.length ∧
    ∀ m, d.mark? n = some m → m.id = m₀.id ∧ d.Registers n m) ?_ (fun _ hd _ _ => hd) ?_ ?_).2
  · exact (hkept.2 m hm).2
  · refine ⟨Nat.le_refl _, fun m hm => ?_⟩
    obtain rfl : m₀ = m := Option.some.inj (hm₀.symm.trans hm)
    exact ⟨rfl, hreg⟩
  · rintro deeds d round whom e rest asked hsound ⟨hlength, hd⟩ hagenda hasked
    refine ⟨?_, fun m' hm' => ?_⟩
    · rw [told, length_marksTold]
      exact hlength
    · obtain ⟨m, hm, hstays⟩ := hsound.registry.stays_told hagenda hasked hm'
      obtain ⟨hid, hreg⟩ := hd m hm
      refine ⟨hstays.id.trans hid, ?_⟩
      rw [Registers, hstays.id]
      exact hreg
  · rintro deeds d caller a hsound ⟨hlength, hd⟩ - ⟨-, hdoes, -⟩
    have heffect := begin_effect d a
    refine ⟨Nat.le_trans hlength heffect.marks_length_le, fun m' hm' => ?_⟩
    have hn : n < d.marks.length := Nat.lt_of_lt_of_le
      (List.getElem?_eq_some_iff.1 (mark?_eq_some_iff.1 hm₀).1).1 hlength
    obtain ⟨m, hm, hid', -⟩ := heffect.exists_mark? hn hm'
    obtain ⟨hid, hreg⟩ := hd m hm
    refine ⟨hid'.trans hid, heffect.registers hsound.registry hm hm' hid' ?_ hreg⟩
    rintro rfl
    exact hkeep (hid ▸ hdoes)

/-- A cursor that no listener may move stays. -/
theorem cursor_eq (hsound : Sound deeds₀ d₀) (h : Onward (Run.Serving does) deeds₀ d₀ deeds d)
    (hleaves : LeavesCursor does) : d.buffer.cursor = d₀.buffer.cursor := by
  refine (h.invariant hsound (motive := fun _ d => d.buffer.cursor = d₀.buffer.cursor) rfl
    (fun _ hd _ _ => hd) (fun _ hd _ _ => hd) ?_).2
  rintro deeds d caller a - hd - ⟨-, hdoes, hcalm⟩
  rw [cursor_begin d hcalm, hd]
  · rintro o rfl
    exact hleaves.1 o hdoes
  · rintro k rfl
    exact hleaves.2 k hdoes

end Onward

namespace Document

variable {does : Action → Prop} {text front old new back : Text} {deeds deeds' : List Deed}
  {d d' : Document}

/-- No listener may drop the mark or end a registration under its number. -/
def LeavesMark (does : Action → Prop) (n : Nat) (m : Mark) : Prop :=
  ¬ does (.dropMark n) ∧ ¬ does (.unsubscribe m.id)

/-- The document `d'` comes from `d`, its text is `after` and nothing is left to do; offsets have
gone along `move`: those of registered marks, if nobody could drop or unregister them, and the
cursor, if nobody could move it. -/
structure Carried (does : Action → Prop) (d : Document) (move : Nat → Nat) (after : Text)
    (d' : Document) : Prop where
  idle : d'.agenda = []
  text : d'.buffer.text = after
  marks : ∀ n m, d.mark? n = some m → LeavesMark does n m →
    ∃ m', d'.mark? n = some m' ∧ m'.id = m.id ∧ (d'.Registers n m' ↔ d.Registers n m) ∧
      m'.offset = if d.Registers n m then move m.offset else m.offset
  cursor : LeavesCursor does → d'.buffer.cursor = move d.buffer.cursor

/-- Of two documents that come from `d` the texts are the same, and so are the offsets of marks that
nobody could drop or unregister, and the cursors if nobody could move them. -/
structure Coincide (does : Action → Prop) (d d₁ d₂ : Document) : Prop where
  text : d₁.buffer.text = d₂.buffer.text
  marks : ∀ n m, d.mark? n = some m → LeavesMark does n m →
    ∃ m₁ m₂, d₁.mark? n = some m₁ ∧ d₂.mark? n = some m₂ ∧ m₁.offset = m₂.offset
  cursor : LeavesCursor does → d₁.buffer.cursor = d₂.buffer.cursor

namespace Carried

variable {f g : Nat → Nat} {after₁ after : Text} {d₁ d₂ : Document}

theorem refl (hidle : d.agenda = []) : Carried does d id d.buffer.text d :=
  ⟨hidle, rfl, fun _ m hm _ => ⟨m, hm, rfl, Iff.rfl, (ite_self _).symm⟩, fun _ => rfl⟩

theorem trans (h₁ : Carried does d f after₁ d₁) (h₂ : Carried does d₁ g after d₂) :
    Carried does d (g ∘ f) after d₂ where
  idle := h₂.idle
  text := h₂.text
  marks n m hm hleaves := by
    obtain ⟨m₁, hm₁, hid₁, hreg₁, hoffset₁⟩ := h₁.marks n m hm hleaves
    have hleaves₁ : LeavesMark does n m₁ := ⟨hleaves.1, hid₁ ▸ hleaves.2⟩
    obtain ⟨m₂, hm₂, hid₂, hreg₂, hoffset₂⟩ := h₂.marks n m₁ hm₁ hleaves₁
    refine ⟨m₂, hm₂, hid₂.trans hid₁, hreg₂.trans hreg₁, ?_⟩
    -- The mark is registered for both ways or for none.
    by_cases hreg : d.Registers n m
    · rw [hoffset₂, if_pos (hreg₁.2 hreg), hoffset₁, if_pos hreg, if_pos hreg, Function.comp_apply]
    · rw [hoffset₂, if_neg (mt hreg₁.1 hreg), hoffset₁, if_neg hreg, if_neg hreg]
  cursor hleaves := by rw [h₂.cursor hleaves, h₁.cursor hleaves, Function.comp_apply]

/-- Two ways to one text that move offsets alike come to the same. -/
theorem coincide (h₁ : Carried does d f after d₁) (h₂ : Carried does d g after d₂)
    (hmove : ∀ p, f p = g p) : Coincide does d d₁ d₂ where
  text := h₁.text.trans h₂.text.symm
  marks n m hm hleaves := by
    obtain ⟨m₁, hm₁, -, -, hoffset₁⟩ := h₁.marks n m hm hleaves
    obtain ⟨m₂, hm₂, -, -, hoffset₂⟩ := h₂.marks n m hm hleaves
    exact ⟨m₁, m₂, hm₁, hm₂, by rw [hoffset₁, hoffset₂, hmove]⟩
  cursor hleaves := by rw [h₁.cursor hleaves, h₂.cursor hleaves, hmove]

end Carried

/-- A middle part of the text can be replaced. -/
theorem begin_of_text_eq (htext : d.buffer.text = front ++ old ++ back) (new : Text) :
    d.begin (.replace front.size (front.size + old.size) new) =
      (.ok .done, d.edited ⟨front.size, old.size, new.size⟩ (front ++ new ++ back)) := by
  have hreplace := Buffer.replace_of_text_eq htext new
  simp only [begin, replace, hreplace]
  rfl

/-- What a replacement does to a document when listeners make no edits. -/
theorem Quiet.carried (h : Run Unlimited text deeds d) (hidle : d.agenda = [])
    (htext : d.buffer.text = front ++ old ++ back)
    (hquiet : d.Quiet does deeds (.replace front.size (front.size + old.size) new) deeds') :
    let d' := (d.perform (.replace front.size (front.size + old.size) new)).2
    Run Unlimited text deeds' d' ∧
      Carried does d (Edit.remap ⟨front.size, old.size, new.size⟩) (front ++ new ++ back) d' := by
  intro d'
  have hbegin := begin_of_text_eq htext new
  have hidle' : d'.agenda = [] := agenda_settle _
  have hsound := h.sound.effect (begin_effect d (.replace front.size (front.size + old.size) new))
  -- What is quiet is calm, so that the facts about rounds without edits apply.
  have hcalm : Onward Run.Calm _ _ deeds' d' := hquiet.mono fun ha => ha.2.2
  obtain ⟨-, -, hmarks⟩ :=
    h.offset_of_calm hidle (congrArg Prod.fst hbegin) hcalm hidle'
  rw [Nat.add_sub_cancel_left] at hmarks
  refine ⟨(h.owner hidle trivial).onward (hquiet.mono fun _ => trivial), hidle', ?_, ?_, ?_⟩
  · rw [(hcalm.text_of_calm hsound).1, hbegin]
    rfl
  · intro n m hm hleaves
    have hm₀ : (d.begin (.replace front.size (front.size + old.size) new)).2.mark? n = some m := by
      rw [hbegin]
      exact hm
    have hreg₀ : (d.begin (.replace front.size (front.size + old.size) new)).2.Registers n m ↔
        d.Registers n m := by
      rw [hbegin]
      exact registers_edited hm _ _
    obtain ⟨m', hm'⟩ := hquiet.exists_mark? hsound hleaves.1 hm₀
    obtain ⟨hid, hoffset⟩ := hmarks n m m' hm hm'
    refine ⟨m', hm', hid, ⟨fun hreg => ?_, fun hreg => ?_⟩, hoffset⟩
    · obtain ⟨since, -, hfollows⟩ :=
        (hcalm.pendingFollows hsound Run.quietListeners_calm).follows
      exact hreg₀.1 ((hfollows n m m' hm₀ hm').registers hreg)
    · exact hquiet.registers hsound hleaves.2 hm₀ (hreg₀.2 hreg) hm'
  · intro hleaves
    rw [hquiet.cursor_eq hsound hleaves, hbegin]
    rfl

/-- **A replacement is a removal and an insertion.** An edit takes every offset where its removal
    and then its insertion take it, in words too, and there both have an answer or none. On a
    document in which nothing is left to do, and for a range between boundaries in order, the
    replacement succeeds and so does the removal; when listeners make no edits until nothing is left
    to do again, the insertion succeeds after the removal. When they make none after the other two
    either, both ways come to the same text, to the same offsets of the marks that listeners neither
    drop nor unregister, and to the same cursor if listeners leave it. -/
theorem replace_eq_remove_insert (h : Run Unlimited text deeds d) (hidle : d.agenda = [])
    {start stop : Nat} (hle : start ≤ stop) (hstart : d.buffer.text.isBoundary start = true)
    (hstop : d.buffer.text.isBoundary stop = true) (new : Text) :
    (∀ (e : Edit) (p : Nat),
      e.remap p = Edit.remap ⟨e.start, 0, e.added⟩ (Edit.remap ⟨e.start, e.removed, 0⟩ p)) ∧
    (∀ (e : WordEdit) (p : UInt64), e.remap? p =
      (WordEdit.remap? ⟨e.start, e.removed, 0⟩ p).bind (WordEdit.remap? ⟨e.start, 0, e.added⟩)) ∧
    (d.perform (.replace start stop new)).1 = .ok .done ∧
    (d.perform (.remove start stop)).1 = .ok .done ∧
    ∀ does removed, d.Quiet does deeds (.remove start stop) removed →
      let d' := (d.perform (.remove start stop)).2
      (d'.perform (.insert start new)).1 = .ok .done ∧
      ∀ replaced inserted, d.Quiet does deeds (.replace start stop new) replaced →
        d'.Quiet does removed (.insert start new) inserted →
          Coincide does d (d.perform (.replace start stop new)).2
            (d'.perform (.insert start new)).2 := by
  obtain ⟨front, old, back, htext, rfl, rfl⟩ := Text.exists_split hle hstart hstop
  refine ⟨fun e p => Edit.remap_replace e.start e.removed e.added p, WordEdit.remap?_replace,
    congrArg Prod.fst (begin_of_text_eq htext new), congrArg Prod.fst (begin_of_text_eq htext []),
    fun does removed hremove => ?_⟩
  obtain ⟨hrun, hremoved⟩ := hremove.carried h hidle htext
  refine ⟨congrArg Prod.fst (begin_of_text_eq hremoved.text new),
    fun replaced inserted hreplace hinsert => ?_⟩
  obtain ⟨-, hreplaced⟩ := hreplace.carried h hidle htext
  -- After the removal nothing stands between the front and the back, and that is replaced.
  obtain ⟨-, hinserted⟩ := Quiet.carried hrun hremoved.idle hremoved.text hinsert
  exact hreplaced.coincide (hremoved.trans hinserted) (Edit.remap_replace _ _ _)

/-- **An insertion can be undone.** On a document in which nothing is left to do, an insertion at a
    boundary succeeds. When listeners make no edits until nothing is left to do again, the range of
    the new text is valid and its removal succeeds. When they make none after that either, the text
    is what it was, and so are the offsets of the marks that listeners neither drop nor unregister,
    and the cursor if listeners leave it. -/
theorem insert_remove_restores (h : Run Unlimited text deeds d) (hidle : d.agenda = [])
    {offset : Nat} (hoffset : d.buffer.text.isBoundary offset = true) (new : Text) :
    (d.perform (.insert offset new)).1 = .ok .done ∧
    ∀ does inserted, d.Quiet does deeds (.insert offset new) inserted →
      let d' := (d.perform (.insert offset new)).2
      (d'.buffer.text.isBoundary offset = true ∧
        d'.buffer.text.isBoundary (offset + new.size) = true) ∧
      (d'.perform (.remove offset (offset + new.size))).1 = .ok .done ∧
      ∀ removed, d'.Quiet does inserted (.remove offset (offset + new.size)) removed →
        Coincide does d (d'.perform (.remove offset (offset + new.size))).2 d := by
  obtain ⟨front, back, htext, rfl⟩ := Text.isBoundary_iff.1 hoffset
  have hsplit : d.buffer.text = front ++ [] ++ back := by rw [htext, List.append_nil]
  refine ⟨congrArg Prod.fst (begin_of_text_eq hsplit new), fun does inserted hinsert => ?_⟩
  obtain ⟨hrun, hinserted⟩ := Quiet.carried h hidle hsplit hinsert
  refine ⟨?_, congrArg Prod.fst (begin_of_text_eq hinserted.text []), fun removed hremove => ?_⟩
  · have hfront : front ++ new ++ back = front ++ (new ++ back) := List.append_assoc ..
    have hnew : (front ++ new).size = front.size + new.size := Text.size_append ..
    exact ⟨Text.isBoundary_iff.2 ⟨front, new ++ back, hinserted.text.trans hfront, rfl⟩,
      Text.isBoundary_iff.2 ⟨front ++ new, back, hinserted.text, hnew⟩⟩
  · obtain ⟨-, hremoved⟩ := hremove.carried hrun hinserted.idle hinserted.text
    have hrefl : Carried does d id d.buffer.text d := .refl hidle
    rw [hsplit] at hrefl
    exact (hinserted.trans hremoved).coincide hrefl (Edit.remap_undo _ _)

/-! ## Listeners whose reactions are known -/

/-- Actions that are no edits, with the reactions of the recorders that they make. -/
structure Tame (does : Action → Prop) : Prop where
  isEdit : ∀ a, does a → a.isEdit = false
  reactions : ∀ reactions, does (.subscribe reactions) →
    ∀ reaction ∈ reactions, ∀ a ∈ reaction, does a

/-- All that listeners still stand to do is in a set of actions. -/
structure Within (does : Action → Prop) (d : Document) : Prop where
  reactions : ∀ r ∈ d.recorders, ∀ reaction ∈ r.reactions, ∀ a ∈ reaction, does a
  agenda : ∀ a, .act a ∈ d.agenda → does a

namespace Within

theorem pop {t : Task} {rest : List Task} (h : d.Within does) (hagenda : d.agenda = t :: rest) :
    Within does { d with agenda := rest } :=
  ⟨h.reactions, fun a ha => h.agenda a (hagenda ▸ List.mem_cons_of_mem _ ha)⟩

/-- A recorder asks for one of its reactions when it is told. -/
theorem step_tell (h : d.Within does) (round : Nat) (whom : Registration) (e : Edit) :
    (step d (.tell round whom e)).Within does := by
  obtain ⟨id, listener⟩ := whom
  cases listener with
  | mark k => exact ⟨h.reactions, h.agenda⟩
  | recorder k =>
    simp only [step, notifyRecorder]
    cases hr : d.recorders[k]? with
    | none => exact ⟨h.reactions, h.agenda⟩
    | some r =>
      have hmem : r ∈ d.recorders := List.mem_of_getElem? hr
      constructor
      · intro r' hr' reaction hreaction
        rcases List.mem_or_eq_of_mem_set hr' with hr' | rfl
        · exact h.reactions r' hr' reaction hreaction
        · exact h.reactions r hmem reaction (List.mem_of_mem_tail hreaction)
      · intro a ha
        rcases List.mem_append.1 ha with ha | ha
        · obtain ⟨_, hasked, heq⟩ := List.mem_map.1 ha
          cases heq
          -- What is asked for is in the first reaction, if there is one.
          cases hreactions : r.reactions with
          | nil =>
            rw [hreactions] at hasked
            cases hasked
          | cons reaction reactions =>
            rw [hreactions] at hasked
            exact h.reactions r hmem reaction (hreactions ▸ List.mem_cons_self) a hasked
        · rcases List.mem_cons.1 ha with ha | ha
          · cases ha
          · exact h.agenda a ha

theorem begin_replace (h : d.Within does) (start stop : Nat) (new : Text) :
    (d.begin (.replace start stop new)).2.Within does := by
  simp only [begin, replace]
  cases d.buffer.replace start stop new with
  | error fault => exact h
  | ok result =>
    refine ⟨h.reactions, fun a ha => ?_⟩
    rcases List.mem_append.1 ha with ha | ha
    · obtain ⟨_, -, hact⟩ := List.mem_map.1 ha
      cases hact
    · exact h.agenda a ha

/-- An action of the set leaves nothing else to do. -/
theorem begin_of_tame (h : d.Within does) (htame : Tame does) (ha : does a) :
    (d.begin a).2.Within does := by
  cases a with
  | replace => cases htame.isEdit _ ha
  | setCursor o =>
    simp only [begin, setCursor]
    cases d.buffer.setCursor o <;> exact ⟨h.reactions, h.agenda⟩
  | createMark o =>
    simp only [begin, createMark]
    cases d.buffer.checkOffset o <;> exact ⟨h.reactions, h.agenda⟩
  | restore k =>
    simp only [begin]
    cases d.mark? k with
    | none => exact h
    | some m =>
      simp only [restore_eq]
      split <;> exact ⟨h.reactions, h.agenda⟩
  | dropMark k =>
    simp only [begin]
    cases d.mark? k <;> exact ⟨h.reactions, h.agenda⟩
  | resubscribe k =>
    simp only [begin]
    cases d.recorder? k <;> exact ⟨h.reactions, h.agenda⟩
  | unsubscribe => exact ⟨h.reactions, h.agenda⟩
  | subscribe reactions =>
    refine ⟨fun r hr => ?_, h.agenda⟩
    rcases List.mem_append.1 hr with hr | hr
    · exact h.reactions r hr
    · rw [List.mem_singleton.1 hr]
      exact htame.reactions reactions ha
  | dropRecorder k =>
    simp only [begin]
    cases hr : d.recorder? k with
    | none => exact h
    | some r =>
      refine ⟨fun r' hr' => ?_, h.agenda⟩
      rcases List.mem_or_eq_of_mem_set hr' with hr' | rfl
      · exact h.reactions r' hr'
      · exact h.reactions r (List.mem_of_getElem? (Option.filter_eq_some_iff.1 hr).1)

/-- A document goes on by what its listeners stand to do. -/
theorem settle (h : d.Within does) (htame : Tame does) (deeds : List Deed) :
    (∃ deeds', Onward (Run.Serving does) deeds d deeds' d.settle) ∧ d.settle.Within does := by
  induction d using Document.settle.induct generalizing deeds with
  | case1 d hidle =>
    rw [settle_of_idle hidle]
    exact ⟨⟨deeds, .refl⟩, h⟩
  | case2 d t rest hagenda ih =>
    have hrest := h.pop hagenda
    rw [settle_of_agenda hagenda]
    cases t with
    | act a =>
      have ha : does a := h.agenda a (hagenda ▸ List.mem_cons_self)
      have hturn : Turn (Run.Serving does) deeds d _ _ :=
        .act (.react hagenda ⟨rfl, ha, htame.isEdit a ha⟩)
      obtain ⟨⟨deeds', honward⟩, hwithin⟩ := ih (hrest.begin_of_tame htame ha) _
      exact ⟨⟨deeds', (Onward.refl.turn hturn).trans honward⟩, hwithin⟩
    | finish l =>
      obtain ⟨⟨deeds', honward⟩, hwithin⟩ := ih hrest deeds
      exact ⟨⟨deeds', (Onward.refl.turn (.finish hagenda)).trans honward⟩, hwithin⟩
    | tell round whom e =>
      obtain ⟨⟨deeds', honward⟩, hwithin⟩ := ih (hrest.step_tell round whom e) deeds
      exact ⟨⟨deeds', (Onward.refl.turn (.tell hagenda)).trans honward⟩, hwithin⟩

/-- **When the reactions of listeners are tame, every replacement is quiet.** -/
theorem quiet (h : d.Within does) (htame : Tame does) (deeds : List Deed) (start stop : Nat)
    (new : Text) :
    (∃ deeds', d.Quiet does deeds (.replace start stop new) deeds') ∧
      (d.perform (.replace start stop new)).2.Within does :=
  (h.begin_replace start stop new).settle htame _

end Within

/-! ### Two marks and the cursor around a letter

The letter has two bytes. A mark stands before it and a mark after it, together with the cursor, and
a recorder is told of edits before the marks are. -/

def aroundLetter : Document where
  buffer := ⟨"aéb".toList, 3⟩
  registrations := [⟨⟨0⟩, .recorder 0⟩, ⟨⟨1⟩, .mark 0⟩, ⟨⟨2⟩, .mark 1⟩]
  issued := 3
  marks := [⟨1, ⟨1⟩, true⟩, ⟨3, ⟨2⟩, true⟩]
  recorders := [⟨[], [], true⟩]
  agenda := []
  history := []

theorem run_aroundLetter : ∃ deeds, Run Unlimited "aéb".toList deeds aroundLetter := by
  have hstart : Run Unlimited "aéb".toList _ _ := .start
  have hrecorder := hstart.owner (a := .subscribe []) rfl trivial
  have hbefore := hrecorder.owner (a := .createMark 1) rfl trivial
  have hafter := hbefore.owner (a := .createMark 3) rfl trivial
  exact ⟨_, hafter.owner (a := .setCursor 3) rfl trivial⟩

/-- Its recorder has no reactions. -/
theorem within_aroundLetter : aroundLetter.Within (fun _ => False) :=
  ⟨by simp [aroundLetter], by simp [aroundLetter]⟩

theorem tame_nothing : Tame (fun _ => False) := ⟨nofun, nofun⟩

/-- The letter is replaced by two others. Either way the cursor and the second mark end up in front
of them. -/
theorem replace_eq_remove_insert_aroundLetter :
    ∃ deeds removed, Run Unlimited "aéb".toList deeds aroundLetter ∧ aroundLetter.agenda = [] ∧
      1 ≤ 3 ∧ aroundLetter.buffer.text.isBoundary 1 = true ∧
      aroundLetter.buffer.text.isBoundary 3 = true ∧
      aroundLetter.Quiet (fun _ => False) deeds (.remove 1 3) removed ∧
      let d₁ := (aroundLetter.perform (.replace 1 3 "xy".toList)).2
      let d₂ := ((aroundLetter.perform (.remove 1 3)).2.perform (.insert 1 "xy".toList)).2
      Coincide (fun _ => False) aroundLetter d₁ d₂ ∧ d₁.buffer.text = "axyb".toList ∧
      d₁.buffer.cursor = 1 ∧ ∃ m, d₁.mark? 1 = some m ∧ m.offset = 1 := by
  obtain ⟨deeds, hrun⟩ := run_aroundLetter
  have hstart : aroundLetter.buffer.text.isBoundary 1 = true := by decide
  have hstop : aroundLetter.buffer.text.isBoundary 3 = true := by decide
  obtain ⟨⟨_, hreplace⟩, -⟩ := within_aroundLetter.quiet tame_nothing deeds 1 3 "xy".toList
  obtain ⟨⟨removed, hremove⟩, hwithin⟩ := within_aroundLetter.quiet tame_nothing deeds 1 3 []
  obtain ⟨⟨_, hinsert⟩, -⟩ := hwithin.quiet tame_nothing removed 1 1 "xy".toList
  obtain ⟨-, -, -, -, hways⟩ :=
    replace_eq_remove_insert hrun rfl (by decide) hstart hstop "xy".toList
  obtain ⟨-, hcoincide⟩ := hways _ _ hremove
  have htext : aroundLetter.buffer.text = "a".toList ++ "é".toList ++ "b".toList := rfl
  obtain ⟨-, hcarried⟩ := Quiet.carried hrun rfl htext hreplace
  obtain ⟨m, hm, -, -, hoffset⟩ := hcarried.marks 1 ⟨3, ⟨2⟩, true⟩ rfl ⟨nofun, nofun⟩
  exact ⟨deeds, removed, hrun, rfl, by decide, hstart, hstop, hremove,
    hcoincide _ _ hreplace hinsert, hcarried.text, hcarried.cursor ⟨nofun, nofun⟩, m, hm, hoffset⟩

/-- Two letters are inserted before the letter and taken out again. -/
theorem insert_remove_restores_aroundLetter :
    ∃ deeds inserted removed, Run Unlimited "aéb".toList deeds aroundLetter ∧
      aroundLetter.agenda = [] ∧ aroundLetter.buffer.text.isBoundary 1 = true ∧
      aroundLetter.Quiet (fun _ => False) deeds (.insert 1 "xy".toList) inserted ∧
      let d' := (aroundLetter.perform (.insert 1 "xy".toList)).2
      d'.Quiet (fun _ => False) inserted (.remove 1 3) removed ∧
      (d'.perform (.remove 1 3)).1 = .ok .done ∧
      (d'.perform (.remove 1 3)).2.buffer.text = "aéb".toList ∧
      (d'.perform (.remove 1 3)).2.buffer.cursor = 3 ∧
      ∃ m, (d'.perform (.remove 1 3)).2.mark? 1 = some m ∧ m.offset = 3 := by
  obtain ⟨deeds, hrun⟩ := run_aroundLetter
  have hoffset : aroundLetter.buffer.text.isBoundary 1 = true := by decide
  obtain ⟨⟨inserted, hinsert⟩, hwithin⟩ :=
    within_aroundLetter.quiet tame_nothing deeds 1 1 "xy".toList
  obtain ⟨⟨removed, hremove⟩, -⟩ := hwithin.quiet tame_nothing inserted 1 3 []
  obtain ⟨-, hundo⟩ := insert_remove_restores hrun rfl hoffset "xy".toList
  obtain ⟨-, hok, hcoincide⟩ := hundo _ _ hinsert
  have hcoincide := hcoincide _ hremove
  obtain ⟨m', m, hm', hm, hsame⟩ := hcoincide.marks 1 ⟨3, ⟨2⟩, true⟩ rfl ⟨nofun, nofun⟩
  obtain rfl := Option.some.inj hm
  exact ⟨deeds, inserted, removed, hrun, rfl, hoffset, hinsert, hremove, hok, hcoincide.text,
    hcoincide.cursor ⟨nofun, nofun⟩, m', hm', hsame⟩

/-! ### A listener that acts in some rounds

A mark and the cursor stand behind four letters. The recorder unregisters the mark when it is told
of an edit for the first time, and sets the cursor when it is told for the second time. -/

def meddled : Document where
  buffer := ⟨"abcd".toList, 4⟩
  registrations := [⟨⟨0⟩, .mark 0⟩, ⟨⟨1⟩, .recorder 0⟩]
  issued := 2
  marks := [⟨4, ⟨0⟩, true⟩]
  recorders := [⟨[], [[.unsubscribe ⟨0⟩], [.setCursor 0]], true⟩]
  agenda := []
  history := []

theorem run_meddled : ∃ deeds, Run Unlimited "abcd".toList deeds meddled := by
  have hstart : Run Unlimited "abcd".toList _ _ := .start
  have hmark := hstart.owner (a := .createMark 4) rfl trivial
  have hrecorder := hmark.owner
    (a := .subscribe [[.unsubscribe ⟨0⟩], [.setCursor 0]]) rfl trivial
  exact ⟨_, hrecorder.owner (a := .setCursor 4) rfl trivial⟩

/-- What the recorder does. -/
def Meddles (a : Action) : Prop := a = .unsubscribe ⟨0⟩ ∨ a = .setCursor 0

theorem tame_meddles : Tame Meddles := by
  constructor
  · rintro a (rfl | rfl) <;> rfl
  · rintro reactions (h | h) <;> cases h

theorem within_meddled : meddled.Within Meddles := by
  constructor
  · simp [meddled, Meddles]
  · simp [meddled]

/-- When the second letter is replaced, the mark and the cursor go along. When it is removed and the
others are inserted, the mark is unregistered in between, and the cursor is set in the end. In
words, an insertion at the front has no answer for the greatest offset. -/
theorem replace_ne_remove_insert :
    (∃ deeds removed replaced inserted, Run Unlimited "abcd".toList deeds meddled ∧
      meddled.agenda = [] ∧
      meddled.Quiet Meddles deeds (.replace 1 2 "xy".toList) replaced ∧
      meddled.Quiet Meddles deeds (.remove 1 2) removed ∧
      let d' := (meddled.perform (.remove 1 2)).2
      d'.Quiet Meddles removed (.insert 1 "xy".toList) inserted ∧
      let d₁ := (meddled.perform (.replace 1 2 "xy".toList)).2
      let d₂ := (d'.perform (.insert 1 "xy".toList)).2
      d₁.buffer.cursor = 5 ∧ d₂.buffer.cursor = 0 ∧
      d₁.marks = [⟨5, ⟨0⟩, true⟩] ∧ d₂.marks = [⟨3, ⟨0⟩, true⟩]) ∧
    ∃ (e : WordEdit) (p : UInt64), e.remap? p = none := by
  refine ⟨?_, ⟨0, 0, 1⟩, Word.greatest, by decide⟩
  obtain ⟨deeds, hrun⟩ := run_meddled
  obtain ⟨⟨replaced, hreplace⟩, -⟩ := within_meddled.quiet tame_meddles deeds 1 2 "xy".toList
  obtain ⟨⟨removed, hremove⟩, hwithin⟩ := within_meddled.quiet tame_meddles deeds 1 2 []
  obtain ⟨⟨inserted, hinsert⟩, -⟩ := hwithin.quiet tame_meddles removed 1 1 "xy".toList
  refine ⟨deeds, removed, replaced, inserted, hrun, rfl, hreplace, hremove, hinsert, ?_⟩
  refine ⟨?_, ?_, ?_, ?_⟩ <;> cbv

/-- Two letters are inserted and taken out again. The mark is unregistered in between and left past
the end of the text, and the cursor is set in the end. -/
theorem insert_remove_alters :
    ∃ deeds inserted removed, Run Unlimited "abcd".toList deeds meddled ∧ meddled.agenda = [] ∧
      meddled.Quiet Meddles deeds (.insert 1 "xy".toList) inserted ∧
      let d' := (meddled.perform (.insert 1 "xy".toList)).2
      d'.Quiet Meddles inserted (.remove 1 3) removed ∧
      let d₂ := (d'.perform (.remove 1 3)).2
      d₂.buffer = ⟨"abcd".toList, 0⟩ ∧ d₂.marks = [⟨6, ⟨0⟩, true⟩] := by
  obtain ⟨deeds, hrun⟩ := run_meddled
  obtain ⟨⟨inserted, hinsert⟩, hwithin⟩ :=
    within_meddled.quiet tame_meddles deeds 1 1 "xy".toList
  obtain ⟨⟨removed, hremove⟩, -⟩ := hwithin.quiet tame_meddles inserted 1 3 []
  refine ⟨deeds, inserted, removed, hrun, rfl, hinsert, hremove, ?_⟩
  refine ⟨?_, ?_⟩ <;> cbv

end Document
end TreeQuery
