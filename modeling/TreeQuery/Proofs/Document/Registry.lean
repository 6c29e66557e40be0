/-
  TreeQuery.Proofs.Document.Registry

  Who is registered. Numbers are given out once, so a registration keeps its number to
  itself, and a registration under the number of a mark is that mark's: whoever is told
  under this number is the mark (`Registry.listener_iff`). `Run.registry` proves this for
  every state of a run, for registrations in the list and for those that stand to be told.
-/

import Mathlib.Data.List.Nodup
import TreeQuery.Proofs.Document.Run

namespace TreeQuery

theorem getElem?_concat_eq_some_iff {α : Type} {l : List α} {a b : α} {k : Nat} :
    (l ++ [a])[k]? = some b ↔ l[k]? = some b ∨ (k = l.length ∧ a = b) := by
  rw [List.getElem?_append]
  split
  · next h =>
    have hne : k ≠ l.length := Nat.ne_of_lt h
    simp [hne]
  · next h =>
    rw [List.getElem?_eq_none (Nat.not_lt.1 h), List.getElem?_singleton]
    by_cases hk : k = l.length
    · simp [hk]
    · have hpos : k - l.length ≠ 0 := by omega
      simp [hk, hpos]

namespace Document

/-- The numbers under which the marks were registered, in the order of the marks. -/
def markIds (d : Document) : List ListenerId := d.marks.map (·.id)

/-- Whether a registration is in the list or stands to be told of an edit. -/
def Mentions (d : Document) (r : Registration) : Prop :=
  r ∈ d.registrations ∨ ∃ round e, Task.tell round r e ∈ d.agenda

/-- **Numbers are given out once.** -/
structure Registry (d : Document) : Prop where
  nodup : (d.registrations.map (·.id)).Nodup
  lt_issued : ∀ r, d.Mentions r → r.id.number < d.issued
  told_lt_issued : ∀ round id l e, Event.told round id l e ∈ d.history → id.number < d.issued
  markIds_nodup : d.markIds.Nodup
  markIds_lt_issued : ∀ id ∈ d.markIds, id.number < d.issued
  /-- A number is a mark's exactly when the listener under it is the mark. -/
  listener_iff : ∀ r, d.Mentions r → ∀ n, r.listener = .mark n ↔ d.markIds[n]? = some r.id

/-! ## What keeps the numbers of marks -/

theorem mem_markIds {d : Document} {n : Nat} {m : Mark} (hm : d.marks[n]? = some m) :
    d.markIds[n]? = some m.id := by
  rw [markIds, List.getElem?_map, hm]
  rfl

theorem mark?_eq_some_iff {d : Document} {n : Nat} {m : Mark} :
    d.mark? n = some m ↔ d.marks[n]? = some m ∧ m.held = true :=
  Option.filter_eq_some_iff

@[simp] theorem markIds_told (d : Document) (round : Nat) (whom : Registration) (e : Edit)
    (agenda : List Task) : (d.told round whom e agenda).markIds = d.markIds := by
  obtain ⟨id, listener⟩ := whom
  cases listener with
  | recorder n => rfl
  | mark n =>
    apply List.ext_getElem?
    intro i
    simp only [markIds, told, marksTold, List.getElem?_map, List.getElem?_modify]
    cases d.marks[i]? with
    | none => rfl
    | some m => by_cases h : n = i <;> simp [h]

@[simp] theorem markIds_dropMark {d : Document} {n : Nat} {m : Mark} (hm : d.mark? n = some m) :
    (d.dropMark n m).markIds = d.markIds := by
  obtain ⟨hget, -⟩ := mark?_eq_some_iff.1 hm
  apply List.ext_getElem?
  intro i
  simp only [markIds, dropMark, unregister, List.getElem?_map, List.getElem?_set]
  by_cases hi : n = i
  · subst hi
    have hn := (List.getElem?_eq_some_iff.1 hget).1
    rw [if_pos rfl, if_pos hn, hget]
    rfl
  · rw [if_neg hi]

/-! ## Listeners told -/

theorem live_sublist (d : Document) : d.live.Sublist d.registrations := List.filter_sublist

/-- Telling a listener mentions nobody new. -/
theorem mentions_of_told {d : Document} {round : Nat} {whom : Registration} {e : Edit}
    {asked rest : List Task} (hagenda : d.agenda = .tell round whom e :: rest)
    (hasked : ∀ t ∈ asked, t.isTell = false) {r : Registration}
    (hr : (d.told round whom e (asked ++ rest)).Mentions r) : d.Mentions r := by
  rcases hr with hr | ⟨round', e', hr⟩
  · exact .inl hr
  · rcases List.mem_append.1 hr with hr | hr
    · cases hasked _ hr
    · refine .inr ⟨round', e', ?_⟩
      rw [hagenda]
      exact List.mem_cons_of_mem _ hr

/-- An edit mentions nobody new. -/
theorem mentions_of_edited {d : Document} {e : Edit} {after : Text} {r : Registration}
    (hr : (d.edited e after).Mentions r) : d.Mentions r := by
  rcases hr with hr | ⟨round, e', hr⟩
  · exact .inl (d.live_sublist.subset hr)
  · rcases List.mem_append.1 hr with hr | hr
    · obtain ⟨r', hr', heq⟩ := List.mem_map.1 hr
      cases heq
      exact .inl (d.live_sublist.subset hr')
    · exact .inr ⟨round, e', hr⟩

namespace Registry

variable {d d' : Document}

/-- Numbers stay as they are when nobody new is mentioned. -/
theorem shrink (h : d.Registry) (hregistrations : d'.registrations.Sublist d.registrations)
    (hmentions : ∀ r, d'.Mentions r → d.Mentions r) (hissued : d'.issued = d.issued)
    (hmarks : d'.markIds = d.markIds)
    (htold : ∀ round id l e, Event.told round id l e ∈ d'.history →
      Event.told round id l e ∈ d.history ∨ ∃ r, d.Mentions r ∧ r.id = id) : d'.Registry where
  nodup := h.nodup.sublist (hregistrations.map _)
  lt_issued r hr := by
    rw [hissued]
    exact h.lt_issued r (hmentions r hr)
  told_lt_issued round id l e he := by
    rw [hissued]
    rcases htold round id l e he with he | ⟨r, hr, rfl⟩
    · exact h.told_lt_issued round id l e he
    · exact h.lt_issued r hr
  markIds_nodup := by
    rw [hmarks]
    exact h.markIds_nodup
  markIds_lt_issued := by
    rw [hmarks, hissued]
    exact h.markIds_lt_issued
  listener_iff r hr n := by
    rw [hmarks]
    exact h.listener_iff r (hmentions r hr) n

/-- The next number is not given out yet. -/
theorem next_notMem_markIds (h : d.Registry) : (⟨d.issued⟩ : ListenerId) ∉ d.markIds := fun hmem =>
  Nat.lt_irrefl _ (h.markIds_lt_issued _ hmem)

theorem next_ne_of_mentions (h : d.Registry) {r : Registration} (hr : d.Mentions r) :
    r.id ≠ ⟨d.issued⟩ := fun heq => by
  have hlt := h.lt_issued r hr
  rw [heq] at hlt
  exact Nat.lt_irrefl _ hlt

/-- One more registration takes the next number; if it is a new mark's, the mark has this
    number. -/
theorem grow (h : d.Registry) {l : Listener} (hagenda : d'.agenda = d.agenda)
    (hhistory : d'.history = d.history)
    (hregistrations : d'.registrations = d.registrations ++ [⟨⟨d.issued⟩, l⟩])
    (hissued : d'.issued = d.issued + 1)
    (hmarks : (l = .mark d.marks.length ∧ d'.markIds = d.markIds ++ [⟨d.issued⟩]) ∨
      (∃ n, l = .recorder n) ∧ d'.markIds = d.markIds) : d'.Registry := by
  have hmentions : ∀ r, d'.Mentions r → d.Mentions r ∨ r = ⟨⟨d.issued⟩, l⟩ := by
    rintro r (hr | hr)
    · rw [hregistrations, List.mem_append, List.mem_singleton] at hr
      exact hr.imp_left .inl
    · rw [hagenda] at hr
      exact .inl (.inr hr)
  have hlength : d.markIds.length = d.marks.length := List.length_map _
  constructor
  · rw [hregistrations, List.map_append, List.nodup_append]
    refine ⟨h.nodup, List.nodup_singleton _, fun id hid id' hid' heq => ?_⟩
    obtain ⟨r, hr, rfl⟩ := List.mem_map.1 hid
    rw [List.map_singleton, List.mem_singleton] at hid'
    exact h.next_ne_of_mentions (.inl hr) (heq.trans hid')
  · intro r hr
    rw [hissued]
    rcases hmentions r hr with hr | rfl
    · exact Nat.lt_succ_of_lt (h.lt_issued r hr)
    · exact Nat.lt_succ_self _
  · intro round id l' e he
    rw [hhistory] at he
    rw [hissued]
    exact Nat.lt_succ_of_lt (h.told_lt_issued round id l' e he)
  · rcases hmarks with ⟨-, hmarks⟩ | ⟨-, hmarks⟩
    · rw [hmarks, List.nodup_append]
      refine ⟨h.markIds_nodup, List.nodup_singleton _, fun id hid id' hid' heq => ?_⟩
      rw [List.mem_singleton.1 hid'] at heq
      exact h.next_notMem_markIds (heq ▸ hid)
    · rw [hmarks]
      exact h.markIds_nodup
  · intro id hid
    rw [hissued]
    rcases hmarks with ⟨-, hmarks⟩ | ⟨-, hmarks⟩
    · rw [hmarks, List.mem_append, List.mem_singleton] at hid
      rcases hid with hid | rfl
      · exact Nat.lt_succ_of_lt (h.markIds_lt_issued id hid)
      · exact Nat.lt_succ_self _
    · rw [hmarks] at hid
      exact Nat.lt_succ_of_lt (h.markIds_lt_issued id hid)
  · intro r hr n
    rcases hmentions r hr with hr | rfl
    · -- An old registration keeps its listener, since its number is not the new one.
      rw [h.listener_iff r hr n]
      rcases hmarks with ⟨-, hmarks⟩ | ⟨-, hmarks⟩
      · rw [hmarks, getElem?_concat_eq_some_iff]
        exact (or_iff_left fun hnew => h.next_ne_of_mentions hr hnew.2.symm).symm
      · rw [hmarks]
    · -- The new one has the number of the new mark, or of no mark.
      have hnot : ¬ d.markIds[n]? = some ⟨d.issued⟩ := fun hget =>
        h.next_notMem_markIds (List.mem_of_getElem? hget)
      rcases hmarks with ⟨rfl, hmarks⟩ | ⟨⟨k, rfl⟩, hmarks⟩
      · rw [hmarks, getElem?_concat_eq_some_iff, or_iff_right hnot, Listener.mark.injEq, hlength]
        exact ⟨fun hn => ⟨hn.symm, rfl⟩, fun hn => hn.1.symm⟩
      · rw [hmarks]
        refine ⟨fun heq => ?_, fun hget => absurd hget hnot⟩
        cases heq

end Registry

theorem registry_ofText (text : Text) : (Document.ofText text).Registry := by
  refine ⟨List.nodup_nil, ?_, ?_, List.nodup_nil, ?_, ?_⟩
  · rintro r (hr | ⟨round, e, hr⟩) <;> cases hr
  · intro round id l e he
    cases he
  · intro id hid
    cases hid
  · rintro r (hr | ⟨round, e, hr⟩) <;> cases hr

/-- Beginning an action keeps the numbers in order. -/
theorem Registry.effect {d d' : Document} {a : Action} {deed : Option Deed} (h : d.Registry)
    (heffect : Effect d a deed d') : d'.Registry := by
  cases heffect with
  | same => exact h
  | edited ha he =>
    refine h.shrink d.live_sublist (fun _ => mentions_of_edited) rfl rfl fun round id l e' hmem => ?_
    rcases List.mem_append.1 hmem with hmem | hmem
    · exact .inl hmem
    · cases List.mem_singleton.1 hmem
  | cursorSet => exact h.shrink (.refl _) (fun _ => id) rfl rfl fun _ _ _ _ => .inl
  | marked => exact h.grow rfl rfl rfl rfl (.inl ⟨rfl, List.map_append⟩)
  | dropMark hm =>
    refine h.shrink List.filter_sublist ?_ rfl (markIds_dropMark hm) fun _ _ _ _ => .inl
    exact fun r hr => hr.imp_left fun hmem => (List.mem_filter.1 hmem).1
  | subscribe => exact h.grow rfl rfl rfl rfl (.inr ⟨⟨_, rfl⟩, rfl⟩)
  | resubscribe => exact h.grow rfl rfl rfl rfl (.inr ⟨⟨_, rfl⟩, rfl⟩)
  | unsubscribe id =>
    refine h.shrink List.filter_sublist ?_ rfl rfl fun _ _ _ _ => .inl
    exact fun r hr => hr.imp_left fun hmem => (List.mem_filter.1 hmem).1
  | dropRecorder => exact h.shrink (.refl _) (fun _ => id) rfl rfl fun _ _ _ _ => .inl

/-- Taking a task from the agenda keeps the numbers in order. -/
theorem Registry.pop {d : Document} {t : Task} {rest : List Task} (h : d.Registry)
    (hagenda : d.agenda = t :: rest) : Registry { d with agenda := rest } := by
  refine h.shrink (.refl _) ?_ rfl rfl fun _ _ _ _ => .inl
  rintro r (hr | ⟨round, e, hr⟩)
  · exact .inl hr
  · refine .inr ⟨round, e, ?_⟩
    rw [hagenda]
    exact List.mem_cons_of_mem _ hr

/-- Telling a listener keeps the numbers in order. -/
theorem Registry.told {d : Document} {round : Nat} {whom : Registration} {e : Edit}
    {asked rest : List Task} (h : d.Registry) (hagenda : d.agenda = .tell round whom e :: rest)
    (hasked : ∀ t ∈ asked, t.isTell = false) :
    (d.told round whom e (asked ++ rest)).Registry := by
  refine h.shrink (.refl _) (fun _ => mentions_of_told hagenda hasked) rfl
    (markIds_told _ _ _ _ _) fun round' id l e' hmem => ?_
  rcases List.mem_append.1 hmem with hmem | hmem
  · exact .inl hmem
  · cases List.mem_singleton.1 hmem
    refine .inr ⟨whom, .inr ⟨round, e, ?_⟩, rfl⟩
    rw [hagenda]
    exact List.mem_cons_self

end Document

open Document

/-- The numbers are in order in every state of a run. -/
theorem Run.registry {allows : Caller → List Deed → Document → Action → Prop} {text : Text}
    {deeds : List Deed} {d : Document} (h : Run allows text deeds d) : d.Registry :=
  h.invariant (motive := fun _ d => d.Registry) (registry_ofText text)
    (fun hd hagenda _ => hd.pop hagenda) (fun hd hagenda hasked => hd.told hagenda hasked)
    fun hd _ _ heffect => hd.effect heffect

end TreeQuery
