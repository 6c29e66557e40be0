/-
  TreeQuery.Proofs.Document.Marks

  Marks from one step to the next. A mark stands at its `Document.destination` once the calls
  to come are made. No call changes it, and of all actions only an edit does, for a mark that
  is registered (`Effect.stays`, `Registry.destination_edited`). A mark that its owner has stays
  registered until somebody ends a registration under its number (`Effect.registers`).

  When an edit finds no calls to come, as it does when listeners make no edits, a mark goes with
  the edits in the order in which they are made. It does so up to the end of its registration,
  and stays where it is from there on (`Document.GoesWith`).
-/

import TreeQuery.Proofs.Document.Delivery
import TreeQuery.Proofs.Document.Order

namespace TreeQuery

namespace Document

variable {d d' : Document} {a : Action} {deed : Option Deed} {n : Nat} {m m' : Mark}

/-- Whether a mark is registered. -/
def Registers (d : Document) (n : Nat) (m : Mark) : Prop :=
  (⟨m.id, .mark n⟩ : Registration) ∈ d.registrations

instance : Decidable (d.Registers n m) :=
  inferInstanceAs (Decidable ((⟨m.id, .mark n⟩ : Registration) ∈ d.registrations))

/-- Where a mark stands once the calls to come are made. -/
def destination (d : Document) (m : Mark) : Nat :=
  Edit.remapAll ((pending m.id d.agenda).map (·.2)) m.offset

theorem destination_of_pending (h : pending m.id d.agenda = []) : d.destination m = m.offset := by
  rw [destination, h]
  rfl

theorem destination_of_idle (hidle : d.agenda = []) : d.destination m = m.offset := by
  rw [destination, hidle]
  rfl

/-! ## Marks that are not moved -/

/-- From one document to the next a mark keeps its destination, and is not registered anew. -/
structure Stays (d : Document) (m : Mark) (d' : Document) (n : Nat) (m' : Mark) : Prop where
  id : m'.id = m.id
  destination : d'.destination m' = d.destination m
  registers : d'.Registers n m' → d.Registers n m

theorem stays_pop {t : Task} {rest : List Task} (hagenda : d.agenda = t :: rest)
    (ht : t.isTell = false) : Stays d m { d with agenda := rest } n m where
  id := rfl
  destination := by rw [destination, destination, hagenda, pending_cons_of_not_tell ht]
  registers := id

/-- A call moves the mark that it is for, and takes the move off the calls to come. -/
theorem Registry.stays_told (hd : d.Registry) {round : Nat} {whom : Registration} {e : Edit}
    {asked rest : List Task} (hagenda : d.agenda = .tell round whom e :: rest)
    (hasked : ∀ t ∈ asked, t.isTell = false)
    (hm' : (d.told round whom e (asked ++ rest)).mark? n = some m') :
    ∃ m, d.mark? n = some m ∧ Stays d m (d.told round whom e (asked ++ rest)) n m' := by
  obtain ⟨hget', hheld'⟩ := mark?_eq_some_iff.1 hm'
  obtain ⟨m, hget, hid, hheld, hoffset⟩ := hd.mark_told hagenda hget'
  refine ⟨m, mark?_eq_some_iff.2 ⟨hget, hheld ▸ hheld'⟩, hid, ?_, ?_⟩
  · have hpending := pending_append_of_not_tell hasked m.id rest
    simp only [destination, Document.told, hid, hpending, hagenda, pending_cons_tell, hoffset]
    -- The call is for this mark, and its offset has moved, or it is for somebody else.
    by_cases hwhom : whom.id = m.id
    · simp only [if_pos hwhom]
      rfl
    · simp only [if_neg hwhom, List.nil_append]
  · intro hreg
    rw [Registers, hid] at hreg
    exact hreg

/-- No mark goes out of the list. -/
theorem Effect.marks_length_le (h : Effect d a deed d') : d.marks.length ≤ d'.marks.length := by
  rcases h.marks_cases with ⟨o, -, rfl⟩ | ⟨-, hlength, -⟩
  · simp [Document.marked, register]
  · exact Nat.le_of_eq hlength.symm

/-- A mark after an action, if it was there before. -/
theorem Effect.exists_mark? (h : Effect d a deed d') (hn : n < d.marks.length)
    (hm' : d'.mark? n = some m') :
    ∃ m, d.mark? n = some m ∧ m'.id = m.id ∧ m'.offset = m.offset := by
  obtain ⟨hget', hheld'⟩ := mark?_eq_some_iff.1 hm'
  rcases h.marks_cases with ⟨o, rfl, rfl⟩ | ⟨-, -, hmarks⟩
  · have hget : d.marks[n]? = some m' := by
      rw [← hget']
      exact (List.getElem?_append_left hn).symm
    exact ⟨m', mark?_eq_some_iff.2 ⟨hget, hheld'⟩, rfl, rfl⟩
  · obtain ⟨m, hget, hid, hoffset, hheld⟩ := hmarks n m' hget'
    exact ⟨m, mark?_eq_some_iff.2 ⟨hget, hheld hheld'⟩, hid, hoffset⟩

/-- No action but an edit gives a mark another destination. -/
theorem Effect.stays (h : Effect d a deed d') (hd : d.Registry)
    (hedit : ∀ e, deed ≠ some (.edited e)) (hm : d.marks[n]? = some m) (hid : m'.id = m.id)
    (hoffset : m'.offset = m.offset) : Stays d m d' n m' := by
  obtain ⟨-, -, hagenda, hregs⟩ := h.frame hedit
  refine ⟨hid, by rw [destination, destination, hid, hoffset, hagenda], fun hreg => ?_⟩
  rcases hregs _ hreg with hreg | hnext
  · rw [hid] at hreg
    exact hreg
  · -- A new registration has a number that no mark before it has.
    have hlt := hd.markIds_lt_issued _ (List.mem_of_getElem? (mem_markIds hm))
    rw [← hid, show m'.id = ⟨d.issued⟩ from hnext] at hlt
    exact absurd hlt (Nat.lt_irrefl _)

/-! ## Registered marks -/

theorem isAlive_of_mark? (hm : d.mark? n = some m) : d.isAlive (.mark n) = true := by
  obtain ⟨hget, hheld⟩ := mark?_eq_some_iff.1 hm
  rw [isAlive, isHeld, hget, Option.any_some, hheld, Bool.true_or]

/-- An edit forgets no mark that its owner has. -/
theorem registers_edited (hm : d.mark? n = some m) (e : Edit) (after : Text) :
    (d.edited e after).Registers n m ↔ d.Registers n m :=
  ⟨fun hreg => d.live_sublist.subset hreg,
    fun hreg => List.mem_filter.2 ⟨hreg, isAlive_of_mark? hm⟩⟩

/-- A mark that its owner has stays registered, unless a registration under its number is
    ended. -/
theorem Effect.registers (h : Effect d a deed d') (hd : d.Registry) (hm : d.mark? n = some m)
    (hm' : d'.mark? n = some m') (hid : m'.id = m.id) (hne : a ≠ .unsubscribe m.id)
    (hreg : d.Registers n m) : d'.Registers n m' := by
  rw [Registers, hid]
  cases h with
  | same | cursorSet | dropRecorder => exact hreg
  | edited ha he => exact (registers_edited hm _ _).2 hreg
  | marked | subscribe | resubscribe => exact List.mem_append_left _ hreg
  | unsubscribe id =>
    refine List.mem_filter.2 ⟨hreg, ?_⟩
    have hother : m.id ≠ id := fun heq => hne (congrArg Action.unsubscribe heq.symm)
    simpa using hother
  | @dropMark k mk hk =>
    -- The owner has let go of another mark, since this one is still there.
    have hkn : (.mark n : Listener) ≠ .mark k := by
      intro heq
      cases heq
      obtain ⟨hget', hheld'⟩ := mark?_eq_some_iff.1 hm'
      simp only [Document.dropMark, unregister, List.getElem?_set, if_true] at hget'
      split at hget'
      · cases hget'
        cases hheld'
      · cases hget'
    have hother := hd.id_ne_of_mentions hk (r := ⟨m.id, .mark n⟩) (.inl hreg) hkn
    exact List.mem_filter.2 ⟨hreg, by simpa using hother⟩

/-- An edit that finds no calls to come takes the marks that are registered along, and no
    others. -/
theorem Registry.destination_edited (hd : d.Registry) (hidle : d.agenda = [])
    (hm : d.mark? n = some m) (e : Edit) (after : Text) :
    (d.edited e after).destination m =
      if d.Registers n m then e.remap (d.destination m) else d.destination m := by
  have hlive : (d.live.map (·.id)).Nodup := hd.nodup.sublist (d.live_sublist.map _)
  have hmem : m.id ∈ d.live.map (·.id) ↔ d.Registers n m := by
    rw [← registers_edited hm e after, List.mem_map]
    constructor
    · rintro ⟨⟨id, l⟩, hr, rfl⟩
      -- Whoever is registered under the number of the mark is the mark.
      have hget : d.markIds[n]? = some m.id := mem_markIds (mark?_eq_some_iff.1 hm).1
      have hl : l = .mark n := (hd.listener_iff _ (.inl (d.live_sublist.subset hr)) n).2 hget
      rw [hl] at hr
      exact hr
    · exact fun hreg => ⟨_, hreg, rfl⟩
  rw [destination_of_idle hidle]
  simp only [destination, Document.edited, hidle, List.append_nil, pending_round hlive]
  by_cases hreg : d.Registers n m
  · rw [if_pos (hmem.2 hreg), if_pos hreg]
    rfl
  · rw [if_neg (mt hmem.1 hreg), if_neg hreg]
    rfl

/-! ## Marks and the edits since -/

/-- A mark goes with edits from an offset on, up to the end of its registration. -/
def GoesWith (d : Document) (n : Nat) (m : Mark) (edits : List Edit) (offset : Nat) : Prop :=
  ∃ met missed, edits = met ++ missed ∧ d.destination m = Edit.remapAll met offset ∧
    (d.Registers n m → missed = [])

namespace GoesWith

variable {edits : List Edit} {offset : Nat}

theorem nil (h : d.destination m = offset) : d.GoesWith n m [] offset :=
  ⟨[], [], rfl, h, fun _ => rfl⟩

theorem stays (h : d.GoesWith n m edits offset) (hstays : Stays d m d' n m') :
    d'.GoesWith n m' edits offset := by
  obtain ⟨met, missed, hedits, hdestination, hmissed⟩ := h
  exact ⟨met, missed, hedits, hstays.destination.trans hdestination,
    fun hreg => hmissed (hstays.registers hreg)⟩

/-- One more edit is met by a mark that is registered, and missed by any other. -/
theorem edited (h : d.GoesWith n m edits offset) (hd : d.Registry) (hidle : d.agenda = [])
    (hm : d.mark? n = some m) (e : Edit) (after : Text) :
    (d.edited e after).GoesWith n m (edits ++ [e]) offset := by
  obtain ⟨met, missed, rfl, hdestination, hmissed⟩ := h
  have hedited := hd.destination_edited hidle hm e after
  by_cases hreg : d.Registers n m
  · obtain rfl := hmissed hreg
    rw [if_pos hreg, hdestination] at hedited
    refine ⟨met ++ [e], [], by simp, ?_, fun _ => rfl⟩
    rw [hedited, Edit.remapAll_concat]
  · rw [if_neg hreg] at hedited
    exact ⟨met, missed ++ [e], List.append_assoc .., hedited.trans hdestination,
      fun hreg' => absurd ((registers_edited hm e after).1 hreg') hreg⟩

/-- A registered mark has met all the edits. -/
theorem destination_eq (h : d.GoesWith n m edits offset) (hreg : d.Registers n m) :
    d.destination m = Edit.remapAll edits offset := by
  obtain ⟨met, missed, rfl, hdestination, hmissed⟩ := h
  rw [hdestination, hmissed hreg, List.append_nil]

end GoesWith
end Document
end TreeQuery
