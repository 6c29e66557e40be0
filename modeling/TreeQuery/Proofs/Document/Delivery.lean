/-
  TreeQuery.Proofs.Document.Delivery

  Who is told of an edit. The calls of a round are those that were made and those that
  still stand on the agenda (`Document.roundCalls`). An edit opens its round with one call
  for every registration alive at that moment (`Rounds.roundCalls_edited`), and whatever
  happens afterwards, edits and changes of the registrations from inside calls included,
  adds none to them and takes none away (`Onward.roundCalls_eq`).

  Registrations stand in the order of their numbers (`Run.registrations_pairwise`), and
  numbers are never given out twice (`Run.numbers_nodup`). To end a registration, or to
  let go of a listener or a mark, is of no consequence for the others
  (`live_filter_ends`): as long as it is not ended itself, a registration is told of every
  edit once (`Onward.account_kept`). `Run.delivered_once` puts this together.
-/

import Mathlib
import TreeQuery.Proofs.Document.Deeds
import TreeQuery.Proofs.Document.Logs

namespace TreeQuery

/-! ## The calls of a round -/

/-- The calls of a round that were made, in their order. -/
def callsOf (round : Nat) (history : List Event) : List (Registration × Edit) :=
  history.filterMap fun
    | .told round' id l e => if round' = round then some (⟨id, l⟩, e) else none
    | .applied _ => none

/-- The calls of a round that are still to be made. -/
def callsToCome (round : Nat) (agenda : List Task) : List (Registration × Edit) :=
  agenda.filterMap fun
    | .tell round' whom e => if round' = round then some (whom, e) else none
    | _ => none

@[simp] theorem callsOf_concat_applied (round : Nat) (history : List Event) (e : Edit) :
    callsOf round (history ++ [.applied e]) = callsOf round history := by
  simp [callsOf]

theorem callsOf_concat_told (round : Nat) (history : List Event) (round' : Nat)
    (whom : Registration) (e : Edit) :
    callsOf round (history ++ [.told round' whom.id whom.listener e]) =
      callsOf round history ++ if round' = round then [(whom, e)] else [] := by
  rw [callsOf, List.filterMap_append]
  congr 1
  by_cases h : round' = round <;> simp [h]

theorem callsToCome_append (round : Nat) (agenda more : List Task) :
    callsToCome round (agenda ++ more) = callsToCome round agenda ++ callsToCome round more :=
  List.filterMap_append

theorem callsToCome_cons_tell (round round' : Nat) (whom : Registration) (e : Edit)
    (agenda : List Task) :
    callsToCome round (.tell round' whom e :: agenda) =
      (if round' = round then [(whom, e)] else []) ++ callsToCome round agenda := by
  by_cases h : round' = round <;> simp [callsToCome, h]

theorem callsToCome_of_not_tell {asked : List Task} (hasked : ∀ t ∈ asked, t.isTell = false)
    (round : Nat) : callsToCome round asked = [] := by
  rw [callsToCome, List.filterMap_eq_nil_iff]
  intro t ht
  cases t with
  | tell => cases hasked _ ht
  | act | finish => rfl

/-- All calls that an edit asks for are of its round. -/
theorem callsToCome_tells (round round' : Nat) (regs : List Registration) (e : Edit) :
    callsToCome round (regs.map (.tell round' · e)) =
      if round' = round then regs.map (·, e) else [] := by
  induction regs with
  | nil => simp [callsToCome]
  | cons r regs ih =>
    rw [List.map_cons, callsToCome_cons_tell, ih]
    by_cases h : round' = round <;> simp [h]

namespace Document

variable {d d' : Document} {a : Action} {deed : Option Deed}

/-- The calls of a round: those made and those to come. -/
def roundCalls (d : Document) (round : Nat) : List (Registration × Edit) :=
  callsOf round d.history ++ callsToCome round d.agenda

theorem roundCalls_pop {t : Task} {rest : List Task} (hagenda : d.agenda = t :: rest)
    (ht : t.isTell = false) (round : Nat) :
    roundCalls { d with agenda := rest } round = d.roundCalls round := by
  have hnone : callsToCome round [t] = [] := callsToCome_of_not_tell (by simpa using ht) round
  rw [roundCalls, roundCalls, hagenda, ← List.singleton_append, callsToCome_append, hnone,
    List.nil_append]

/-- A call moves from those to come to those made. -/
theorem roundCalls_told {round' : Nat} {whom : Registration} {e : Edit} {asked rest : List Task}
    (hagenda : d.agenda = .tell round' whom e :: rest) (hasked : ∀ t ∈ asked, t.isTell = false)
    (round : Nat) : (d.told round' whom e (asked ++ rest)).roundCalls round = d.roundCalls round := by
  simp only [roundCalls, told, hagenda, callsOf_concat_told, callsToCome_append,
    callsToCome_of_not_tell hasked, callsToCome_cons_tell, List.nil_append, List.append_assoc]

/-- An action does not touch a round that is open: an edit opens a later one. -/
theorem Effect.roundCalls_eq (h : Effect d a deed d') {round : Nat}
    (hround : round < d.history.length) :
    round < d'.history.length ∧ d'.roundCalls round = d.roundCalls round := by
  rcases edited_or_ne deed with ⟨e, rfl⟩ | hedit
  · cases h with
    | edited ha he =>
      refine ⟨Nat.lt_of_lt_of_le hround (by simp [Document.edited]), ?_⟩
      simp only [roundCalls, Document.edited, callsOf_concat_applied, callsToCome_append,
        callsToCome_tells, if_neg (Nat.ne_of_gt hround), List.nil_append]
  · obtain ⟨-, hhistory, hagenda, -⟩ := h.frame hedit
    rw [roundCalls, roundCalls, hhistory, hagenda]
    exact ⟨hround, rfl⟩

/-- An edit opens its round with one call for every registration that is alive. -/
theorem Rounds.roundCalls_edited (h : d.Rounds) (e : Edit) (after : Text) :
    (d.edited e after).roundCalls d.history.length = d.live.map (·, e) := by
  -- Calls are of events before them, so none is of the event that is next.
  have hmade : callsOf d.history.length d.history = [] := by
    rw [callsOf, List.filterMap_eq_nil_iff]
    intro event hmem
    cases event with
    | applied e => rfl
    | told round id l e =>
      obtain ⟨k, hk, hget⟩ := List.getElem_of_mem hmem
      have hlt := h.told_after (List.getElem?_eq_some_iff.2 ⟨hk, hget⟩)
      exact if_neg (Nat.ne_of_lt (Nat.lt_trans hlt hk))
  have hcome : callsToCome d.history.length d.agenda = [] := by
    rw [callsToCome, List.filterMap_eq_nil_iff]
    intro t hmem
    cases t with
    | act | finish => rfl
    | tell round whom e =>
      exact if_neg (Nat.ne_of_lt (h.open_lt (mem_openRounds_iff.2 ⟨whom, e, hmem⟩)))
  simp only [roundCalls, Document.edited, callsOf_concat_applied, callsToCome_append,
    callsToCome_tells, if_pos, hmade, hcome, List.nil_append, List.append_nil]

/-- Without anything left to do, the calls of a round are made. -/
theorem roundCalls_of_idle (hidle : d.agenda = []) (round : Nat) :
    d.roundCalls round = callsOf round d.history := by
  rw [roundCalls, hidle]
  exact List.append_nil _

end Document

open Document

/-- **A round that is open stays as it is**, whatever is done. -/
theorem Onward.roundCalls_eq {allows : Caller → List Deed → Document → Action → Prop}
    {deeds₀ deeds : List Deed} {d₀ d : Document} (h : Onward allows deeds₀ d₀ deeds d)
    (hsound : Sound deeds₀ d₀) {round : Nat} (hround : round < d₀.history.length) :
    d.roundCalls round = d₀.roundCalls round := by
  have hkept : Sound deeds d ∧
      (round < d.history.length ∧ d.roundCalls round = d₀.roundCalls round) := by
    refine h.invariant hsound (motive := fun _ d => round < d.history.length ∧
      d.roundCalls round = d₀.roundCalls round) ⟨hround, rfl⟩ ?_ ?_ ?_
    · rintro deeds d t rest - ⟨hlt, heq⟩ hagenda ht
      exact ⟨hlt, (roundCalls_pop hagenda ht round).trans heq⟩
    · rintro deeds d round' whom e rest asked - ⟨hlt, heq⟩ hagenda hasked
      exact ⟨Nat.lt_of_lt_of_le hlt (by simp [told]),
        (roundCalls_told hagenda hasked round).trans heq⟩
    · rintro deeds d caller a - ⟨hlt, heq⟩ - -
      obtain ⟨hlt', heq'⟩ := (begin_effect d a).roundCalls_eq hlt
      exact ⟨hlt', heq'.trans heq⟩
  exact hkept.2.2

/-! ## Numbers -/

/-- The numbers of registrations that were answered, in order. -/
def handedOutIds (deeds : List Deed) : List ListenerId :=
  deeds.filterMap fun
    | .handedOut id => some id
    | _ => none

theorem mem_handedOutIds {deeds : List Deed} {id : ListenerId} :
    id ∈ handedOutIds deeds ↔ Deed.handedOut id ∈ deeds := by
  rw [handedOutIds, List.mem_filterMap]
  constructor
  · rintro ⟨deed, hmem, hid⟩
    cases deed with
    | handedOut id' =>
      cases hid
      exact hmem
    | edited | cursorSet | marked => cases hid
  · exact fun hmem => ⟨_, hmem, rfl⟩

namespace Run

variable {allows : Caller → List Deed → Document → Action → Prop} {text : Text}
  {deeds : List Deed} {d : Document}

/-- Registrations stand in the order of their numbers. -/
theorem registrations_pairwise (h : Run allows text deeds d) :
    d.registrations.Pairwise fun r s => r.id.number < s.id.number := by
  refine h.invariant_of_sound
    (motive := fun _ d => d.registrations.Pairwise fun r s => r.id.number < s.id.number)
    .nil (fun _ hd _ _ => hd) (fun _ hd _ _ => hd) ?_
  intro deeds d caller a deed d' hsound hd _ _ heffect
  -- The next number is greater than all that are given out.
  have hregister : ∀ l : Listener, List.Pairwise (fun r s => r.id.number < s.id.number)
      (d.registrations ++ [(⟨⟨d.issued⟩, l⟩ : Registration)]) := by
    intro l
    rw [List.pairwise_append]
    refine ⟨hd, List.pairwise_singleton _ _, fun r hr s hs => ?_⟩
    rw [List.mem_singleton.1 hs]
    exact hsound.registry.lt_issued r (.inl hr)
  cases heffect with
  | same | cursorSet | dropRecorder => exact hd
  | edited | dropMark | unsubscribe => exact hd.sublist List.filter_sublist
  | marked | subscribe | resubscribe => exact hregister _

/-- Numbers that are handed out are handed out once. -/
theorem handedOutIds_nodup (h : Run allows text deeds d) : (handedOutIds deeds).Nodup := by
  refine h.invariant_of_sound (motive := fun deeds _ => (handedOutIds deeds).Nodup) List.nodup_nil
    (fun _ hd _ _ => hd) (fun _ hd _ _ => hd) ?_
  intro deeds d caller a deed d' hsound hd _ _ heffect
  have happend : handedOutIds (deeds ++ deed.toList) =
      handedOutIds deeds ++ handedOutIds deed.toList := List.filterMap_append
  rw [happend]
  cases deed with
  | none => simpa [handedOutIds] using hd
  | some x =>
    cases x with
    | edited | cursorSet | marked => simpa [handedOutIds] using hd
    | handedOut id =>
      -- The number is the next one, and those before it are smaller.
      have hid : id = ⟨d.issued⟩ := by
        rcases heffect.numbers with ⟨-, -, hne⟩ | ⟨-, -, heq⟩ | ⟨-, -, hne⟩
        · exact absurd rfl (hne id)
        · cases heq
          rfl
        · exact absurd rfl (hne id)
      refine List.nodup_append.2 ⟨hd, List.nodup_singleton _, fun id₁ h₁ id₂ h₂ heq => ?_⟩
      have hlt := (hsound.handed id₁ (mem_handedOutIds.1 h₁)).1
      rw [heq, show id₂ = id from List.mem_singleton.1 h₂, hid] at hlt
      exact Nat.lt_irrefl _ hlt

/-- **Numbers are given out once**, to listeners and to marks. -/
theorem numbers_nodup (h : Run allows text deeds d) :
    (handedOutIds deeds ++ d.markIds).Nodup := by
  refine List.nodup_append.2 ⟨h.handedOutIds_nodup, h.registry.markIds_nodup, ?_⟩
  rintro id hid id' hid' rfl
  exact (h.sound.handed id (mem_handedOutIds.1 hid)).2 hid'

/-- A call is of an edit that was made, and tells this edit. -/
theorem applied_of_told (h : Run allows text deeds d) {round : Nat} {id : ListenerId}
    {l : Listener} {e : Edit} (htold : Event.told round id l e ∈ d.history) :
    d.history[round]? = some (.applied e) :=
  h.rounds.applied id (round, e)
    (List.mem_append_left _ (mem_deliveries_iff.2 ⟨l, htold⟩))

end Run

/-! ## Ends of registrations -/

namespace Action

/-- Whether an action ends registrations. -/
def isEnd : Action → Bool
  | unsubscribe _ | dropMark _ | dropRecorder _ => true
  | _ => false

/-- Whether an action, if it does something, ends a registration or lets go of its listener. -/
def ends : Action → Registration → Bool
  | unsubscribe id, r => r.id == id
  | dropMark n, r => r.listener == .mark n
  | dropRecorder n, r => r.listener == .recorder n
  | _, _ => false

end Action

namespace Document

variable {d d' : Document} {a : Action} {deed : Option Deed}

/-- What stands in a list still stands there when one more comes to its end. -/
theorem any_getElem?_concat {α : Type} {p : α → Bool} {l : List α} {k : Nat}
    (h : l[k]?.any p = true) (a : α) : (l ++ [a])[k]?.any p = true := by
  obtain ⟨b, hb, hp⟩ := (Option.any_eq_true p _).1 h
  rw [getElem?_concat_eq_some_iff.2 (.inl hb)]
  exact hp

/-- A change of one element that leaves a property as it is. -/
theorem any_getElem?_modify {α : Type} {p : α → Bool} {f : α → α} (hf : ∀ a, p (f a) = p a)
    (l : List α) (n k : Nat) : (l.modify n f)[k]?.any p = l[k]?.any p := by
  rw [List.getElem?_modify]
  cases l[k]? with
  | none => rfl
  | some a =>
    by_cases h : n = k
    · simp [h, hf]
    · simp [h]

/-- A call lets go of nobody. -/
theorem isHeld_told (d : Document) (round : Nat) (whom : Registration) (e : Edit)
    (agenda : List Task) (l : Listener) :
    (d.told round whom e agenda).isHeld l = d.isHeld l := by
  cases l with
  | mark k =>
    cases hl : whom.listener with
    | recorder n => simp only [isHeld, told, marksTold, hl]
    | mark n =>
      simp only [isHeld, told, marksTold, hl]
      refine any_getElem?_modify ?_ d.marks n k
      exact fun _ => rfl
  | recorder k =>
    cases hl : whom.listener with
    | mark n => simp only [isHeld, told, recordersTold, hl]
    | recorder n =>
      simp only [isHeld, told, recordersTold, hl]
      refine any_getElem?_modify ?_ d.recorders n k
      exact fun _ => rfl

theorem isHeld_marked {l : Listener} (h : d.isHeld l = true) (offset : Nat) :
    (d.marked offset).isHeld l = true := by
  cases l with
  | mark k => exact any_getElem?_concat h _
  | recorder k => exact h

theorem isHeld_subscribe {l : Listener} (h : d.isHeld l = true) (reactions : List (List Action)) :
    (d.subscribe reactions).isHeld l = true := by
  cases l with
  | mark k => exact h
  | recorder k => exact any_getElem?_concat h _

/-- Whoever lets go of a mark lets go of no other listener. -/
theorem isHeld_dropMark {n : Nat} {m : Mark} {l : Listener} (hl : l ≠ .mark n) :
    (d.dropMark n m).isHeld l = d.isHeld l := by
  cases l with
  | recorder k => rfl
  | mark k =>
    have hne : n ≠ k := fun heq => hl (heq ▸ rfl)
    simp only [isHeld, dropMark, unregister, List.getElem?_set_ne hne]

theorem isHeld_dropRecorder {n : Nat} {r : Recorder} {l : Listener} (hl : l ≠ .recorder n) :
    (d.dropRecorder n r).isHeld l = d.isHeld l := by
  cases l with
  | mark k => rfl
  | recorder k =>
    have hne : n ≠ k := fun heq => hl (heq ▸ rfl)
    simp only [isHeld, dropRecorder, List.getElem?_set_ne hne]

theorem isAlive_dropMark {n : Nat} {m : Mark} {l : Listener} (hl : l ≠ .mark n) :
    (d.dropMark n m).isAlive l = d.isAlive l := by
  rw [isAlive, isAlive, isHeld_dropMark hl]
  rfl

theorem isAlive_dropRecorder {n : Nat} {r : Recorder} {l : Listener} (hl : l ≠ .recorder n) :
    (d.dropRecorder n r).isAlive l = d.isAlive l := by
  rw [isAlive, isAlive, isHeld_dropRecorder hl]
  rfl

/-- Nobody but a mark is registered under its number. -/
theorem Registry.id_ne_of_mentions (hd : d.Registry) {n : Nat} {m : Mark}
    (hm : d.mark? n = some m) {r : Registration} (hr : d.Mentions r)
    (hl : r.listener ≠ .mark n) : r.id ≠ m.id := fun heq =>
  hl ((hd.listener_iff r hr n).2 (heq ▸ mem_markIds (mark?_eq_some_iff.1 hm).1))

/-- The end of a registration leaves the calls to come as they are, and the other registrations
    alive as they were. -/
theorem Registry.live_filter_ends (hd : d.Registry) (ha : a.isEnd = true) :
    (d.begin a).2.agenda = d.agenda ∧ (d.begin a).2.history = d.history ∧
      (d.begin a).2.live.filter (!a.ends ·) = d.live.filter (!a.ends ·) := by
  cases a with
  | replace | setCursor | createMark | restore | subscribe | resubscribe => cases ha
  | unsubscribe id =>
    refine ⟨rfl, rfl, ?_⟩
    simp only [begin, live, unregister, List.filter_filter]
    refine List.filter_congr fun r _ => ?_
    cases hid : r.id == id <;> simp [Action.ends, hid, bne, isAlive, isHeld]
  | dropMark n =>
    cases hm : d.mark? n with
    | none => simp only [begin, hm, and_self]
    | some m =>
      simp only [begin, hm]
      refine ⟨rfl, rfl, ?_⟩
      have hregistrations : (d.dropMark n m).registrations =
          d.registrations.filter (·.id != m.id) := rfl
      simp only [live, hregistrations, List.filter_filter]
      refine List.filter_congr fun r hr => ?_
      by_cases hl : r.listener = .mark n
      · simp [Action.ends, hl]
      · have hid := bne_iff_ne.2 (hd.id_ne_of_mentions hm (.inl hr) hl)
        simp [isAlive_dropMark hl, hid]
  | dropRecorder n =>
    cases hr : d.recorder? n with
    | none => simp only [begin, hr, and_self]
    | some r =>
      simp only [begin, hr]
      refine ⟨rfl, rfl, ?_⟩
      -- Its registration stays until the next edit, but is not alive any more.
      have hregistrations : (d.dropRecorder n r).registrations = d.registrations := rfl
      simp only [live, hregistrations, List.filter_filter]
      refine List.filter_congr fun s _ => ?_
      by_cases hl : s.listener = .recorder n
      · simp [Action.ends, hl]
      · simp [isAlive_dropRecorder hl]

/-- A registration whose listener is held stays, and its listener is held, unless an action
    ends it. -/
theorem Registry.kept (hd : d.Registry) (heffect : Effect d a deed d') {r : Registration}
    (hr : r ∈ d.registrations) (hheld : d.isHeld r.listener = true) (hends : a.ends r = false) :
    r ∈ d'.registrations ∧ d'.isHeld r.listener = true := by
  cases heffect with
  | same | cursorSet => exact ⟨hr, hheld⟩
  | edited ha he =>
    refine ⟨List.mem_filter.2 ⟨hr, ?_⟩, hheld⟩
    rw [isAlive, hheld, Bool.true_or]
  | resubscribe => exact ⟨List.mem_append_left _ hr, hheld⟩
  | marked => exact ⟨List.mem_append_left _ hr, isHeld_marked hheld _⟩
  | subscribe => exact ⟨List.mem_append_left _ hr, isHeld_subscribe hheld _⟩
  | unsubscribe id => exact ⟨List.mem_filter.2 ⟨hr, by simpa [Action.ends] using hends⟩, hheld⟩
  | @dropMark n m hm =>
    have hl : r.listener ≠ .mark n := by simpa [Action.ends] using hends
    have hid := hd.id_ne_of_mentions hm (.inl hr) hl
    exact ⟨List.mem_filter.2 ⟨hr, by simpa using hid⟩, (isHeld_dropMark hl).trans hheld⟩
  | @dropRecorder n s hs =>
    have hl : r.listener ≠ .recorder n := by simpa [Action.ends] using hends
    exact ⟨hr, (isHeld_dropRecorder hl).trans hheld⟩

end Document

/-- **A registration that is not ended misses no edit** and is told of each once, whatever
    becomes of the others. -/
theorem Onward.account_kept {allows : Caller → List Deed → Document → Action → Prop}
    {deeds₀ deeds : List Deed} {d₀ d : Document} {r : Registration}
    (hends : ∀ {caller deeds d a}, allows caller deeds d a → a.ends r = false)
    (hsound : Sound deeds₀ d₀) (hr : r ∈ d₀.registrations) (hheld : d₀.isHeld r.listener = true)
    (h : Onward allows deeds₀ d₀ deeds d) :
    r ∈ d.registrations ∧ d.isHeld r.listener = true ∧
      ∃ since, applications d.history = applications d₀.history ++ since ∧
        (d.account r.id).Perm (d₀.account r.id ++ since) := by
  have hkept := h.invariant hsound (motive := fun _ d => r ∈ d.registrations ∧
    d.isHeld r.listener = true ∧ ∃ since,
      applications d.history = applications d₀.history ++ since ∧
        (d.account r.id).Perm (d₀.account r.id ++ since)) ?_ ?_ ?_ ?_
  · exact hkept.2
  · exact ⟨hr, hheld, [], (List.append_nil _).symm, by rw [List.append_nil]⟩
  · rintro deeds d t rest - ⟨hr, hheld, hsince⟩ hagenda ht
    rw [account_pop hagenda ht]
    exact ⟨hr, hheld, hsince⟩
  · rintro deeds d round whom e rest asked - ⟨hr, hheld, hsince⟩ hagenda hasked
    rw [isHeld_told, account_told hagenda hasked]
    refine ⟨hr, hheld, ?_⟩
    simpa only [told, applications_concat_told] using hsince
  · rintro deeds d caller a hsound ⟨hr, hheld, since, happs, hperm⟩ - ha
    have heffect := begin_effect d a
    obtain ⟨hr', hheld'⟩ := hsound.registry.kept heffect hr hheld (hends ha)
    refine ⟨hr', hheld', ?_⟩
    generalize d.deed? a = deed, (d.begin a).2 = d' at heffect
    rcases edited_or_ne deed with ⟨e, rfl⟩ | hedit
    · cases heffect with
      | @edited a hisEdit e text' he =>
        -- The registration is alive, so the edit is entered in its account.
        have hlive : r.id ∈ d.live.map (·.id) := by
          refine List.mem_map.2 ⟨r, List.mem_filter.2 ⟨hr, ?_⟩, rfl⟩
          rw [isAlive, hheld, Bool.true_or]
        refine ⟨since ++ [(d.history.length, e)], ?_, ?_⟩
        · simp only [edited, applications_concat_applied, happs, List.append_assoc]
        · have hnew := account_edited_perm hsound.registry e text' r.id
          rw [if_pos hlive] at hnew
          rw [← List.append_assoc]
          exact hnew.trans (hperm.append_right _)
    · rw [(heffect.frame hedit).2.1, heffect.account_eq hedit]
      exact ⟨since, happs, hperm⟩

namespace Run

variable {text : Text} {deeds : List Deed} {before d : Document} {a : Action}

/-- **Each edit is told once, to the listeners of its moment.** Listeners are counted by their
    registrations; who registers twice is called for both. For every action that is begun in a
    run, by the owner or from inside a call, on a document `d`:

    * if it is an edit that succeeds, then at all times afterwards the calls of its round are a
      front of the list of all registrations alive in `d`, and when nothing is left to do they
      are this list; each call tells the edit, and the registrations stand in the order in which
      they were made, so none is called twice;
    * if it fails, it does nothing;
    * every call is of an edit that was made, and logs hold what was told;
    * no number is given out twice, to a listener or to a mark;
    * if it ends registrations, the calls to come and all other registrations alive stay;
    * a registration whose listener is held is told of every edit from then on once, until it is
      ended itself, whatever becomes of the others. -/
theorem delivered_once (h : Run Unlimited text deeds before)
    (hbegins : Begins Unlimited deeds before d a) :
    (∀ start stop new outcome, a = .replace start stop new → (d.begin a).1 = .ok outcome →
      ∀ deeds' d', Onward Unlimited (deeds ++ (d.deed? a).toList) (d.begin a).2 deeds' d' →
        let calls := d.live.map (·, (⟨start, stop - start, new.size⟩ : Edit))
        callsOf d.history.length d'.history <+: calls ∧
          (d'.agenda = [] → callsOf d.history.length d'.history = calls)) ∧
      d.live.Pairwise (fun r s => r.id.number < s.id.number) ∧
      (∀ fault, (d.begin a).1 = .error fault → (d.begin a).2 = d) ∧
      (∀ round id l e, Event.told round id l e ∈ before.history →
        before.history[round]? = some (.applied e)) ∧
      (∀ (n : Nat) (r : Recorder), before.recorders[n]? = some r →
        r.log = toldTo (.recorder n) before.history) ∧
      (handedOutIds deeds ++ before.markIds).Nodup ∧
      (a.isEnd = true → (d.begin a).2.agenda = d.agenda ∧ (d.begin a).2.history = d.history ∧
        (d.begin a).2.live.filter (!a.ends ·) = d.live.filter (!a.ends ·)) ∧
      ∀ r ∈ before.registrations, before.isHeld r.listener = true →
        ∀ deeds' d', Onward (fun _ _ _ b => b.ends r = false) deeds before deeds' d' →
          d'.agenda = [] → r ∈ d'.registrations ∧ ∃ since,
            applications d'.history = applications before.history ++ since ∧
              (deliveries r.id d'.history).Perm (before.account r.id ++ since) := by
  have hsound : Sound deeds d := hbegins.sound h.sound
  have hregistrations : d.live.Sublist before.registrations := by
    cases hbegins with
    | owner => exact before.live_sublist
    | react hagenda => exact live_sublist _
  refine ⟨?_, h.registrations_pairwise.sublist hregistrations, fun _ => begin_eq_error,
    fun _ _ _ _ => h.applied_of_told, h.logged.log_eq, h.numbers_nodup,
    hsound.registry.live_filter_ends, ?_⟩
  · rintro start stop new outcome rfl hok deeds' d' honward
    intro calls
    obtain ⟨-, front, old, back, -, -, -, hedited⟩ := begin_replace hok
    -- The calls of the round, made and to come, are those that it was opened with.
    have hcalls : d'.roundCalls d.history.length = calls := by
      refine (honward.roundCalls_eq (hsound.effect (begin_effect _ _)) ?_).trans ?_
      · rw [hedited]
        simp [edited]
      · rw [hedited]
        exact hsound.rounds.roundCalls_edited _ _
    rw [← hcalls]
    exact ⟨List.prefix_append _ _, fun hidle => (roundCalls_of_idle hidle _).symm⟩
  · intro r hr hheld deeds' d' honward hidle
    obtain ⟨hr', -, since, happs, hperm⟩ := honward.account_kept id h.sound hr hheld
    rw [account, hidle] at hperm
    refine ⟨hr', since, happs, ?_⟩
    simpa [pending] using hperm

/-- Three listeners. When it is told of an edit, the first one ends the registration of the second,
makes an edit and registers a fourth. -/
def threeListeners : Document :=
  performAll (.ofText "ab".toList)
    [.subscribe [[.unsubscribe ⟨1⟩, .insert 0 "x".toList, .subscribe []]], .subscribe [],
      .createMark 1]

/-- The three are told of an insertion, though by the end the second is not registered any more
    and there is a fourth, and though the first and the third are told of another edit in
    between. -/
theorem delivered_once_threeListeners :
    ∃ deeds, Run Unlimited "ab".toList deeds threeListeners ∧
      Begins Unlimited deeds threeListeners threeListeners (.insert 0 "y".toList) ∧
      (threeListeners.begin (.insert 0 "y".toList)).1 = .ok .done ∧
      callsOf 0 (threeListeners.perform (.insert 0 "y".toList)).2.history =
        [(⟨⟨0⟩, .recorder 0⟩, ⟨0, 0, 1⟩), (⟨⟨1⟩, .recorder 1⟩, ⟨0, 0, 1⟩),
          (⟨⟨2⟩, .mark 0⟩, ⟨0, 0, 1⟩)] ∧
      (threeListeners.perform (.insert 0 "y".toList)).2.live.map (·.id) = [⟨0⟩, ⟨2⟩, ⟨3⟩] := by
  have hstart : Run Unlimited "ab".toList _ _ := .start
  obtain ⟨deeds, hrun, hidle⟩ : ∃ deeds, Run Unlimited "ab".toList deeds threeListeners ∧
      threeListeners.agenda = [] := by
    obtain ⟨more, hmore⟩ := exists_performAll hstart rfl _
    exact ⟨_, hmore⟩
  have hbegins : Begins Unlimited deeds threeListeners threeListeners (.insert 0 "y".toList) :=
    .owner hidle trivial
  have hok : (threeListeners.begin (.insert 0 "y".toList)).1 = .ok .done := by cbv
  obtain ⟨more, honward, hend⟩ :=
    Onward.exists_settle _ (threeListeners.begin (.insert 0 "y".toList)).2
  obtain ⟨hcalls, -⟩ := delivered_once hrun hbegins
  obtain ⟨-, hcalls⟩ := hcalls 0 0 _ _ rfl hok _ _ honward
  refine ⟨_, hrun, hbegins, hok, ?_, by cbv⟩
  have hround : threeListeners.history.length = 0 := by cbv
  have hlive : threeListeners.live =
      [⟨⟨0⟩, .recorder 0⟩, ⟨⟨1⟩, .recorder 1⟩, ⟨⟨2⟩, .mark 0⟩] := by cbv
  rw [hround, hlive] at hcalls
  exact hcalls hend

end Run
end TreeQuery
