/-
  TreeQuery.Proofs.Document.Order

  In which order listeners learn of edits. A listener is told of rounds in the order in
  which the edits changed the text, unless it is *overtaken*: an edit is made while the
  listener has still to be told of an earlier one, and it is told of the later edit too.
  Only a listener that edits from inside a call brings this about
  (`Run.not_overtaken_of_quiet`).

  A mark is what it was told: its offset went with its deliveries, in their order
  (`Run.marksFollow`). A mark that was not overtaken agrees with the cursor, which always
  goes with the edits in the order in which they were made; `Run.deliveries_in_order_iff`
  puts this together.
-/

import Mathlib
import TreeQuery.Proofs.Document.Deeds
import TreeQuery.Proofs.Document.Logs

namespace TreeQuery

/-- A listener was told of a round, under a number, after a later one was opened, and was told
    of the later one as well. -/
def Overtaken (id : ListenerId) (history : List Event) : Prop :=
  ∃ i j k l e, i < j ∧ j < k ∧ history[k]? = some (.told i id l e) ∧
    ∃ e', (j, e') ∈ deliveries id history

/-! ## Rounds of edits -/

theorem applications_round_lt {history : List Event} {p : Nat × Edit}
    (hp : p ∈ applications history) : p.1 < history.length :=
  (List.getElem?_eq_some_iff.1 (mem_applications_iff.1 hp)).1

/-- Edits are listed by round. -/
theorem applications_pairwise (history : List Event) :
    (applications history).Pairwise fun p q => p.1 < q.1 := by
  induction history using List.reverseRecOn with
  | nil => exact .nil
  | append_singleton history event ih =>
    cases event with
    | told round id l e =>
      rw [applications_concat_told]
      exact ih
    | applied e =>
      rw [applications_concat_applied, List.pairwise_append]
      refine ⟨ih, List.pairwise_singleton _ _, fun p hp q hq => ?_⟩
      rw [List.mem_singleton.1 hq]
      exact applications_round_lt hp

/-- Lists by round, without repetition, are the same when they have the same elements. -/
theorem eq_of_perm_of_rounds_lt {ps qs : List (Nat × Edit)} (hperm : ps.Perm qs)
    (hps : ps.Pairwise fun p q => p.1 < q.1) (hqs : qs.Pairwise fun p q => p.1 < q.1) :
    ps = qs :=
  hperm.eq_of_pairwise (fun _ _ _ _ h h' => absurd h' (Nat.lt_asymm h)) hps hqs

namespace Document

variable {d : Document} {id : ListenerId}

/-- Deliveries by round are a part of the edits, in their order. -/
theorem Rounds.deliveries_sublist (h : d.Rounds)
    (hlt : (deliveries id d.history).Pairwise fun p q => p.1 < q.1) :
    (deliveries id d.history).Sublist (applications d.history) := by
  have hantisymm : Std.Antisymm fun p q : Nat × Edit => p.1 < q.1 :=
    ⟨fun _ _ h h' => absurd h' (Nat.lt_asymm h)⟩
  refine List.sublist_of_subperm_of_pairwise ?_ hlt (applications_pairwise d.history)
  refine List.subperm_of_subset (hlt.imp fun hpq heq => ?_) fun p hp => ?_
  · rw [heq] at hpq
    exact Nat.lt_irrefl _ hpq
  · exact mem_applications_iff.2 (h.applied id p (List.mem_append_left _ hp))

/-- A listener that is not overtaken is told of rounds one after the other. -/
theorem Rounds.deliveries_pairwise (h : d.Rounds) (hnot : ¬ Overtaken id d.history) :
    (deliveries id d.history).Pairwise fun p q => p.1 < q.1 := by
  have honce : (deliveries id d.history).Pairwise fun p q => p.1 ≠ q.1 := by
    have hnodup := h.once id
    rw [account, List.map_append] at hnodup
    exact List.pairwise_map.1 (List.nodup_append.1 hnodup).1
  -- No round comes twice, so it is enough that they do not go back.
  have hle : (deliveries id d.history).Pairwise fun p q => p.1 ≤ q.1 := by
    rw [deliveries, List.pairwise_filterMap, List.pairwise_iff_getElem]
    intro k k' hk hk' hkk p hp q hq
    have hget := List.getElem?_eq_getElem hk
    have hget' := List.getElem?_eq_getElem hk'
    cases hevent : d.history[k] with
    | applied e => simp [hevent] at hp
    | told i id₁ l e =>
      cases hevent' : d.history[k'] with
      | applied e => simp [hevent'] at hq
      | told j id₂ l' e' =>
        simp only [hevent, hevent', Option.ite_none_right_eq_some, Option.some.injEq] at hp hq
        obtain ⟨rfl, rfl⟩ := hp
        obtain ⟨rfl, rfl⟩ := hq
        rw [hevent] at hget
        rw [hevent'] at hget'
        refine Nat.not_lt.1 fun hlt => hnot ?_
        -- The later round was told first, so it was open before the call for the earlier one.
        have hik := h.told_after hget
        exact ⟨j, i, k', l', e', hlt, hik.trans hkk, hget', e,
          mem_deliveries_iff.2 ⟨l, List.mem_of_getElem? hget⟩⟩
  exact (hle.and honce).imp fun hpq => Nat.lt_of_le_of_ne hpq.1 hpq.2

/-- A listener that is told of rounds one after the other is not overtaken. -/
theorem Rounds.not_overtaken (h : d.Rounds)
    (hlt : (deliveries id d.history).Pairwise fun p q => p.1 < q.1) :
    ¬ Overtaken id d.history := by
  rintro ⟨i, j, k, l, e, hij, hjk, hget, e', hmem⟩
  obtain ⟨l', hmem⟩ := mem_deliveries_iff.1 hmem
  obtain ⟨k', hk', hget'⟩ := List.getElem_of_mem hmem
  have hsome := List.getElem?_eq_some_iff.2 ⟨hk', hget'⟩
  obtain ⟨hk, hgetk⟩ := List.getElem?_eq_some_iff.1 hget
  rw [deliveries, List.pairwise_filterMap, List.pairwise_iff_getElem] at hlt
  rcases Nat.lt_trichotomy k' k with hkk | rfl | hkk
  -- The call for the later round came first, against the order of the deliveries.
  · have hji : j < i := hlt k' k hk' hk hkk (j, e') (by simp [hget']) (i, e) (by simp [hgetk])
    omega
  · rw [hsome] at hget
    cases hget
    exact Nat.lt_irrefl _ hij
  -- It came second, though its round was open at the call for the earlier one.
  · have hji := h.told_le hkk hget hsome hjk
    omega

/-- **The order of calls.** What a listener is told is a part of the edits in their order
    exactly when it is not overtaken. -/
theorem Rounds.deliveries_sublist_iff (h : d.Rounds) (id : ListenerId) :
    (deliveries id d.history).Sublist (applications d.history) ↔ ¬ Overtaken id d.history :=
  ⟨fun hsub => h.not_overtaken ((applications_pairwise d.history).sublist hsub),
    fun hnot => h.deliveries_sublist (h.deliveries_pairwise hnot)⟩

/-! ## What marks were told -/

/-- Every mark stands where its deliveries took it. -/
def MarksFollow (deeds : List Deed) (d : Document) : Prop :=
  ∀ n o after (m : Mark), Deed.marked n o :: after <:+ deeds → d.marks[n]? = some m →
    m.offset = Edit.remapAll ((deliveries m.id d.history).map (·.2)) o

/-- A number that is not given out yet has an empty account. -/
theorem Registry.account_next (hd : d.Registry) : d.account ⟨d.issued⟩ = [] := by
  rw [List.eq_nil_iff_forall_not_mem]
  intro p hp
  rcases List.mem_append.1 hp with hp | hp
  · obtain ⟨l, hmem⟩ := mem_deliveries_iff.1 hp
    exact Nat.lt_irrefl _ (hd.told_lt_issued _ _ _ _ hmem)
  · obtain ⟨whom, hwhom, hmem⟩ := mem_pending_iff.1 hp
    exact hd.next_ne_of_mentions (.inr ⟨p.1, p.2, hmem⟩) hwhom

/-- What a call does to a mark: it moves the mark if it is made under the mark's number. -/
theorem Registry.mark_told (hd : d.Registry) {round : Nat} {whom : Registration} {e : Edit}
    {rest agenda : List Task} (hagenda : d.agenda = .tell round whom e :: rest) {n : Nat}
    {m' : Mark} (hm' : (d.told round whom e agenda).marks[n]? = some m') :
    ∃ m : Mark, d.marks[n]? = some m ∧ m'.id = m.id ∧ m'.held = m.held ∧
      m'.offset = if whom.id = m.id then e.remap m.offset else m.offset := by
  have hmentions : d.Mentions whom := .inr ⟨round, e, by rw [hagenda]; exact List.mem_cons_self⟩
  -- Numbers of marks are not shared, so a call is for this mark just when its number is.
  have hlistener : ∀ {m : Mark}, d.marks[n]? = some m →
      (whom.listener = .mark n ↔ whom.id = m.id) := fun hm => by
    rw [hd.listener_iff whom hmentions n, mem_markIds hm, Option.some.injEq, eq_comm]
  simp only [Document.told] at hm'
  cases hl : whom.listener with
  | recorder k =>
    rw [hl] at hm'
    have hne : ¬ whom.id = m'.id := fun heq => by
      rw [← hlistener hm', hl] at heq
      cases heq
    exact ⟨m', hm', rfl, rfl, (if_neg hne).symm⟩
  | mark k =>
    rw [hl, marksTold, List.getElem?_modify] at hm'
    obtain ⟨m, hm, rfl⟩ := Option.map_eq_some_iff.1 hm'
    have hiff : whom.id = m.id ↔ k = n := by rw [← hlistener hm, hl, Listener.mark.injEq]
    refine ⟨m, hm, ?_⟩
    by_cases hk : k = n
    · rw [if_pos hk, if_pos (hiff.2 hk)]
      exact ⟨rfl, rfl, rfl⟩
    · rw [if_neg hk, if_neg (mt hiff.1 hk)]
      exact ⟨rfl, rfl, rfl⟩

end Document

open Document

/-- What came since a mark was made, after one more action: the action, or nothing if it made
    the mark. -/
theorem marked_suffix_cases {deeds : List Deed} {deed : Option Deed} {n o : Nat}
    {after : List Deed} (h : Deed.marked n o :: after <:+ deeds ++ deed.toList) :
    (after = [] ∧ deed = some (.marked n o)) ∨
      ∃ since, after = since ++ deed.toList ∧ Deed.marked n o :: since <:+ deeds := by
  cases deed with
  | none =>
    rw [Option.toList_none, List.append_nil] at h
    exact .inr ⟨after, (List.append_nil after).symm, h⟩
  | some x =>
    rcases cons_suffix_concat_iff.1 h with ⟨rfl, rfl⟩ | hsince
    · exact .inl ⟨rfl, rfl⟩
    · exact .inr hsince

/-- A mark under an action: it is the new one, or it was there before. -/
theorem Document.Effect.mark_since {d d' : Document} {a : Action} {deed : Option Deed}
    {deeds : List Deed} (heffect : Effect d a deed d') (hd : Sound deeds d) {n o : Nat}
    {after : List Deed} {m' : Mark} (hsince : Deed.marked n o :: after <:+ deeds ++ deed.toList)
    (hm' : d'.marks[n]? = some m') :
    (after = [] ∧ deed = some (.marked n o) ∧ d' = d.marked o ∧ m' = ⟨o, ⟨d.issued⟩, true⟩) ∨
      ∃ (since : List Deed) (m : Mark), after = since ++ deed.toList ∧
        Deed.marked n o :: since <:+ deeds ∧ d.marks[n]? = some m ∧ m'.id = m.id ∧
        m'.offset = m.offset ∧ (m'.held = true → m.held = true) := by
  rcases marked_suffix_cases hsince with ⟨rfl, rfl⟩ | ⟨since, rfl, hprior⟩
  · rcases heffect.marks_cases with ⟨o', heq, rfl⟩ | ⟨hne, -⟩
    · cases heq
      refine .inl ⟨rfl, rfl, rfl, ?_⟩
      simpa [Document.marked, register, eq_comm] using hm'
    · exact absurd rfl (hne n o)
  · have hn : n < d.marks.length := (hd.made n).1 ⟨o, hprior.subset List.mem_cons_self⟩
    refine .inr ⟨since, ?_⟩
    rcases heffect.marks_cases with ⟨o', rfl, rfl⟩ | ⟨-, -, hmarks⟩
    · have hm : d.marks[n]? = some m' := by
        rw [← hm']
        exact (List.getElem?_append_left hn).symm
      exact ⟨m', rfl, hprior, hm, rfl, rfl, fun hheld => hheld⟩
    · obtain ⟨m, hm, hid, hoffset, hheld⟩ := hmarks n m' hm'
      exact ⟨m, rfl, hprior, hm, hid, hoffset, hheld⟩

namespace Run

variable {allows : Caller → List Deed → Document → Action → Prop} {text : Text}
  {deeds : List Deed} {d : Document}

/-- **Marks go with what they are told.** -/
theorem marksFollow (h : Run allows text deeds d) : MarksFollow deeds d := by
  refine h.invariant_of_sound ?_ (fun _ hd _ _ => hd) ?_ ?_
  · intro n o after m _ hm
    simp [ofText] at hm
  · intro deeds d round whom e rest asked hsound hd hagenda _ n o after m' hsince hm'
    obtain ⟨m, hm, hid, -, hoffset⟩ := hsound.registry.mark_told hagenda hm'
    rw [hid, hoffset]
    simp only [Document.told, deliveries_concat_told]
    by_cases hwhom : whom.id = m.id
    · rw [if_pos hwhom, if_pos hwhom, List.map_append, List.map_singleton,
        Edit.remapAll_concat, ← hd n o after m hsince hm]
    · rw [if_neg hwhom, if_neg hwhom, List.append_nil]
      exact hd n o after m hsince hm
  · intro deeds d caller a deed d' hsound hd _ _ heffect n o after m' hsince hm'
    rcases heffect.mark_since hsound hsince hm' with
      ⟨-, -, rfl, rfl⟩ | ⟨since, m, rfl, hprior, hm, hid, hoffset, -⟩
    · have hnil := List.append_eq_nil_iff.1 hsound.registry.account_next
      simp only [Document.marked, register, hnil.1]
      rfl
    · rw [hid, hoffset, hd n o since m hprior hm]
      rcases edited_or_ne deed with ⟨e, rfl⟩ | hedit
      · cases heffect with
        | edited ha he => simp only [Document.edited, deliveries_concat_applied]
      · rw [(heffect.frame hedit).2.1]

/-- The account of a mark that is registered holds the edits since the mark was made. -/
def AccountsComplete (deeds : List Deed) (d : Document) : Prop :=
  ∀ n o after (m : Mark), Deed.marked n o :: after <:+ deeds → d.marks[n]? = some m →
    ⟨m.id, .mark n⟩ ∈ d.registrations →
    ∃ old since, applications d.history = old ++ since ∧ since.map (·.2) = editsOf after ∧
      (d.account m.id).Perm since

/-- **Registered marks miss no edit.** -/
theorem accountsComplete (h : Run allows text deeds d) : AccountsComplete deeds d := by
  refine h.invariant_of_sound ?_ ?_ ?_ ?_
  · intro n o after m _ hm
    simp [ofText] at hm
  · intro deeds d t rest _ hd hagenda ht n o after m hsince hm hreg
    rw [account_pop hagenda ht]
    exact hd n o after m hsince hm hreg
  · intro deeds d round whom e rest asked hsound hd hagenda hasked n o after m' hsince hm' hreg
    obtain ⟨m, hm, hid, -⟩ := hsound.registry.mark_told hagenda hm'
    rw [hid] at hreg ⊢
    rw [account_told hagenda hasked]
    simp only [Document.told, applications_concat_told]
    exact hd n o after m hsince hm hreg
  · intro deeds d caller a deed d' hsound hd _ _ heffect n o after m' hsince hm' hreg
    rcases heffect.mark_since hsound hsince hm' with
      ⟨rfl, rfl, rfl, rfl⟩ | ⟨since', m, rfl, hprior, hm, hid, -, -⟩
    -- A new mark has no edits since, and its number was in no account.
    · have hnil : (d.marked o).account ⟨d.issued⟩ = [] :=
        (heffect.account_eq (fun e heq => by cases heq) _).trans hsound.registry.account_next
      exact ⟨applications d.history, [], (List.append_nil _).symm, rfl, by rw [hnil]⟩
    · rw [hid] at hreg ⊢
      rcases edited_or_ne deed with ⟨e, rfl⟩ | hedit
      · cases heffect with
        | @edited a hisEdit e text' he =>
          obtain ⟨old, since, happs, hedits, hperm⟩ :=
            hd n o since' m hprior hm (d.live_sublist.subset hreg)
          -- What is registered after an edit was alive at it, so the round calls it.
          have hlive : m.id ∈ d.live.map (·.id) := List.mem_map.2 ⟨_, hreg, rfl⟩
          refine ⟨old, since ++ [(d.history.length, e)], ?_, ?_, ?_⟩
          · simp only [Document.edited, applications_concat_applied, happs, List.append_assoc]
          · rw [List.map_append, hedits]
            exact (editsOf_concat_edited since' e).symm
          · have hnew := account_edited_perm hsound.registry e text' m.id
            rw [if_pos hlive] at hnew
            exact hnew.trans (hperm.append_right _)
      · obtain ⟨-, hhistory, -, hregs⟩ := heffect.frame hedit
        -- A registration that is new has a number that no mark before it has.
        have hreg' : ⟨m.id, .mark n⟩ ∈ d.registrations := by
          rcases hregs _ hreg with hreg | hnext
          · exact hreg
          · have hlt := hsound.registry.markIds_lt_issued _ (List.mem_of_getElem? (mem_markIds hm))
            rw [show m.id = ⟨d.issued⟩ from hnext] at hlt
            exact absurd hlt (Nat.lt_irrefl _)
        rw [hhistory, heffect.account_eq hedit, editsOf_append_toList hedit]
        exact hd n o since' m hprior hm hreg'

/-- A mark with a sorted account has the edits since it was made in its account, in order. -/
theorem map_account_eq_editsOf (h : Run allows text deeds d) {n o : Nat} {after : List Deed}
    {m : Mark} (hsince : Deed.marked n o :: after <:+ deeds) (hm : d.marks[n]? = some m)
    (hreg : ⟨m.id, .mark n⟩ ∈ d.registrations)
    (hlt : (d.account m.id).Pairwise fun p q => p.1 < q.1) :
    (d.account m.id).map (·.2) = editsOf after := by
  obtain ⟨old, since, happs, hedits, hperm⟩ := h.accountsComplete n o after m hsince hm hreg
  -- The account and the edits since hold the same, and both go by round.
  have hsorted := applications_pairwise d.history
  rw [happs, List.pairwise_append] at hsorted
  rw [eq_of_perm_of_rounds_lt hperm hlt hsorted.2.1, hedits]

/-! ## Listeners that make no edits -/

/-- Listeners make no edits from inside calls. -/
def QuietListeners (allows : Caller → List Deed → Document → Action → Prop) : Prop :=
  ∀ {deeds d a}, allows .listener deeds d a → a.isEdit = false

/-- Then only the owner edits, and it acts when nothing is left to do. -/
theorem QuietListeners.idle_of_isEdit (hquiet : QuietListeners allows) {caller : Caller}
    {a : Action} (hcaller : caller = .owner → d.agenda = []) (ha : allows caller deeds d a)
    (hedit : a.isEdit = true) : d.agenda = [] := by
  cases caller with
  | owner => exact hcaller rfl
  | listener =>
    rw [hquiet ha] at hedit
    cases hedit

/-- When listeners make no edits, every edit finds the calls of all edits before it made, and
    accounts stay in the order of the rounds. -/
theorem account_pairwise_of_quiet (h : Run allows text deeds d) (hquiet : QuietListeners allows) :
    ∀ id, (d.account id).Pairwise fun p q => p.1 < q.1 := by
  refine h.invariant_of_sound (motive := fun _ d => ∀ id, (d.account id).Pairwise fun p q => p.1 < q.1)
    (fun _ => .nil) ?_ ?_ ?_
  · intro deeds d t rest _ hd hagenda ht id
    rw [account_pop hagenda ht]
    exact hd id
  · intro deeds d round whom e rest asked _ hd hagenda hasked id
    rw [account_told hagenda hasked]
    exact hd id
  · intro deeds d caller a deed d' hsound hd hcaller ha heffect id
    rcases edited_or_ne deed with ⟨e, rfl⟩ | hedit
    · cases heffect with
      | @edited a hisEdit e text' he =>
        have hidle := hquiet.idle_of_isEdit hcaller ha hisEdit
        have hnew := account_edited hsound.registry e text' id
        rw [hidle] at hnew
        have hold := hd id
        rw [account, hidle] at hold
        rw [hnew]
        simp only [pending, List.filterMap_nil, List.append_nil] at hold ⊢
        rw [List.pairwise_append]
        refine ⟨hold, by split <;> simp, fun p hp q hq => ?_⟩
        split at hq
        · rw [List.mem_singleton.1 hq]
          exact applications_round_lt (mem_applications_iff.2
            (hsound.rounds.applied id p (List.mem_append_left _ hp)))
        · cases hq
    · rw [heffect.account_eq hedit]
      exact hd id

/-- Listeners that make no edits overtake nobody. -/
theorem not_overtaken_of_quiet (h : Run allows text deeds d) (hquiet : QuietListeners allows)
    (id : ListenerId) : ¬ Overtaken id d.history := by
  have hlt := h.account_pairwise_of_quiet hquiet id
  rw [account, List.pairwise_append] at hlt
  exact h.rounds.not_overtaken hlt.1

/-! ## The order of edits -/

/-- **When listeners learn of edits in order.** However listeners edit from inside calls:

    * what is told under a number is a part of the edits, in the order in which they changed
      the text, exactly when the listener is not overtaken, and logs hold what was told;
    * the cursor goes with all edits in this order, and a mark with those it was told of in
      the order of the calls;
    * between actions, a registered mark that was not overtaken stands where the edits took
      it in the order in which they were made. -/
theorem deliveries_in_order_iff (h : Run allows text deeds d) :
    (∀ id, (deliveries id d.history).Sublist (applications d.history) ↔
        ¬ Overtaken id d.history) ∧
      (∀ (n : Nat) (r : Recorder), d.recorders[n]? = some r →
        r.log = toldTo (.recorder n) d.history) ∧
      CursorFollows deeds d ∧ MarksFollow deeds d ∧
      ∀ n o after (m : Mark), Deed.marked n o :: after <:+ deeds → d.marks[n]? = some m →
        d.agenda = [] → ⟨m.id, .mark n⟩ ∈ d.registrations → ¬ Overtaken m.id d.history →
        m.offset = Edit.remapAll (editsOf after) o := by
  refine ⟨h.rounds.deliveries_sublist_iff, h.logged.log_eq, h.cursorFollows, h.marksFollow, ?_⟩
  intro n o after m hsince hm hidle hreg hnot
  have haccount : d.account m.id = deliveries m.id d.history := by
    rw [account, hidle]
    exact List.append_nil _
  have hlt := h.rounds.deliveries_pairwise hnot
  rw [← haccount] at hlt
  rw [h.marksFollow n o after m hsince hm, ← haccount,
    h.map_account_eq_editsOf hsince hm hreg hlt]

/-- An edit from inside a call, told to two more listeners before the edit around it. -/
def overtaking : Document :=
  performAll (.ofText "abcdef".toList)
    [.subscribe [[.insert 1 "zz".toList]], .subscribe [], .createMark 3, .setCursor 3,
      .remove 0 2]

/-- The second recorder and the mark are told of the inner edit first. -/
theorem overtaking_eq :
    overtaking.buffer = ⟨"czzdef".toList, 1⟩ ∧ overtaking.marks = [⟨3, ⟨2⟩, true⟩] ∧
      overtaking.recorders.map (·.log) =
        [[⟨0, 2, 0⟩, ⟨1, 0, 2⟩], [⟨1, 0, 2⟩, ⟨0, 2, 0⟩]] ∧
      overtaking.history =
        [.applied ⟨0, 2, 0⟩, .told 0 ⟨0⟩ (.recorder 0) ⟨0, 2, 0⟩, .applied ⟨1, 0, 2⟩,
          .told 2 ⟨0⟩ (.recorder 0) ⟨1, 0, 2⟩, .told 2 ⟨1⟩ (.recorder 1) ⟨1, 0, 2⟩,
          .told 2 ⟨2⟩ (.mark 0) ⟨1, 0, 2⟩, .told 0 ⟨1⟩ (.recorder 1) ⟨0, 2, 0⟩,
          .told 0 ⟨2⟩ (.mark 0) ⟨0, 2, 0⟩] := by
  refine ⟨?_, ?_, ?_, ?_⟩ <;> cbv

/-- The run that does this. -/
theorem exists_overtaking :
    ∃ deeds, Run Unlimited "abcdef".toList deeds overtaking ∧ overtaking.agenda = [] := by
  have hstart : Run Unlimited "abcdef".toList _ _ := .start
  obtain ⟨more, hrun, hidle⟩ := exists_performAll hstart rfl _
  exact ⟨_, hrun, hidle⟩

/-- Here the recorder that edits learns of both edits in order, and the one after it is
    overtaken. -/
theorem overtaken_second :
    ∃ deeds, Run Unlimited "abcdef".toList deeds overtaking ∧
      ¬ Overtaken ⟨0⟩ overtaking.history ∧ Overtaken ⟨1⟩ overtaking.history := by
  obtain ⟨deeds, hrun, -⟩ := exists_overtaking
  have horder := (deliveries_in_order_iff hrun).1
  obtain ⟨-, -, -, hhistory⟩ := overtaking_eq
  refine ⟨deeds, hrun, (horder ⟨0⟩).1 ?_, by_contra fun hnot => ?_⟩
  · rw [hhistory]
    decide
  · have hsub := (horder ⟨1⟩).2 hnot
    rw [hhistory] at hsub
    revert hsub
    decide

/-- It learns of the edits against their order, and the mark made at 3 is left there, while
    the cursor, which was set to 3 as well, has gone to 1. -/
theorem order_fails_overtaking :
    ∃ deeds, Run Unlimited "abcdef".toList deeds overtaking ∧ overtaking.agenda = [] ∧
      ¬ (deliveries ⟨1⟩ overtaking.history).Sublist (applications overtaking.history) ∧
      overtaking.recorders.map (·.log) =
        [[⟨0, 2, 0⟩, ⟨1, 0, 2⟩], [⟨1, 0, 2⟩, ⟨0, 2, 0⟩]] ∧
      overtaking.marks = [⟨3, ⟨2⟩, true⟩] ∧ overtaking.buffer.cursor = 1 := by
  obtain ⟨deeds, hrun, hidle⟩ := exists_overtaking
  obtain ⟨hbuffer, hmarks, hlogs, hhistory⟩ := overtaking_eq
  refine ⟨deeds, hrun, hidle, ?_, hlogs, hmarks, by rw [hbuffer]⟩
  rw [hhistory]
  decide

end Run
end TreeQuery
