/-
  TreeQuery.Proofs.Document.Rounds

  Rounds of calls. An edit opens a round, named by its place in the history, and every
  listener alive is told of it once. What a listener was told (`deliveries`) and what it
  still stands to be told (`pending`) make up its account, which calls do not change:
  a call only moves its first pending edit over to the deliveries.

  Rounds nest: the agenda holds the calls of later rounds before those of earlier ones.
  So once a listener is told of a round, it stands to be told of no later one that was
  open by then. `Rounds` collects these facts and `Run.rounds` proves them for every
  state of a run, listeners that edit included.
-/

import TreeQuery.Proofs.Document.Registry

namespace TreeQuery

/-! ## Reading the history and the agenda -/

/-- The edits of a history with their rounds, in the order in which they changed the text. -/
def applications (history : List Event) : List (Nat × Edit) :=
  history.zipIdx.filterMap fun
    | (.applied e, round) => some (round, e)
    | (.told .., _) => none

/-- What was told under a number, with the rounds, in the order of the calls. -/
def deliveries (id : ListenerId) (history : List Event) : List (Nat × Edit) :=
  history.filterMap fun
    | .told round id' _ e => if id' = id then some (round, e) else none
    | .applied _ => none

/-- What stands to be told under a number, with the rounds. -/
def pending (id : ListenerId) (agenda : List Task) : List (Nat × Edit) :=
  agenda.filterMap fun
    | .tell round whom e => if whom.id = id then some (round, e) else none
    | _ => none

/-- The rounds of all calls that stand on an agenda. -/
def openRounds (agenda : List Task) : List Nat :=
  agenda.filterMap fun
    | .tell round _ _ => some round
    | _ => none

theorem mem_applications_iff {history : List Event} {p : Nat × Edit} :
    p ∈ applications history ↔ history[p.1]? = some (.applied p.2) := by
  simp only [applications, List.mem_filterMap, List.mem_zipIdx_iff_getElem?]
  constructor
  · rintro ⟨⟨event, round⟩, hget, heq⟩
    cases event with
    | applied e =>
      cases heq
      exact hget
    | told => cases heq
  · intro hget
    exact ⟨(.applied p.2, p.1), hget, rfl⟩

theorem mem_deliveries_iff {id : ListenerId} {history : List Event} {p : Nat × Edit} :
    p ∈ deliveries id history ↔ ∃ l, Event.told p.1 id l p.2 ∈ history := by
  simp only [deliveries, List.mem_filterMap]
  constructor
  · rintro ⟨event, hmem, heq⟩
    cases event with
    | applied e => cases heq
    | told round id' l e =>
      by_cases hid : id' = id
      · simp only [hid, if_true, Option.some.injEq] at heq
        subst heq hid
        exact ⟨l, hmem⟩
      · simp [hid] at heq
  · rintro ⟨l, hmem⟩
    exact ⟨_, hmem, by simp⟩

theorem mem_pending_iff {id : ListenerId} {agenda : List Task} {p : Nat × Edit} :
    p ∈ pending id agenda ↔ ∃ whom, whom.id = id ∧ Task.tell p.1 whom p.2 ∈ agenda := by
  simp only [pending, List.mem_filterMap]
  constructor
  · rintro ⟨task, hmem, heq⟩
    cases task with
    | act a => cases heq
    | finish l => cases heq
    | tell round whom e =>
      by_cases hid : whom.id = id
      · simp only [hid, if_true, Option.some.injEq] at heq
        subst heq
        exact ⟨whom, hid, hmem⟩
      · simp [hid] at heq
  · rintro ⟨whom, rfl, hmem⟩
    exact ⟨_, hmem, by simp⟩

theorem mem_openRounds_iff {agenda : List Task} {round : Nat} :
    round ∈ openRounds agenda ↔ ∃ whom e, Task.tell round whom e ∈ agenda := by
  simp only [openRounds, List.mem_filterMap]
  constructor
  · rintro ⟨task, hmem, heq⟩
    cases task with
    | act a => cases heq
    | finish l => cases heq
    | tell round' whom e =>
      cases heq
      exact ⟨whom, e, hmem⟩
  · rintro ⟨whom, e, hmem⟩
    exact ⟨_, hmem, rfl⟩

/-! ### One event or one task more -/

theorem applications_concat_applied (history : List Event) (e : Edit) :
    applications (history ++ [.applied e]) = applications history ++ [(history.length, e)] := by
  simp [applications, List.zipIdx_append]

@[simp] theorem applications_concat_told (history : List Event) (round : Nat) (id : ListenerId)
    (l : Listener) (e : Edit) :
    applications (history ++ [.told round id l e]) = applications history := by
  simp [applications, List.zipIdx_append]

@[simp] theorem deliveries_concat_applied (id : ListenerId) (history : List Event) (e : Edit) :
    deliveries id (history ++ [.applied e]) = deliveries id history := by
  simp [deliveries]

theorem deliveries_concat_told (id : ListenerId) (history : List Event) (round : Nat)
    (id' : ListenerId) (l : Listener) (e : Edit) :
    deliveries id (history ++ [.told round id' l e]) =
      deliveries id history ++ if id' = id then [(round, e)] else [] := by
  rw [deliveries, List.filterMap_append]
  congr 1
  by_cases h : id' = id <;> simp [h]

theorem pending_append (id : ListenerId) (agenda more : List Task) :
    pending id (agenda ++ more) = pending id agenda ++ pending id more :=
  List.filterMap_append

theorem pending_cons_tell (id : ListenerId) (round : Nat) (whom : Registration) (e : Edit)
    (agenda : List Task) :
    pending id (.tell round whom e :: agenda) =
      (if whom.id = id then [(round, e)] else []) ++ pending id agenda := by
  by_cases h : whom.id = id <;> simp [pending, h]

theorem pending_cons_of_not_tell {t : Task} (ht : t.isTell = false) (id : ListenerId)
    (agenda : List Task) : pending id (t :: agenda) = pending id agenda := by
  cases t with
  | act a => rfl
  | finish l => rfl
  | tell => cases ht

theorem pending_append_of_not_tell {asked : List Task} (hasked : ∀ t ∈ asked, t.isTell = false)
    (id : ListenerId) (agenda : List Task) :
    pending id (asked ++ agenda) = pending id agenda := by
  induction asked with
  | nil => rfl
  | cons t asked ih =>
    obtain ⟨ht, hasked⟩ := List.forall_mem_cons.1 hasked
    rw [List.cons_append, pending_cons_of_not_tell ht, ih hasked]

theorem openRounds_append (agenda more : List Task) :
    openRounds (agenda ++ more) = openRounds agenda ++ openRounds more :=
  List.filterMap_append

theorem openRounds_of_not_tell {asked : List Task} (hasked : ∀ t ∈ asked, t.isTell = false) :
    openRounds asked = [] := by
  rw [List.eq_nil_iff_forall_not_mem]
  intro round hmem
  obtain ⟨whom, e, hmem⟩ := mem_openRounds_iff.1 hmem
  cases hasked _ hmem

theorem openRounds_append_of_not_tell {asked : List Task}
    (hasked : ∀ t ∈ asked, t.isTell = false) (agenda : List Task) :
    openRounds (asked ++ agenda) = openRounds agenda := by
  rw [openRounds_append, openRounds_of_not_tell hasked, List.nil_append]

/-- All calls of a round are of that round. -/
theorem openRounds_round (regs : List Registration) (round : Nat) (e : Edit) :
    openRounds (regs.map (.tell round · e)) = List.replicate regs.length round := by
  induction regs with
  | nil => rfl
  | cons r regs ih =>
    rw [List.map_cons, List.length_cons, List.replicate_succ, ← ih]
    rfl

/-- A round calls a listener once if it is registered, and else not at all. -/
theorem pending_round {regs : List Registration} (hregs : (regs.map (·.id)).Nodup)
    (id : ListenerId) (round : Nat) (e : Edit) :
    pending id (regs.map (.tell round · e)) =
      if id ∈ regs.map (·.id) then [(round, e)] else [] := by
  induction regs with
  | nil => rfl
  | cons r regs ih =>
    rw [List.map_cons, List.nodup_cons] at hregs
    rw [List.map_cons, pending_cons_tell, ih hregs.2]
    by_cases hid : r.id = id
    · have hnot : id ∉ regs.map (·.id) := hid ▸ hregs.1
      have hmem : id ∈ (r :: regs).map (·.id) := List.mem_cons.2 (.inl hid.symm)
      rw [if_pos hid, if_neg hnot, if_pos hmem, List.append_nil]
    · have hmem : id ∈ (r :: regs).map (·.id) ↔ id ∈ regs.map (·.id) := by
        rw [List.map_cons, List.mem_cons]
        exact or_iff_right (Ne.symm hid)
      simp only [if_neg hid, List.nil_append, hmem]

namespace Document

/-! ## Accounts -/

/-- What was told and what stands to be told under a number. -/
def account (d : Document) (id : ListenerId) : List (Nat × Edit) :=
  deliveries id d.history ++ pending id d.agenda

/-- A call moves an edit from what is pending to what was told. -/
theorem account_told {d : Document} {round : Nat} {whom : Registration} {e : Edit}
    {asked rest : List Task} (hagenda : d.agenda = .tell round whom e :: rest)
    (hasked : ∀ t ∈ asked, t.isTell = false) (id : ListenerId) :
    (d.told round whom e (asked ++ rest)).account id = d.account id := by
  have hpending := pending_append_of_not_tell hasked id rest
  rw [account, account, hagenda, pending_cons_tell, ← List.append_assoc,
    ← deliveries_concat_told id d.history round whom.id whom.listener e]
  exact congrArg _ hpending

theorem account_pop {d : Document} {t : Task} {rest : List Task} (hagenda : d.agenda = t :: rest)
    (ht : t.isTell = false) (id : ListenerId) :
    account { d with agenda := rest } id = d.account id := by
  rw [account, account, hagenda, pending_cons_of_not_tell ht]

/-- An edit comes to the accounts of all that are alive, before what is pending there. -/
theorem account_edited {d : Document} (hd : d.Registry) (e : Edit) (after : Text)
    (id : ListenerId) :
    (d.edited e after).account id =
      deliveries id d.history ++
        ((if id ∈ d.live.map (·.id) then [(d.history.length, e)] else []) ++
          pending id d.agenda) := by
  have hlive : (d.live.map (·.id)).Nodup := hd.nodup.sublist (d.live_sublist.map _)
  simp only [account, edited, deliveries_concat_applied, pending_append, pending_round hlive]

/-- So up to order an edit comes to the end of these accounts. -/
theorem account_edited_perm {d : Document} (hd : d.Registry) (e : Edit) (after : Text)
    (id : ListenerId) :
    ((d.edited e after).account id).Perm
      (d.account id ++ if id ∈ d.live.map (·.id) then [(d.history.length, e)] else []) := by
  rw [account_edited hd, account, List.append_assoc]
  exact List.Perm.append_left _ List.perm_append_comm

/-! ## Rounds -/

/-- **Rounds nest**, and every edit is told once and as it was made. -/
structure Rounds (d : Document) : Prop where
  applied : ∀ id, ∀ p ∈ d.account id, d.history[p.1]? = some (.applied p.2)
  once : ∀ id, ((d.account id).map (·.1)).Nodup
  told_after : ∀ {k round id l e}, d.history[k]? = some (Event.told round id l e) → round < k
  open_order : (openRounds d.agenda).Pairwise (· ≥ ·)
  /-- Open rounds from before a call are no later than the round of the call. -/
  open_le : ∀ {k round id l e}, d.history[k]? = some (Event.told round id l e) →
    ∀ p ∈ openRounds d.agenda, p < k → p ≤ round
  /-- Rounds of later calls that were open at a call are no later than its round. -/
  told_le : ∀ {k k' round round' id id' l l' e e'}, k < k' →
    d.history[k]? = some (Event.told round id l e) →
    d.history[k']? = some (Event.told round' id' l' e') → round' < k → round' ≤ round

/-- Every open round is a place in the history. -/
theorem Rounds.open_lt {d : Document} (h : d.Rounds) {p : Nat} (hp : p ∈ openRounds d.agenda) :
    p < d.history.length := by
  obtain ⟨whom, e, hmem⟩ := mem_openRounds_iff.1 hp
  have hpending : (p, e) ∈ pending whom.id d.agenda := mem_pending_iff.2 ⟨whom, rfl, hmem⟩
  exact (List.getElem?_eq_some_iff.1 (h.applied whom.id _ (List.mem_append_right _ hpending))).1

/-- The rounds stay in order when accounts and history stay and the agenda loses calls. -/
theorem Rounds.pop {d : Document} {t : Task} {rest : List Task} (h : d.Rounds)
    (hagenda : d.agenda = t :: rest) (ht : t.isTell = false) :
    Rounds { d with agenda := rest } := by
  have hopen : openRounds rest = openRounds d.agenda := by
    have hnone : ∀ t' ∈ [t], t'.isTell = false := by simpa using ht
    rw [hagenda, ← openRounds_append_of_not_tell hnone rest]
    rfl
  constructor
  · intro id p hp
    rw [account_pop hagenda ht] at hp
    exact h.applied id p hp
  · intro id
    rw [account_pop hagenda ht]
    exact h.once id
  · exact h.told_after
  · show (openRounds rest).Pairwise _
    rw [hopen]
    exact h.open_order
  · intro k round id l e hk p hp
    exact h.open_le hk p (hopen ▸ hp)
  · exact h.told_le

/-- A call keeps the rounds in order: its round is the first that is open. -/
theorem Rounds.told {d : Document} {round : Nat} {whom : Registration} {e : Edit}
    {asked rest : List Task} (h : d.Rounds) (hagenda : d.agenda = .tell round whom e :: rest)
    (hasked : ∀ t ∈ asked, t.isTell = false) :
    (d.told round whom e (asked ++ rest)).Rounds := by
  have hopen : openRounds d.agenda = round :: openRounds rest := by
    rw [hagenda]
    rfl
  have hround : round ∈ openRounds d.agenda := by
    rw [hopen]
    exact List.mem_cons_self
  -- The rounds that stay open are no later than the one that is called now.
  have horder := h.open_order
  rw [hopen, List.pairwise_cons] at horder
  have hrest : ∀ {p}, p ∈ openRounds (asked ++ rest) → p ∈ openRounds rest := fun hp =>
    openRounds_append_of_not_tell hasked rest ▸ hp
  have hsub : ∀ {p}, p ∈ openRounds rest → p ∈ openRounds d.agenda := fun hp => by
    rw [hopen]
    exact List.mem_cons_of_mem _ hp
  constructor
  · intro id p hp
    rw [account_told hagenda hasked] at hp
    exact getElem?_concat_eq_some_iff.2 (.inl (h.applied id p hp))
  · intro id
    rw [account_told hagenda hasked]
    exact h.once id
  · intro k round' id l e' hk
    rcases getElem?_concat_eq_some_iff.1 hk with hk | ⟨rfl, heq⟩
    · exact h.told_after hk
    · cases heq
      exact h.open_lt hround
  · show (openRounds (asked ++ rest)).Pairwise _
    rw [openRounds_append_of_not_tell hasked]
    exact horder.2
  · intro k round' id l e' hk p hp hlt
    rcases getElem?_concat_eq_some_iff.1 hk with hk | ⟨rfl, heq⟩
    · exact h.open_le hk p (hsub (hrest hp)) hlt
    · cases heq
      exact horder.1 p (hrest hp)
  · intro k k' i j id id' l l' e' e'' hkk hk hk' hlt
    rcases getElem?_concat_eq_some_iff.1 hk with hk | ⟨rfl, -⟩
    · rcases getElem?_concat_eq_some_iff.1 hk' with hk' | ⟨rfl, heq⟩
      · exact h.told_le hkk hk hk' hlt
      · -- The round of this call was open at the call before, and was not the first then.
        cases heq
        exact h.open_le hk _ hround hlt
    · have hlen := (List.getElem?_eq_some_iff.1 hk').1
      simp only [Document.told, List.length_append, List.length_singleton] at hlen
      omega

/-- An edit keeps the rounds in order: its round is later than all others. -/
theorem Rounds.edited {d : Document} (h : d.Rounds) (hd : d.Registry) (e : Edit) (after : Text) :
    (d.edited e after).Rounds := by
  have hopen : ∀ p ∈ openRounds (d.edited e after).agenda,
      p = d.history.length ∨ p ∈ openRounds d.agenda := by
    intro p hp
    simp only [Document.edited, openRounds_append, openRounds_round] at hp
    exact (List.mem_append.1 hp).imp_left List.eq_of_mem_replicate
  have hlt : ∀ {id p}, p ∈ d.account id → p.1 < d.history.length := fun hp =>
    (List.getElem?_eq_some_iff.1 (h.applied _ _ hp)).1
  -- The edit adds no call to the history, so calls in it were there before.
  have hold : ∀ {k : Nat} {event : Event}, (∀ e', event ≠ Event.applied e') →
      (d.edited e after).history[k]? = some event → d.history[k]? = some event := by
    intro k event hne hk
    rcases getElem?_concat_eq_some_iff.1 hk with hk | ⟨-, heq⟩
    · exact hk
    · exact absurd heq.symm (hne e)
  constructor
  · intro id p hp
    have hmem := (account_edited_perm hd e after id).mem_iff.1 hp
    rcases List.mem_append.1 hmem with hmem | hmem
    · exact getElem?_concat_eq_some_iff.2 (.inl (h.applied id p hmem))
    · split at hmem
      · rw [List.mem_singleton.1 hmem]
        exact getElem?_concat_eq_some_iff.2 (.inr ⟨rfl, rfl⟩)
      · cases hmem
  · intro id
    rw [((account_edited_perm hd e after id).map _).nodup_iff, List.map_append, List.nodup_append]
    refine ⟨h.once id, ?_, ?_⟩
    · split <;> simp
    · intro i hi j hj heq
      obtain ⟨p, hp, rfl⟩ := List.mem_map.1 hi
      split at hj
      · rw [List.map_singleton, List.mem_singleton] at hj
        have hplt := hlt hp
        rw [heq, hj] at hplt
        exact Nat.lt_irrefl _ hplt
      · cases hj
  · intro k round id l e' hk
    exact h.told_after (hold (fun _ h => by cases h) hk)
  · show (openRounds (d.live.map (.tell d.history.length · e) ++ d.agenda)).Pairwise _
    rw [openRounds_append, openRounds_round, List.pairwise_append]
    refine ⟨List.pairwise_replicate.2 (.inr (Nat.le_refl _)), h.open_order, fun i hi j hj => ?_⟩
    rw [List.eq_of_mem_replicate hi]
    exact Nat.le_of_lt (h.open_lt hj)
  · intro k round id l e' hk p hp hplt
    have hk := hold (fun _ h => by cases h) hk
    rcases hopen p hp with rfl | hp
    -- The new round opens after every call made so far.
    · have hlen := (List.getElem?_eq_some_iff.1 hk).1
      omega
    · exact h.open_le hk p hp hplt
  · intro k k' i j id id' l l' e' e'' hkk hk hk' hjk
    exact h.told_le hkk (hold (fun _ h => by cases h) hk) (hold (fun _ h => by cases h) hk') hjk

/-- The rounds depend on the history and the agenda only. -/
theorem Rounds.congr {d d' : Document} (h : d.Rounds) (hagenda : d'.agenda = d.agenda)
    (hhistory : d'.history = d.history) : d'.Rounds := by
  have haccount : ∀ id, d'.account id = d.account id := fun id => by
    rw [account, account, hagenda, hhistory]
  constructor
  · intro id p hp
    rw [haccount] at hp
    rw [hhistory]
    exact h.applied id p hp
  · intro id
    rw [haccount]
    exact h.once id
  · intro k round id l e hk
    exact h.told_after (hhistory ▸ hk)
  · rw [hagenda]
    exact h.open_order
  · intro k round id l e hk p hp
    rw [hhistory] at hk
    rw [hagenda] at hp
    exact h.open_le hk p hp
  · intro k k' i j id id' l l' e e' hkk hk hk'
    rw [hhistory] at hk hk'
    exact h.told_le hkk hk hk'

theorem rounds_ofText (text : Text) : (Document.ofText text).Rounds := by
  constructor
  · intro id p hp
    cases hp
  · intro id
    exact List.nodup_nil
  · intro k round id l e hk
    simp [ofText] at hk
  · exact .nil
  · intro k round id l e hk
    simp [ofText] at hk
  · intro k k' i j id id' l l' e e' hkk hk
    simp [ofText] at hk

/-- Beginning an action keeps the rounds in order. -/
theorem Rounds.effect {d d' : Document} {a : Action} {deed : Option Deed} (h : d.Rounds)
    (hd : d.Registry) (heffect : Effect d a deed d') : d'.Rounds := by
  cases heffect with
  | edited ha he => exact h.edited hd _ _
  | same | cursorSet | marked | dropMark | subscribe | resubscribe | unsubscribe | dropRecorder =>
    exact h.congr rfl rfl

end Document

open Document

/-- Rounds are in order in every state of a run, however listeners edit. -/
theorem Run.rounds {allows : Caller → List Deed → Document → Action → Prop} {text : Text}
    {deeds : List Deed} {d : Document} (h : Run allows text deeds d) : d.Rounds := by
  have hboth : d.Registry ∧ d.Rounds :=
    h.invariant (motive := fun _ d => d.Registry ∧ d.Rounds)
      ⟨registry_ofText text, rounds_ofText text⟩
      (fun hd hagenda ht => ⟨hd.1.pop hagenda, hd.2.pop hagenda ht⟩)
      (fun hd hagenda hasked => ⟨hd.1.told hagenda hasked, hd.2.told hagenda hasked⟩)
      (fun hd _ _ heffect => ⟨hd.1.effect heffect, hd.2.effect hd.1 heffect⟩)
  exact hboth.2

end TreeQuery
