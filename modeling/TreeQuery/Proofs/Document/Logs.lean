/-
  TreeQuery.Proofs.Document.Logs

  The logs of recorders. The history says whom a call told of what; a recorder's log is
  the list of what it was told (`Run.logged`). So what the history says of deliveries can
  be read off the logs.
-/

import TreeQuery.Proofs.Document.Registry

namespace TreeQuery

/-- The edits that a listener was told of, under any number, in the order of the calls. -/
def toldTo (l : Listener) (history : List Event) : List Edit :=
  history.filterMap fun
    | .told _ _ l' e => if l' = l then some e else none
    | .applied _ => none

@[simp] theorem toldTo_concat_applied (l : Listener) (history : List Event) (e : Edit) :
    toldTo l (history ++ [.applied e]) = toldTo l history := by
  simp [toldTo]

theorem toldTo_concat_told (l : Listener) (history : List Event) (round : Nat)
    (id : ListenerId) (l' : Listener) (e : Edit) :
    toldTo l (history ++ [.told round id l' e]) =
      toldTo l history ++ if l' = l then [e] else [] := by
  rw [toldTo, List.filterMap_append]
  congr 1
  by_cases h : l' = l <;> simp [h]

namespace Document

variable {d d' : Document}

/-- Every recorder that is told of edits was made, and its log is what it was told. -/
structure Logged (d : Document) : Prop where
  mentioned : ∀ r, d.Mentions r → ∀ n, r.listener = .recorder n → n < d.recorders.length
  unmade : ∀ n, d.recorders.length ≤ n → toldTo (.recorder n) d.history = []
  log_eq : ∀ (n : Nat) (r : Recorder), d.recorders[n]? = some r →
    r.log = toldTo (.recorder n) d.history

theorem length_recordersTold (d : Document) (l : Listener) (e : Edit) :
    (d.recordersTold l e).length = d.recorders.length := by
  cases l with
  | mark n => rfl
  | recorder n => exact List.length_modify ..

/-- What a call does to a recorder: it writes the log of the one that is told. -/
theorem recorder_told {round : Nat} {whom : Registration} {e : Edit} {agenda : List Task}
    {n : Nat} {r' : Recorder} (hr' : (d.told round whom e agenda).recorders[n]? = some r') :
    ∃ r : Recorder, d.recorders[n]? = some r ∧
      r'.log = r.log ++ if whom.listener = .recorder n then [e] else [] := by
  simp only [told] at hr'
  cases hl : whom.listener with
  | mark k =>
    rw [hl] at hr'
    exact ⟨r', hr', by simp⟩
  | recorder k =>
    rw [hl, recordersTold, List.getElem?_modify] at hr'
    obtain ⟨r, hr, rfl⟩ := Option.map_eq_some_iff.1 hr'
    refine ⟨r, hr, ?_⟩
    by_cases hk : k = n <;> simp [hk]

/-- What an action does to recorders: it may make one, and writes no log. -/
theorem Effect.recorders {a : Action} {deed : Option Deed} (h : Effect d a deed d') :
    (∀ l, toldTo l d'.history = toldTo l d.history) ∧
      d.recorders.length ≤ d'.recorders.length ∧
      (∀ r, d'.Mentions r →
        d.Mentions r ∨ ∀ n, r.listener = .recorder n → n < d'.recorders.length) ∧
      ∀ (n : Nat) (r' : Recorder), d'.recorders[n]? = some r' →
        (∃ r : Recorder, d.recorders[n]? = some r ∧ r'.log = r.log) ∨
          n = d.recorders.length ∧ r'.log = [] := by
  have hsame : ∀ (n : Nat) (r' : Recorder), d.recorders[n]? = some r' →
      (∃ r : Recorder, d.recorders[n]? = some r ∧ r'.log = r.log) ∨
        n = d.recorders.length ∧ r'.log = [] := fun n r' hr' => .inl ⟨r', hr', rfl⟩
  have hregister : ∀ {l : Listener} {r : Registration},
      (r ∈ d.registrations ++ [⟨⟨d.issued⟩, l⟩] ∨ ∃ round e, Task.tell round r e ∈ d.agenda) →
        d.Mentions r ∨ r.listener = l := by
    rintro l r (hr | hr)
    · rcases List.mem_append.1 hr with hr | hr
      · exact .inl (.inl hr)
      · rw [List.mem_singleton.1 hr]
        exact .inr rfl
    · exact .inl (.inr hr)
  cases h with
  | same | cursorSet => exact ⟨fun _ => rfl, Nat.le_refl _, fun _ => .inl, hsame⟩
  | edited ha he =>
    refine ⟨fun l => ?_, Nat.le_refl _, fun _ hr => .inl (mentions_of_edited hr), hsame⟩
    exact toldTo_concat_applied l d.history _
  | unsubscribe | dropMark =>
    refine ⟨fun _ => rfl, Nat.le_refl _, fun r hr => .inl ?_, hsame⟩
    exact hr.imp_left fun hmem => (List.mem_filter.1 hmem).1
  | marked =>
    refine ⟨fun _ => rfl, Nat.le_refl _, fun r hr => (hregister hr).imp_right ?_, hsame⟩
    rintro hl n hn
    rw [hl] at hn
    cases hn
  | @resubscribe a k r hk =>
    refine ⟨fun _ => rfl, Nat.le_refl _, fun r hr => (hregister hr).imp_right ?_, hsame⟩
    rintro hl n hn
    rw [hl] at hn
    cases hn
    exact (List.getElem?_eq_some_iff.1 (Option.filter_eq_some_iff.1 hk).1).1
  | subscribe a reactions =>
    have hlength : (d.subscribe reactions).recorders.length = d.recorders.length + 1 :=
      List.length_append
    refine ⟨fun _ => rfl, ?_, fun r hr => (hregister hr).imp_right ?_, fun n r' hr' => ?_⟩
    · rw [hlength]
      exact Nat.le_succ _
    · rintro hl n hn
      rw [hl] at hn
      cases hn
      rw [hlength]
      exact Nat.lt_succ_self _
    · rcases getElem?_concat_eq_some_iff.1 hr' with hr | ⟨hn, rfl⟩
      · exact .inl ⟨r', hr, rfl⟩
      · exact .inr ⟨hn, rfl⟩
  | @dropRecorder k r hk =>
    obtain ⟨hget, -⟩ := Option.filter_eq_some_iff.1 hk
    have hlength : (d.dropRecorder k r).recorders.length = d.recorders.length :=
      List.length_set ..
    refine ⟨fun _ => rfl, Nat.le_of_eq hlength.symm, fun _ => .inl, fun n r' hr' => .inl ?_⟩
    simp only [Document.dropRecorder, List.getElem?_set] at hr'
    split at hr'
    · next hkn =>
      subst hkn
      split at hr'
      · cases hr'
        exact ⟨r, hget, rfl⟩
      · cases hr'
    · exact ⟨r', hr', rfl⟩

theorem Logged.pop {t : Task} {rest : List Task} (h : d.Logged) (hagenda : d.agenda = t :: rest) :
    Logged { d with agenda := rest } := by
  refine ⟨fun r hr => h.mentioned r (hr.imp_right ?_), h.unmade, h.log_eq⟩
  rintro ⟨round, e, hmem⟩
  refine ⟨round, e, ?_⟩
  rw [hagenda]
  exact List.mem_cons_of_mem _ hmem

theorem Logged.told {round : Nat} {whom : Registration} {e : Edit} {asked rest : List Task}
    (h : d.Logged) (hagenda : d.agenda = .tell round whom e :: rest)
    (hasked : ∀ t ∈ asked, t.isTell = false) :
    (d.told round whom e (asked ++ rest)).Logged := by
  have hlength : (d.told round whom e (asked ++ rest)).recorders.length = d.recorders.length :=
    length_recordersTold d whom.listener e
  have hwhom : d.Mentions whom := .inr ⟨round, e, by rw [hagenda]; exact List.mem_cons_self⟩
  constructor
  · intro r hr n hn
    rw [hlength]
    exact h.mentioned r (mentions_of_told hagenda hasked hr) n hn
  · intro n hn
    rw [hlength] at hn
    -- A recorder that is still to be made is on nobody's list.
    have hne : ¬ whom.listener = .recorder n := fun hl =>
      Nat.not_lt.2 hn (h.mentioned whom hwhom n hl)
    simp only [Document.told, toldTo_concat_told, if_neg hne, List.append_nil]
    exact h.unmade n hn
  · intro n r' hr'
    obtain ⟨r, hr, hlog⟩ := recorder_told hr'
    rw [hlog, h.log_eq n r hr]
    simp only [Document.told, toldTo_concat_told]

theorem Logged.effect {a : Action} {deed : Option Deed} (h : d.Logged)
    (heffect : Effect d a deed d') : d'.Logged := by
  obtain ⟨htold, hlength, hmentions, hrecorders⟩ := heffect.recorders
  constructor
  · intro r hr n hn
    rcases hmentions r hr with hr | hr
    · exact Nat.lt_of_lt_of_le (h.mentioned r hr n hn) hlength
    · exact hr n hn
  · intro n hn
    rw [htold]
    exact h.unmade n (Nat.le_trans hlength hn)
  · intro n r' hr'
    rw [htold]
    rcases hrecorders n r' hr' with ⟨r, hr, hlog⟩ | ⟨rfl, hlog⟩
    · rw [hlog, h.log_eq n r hr]
    · rw [hlog, h.unmade _ (Nat.le_refl _)]

theorem logged_ofText (text : Text) : (Document.ofText text).Logged := by
  refine ⟨?_, fun _ _ => rfl, fun n r hr => ?_⟩
  · rintro r (hr | ⟨round, e, hr⟩) <;> cases hr
  · simp [ofText] at hr

end Document

open Document

/-- **Logs are what was told**, in every state of a run. -/
theorem Run.logged {allows : Caller → List Deed → Document → Action → Prop} {text : Text}
    {deeds : List Deed} {d : Document} (h : Run allows text deeds d) : d.Logged :=
  h.invariant (motive := fun _ d => d.Logged) (logged_ofText text)
    (fun hd hagenda _ => hd.pop hagenda) (fun hd hagenda hasked => hd.told hagenda hasked)
    fun hd _ _ heffect => hd.effect heffect

end TreeQuery
