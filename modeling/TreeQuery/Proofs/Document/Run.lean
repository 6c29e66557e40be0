/-
  TreeQuery.Proofs.Document.Run

  Runs of a document in small steps. The owner of a document begins actions while nothing
  is left to do; the actions on the agenda are begun for the listeners that asked for them,
  and may be edits too. A run lists what was done (`Deed`), so that a later offset can be
  compared with the edits since it was set.

  * `Document.begin_effect` says all that beginning an action can do.
  * `Document.step_tell` says what telling a listener does.
  * `Run.invariant` is the induction over a run: what starts out true and is kept when a
    task is taken, a listener is told or an action is begun is true throughout.
  * `Onward` leads from one state of a run to a later one (`Run.onward`).
  * `Run.exists_perform` places what `Document.perform` reaches among the runs.
-/

import Mathlib.Data.List.Basic
import TreeQuery.Document.Basic
import TreeQuery.Proofs.Document.Buffer

namespace TreeQuery

/-! ## Edits one after the other -/

/-- Where an offset goes when edits are made one after the other. -/
def Edit.remapAll (edits : List Edit) (offset : Nat) : Nat :=
  edits.foldl (fun p e => e.remap p) offset

@[simp] theorem Edit.remapAll_nil (offset : Nat) : remapAll [] offset = offset := rfl

theorem Edit.remapAll_append (edits more : List Edit) (offset : Nat) :
    remapAll (edits ++ more) offset = remapAll more (remapAll edits offset) :=
  List.foldl_append

@[simp] theorem Edit.remapAll_concat (edits : List Edit) (e : Edit) (offset : Nat) :
    remapAll (edits ++ [e]) offset = e.remap (remapAll edits offset) := by
  rw [remapAll_append]
  rfl

/-- Whether an action changes the text when it succeeds. -/
def Action.isEdit : Action → Bool
  | .replace .. => true
  | _ => false

/-- Whether a task tells a listener of an edit. -/
def Task.isTell : Task → Bool
  | .tell .. => true
  | _ => false

/-- Something that was done with a document. -/
inductive Deed where
  | edited (edit : Edit)
  /-- The cursor was set, by itself or to a mark. -/
  | cursorSet (offset : Nat)
  | marked (mark : Nat) (offset : Nat)
  /-- A registration was made and its number answered. -/
  | handedOut (id : ListenerId)

/-- The edits among deeds, in order. -/
def editsOf (deeds : List Deed) : List Edit :=
  deeds.filterMap fun
    | .edited e => some e
    | _ => none

@[simp] theorem editsOf_nil : editsOf [] = [] := rfl

theorem editsOf_append (deeds more : List Deed) :
    editsOf (deeds ++ more) = editsOf deeds ++ editsOf more :=
  List.filterMap_append

@[simp] theorem editsOf_concat_edited (deeds : List Deed) (e : Edit) :
    editsOf (deeds ++ [.edited e]) = editsOf deeds ++ [e] :=
  editsOf_append deeds [.edited e]

/-- A deed that is no edit adds no edit. -/
theorem editsOf_concat_of_ne {deed : Deed} (h : ∀ e, deed ≠ .edited e) (deeds : List Deed) :
    editsOf (deeds ++ [deed]) = editsOf deeds := by
  rw [editsOf_append]
  cases deed with
  | edited e => exact absurd rfl (h e)
  | cursorSet o => exact List.append_nil _
  | marked n o => exact List.append_nil _
  | handedOut id => exact List.append_nil _

/-- What came since a deed, when one more was done: nothing if it is the last one. -/
theorem cons_suffix_concat_iff {α : Type} {x y : α} {after deeds : List α} :
    (x :: after) <:+ deeds ++ [y] ↔
      (after = [] ∧ x = y) ∨ ∃ since, after = since ++ [y] ∧ (x :: since) <:+ deeds := by
  rw [List.suffix_concat_iff]
  constructor
  · rintro (h | ⟨front, heq, hfront⟩)
    · cases h
    · cases front with
      | nil =>
        obtain ⟨rfl, rfl⟩ := List.cons.inj heq
        exact .inl ⟨rfl, rfl⟩
      | cons z front =>
        obtain ⟨rfl, rfl⟩ := List.cons.inj heq
        exact .inr ⟨front, rfl, hfront⟩
  · rintro (⟨rfl, rfl⟩ | ⟨since, rfl, h⟩)
    · exact .inr ⟨[], rfl, List.nil_suffix⟩
    · exact .inr ⟨x :: since, rfl, h⟩

namespace Document

/-! ## Beginning an action -/

/-- What an action does to a document when it is begun, as far as its answer tells. -/
def deed? (d : Document) (a : Action) : Option Deed :=
  match a, (d.begin a).1 with
  | .replace start stop text, .ok _ => some (.edited ⟨start, stop - start, text.size⟩)
  | .setCursor offset, .ok _ => some (.cursorSet offset)
  | .restore n, .ok _ =>
    (d.mark? n).bind fun m =>
      if d.buffer.text.isBoundary m.offset then some (.cursorSet m.offset) else none
  | .createMark offset, .ok (.mark n) => some (.marked n offset)
  | _, .ok (.listener id) => some (.handedOut id)
  | _, _ => none

/-- A document after an edit: the listeners alive stay, and stand to be told of it. -/
def edited (d : Document) (e : Edit) (after : Text) : Document :=
  { d with
    buffer := ⟨after, e.remap d.buffer.cursor⟩
    registrations := d.live
    agenda := d.live.map (.tell d.history.length · e) ++ d.agenda
    history := d.history ++ [.applied e] }

/-- A document with its cursor set. -/
def atCursor (d : Document) (offset : Nat) : Document :=
  { d with buffer := { d.buffer with cursor := offset } }

/-- A document with one more mark, which is registered. -/
def marked (d : Document) (offset : Nat) : Document :=
  let marked : Document := { d with marks := d.marks ++ [⟨offset, ⟨d.issued⟩, true⟩] }
  marked.register (.mark d.marks.length)

/-- All that beginning an action can do to a document. -/
inductive Effect (d : Document) : Action → Option Deed → Document → Prop
  /-- The action failed, or there was nothing to do. -/
  | same (a : Action) : Effect d a none d
  | edited {a : Action} (ha : a.isEdit = true) {e : Edit} {after : Text}
      (he : e.Replaces d.buffer.text after) :
      Effect d a (some (.edited e)) (d.edited e after)
  | cursorSet (a : Action) {offset : Nat} (ho : d.buffer.text.isBoundary offset = true) :
      Effect d a (some (.cursorSet offset)) (d.atCursor offset)
  | marked (a : Action) {offset : Nat} (ho : d.buffer.text.isBoundary offset = true) :
      Effect d a (some (.marked d.marks.length offset)) (d.marked offset)
  | dropMark {n : Nat} {m : Mark} (hm : d.mark? n = some m) :
      Effect d (.dropMark n) none (d.dropMark n m)
  | subscribe (a : Action) (reactions : List (List Action)) :
      Effect d a (some (.handedOut ⟨d.issued⟩)) (d.subscribe reactions)
  | resubscribe (a : Action) {n : Nat} {r : Recorder} (hr : d.recorder? n = some r) :
      Effect d a (some (.handedOut ⟨d.issued⟩)) (d.register (.recorder n))
  | unsubscribe (id : ListenerId) : Effect d (.unsubscribe id) none (d.unregister id)
  | dropRecorder {n : Nat} {r : Recorder} (hr : d.recorder? n = some r) :
      Effect d (.dropRecorder n) none (d.dropRecorder n r)

theorem replace_effect (d : Document) (start stop : Nat) (text : Text) :
    Effect d (.replace start stop text) (d.deed? (.replace start stop text))
      (d.begin (.replace start stop text)).2 := by
  unfold deed?
  simp only [begin, replace]
  cases h : d.buffer.replace start stop text with
  | error fault => exact .same _
  | ok result =>
    obtain ⟨buffer, e⟩ := result
    obtain ⟨front, old, back, htext, rfl, rfl, rfl, rfl⟩ := Buffer.replace_eq_ok_iff.1 h
    simp only [answer, Nat.add_sub_cancel_left]
    exact .edited rfl ⟨front, old, text, back, htext, rfl, rfl⟩

/-- A replacement that succeeds is an edit, and the edit is the one that its range and its text
say. -/
theorem begin_replace {d : Document} {start stop : Nat} {text : Text} {outcome : Outcome}
    (h : (d.begin (.replace start stop text)).1 = .ok outcome) :
    let e : Edit := ⟨start, stop - start, text.size⟩
    d.deed? (.replace start stop text) = some (.edited e) ∧
      ∃ front old back, d.buffer.text = front ++ old ++ back ∧ front.size = start ∧
        start + old.size = stop ∧
        (d.begin (.replace start stop text)).2 = d.edited e (front ++ text ++ back) := by
  unfold deed?
  simp only [begin, replace] at h ⊢
  cases hreplace : d.buffer.replace start stop text with
  | error fault =>
    rw [hreplace] at h
    cases h
  | ok result =>
    obtain ⟨buffer, e⟩ := result
    obtain ⟨front, old, back, htext, rfl, rfl, rfl, rfl⟩ := Buffer.replace_eq_ok_iff.1 hreplace
    simp only [answer, Nat.add_sub_cancel_left]
    exact ⟨trivial, front, old, back, htext, rfl, rfl, rfl⟩

theorem setCursor_effect (d : Document) (offset : Nat) :
    Effect d (.setCursor offset) (d.deed? (.setCursor offset))
      (d.begin (.setCursor offset)).2 := by
  unfold deed?
  simp only [begin, setCursor]
  cases h : d.buffer.setCursor offset with
  | error fault => exact .same _
  | ok buffer =>
    obtain ⟨ho, rfl⟩ := Buffer.setCursor_eq_ok_iff.1 h
    exact .cursorSet _ ho

theorem createMark_effect (d : Document) (offset : Nat) :
    Effect d (.createMark offset) (d.deed? (.createMark offset))
      (d.begin (.createMark offset)).2 := by
  unfold deed?
  simp only [begin, createMark]
  cases h : d.buffer.checkOffset offset with
  | error fault => exact .same _
  | ok _ => exact .marked _ (Buffer.checkOffset_eq_ok_iff.1 h)

/-- A mark on a boundary is restored; any other is not. -/
theorem restore_eq (d : Document) (m : Mark) :
    d.restore m = if d.buffer.text.isBoundary m.offset then d.atCursor m.offset else d := by
  unfold restore setCursor
  cases h : d.buffer.setCursor m.offset with
  | error fault =>
    have hno : ¬ d.buffer.text.isBoundary m.offset = true := fun ho => by
      rw [Buffer.setCursor_eq_ok_iff.2 ⟨ho, rfl⟩] at h
      cases h
    rw [if_neg hno]
  | ok buffer =>
    obtain ⟨ho, rfl⟩ := Buffer.setCursor_eq_ok_iff.1 h
    rw [if_pos ho]
    rfl

theorem restore_effect (d : Document) (n : Nat) :
    Effect d (.restore n) (d.deed? (.restore n)) (d.begin (.restore n)).2 := by
  cases hm : d.mark? n with
  | none =>
    unfold deed?
    simp only [begin, hm]
    exact .same _
  | some m =>
    unfold deed?
    simp only [begin, hm, Option.bind_some, restore_eq]
    by_cases ho : d.buffer.text.isBoundary m.offset = true
    · rw [if_pos ho, if_pos ho]
      exact .cursorSet _ ho
    · rw [if_neg ho, if_neg ho]
      exact .same _

/-- **What an action can do.** Beginning an action has one of the listed effects, and its
    answer tells which deed it was. -/
theorem begin_effect (d : Document) (a : Action) : Effect d a (d.deed? a) (d.begin a).2 := by
  cases a with
  | replace start stop text => exact replace_effect d start stop text
  | setCursor offset => exact setCursor_effect d offset
  | createMark offset => exact createMark_effect d offset
  | restore n => exact restore_effect d n
  | dropMark n =>
    cases hm : d.mark? n with
    | none =>
      unfold deed?
      simp only [begin, hm]
      exact .same _
    | some m =>
      unfold deed?
      simp only [begin, hm]
      exact .dropMark hm
  | subscribe reactions => exact .subscribe _ reactions
  | resubscribe n =>
    cases hr : d.recorder? n with
    | none =>
      unfold deed?
      simp only [begin, hr]
      exact .same _
    | some r =>
      unfold deed?
      simp only [begin, hr]
      exact .resubscribe _ hr
  | unsubscribe id => exact .unsubscribe id
  | dropRecorder n =>
    cases hr : d.recorder? n with
    | none =>
      unfold deed?
      simp only [begin, hr]
      exact .same _
    | some r =>
      unfold deed?
      simp only [begin, hr]
      exact .dropRecorder hr

theorem answer_eq_error {d : Document} {outcome : Outcome} {r : Except DocumentError Document}
    {fault : ActionFault} (h : (d.answer outcome r).1 = .error fault) :
    (d.answer outcome r).2 = d := by
  cases r with
  | error e => rfl
  | ok d' => cases h

/-- An action that fails does nothing. -/
theorem begin_eq_error {d : Document} {a : Action} {fault : ActionFault}
    (h : (d.begin a).1 = .error fault) : (d.begin a).2 = d := by
  cases a with
  | replace | setCursor | createMark => exact answer_eq_error h
  | subscribe | unsubscribe => cases h
  | restore n | dropMark n =>
    cases hm : d.mark? n with
    | none => simp only [begin, hm]
    | some m =>
      simp only [begin, hm] at h
      cases h
  | resubscribe n | dropRecorder n =>
    cases hr : d.recorder? n with
    | none => simp only [begin, hr]
    | some r =>
      simp only [begin, hr] at h
      cases h

/-! ## Telling a listener -/

/-- The marks after a listener was told of an edit. -/
def marksTold (d : Document) (whom : Listener) (e : Edit) : List Mark :=
  match whom with
  | .mark n => d.marks.modify n fun m => { m with offset := e.remap m.offset }
  | .recorder _ => d.marks

/-- The recorders after a listener was told of an edit. -/
def recordersTold (d : Document) (whom : Listener) (e : Edit) : List Recorder :=
  match whom with
  | .mark _ => d.recorders
  | .recorder n =>
    d.recorders.modify n fun r => { r with log := r.log ++ [e], reactions := r.reactions.tail }

/-- A document after a listener was told of an edit, with what the listener asks for in front
    of the rest of the agenda. -/
def told (d : Document) (round : Nat) (whom : Registration) (e : Edit) (agenda : List Task) :
    Document :=
  { d with
    marks := d.marksTold whom.listener e
    recorders := d.recordersTold whom.listener e
    agenda := agenda
    history := d.history ++ [.told round whom.id whom.listener e] }

/-- Telling a listener writes the history, changes the listener alone, and asks for no more
    calls by itself. -/
theorem step_tell (d : Document) (round : Nat) (whom : Registration) (e : Edit) (rest : List Task) :
    ∃ asked, (∀ t ∈ asked, t.isTell = false) ∧
      step { d with agenda := rest } (.tell round whom e) = d.told round whom e (asked ++ rest) := by
  obtain ⟨id, listener⟩ := whom
  cases listener with
  | mark n => exact ⟨[], by simp, rfl⟩
  | recorder n =>
    simp only [step, notifyRecorder]
    cases hr : d.recorders[n]? with
    | none =>
      refine ⟨[], by simp, ?_⟩
      rw [told, recordersTold, List.modify_eq_self (List.getElem?_eq_none_iff.1 hr)]
      rfl
    | some r =>
      refine ⟨(r.reactions.head?.getD []).map .act ++ [.finish (.recorder n)], ?_, ?_⟩
      · intro t ht
        rcases List.mem_append.1 ht with ht | ht
        · obtain ⟨a, -, rfl⟩ := List.mem_map.1 ht
          rfl
        · rw [List.mem_singleton.1 ht]
          rfl
      · rw [told, recordersTold, List.modify_eq_set_getElem?, hr, List.append_assoc]
        rfl

/-- Carries out actions one after the other, each to its end. -/
def performAll (d : Document) (actions : List Action) : Document :=
  actions.foldl (fun d a => (d.perform a).2) d

end Document

/-! ## Runs -/

/-- Who begins an action. -/
inductive Caller where
  | owner
  | listener
  deriving DecidableEq

open Document

/-- The states that a document can be in, with what was done to get there; `allows` limits
    the actions that are begun. A new document has its cursor at 0. -/
inductive Run (allows : Caller → List Deed → Document → Action → Prop) (text : Text) :
    List Deed → Document → Prop
  | start : Run allows text [.cursorSet 0] (.ofText text)
  /-- The owner begins an action when nothing is left to do. -/
  | owner {deeds d a} (h : Run allows text deeds d) (hidle : d.agenda = [])
      (ha : allows .owner deeds d a) :
      Run allows text (deeds ++ (d.deed? a).toList) (d.begin a).2
  /-- An action that a listener asked for is begun. -/
  | react {deeds d a rest} (h : Run allows text deeds d) (hagenda : d.agenda = .act a :: rest)
      (ha : allows .listener deeds { d with agenda := rest } a) :
      Run allows text (deeds ++ (deed? { d with agenda := rest } a).toList)
        (begin { d with agenda := rest } a).2
  | tell {deeds d round whom e rest} (h : Run allows text deeds d)
      (hagenda : d.agenda = .tell round whom e :: rest) :
      Run allows text deeds (step { d with agenda := rest } (.tell round whom e))
  | finish {deeds d l rest} (h : Run allows text deeds d) (hagenda : d.agenda = .finish l :: rest) :
      Run allows text deeds { d with agenda := rest }

/-- An action is begun on a document: by the owner when nothing is left to do, or because it is
the first thing to do, and then on the document with the rest of the agenda. -/
inductive Begins (allows : Caller → List Deed → Document → Action → Prop) (deeds : List Deed)
    (before : Document) : Document → Action → Prop
  | owner {a} (hidle : before.agenda = []) (ha : allows .owner deeds before a) :
      Begins allows deeds before before a
  | react {a rest} (hagenda : before.agenda = .act a :: rest)
      (ha : allows .listener deeds { before with agenda := rest } a) :
      Begins allows deeds before { before with agenda := rest } a

/-- One step from a state of a run to the next. -/
inductive Turn (allows : Caller → List Deed → Document → Action → Prop) :
    List Deed → Document → List Deed → Document → Prop
  | act {deeds before d a} (h : Begins allows deeds before d a) :
      Turn allows deeds before (deeds ++ (d.deed? a).toList) (d.begin a).2
  | tell {deeds d round whom e rest} (hagenda : d.agenda = .tell round whom e :: rest) :
      Turn allows deeds d deeds (step { d with agenda := rest } (.tell round whom e))
  | finish {deeds d l rest} (hagenda : d.agenda = .finish l :: rest) :
      Turn allows deeds d deeds { d with agenda := rest }

/-- The later states of a run that is at some document, with all that was done by then. -/
inductive Onward (allows : Caller → List Deed → Document → Action → Prop) (deeds₀ : List Deed)
    (d₀ : Document) : List Deed → Document → Prop
  | refl : Onward allows deeds₀ d₀ deeds₀ d₀
  | turn {deeds d deeds' d'} (h : Onward allows deeds₀ d₀ deeds d)
      (hturn : Turn allows deeds d deeds' d') : Onward allows deeds₀ d₀ deeds' d'

namespace Run

variable {allows : Caller → List Deed → Document → Action → Prop} {text : Text}
  {deeds : List Deed} {d : Document}

/-- **Induction over a run.** An invariant has to be kept when a task that tells nobody is
    taken from the agenda, when a listener is told, and when an action is begun; for the
    owner this is only when nothing is left to do. -/
theorem invariant {motive : List Deed → Document → Prop}
    (start : motive [.cursorSet 0] (.ofText text))
    (pop : ∀ {deeds d t rest}, motive deeds d → d.agenda = t :: rest → t.isTell = false →
      motive deeds { d with agenda := rest })
    (tell : ∀ {deeds d round whom e rest asked}, motive deeds d →
      d.agenda = .tell round whom e :: rest → (∀ t ∈ asked, t.isTell = false) →
      motive deeds (d.told round whom e (asked ++ rest)))
    (act : ∀ {deeds d caller a deed d'}, motive deeds d → (caller = .owner → d.agenda = []) →
      allows caller deeds d a → Effect d a deed d' → motive (deeds ++ deed.toList) d')
    (h : Run allows text deeds d) : motive deeds d := by
  induction h with
  | start => exact start
  | owner h hidle ha ih => exact act ih (fun _ => hidle) ha (begin_effect _ _)
  | react h hagenda ha ih =>
    have hpopped := pop ih hagenda rfl
    exact act hpopped (fun h => by cases h) ha (begin_effect _ _)
  | @tell deeds d round whom e rest h hagenda ih =>
    obtain ⟨asked, hasked, hstep⟩ := step_tell d round whom e rest
    rw [hstep]
    exact tell ih hagenda hasked
  | finish h hagenda ih => exact pop ih hagenda rfl

/-! ## Later states -/

theorem begun {before : Document} {a : Action} (h : Run allows text deeds before)
    (hbegins : Begins allows deeds before d a) :
    Run allows text (deeds ++ (d.deed? a).toList) (d.begin a).2 := by
  cases hbegins with
  | owner hidle ha => exact .owner h hidle ha
  | react hagenda ha => exact .react h hagenda ha

/-- What comes later in a run is a state of the run. -/
theorem onward {deeds₀ : List Deed} {d₀ : Document} (h₀ : Run allows text deeds₀ d₀)
    (h : Onward allows deeds₀ d₀ deeds d) : Run allows text deeds d := by
  induction h with
  | refl => exact h₀
  | turn _ hturn ih =>
    cases hturn with
    | act hbegins => exact ih.begun hbegins
    | tell hagenda => exact .tell ih hagenda
    | finish hagenda => exact .finish ih hagenda

end Run

theorem Onward.trans {allows : Caller → List Deed → Document → Action → Prop}
    {deeds₀ deeds₁ deeds : List Deed} {d₀ d₁ d : Document}
    (h₀ : Onward allows deeds₀ d₀ deeds₁ d₁) (h : Onward allows deeds₁ d₁ deeds d) :
    Onward allows deeds₀ d₀ deeds d := by
  induction h with
  | refl => exact h₀
  | turn _ hturn ih => exact ih.turn hturn

/-- What is allowed may be allowed by a wider rule. -/
theorem Onward.mono {allows allows' : Caller → List Deed → Document → Action → Prop}
    (hle : ∀ {caller deeds d a}, allows caller deeds d a → allows' caller deeds d a)
    {deeds₀ deeds : List Deed} {d₀ d : Document} (h : Onward allows deeds₀ d₀ deeds d) :
    Onward allows' deeds₀ d₀ deeds d := by
  induction h with
  | refl => exact .refl
  | turn _ hturn ih =>
    refine .turn ih ?_
    cases hturn with
    | act hbegins =>
      cases hbegins with
      | owner hidle ha => exact .act (.owner hidle (hle ha))
      | react hagenda ha => exact .act (.react hagenda (hle ha))
    | tell hagenda => exact .tell hagenda
    | finish hagenda => exact .finish hagenda

/-! ## Actions to their end -/

/-- Everything is allowed. -/
abbrev Unlimited : Caller → List Deed → Document → Action → Prop := fun _ _ _ _ => True

/-- The first task is carried out. -/
theorem Document.settle_of_agenda {d : Document} {t : Task} {rest : List Task}
    (hagenda : d.agenda = t :: rest) : d.settle = (step { d with agenda := rest } t).settle := by
  rw [settle]
  split
  · next hnil =>
    rw [hagenda] at hnil
    cases hnil
  · next hcons =>
    rw [hagenda] at hcons
    cases hcons
    rfl

theorem Document.settle_of_idle {d : Document} (hidle : d.agenda = []) : d.settle = d := by
  rw [settle]
  split
  · rfl
  · next hcons =>
    rw [hidle] at hcons
    cases hcons

/-- A document that settles goes on until nothing is left to do. -/
theorem Onward.exists_settle (deeds : List Deed) (d : Document) :
    ∃ more, Onward Unlimited deeds d (deeds ++ more) d.settle ∧ d.settle.agenda = [] := by
  induction d using Document.settle.induct generalizing deeds with
  | case1 d hidle =>
    rw [settle_of_idle hidle]
    exact ⟨[], by rw [List.append_nil]; exact .refl, hidle⟩
  | case2 d t rest hagenda ih =>
    -- The next task is a step of the run, and the induction goes on from there.
    obtain ⟨more, hturn⟩ : ∃ more,
        Turn Unlimited deeds d (deeds ++ more) (step { d with agenda := rest } t) := by
      cases t with
      | act a => exact ⟨_, .act (.react hagenda trivial)⟩
      | tell round whom e => exact ⟨[], by rw [List.append_nil]; exact .tell hagenda⟩
      | finish l => exact ⟨[], by rw [List.append_nil]; exact .finish hagenda⟩
    obtain ⟨last, hlast, hidle⟩ := ih (deeds ++ more)
    rw [settle_of_agenda hagenda]
    refine ⟨more ++ last, ?_, hidle⟩
    rw [← List.append_assoc]
    exact (Onward.refl.turn hturn).trans hlast

namespace Run

variable {text : Text} {deeds : List Deed} {d : Document}

/-- A document that settles runs on until nothing is left to do. -/
theorem exists_settle (h : Run Unlimited text deeds d) :
    ∃ more, Run Unlimited text (deeds ++ more) d.settle ∧ d.settle.agenda = [] := by
  obtain ⟨more, hmore, hidle⟩ := Onward.exists_settle deeds d
  exact ⟨more, h.onward hmore, hidle⟩

/-- What an owner's action leads to, with all calls of listeners and their reactions, is
    reached by a run. -/
theorem exists_perform (h : Run Unlimited text deeds d) (hidle : d.agenda = []) (a : Action) :
    ∃ more, Run Unlimited text (deeds ++ more) (d.perform a).2 ∧ (d.perform a).2.agenda = [] := by
  obtain ⟨more, hmore, hend⟩ := exists_settle (.owner h hidle trivial : Run Unlimited text _ (d.begin a).2)
  exact ⟨(d.deed? a).toList ++ more, by rwa [← List.append_assoc], hend⟩

/-- What actions of the owner lead to, one after the other, is reached by a run. -/
theorem exists_performAll (h : Run Unlimited text deeds d) (hidle : d.agenda = [])
    (actions : List Action) :
    ∃ more, Run Unlimited text (deeds ++ more) (performAll d actions) ∧
      (performAll d actions).agenda = [] := by
  induction actions generalizing deeds d with
  | nil => exact ⟨[], by rwa [List.append_nil], hidle⟩
  | cons a actions ih =>
    obtain ⟨more, hmore, hend⟩ := exists_perform h hidle a
    obtain ⟨last, hlast, hlastend⟩ := ih hmore hend
    exact ⟨more ++ last, by rwa [← List.append_assoc], hlastend⟩

end Run
end TreeQuery
