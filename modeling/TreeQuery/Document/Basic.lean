/-
  TreeQuery.Document.Basic

  Documents. A document is a buffer with listeners. When an edit has changed the
  buffer, the listeners that are registered and alive at that moment are told of it,
  one after the other in the order of their registration. A recorder may react by
  editing the document again; the round of such an edit runs to its end before the
  next listener of the round around it is told.

  What is still to be done stands in an agenda. `Document.begin` carries out an action
  and puts the calls of its round in front of the agenda, `Document.step` carries out
  one task, and `Document.settle` goes on until nothing is left to do. This comes to an
  end, because every reaction is used once.

  A recorder lives as long as its owner holds it or a round under way has still to
  tell it or waits for its reaction. A registration whose recorder is gone is
  forgotten when the next edit succeeds.
-/

import TreeQuery.Document.Action

namespace TreeQuery

/-- An offset that moves with the edits. -/
structure Mark where
  offset : Nat
  id : ListenerId
  /-- Whether its owner still has it. -/
  held : Bool
  deriving DecidableEq, Repr

/-- A listener that keeps a log. -/
structure Recorder where
  log : List Edit
  reactions : List (List Action)
  /-- Whether its owner still has it. -/
  held : Bool

/-- A listener under a number. -/
structure Registration where
  id : ListenerId
  listener : Listener
  deriving DecidableEq, Repr

/-- Something that is still to be done. -/
inductive Task where
  | act (action : Action)
  /-- Tells a listener of the edit of a round. -/
  | tell (round : Nat) (whom : Registration) (edit : Edit)
  /-- Waits for a listener to end its reaction. -/
  | finish (listener : Listener)

namespace Task

/-- Whether a task keeps a listener alive. -/
def keeps (listener : Listener) : Task → Bool
  | .act _ => false
  | .tell _ whom _ => whom.listener == listener
  | .finish l => l == listener

/-- The actions that a task stands for. -/
def work : Task → Nat
  | .act action => action.work
  | _ => 0

/-- The calls that a task stands for, with the ends of reactions. -/
def calls : Task → Nat
  | .act _ => 0
  | .tell .. => 2
  | .finish _ => 1

end Task

/-- A text with a cursor and listeners. -/
structure Document where
  buffer : Buffer
  /-- In the order of registration. -/
  registrations : List Registration
  /-- How many registrations there have been. -/
  issued : Nat
  marks : List Mark
  recorders : List Recorder
  /-- Empty between actions. -/
  agenda : List Task
  /-- The oldest event first. -/
  history : List Event

namespace Document

/-- A document without listeners. -/
def ofText (text : Text) : Document := ⟨.ofText text, [], 0, [], [], [], []⟩

/-! ## Listeners -/

/-- Whether the owner of a listener has it. -/
def isHeld (d : Document) : Listener → Bool
  | .mark n => d.marks[n]?.any (·.held)
  | .recorder n => d.recorders[n]?.any (·.held)

def isAlive (d : Document) (listener : Listener) : Bool :=
  d.isHeld listener || d.agenda.any (Task.keeps listener)

/-- The registrations of listeners that are alive. -/
def live (d : Document) : List Registration := d.registrations.filter (d.isAlive ·.listener)

/-- Registers a listener under the next number. -/
def register (d : Document) (listener : Listener) : Document :=
  { d with
    registrations := d.registrations ++ [⟨⟨d.issued⟩, listener⟩]
    issued := d.issued + 1 }

def unregister (d : Document) (id : ListenerId) : Document :=
  { d with registrations := d.registrations.filter (·.id != id) }

/-- The mark with a number, if its owner has it. -/
def mark? (d : Document) (n : Nat) : Option Mark := d.marks[n]?.filter (·.held)

/-- The recorder with a number, if its owner has it. -/
def recorder? (d : Document) (n : Nat) : Option Recorder := d.recorders[n]?.filter (·.held)

/-! ## Actions -/

/-- Changes the text, and sets the calls of the listeners on the agenda. -/
def replace (d : Document) (start stop : Nat) (text : Text) : Except DocumentError Document :=
  match d.buffer.replace start stop text with
  | .error e => .error e
  | .ok (buffer, edit) =>
    .ok { d with
      buffer := buffer
      -- Those that are gone are forgotten here, and not before.
      registrations := d.live
      agenda := d.live.map (.tell d.history.length · edit) ++ d.agenda
      history := d.history ++ [.applied edit] }

def setCursor (d : Document) (offset : Nat) : Except DocumentError Document :=
  match d.buffer.setCursor offset with
  | .error e => .error e
  | .ok buffer => .ok { d with buffer := buffer }

/-- Makes a mark and registers it. -/
def createMark (d : Document) (offset : Nat) : Except DocumentError Document :=
  match d.buffer.checkOffset offset with
  | .error e => .error e
  | .ok () =>
    let marked : Document := { d with marks := d.marks ++ [⟨offset, ⟨d.issued⟩, true⟩] }
    .ok (marked.register (.mark d.marks.length))

/-- Moves the cursor to a mark; one that has no place in the text does not move it. -/
def restore (d : Document) (m : Mark) : Document :=
  match d.setCursor m.offset with
  | .error _ => d
  | .ok d' => d'

/-- Lets go of a mark, and forgets its registration. -/
def dropMark (d : Document) (n : Nat) (m : Mark) : Document :=
  let released : Document := { d with marks := d.marks.set n { m with held := false } }
  released.unregister m.id

/-- Makes a recorder and registers it. -/
def subscribe (d : Document) (reactions : List (List Action)) : Document :=
  let recording : Document := { d with recorders := d.recorders ++ [⟨[], reactions, true⟩] }
  recording.register (.recorder d.recorders.length)

/-- Lets go of a recorder. Its registrations stay until the next edit. -/
def dropRecorder (d : Document) (n : Nat) (r : Recorder) : Document :=
  { d with recorders := d.recorders.set n { r with held := false } }

/-- The answer of an operation that may be rejected. -/
def answer (d : Document) (outcome : Outcome) :
    Except DocumentError Document → Except ActionFault Outcome × Document
  | .error e => (.error (.rejected e), d)
  | .ok d' => (.ok outcome, d')

/-- Carries out an action but for the calls of listeners. -/
def begin (d : Document) : Action → Except ActionFault Outcome × Document
  | .replace start stop text => d.answer .done (d.replace start stop text)
  | .setCursor offset => d.answer .done (d.setCursor offset)
  | .createMark offset => d.answer (.mark d.marks.length) (d.createMark offset)
  | .restore n =>
    match d.mark? n with
    | none => (.error .noMark, d)
    | some m => (.ok .done, d.restore m)
  | .dropMark n =>
    match d.mark? n with
    | none => (.ok (.existed false), d)
    | some m => (.ok (.existed true), d.dropMark n m)
  | .subscribe reactions => (.ok (.listener ⟨d.issued⟩), d.subscribe reactions)
  | .resubscribe n =>
    match d.recorder? n with
    | none => (.error .noListener, d)
    | some _ => (.ok (.listener ⟨d.issued⟩), d.register (.recorder n))
  | .unsubscribe id => (.ok .done, d.unregister id)
  | .dropRecorder n =>
    match d.recorder? n with
    | none => (.ok (.existed false), d)
    | some r => (.ok (.existed true), d.dropRecorder n r)

/-! ## Calls of listeners -/

/-- What a mark does when it is told of an edit. -/
def notifyMark (d : Document) (n : Nat) (edit : Edit) : Document :=
  { d with marks := d.marks.modify n fun m => { m with offset := edit.remap m.offset } }

/-- What a recorder does: it writes its log, and its next reaction comes first on the agenda. -/
def notifyRecorder (d : Document) (n : Nat) (edit : Edit) : Document :=
  match d.recorders[n]? with
  | none => d
  | some r =>
    -- Without reactions left there is only the end of the call to wait for.
    let told : Recorder := { r with log := r.log ++ [edit], reactions := r.reactions.tail }
    { d with
      recorders := d.recorders.set n told
      agenda := (r.reactions.head?.getD []).map .act ++ .finish (.recorder n) :: d.agenda }

/-- Carries out a task that has been taken from the agenda. -/
def step (d : Document) : Task → Document
  | .act action => (d.begin action).2
  | .tell round whom edit =>
    let told : Document :=
      { d with history := d.history ++ [.told round whom.id whom.listener edit] }
    match whom.listener with
    | .mark n => told.notifyMark n edit
    | .recorder n => told.notifyRecorder n edit
  | .finish _ => d

/-! ## The end of the agenda -/

/-- The sum of the numbers of all elements. -/
def total {α : Type} (f : α → Nat) : List α → Nat
  | [] => 0
  | a :: as => f a + total f as

@[simp] theorem total_nil {α : Type} (f : α → Nat) : total f [] = 0 := rfl

@[simp] theorem total_cons {α : Type} (f : α → Nat) (a : α) (as : List α) :
    total f (a :: as) = f a + total f as := rfl

@[simp] theorem total_append {α : Type} (f : α → Nat) (as bs : List α) :
    total f (as ++ bs) = total f as + total f bs := by
  induction as with
  | nil => simp
  | cons a as ih => simp [ih, Nat.add_assoc]

/-- The number of actions that may still be carried out. -/
def work (d : Document) : Nat :=
  total (fun r : Recorder => Action.workOfAll r.reactions) d.recorders + total Task.work d.agenda

/-- The calls that stand on the agenda, with the ends of reactions. -/
def calls (d : Document) : Nat := total Task.calls d.agenda

@[simp] theorem work_register (d : Document) (l : Listener) : (d.register l).work = d.work := rfl

@[simp] theorem work_unregister (d : Document) (id : ListenerId) :
    (d.unregister id).work = d.work := rfl

theorem total_set {α : Type} (f : α → Nat) (b : α) :
    ∀ {l : List α} {n : Nat} {a : α}, l[n]? = some a →
      total f (l.set n b) + f a = total f l + f b
  | [], _, _, h => by simp at h
  | x :: l, 0, a, h => by
    obtain rfl : x = a := by simpa using h
    simp only [List.set_cons_zero, total_cons]
    omega
  | x :: l, n + 1, a, h => by
    have := total_set f b (show l[n]? = some a by simpa using h)
    simp only [List.set_cons_succ, total_cons]
    omega

theorem work_tells (tasks : List Registration) (round : Nat) (edit : Edit) :
    total Task.work (tasks.map (Task.tell round · edit)) = 0 := by
  induction tasks with
  | nil => rfl
  | cons t tasks ih => simpa [Task.work] using ih

theorem work_acts (actions : List Action) :
    total Task.work (actions.map Task.act) = Action.workOfReaction actions := by
  induction actions with
  | nil => rfl
  | cons a actions ih =>
    simp only [List.map_cons, total_cons, ih, Task.work, Action.workOfReaction]

theorem calls_acts (actions : List Action) :
    total Task.calls (actions.map Task.act) = 0 := by
  induction actions with
  | nil => rfl
  | cons a actions ih => simpa [Task.calls] using ih

theorem work_replace {d d' : Document} {start stop : Nat} {text : Text}
    (h : d.replace start stop text = .ok d') : d'.work = d.work := by
  unfold replace at h
  split at h
  · cases h
  · cases h
    simp only [work, total_append, work_tells, Nat.zero_add]

theorem work_setCursor {d d' : Document} {offset : Nat} (h : d.setCursor offset = .ok d') :
    d'.work = d.work := by
  unfold setCursor at h
  split at h <;> cases h
  rfl

theorem work_createMark {d d' : Document} {offset : Nat} (h : d.createMark offset = .ok d') :
    d'.work = d.work := by
  unfold createMark at h
  split at h <;> cases h
  rfl

theorem work_restore (d : Document) (m : Mark) : (d.restore m).work = d.work := by
  unfold restore
  split
  · rfl
  · next h => exact work_setCursor h

theorem work_dropRecorder {d : Document} {n : Nat} {r : Recorder} (h : d.recorder? n = some r) :
    (d.dropRecorder n r).work = d.work := by
  have := total_set (fun r : Recorder => Action.workOfAll r.reactions) { r with held := false }
    (Option.filter_eq_some_iff.1 h).1
  simp only [work, dropRecorder] at this ⊢
  omega

theorem work_answer {d : Document} {outcome : Outcome} {r : Except DocumentError Document}
    (h : ∀ d', r = .ok d' → d'.work = d.work) : (d.answer outcome r).2.work = d.work := by
  cases r with
  | error e => rfl
  | ok d' => exact h d' rfl

theorem one_le_work (a : Action) : 1 ≤ a.work := by
  cases a <;> simp [Action.work]

/-- An action that has been begun has been used up. -/
theorem work_begin_lt (d : Document) (a : Action) : (d.begin a).2.work < d.work + a.work := by
  have ha := one_le_work a
  have same : ∀ d' : Document, d'.work = d.work → d'.work < d.work + a.work := by omega
  cases a with
  | replace start stop text => exact same _ (work_answer fun _ => work_replace)
  | setCursor offset => exact same _ (work_answer fun _ => work_setCursor)
  | createMark offset => exact same _ (work_answer fun _ => work_createMark)
  | restore n =>
    simp only [begin]
    split
    · exact same _ rfl
    · exact same _ (work_restore _ _)
  | dropMark n =>
    simp only [begin]
    split <;> exact same _ rfl
  | subscribe reactions =>
    simp only [begin, subscribe, work_register, Action.work]
    simp only [work, total_append, total_cons, total_nil]
    omega
  | resubscribe n =>
    simp only [begin]
    split <;> exact same _ rfl
  | unsubscribe id => exact same _ rfl
  | dropRecorder n =>
    simp only [begin]
    split
    · exact same _ rfl
    · next h => exact same _ (work_dropRecorder h)

/-- A call of a recorder moves the actions of a reaction to the agenda, and ends one call. -/
theorem notifyRecorder_lt (d : Document) (n : Nat) (edit : Edit) :
    (d.notifyRecorder n edit).work = d.work ∧ (d.notifyRecorder n edit).calls < d.calls + 2 := by
  unfold notifyRecorder
  split
  · exact ⟨rfl, by omega⟩
  · next r h =>
    have moved := total_set (fun r : Recorder => Action.workOfAll r.reactions)
      { r with log := r.log ++ [edit], reactions := r.reactions.tail } h
    simp only [work, calls, total_append, total_cons, work_acts, calls_acts, Task.work,
      Task.calls] at moved ⊢
    refine ⟨?_, by omega⟩
    cases hr : r.reactions with
    | nil => simp_all [Action.workOfReaction]
    | cons reaction reactions =>
      simp only [hr, List.tail_cons, List.head?_cons, Option.getD_some, Action.workOfAll] at moved ⊢
      omega

/-- A task that is carried out brings the end of the agenda nearer. -/
theorem step_lt (d : Document) {t : Task} {rest : List Task} (h : d.agenda = t :: rest) :
    Prod.Lex (· < ·) (· < ·)
      ((step { d with agenda := rest } t).work, (step { d with agenda := rest } t).calls)
      (d.work, d.calls) := by
  have hwork : d.work = work { d with agenda := rest } + t.work := by
    simp only [work, h, total_cons]
    omega
  have hcalls : d.calls = calls { d with agenda := rest } + t.calls := by
    simp only [calls, h, total_cons]
    omega
  rw [hwork, hcalls]
  cases t with
  | act a => exact .left _ _ (work_begin_lt _ a)
  | tell round whom edit =>
    simp only [step, Task.work, Task.calls, Nat.add_zero]
    cases whom.listener with
    | mark n => exact .right _ (by simp [calls, notifyMark])
    | recorder n =>
      obtain ⟨hw, hc⟩ := notifyRecorder_lt
        { d with
          agenda := rest
          history := d.history ++ [.told round whom.id (.recorder n) edit] } n edit
      simp only [hw]
      exact .right _ hc
  | finish l => exact .right _ (by simp [step, Task.calls])

/-- Carries out the agenda to its end. -/
def settle (d : Document) : Document :=
  match _h : d.agenda with
  | [] => d
  | t :: rest => settle (step { d with agenda := rest } t)
termination_by (d.work, d.calls)
decreasing_by exact step_lt d _h

/-- Carries out an action, with all calls of listeners and their reactions. -/
def perform (d : Document) (a : Action) : Except ActionFault Outcome × Document :=
  ((d.begin a).1, (d.begin a).2.settle)

/-! ## Records -/

/-- How many registered listeners are alive. -/
def listenerCount (d : Document) : Nat := d.live.length

/-- The document as a record; it counts forgotten registrations too. -/
def describe (d : Document) : String :=
  Record.fields "Document"
    [("len", toString d.buffer.text.size), ("cursor", toString d.buffer.cursor),
      ("listeners", toString d.registrations.length)] false

end Document
end TreeQuery
