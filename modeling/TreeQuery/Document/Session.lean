/-
  TreeQuery.Document.Session

  Documents as their owners see them. A document is reached through its main handle;
  a second handle can be kept, and later be made the main one. The document exists as
  long as there is a handle. Marks and recorders outlive it, but a mark of a document
  that is gone has no place any more.

  An action needs the main handle, unless it only concerns a mark or a recorder that
  its owner has. A mark or a recorder that an action names is looked up first.
-/

import TreeQuery.Document.Basic

namespace TreeQuery

/-- A document with its handles. -/
structure Session where
  document : Document
  /-- Whether there is a main handle. -/
  main : Bool
  /-- Whether there is a second handle. -/
  second : Bool
  /-- The registrations of recorders, in order. -/
  ids : List ListenerId

/-- What an owner sees of a mark: its offset, line and column, all 0 when it has no place. -/
structure MarkView where
  valid : Bool
  offset : Nat
  line : Nat
  column : Nat
  deriving DecidableEq, Repr

namespace Session

/-- A session on a new document. -/
def ofText (text : Text) : Session := ⟨.ofText text, true, false, []⟩

/-- Whether the document exists. -/
def isLive (s : Session) : Bool := s.main || s.second

/-! ## Actions -/

/-- Whether an action is done through the main handle. -/
def needsMain : Action → Bool
  | .restore _ | .dropMark _ | .dropRecorder _ => false
  | _ => true

/-- What an action names that is not there. -/
def missing? (s : Session) : Action → Option ActionFault
  | .restore n => if (s.document.mark? n).isNone then some .noMark else none
  | .resubscribe n => if (s.document.recorder? n).isNone then some .noListener else none
  | _ => none

/-- The registrations of recorders after an outcome. -/
def idsAfter (ids : List ListenerId) : Except ActionFault Outcome → List ListenerId
  | .ok (.listener id) => ids ++ [id]
  | _ => ids

/-- Carries out an action. -/
def perform (s : Session) (a : Action) : Except ActionFault Outcome × Session :=
  match s.missing? a with
  | some fault => (.error fault, s)
  | none =>
    if needsMain a && !s.main then (.error .noDocument, s)
    else
      let (outcome, document) := s.document.perform a
      (outcome, { s with document := document, ids := idsAfter s.ids outcome })

/-- Ends the `n`-th registration of a recorder. -/
def unsubscribe (s : Session) (n : Nat) : Except ActionFault Outcome × Session :=
  match s.ids[n]? with
  | none => (.error .noId, s)
  | some id => s.perform (.unsubscribe id)

/-! ## Handles -/

/-- Makes a second handle. -/
def addHandle (s : Session) : Except ActionFault Outcome × Session :=
  if s.main then (.ok .done, { s with second := true }) else (.error .noDocument, s)

/-- Lets go of the second handle. -/
def dropSecond (s : Session) : Except ActionFault Outcome × Session :=
  (.ok (.existed s.second), { s with second := false })

/-- Makes the second handle the main one; the answer is whether there is one now. -/
def promote (s : Session) : Except ActionFault Outcome × Session :=
  (.ok (.existed s.second), { s with main := s.second, second := false })

/-- Lets go of the main handle. -/
def dropMain (s : Session) : Except ActionFault Outcome × Session :=
  (.ok (.existed s.main), { s with main := false })

/-! ## Views -/

/-- The line and the column of an offset. -/
def lineColumn (s : Session) (offset : Nat) : Except ActionFault (Nat × Nat) :=
  if s.main then
    match s.document.buffer.lineColumn offset with
    | .error e => .error (.rejected e)
    | .ok position => .ok position
  else .error .noDocument

/-- The document as a record. -/
def describe (s : Session) : Except ActionFault String :=
  if s.main then .ok s.document.describe else .error .noDocument

/-- A mark as its owner sees it. -/
def viewMark (s : Session) (m : Mark) : MarkView :=
  if s.isLive then
    match s.document.buffer.lineColumn m.offset with
    | .ok (line, column) => ⟨true, m.offset, line, column⟩
    | .error _ => ⟨true, m.offset, 0, 0⟩
  else ⟨false, 0, 0, 0⟩

/-- All marks that were ever made; one that its owner has let go of is not seen. -/
def marks (s : Session) : List (Option MarkView) :=
  s.document.marks.map fun m => if m.held then some (s.viewMark m) else none

/-- The logs of all recorders that were ever made; one that its owner has let go of is not
seen. -/
def logs (s : Session) : List (Option (List Edit)) :=
  s.document.recorders.map fun r => if r.held then some r.log else none

/-- A mark as a record. -/
def describeMark (s : Session) (n : Nat) : Except ActionFault String :=
  match s.document.mark? n with
  | none => .error .noMark
  | some m =>
    .ok (Record.fields "Mark"
      [("position", toString m.offset), ("valid", if s.isLive then "true" else "false")] false)

end Session
end TreeQuery
