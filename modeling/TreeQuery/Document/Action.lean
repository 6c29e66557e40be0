/-
  TreeQuery.Document.Action

  What can be done with a document, and who is told of its edits. Listeners are of two
  kinds: a mark moves its offset with every edit, a recorder keeps a log of the edits
  and then reacts to them. The reactions of a recorder are given when it is made: the
  first edit that it is told of is answered by the first list of actions, the second
  by the second, and when none are left it only keeps its log.

  Marks, recorders and registrations are numbered in the order in which they are made.
-/

import TreeQuery.Document.Buffer

namespace TreeQuery

/-- The number of a registration of a listener. -/
structure ListenerId where
  number : Nat
  deriving DecidableEq, Repr, Inhabited

/-- The number as a record. -/
def ListenerId.describe (id : ListenerId) : String :=
  Record.wrap "ListenerId" (toString id.number)

/-- Who is told of edits. -/
inductive Listener where
  | mark (number : Nat)
  | recorder (number : Nat)
  deriving DecidableEq, Repr

/-- What can be done with a document. -/
inductive Action where
  /-- Puts a text in the place of a range. -/
  | replace (start stop : Nat) (text : Text)
  | setCursor (offset : Nat)
  | createMark (offset : Nat)
  /-- Moves the cursor to a mark. -/
  | restore (mark : Nat)
  | dropMark (mark : Nat)
  /-- Registers a new recorder that has reactions. -/
  | subscribe (reactions : List (List Action))
  /-- Registers a recorder once more. -/
  | resubscribe (recorder : Nat)
  | unsubscribe (id : ListenerId)
  | dropRecorder (recorder : Nat)

namespace Action

/-- Puts a text at an offset. -/
def insert (offset : Nat) (text : Text) : Action := .replace offset offset text

/-- Takes out a range. -/
def remove (start stop : Nat) : Action := .replace start stop []

mutual

/-- How many actions an action may lead to, itself included. -/
def work : Action → Nat
  | .subscribe reactions => workOfAll reactions + 1
  | _ => 1

/-- How many actions a reaction may lead to. -/
def workOfReaction : List Action → Nat
  | [] => 0
  | action :: actions => work action + workOfReaction actions

/-- How many actions all reactions of a recorder may lead to. -/
def workOfAll : List (List Action) → Nat
  | [] => 0
  | reaction :: reactions => workOfReaction reaction + workOfAll reactions

end

end Action

/-- What an action answers when it succeeds. -/
inductive Outcome where
  | done
  | mark (number : Nat)
  | listener (id : ListenerId)
  /-- Whether there was something to let go of or to use. -/
  | existed (yes : Bool)
  deriving DecidableEq, Repr

/-- Why an action fails. -/
inductive ActionFault where
  | rejected (error : DocumentError)
  | noDocument
  | noMark
  | noListener
  | noId
  deriving DecidableEq, Repr

def ActionFault.message : ActionFault → String
  | rejected error => error.message
  | noDocument => "document was dropped"
  | noMark => "no such mark"
  | noListener => "no such listener"
  | noId => "no such id"

/-- What may happen in a document, as its history tells it. -/
inductive Event where
  /-- The text was changed. -/
  | applied (edit : Edit)
  /-- A listener was told of an edit. The round is the place in the history where the edit was
  applied. -/
  | told (round : Nat) (id : ListenerId) (listener : Listener) (edit : Edit)
  deriving DecidableEq, Repr

end TreeQuery
