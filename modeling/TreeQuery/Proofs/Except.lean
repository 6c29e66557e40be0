/-
  TreeQuery.Proofs.Except

  Computations that can fail, one after the other. Two in a row succeed when the first
  does and the second does on its result (`bind_eq_ok_iff`), and they fail with the first
  fault that there is (`bind_eq_error_iff`). Readers, checks and compilations are taken
  apart with these two facts. Faults can be changed one by one (`mapError_bind`), and
  compared also where results cannot (`faultOf?`).
-/

namespace TreeQuery

variable {ε α β : Type} {x : Except ε α} {f : α → Except ε β}

theorem bind_eq_ok_iff {b : β} : x >>= f = .ok b ↔ ∃ a, x = .ok a ∧ f a = .ok b := by
  cases x with
  | error e => simp [bind, Except.bind]
  | ok a => simp [bind, Except.bind]

theorem bind_eq_error_iff {e : ε} :
    x >>= f = .error e ↔ x = .error e ∨ ∃ a, x = .ok a ∧ f a = .error e := by
  cases x with
  | error e => simp [bind, Except.bind]
  | ok a => simp [bind, Except.bind]

/-- Faults are changed in each of two computations in a row. -/
theorem mapError_bind {ε' : Type} (g : ε → ε') :
    (x >>= f).mapError g = x.mapError g >>= fun a => (f a).mapError g := by
  cases x with
  | error e => rfl
  | ok a => rfl

/-- The fault of a computation that fails. -/
def faultOf? : Except ε α → Option ε
  | .error e => some e
  | .ok _ => none

theorem faultOf?_eq_some_iff {e : ε} : faultOf? x = some e ↔ x = .error e := by
  cases x with
  | error e' => simp [faultOf?]
  | ok a => simp [faultOf?]

end TreeQuery
